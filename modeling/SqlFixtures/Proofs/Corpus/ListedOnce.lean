import SqlFixtures.Archive.Pack
import SqlFixtures.Proofs.Corpus.Order
import SqlFixtures.Proofs.Document.Failures
import SqlFixtures.Proofs.Source.Agreement
import Mathlib.Tactic

/-!
# Documents that are listed more than once

A directory lists every document once.  An archive can store several entries under one name: the
name is then listed for each of them, and every time with the bytes of the last one.  So the names
are distinct exactly if no name is stored twice.  If no two stored documents share an id, a strict
build stops at a repeated one exactly if a document that holds a case is listed twice.
-/

namespace SqlFixtures

open Archive (Entry)
open Files (IsName Path Tree)
open Results (FailsOnly)

namespace Source

/-! ## What a directory lists -/

section

variable {files : Tree} {root : Path} {ending category : String} {documents : List Resource}

theorem listDirectory_cases
    (hlist : (listDirectory files root (.text ending) (.text category)).result = .ok documents) :
    documents = [] ∨
      ∃ entries, files.find (root.join (.ofString category)) = .ok (.directory entries) ∧
        documents = (((Tree.directory entries).sortedEntries.flatMap Tree.shallowFiles).filter
          (Tree.HasEnding ending)).map (documentAt (root.join (.ofString category))) := by
  change (list files (.directory root (.text ending)) (.text category)).result = _ at hlist
  cases hlook : files.look (root.join (.ofString category)) with
  | error fault =>
      rw [list_directory_of_fault hlook] at hlist
      cases hlist
  | ok found =>
      by_cases hdirectory : ∃ entries, found = some (.directory entries)
      · obtain ⟨entries, rfl⟩ := hdirectory
        rw [list_directory_of_directory hlook] at hlist
        exact .inr ⟨entries, Tree.find_of_look hlook, (Results.guarded_eq_ok_iff.mp hlist).2⟩
      · have hnone : ∀ entries, found ≠ some (.directory entries) := fun entries heq =>
          hdirectory ⟨entries, heq⟩
        rw [list_directory_of_no_directory hlook hnone] at hlist
        exact .inl (Except.ok.inj hlist).symm

theorem text_extend_injective {place : Path} {first second : List String}
    (hfirst : first ≠ []) (hsecond : second ≠ []) (hfirstNames : ∀ name ∈ first, IsName name)
    (hsecondNames : ∀ name ∈ second, IsName name)
    (heq : (place.extend first).text = (place.extend second).text) : first = second := by
  rw [Path.text_extend place hfirst, Path.text_extend place hsecond,
    String.append_right_inj] at heq
  exact Files.slashed_injective hfirstNames hsecondNames heq

theorem nodup_names_of_listDirectory (hproper : files.Proper)
    (hlist : (listDirectory files root (.text ending) (.text category)).result = .ok documents) :
    (documents.map (·.name)).Nodup := by
  rcases listDirectory_cases hlist with rfl | ⟨entries, hfind, rfl⟩
  · exact List.nodup_nil
  · have hentries := Tree.proper_of_find hproper hfind
    have hordered : ((Tree.directory entries).sortedEntries.flatMap Tree.shallowFiles).Pairwise
        fun f g => f.1 < g.1 :=
      Tree.pairwise_flatMap_shallowFiles (Tree.ordered_sortedEntries _)
    have hway : ∀ f ∈ ((Tree.directory entries).sortedEntries.flatMap Tree.shallowFiles).filter
        (Tree.HasEnding ending), f.1 ≠ [] ∧ ∀ name ∈ f.1, IsName name := by
      intro f hf
      obtain ⟨hshallow, hending⟩ := List.mem_filter.mp hf
      obtain ⟨hfile, -⟩ := (Tree.mem_flatMap_shallowFiles_iff hentries).mp hshallow
      exact ⟨Tree.ne_nil_of_hasEnding hending, Tree.isName_of_mem_files hentries hfile⟩
    rw [List.map_map, List.Nodup, List.pairwise_map]
    apply (hordered.filter _).imp_of_mem
    intro f g hf hg hlt heq
    have hsame := text_extend_injective (hway f hf).1 (hway g hg).1 (hway f hf).2 (hway g hg).2 heq
    rw [hsame] at hlt
    exact List.lt_irrefl _ hlt

theorem exists_content_of_mem_listDirectory
    (hlist : (listDirectory files root (.text ending) (.text category)).result = .ok documents)
    {document : Resource} (hdocument : document ∈ documents) :
    ∃ bytes, document.content = .ok bytes := by
  rcases listDirectory_cases hlist with rfl | ⟨entries, -, rfl⟩
  · cases hdocument
  · obtain ⟨f, -, rfl⟩ := List.mem_map.mp hdocument
    exact ⟨f.2, rfl⟩

end

/-! ## What an archive lists -/

section

variable {files : Tree} {path : Path} {base ending category : String} {entries : List Entry}

def storedAt (path : Path) (entry : Entry) : Resource :=
  ⟨placeInArchive path entry.name, entry.content.mapError .archive⟩

/-- The documents that are stored for a category, each entry for itself. -/
def storedDocuments (path : Path) (base ending category : String) (entries : List Entry) :
    List Resource :=
  (entries.filter fun entry => Text.endsWith ending entry.name &&
    Text.beginsWith (entryBeginning base category) entry.name).map (storedAt path)

theorem map_name_storedDocuments (path : Path) (base ending category : String)
    (entries : List Entry) :
    (storedDocuments path base ending category entries).map (·.name) =
      (documentEntries (entryBeginning base category) ending entries).map
        (placeInArchive path) := by
  rw [storedDocuments, documentEntries, namesUnder, List.filter_filter, List.filter_map,
    List.map_map, List.map_map]
  rfl

/-- The documents that are listed for a category, as often as their names are stored. -/
def listedDocuments (path : Path) (base ending category : String) (entries : List Entry) :
    List Resource :=
  (documentEntries (entryBeginning base category) ending entries).mergeSort.map fun name =>
    ⟨placeInArchive path name, entryContent entries name⟩

theorem exists_list_archive (hopen : openArchive files path = .ok entries)
    (base ending category : String) :
    ∃ log, list files (.archive path base (.text ending)) (.text category) =
      ⟨log, .ok (listedDocuments path base ending category entries)⟩ := by
  apply list_archive_of_openArchive hopen
  rw [archiveDocuments, documentNames_eq]
  rfl

theorem perm_names_listedDocuments (path : Path) (base ending category : String)
    (entries : List Entry) :
    ((listedDocuments path base ending category entries).map (·.name)).Perm
      ((storedDocuments path base ending category entries).map (·.name)) := by
  rw [map_name_storedDocuments, listedDocuments, List.map_map]
  exact (List.mergeSort_perm _ _).map (placeInArchive path)

theorem getLast?_stored {name : String}
    (hname : name ∈ documentEntries (entryBeginning base category) ending entries) (path : Path) :
    ((storedDocuments path base ending category entries).filter fun stored =>
        stored.name = placeInArchive path name).getLast? =
      some ⟨placeInArchive path name, entryContent entries name⟩ := by
  obtain ⟨hunder, hends⟩ := List.mem_filter.mp hname
  obtain ⟨hentry, hbegins⟩ := List.mem_filter.mp hunder
  obtain ⟨entry, hmem, rfl⟩ := List.mem_map.mp hentry
  -- Entries of one name are all documents of the category, or none of them is.
  have hsame : (storedDocuments path base ending category entries).filter (fun stored =>
      stored.name = placeInArchive path entry.name) =
        (entries.filter fun other => other.name = entry.name).map (storedAt path) := by
    rw [storedDocuments, List.filter_map, List.filter_filter]
    congr 1
    apply List.filter_congr
    intro other _
    have hplace : placeInArchive path other.name = placeInArchive path entry.name ↔
        other.name = entry.name := by
      rw [placeInArchive, placeInArchive, String.append_right_inj]
    by_cases heq : other.name = entry.name
    · simp [storedAt, heq, hbegins, hends]
    · simp [storedAt, hplace, heq]
  rw [hsame, List.getLast?_map, entryContent, lookup_eq_getLast?]
  cases hlast : (entries.filter fun other => other.name = entry.name).getLast? with
  | none =>
      rw [List.getLast?_eq_none_iff, List.filter_eq_nil_iff] at hlast
      exact absurd (decide_eq_true rfl) (hlast entry hmem)
  | some last =>
      have hlastName : last.name = entry.name :=
        of_decide_eq_true (List.mem_filter.mp (List.mem_of_getLast? hlast)).2
      rw [Option.map_some, Option.map_some, storedAt, hlastName]

/-- What is listed under a name is the last document that is stored under it. -/
theorem getLast?_of_mem_listedDocuments {document : Resource}
    (hlisted : document ∈ listedDocuments path base ending category entries) :
    ((storedDocuments path base ending category entries).filter fun stored =>
      stored.name = document.name).getLast? = some document := by
  obtain ⟨name, hname, rfl⟩ := List.mem_map.mp hlisted
  exact getLast?_stored ((List.mergeSort_perm _ _).mem_iff.mp hname) path

theorem mem_storedDocuments_of_mem_listedDocuments {document : Resource}
    (hlisted : document ∈ listedDocuments path base ending category entries) :
    document ∈ storedDocuments path base ending category entries :=
  (List.mem_filter.mp (List.mem_of_getLast? (getLast?_of_mem_listedDocuments hlisted))).1

end

end Source

namespace Corpus

/-! ## Repeated ids -/

section

variable {files : Tree} {source : Source} {category : Value} {listing : List LogEntry}
  {documents stored : List Resource}

def IsRepeat (failure : Failure) : Prop := ∃ id resource, failure = .duplicateCase id resource

/-- A strict build stops because an id is repeated. -/
def StopsAtRepeat (files : Tree) (source : Source) (category : Value) : Prop :=
  ∃ failure, IsRepeat failure ∧ (build files source category true).result = .error failure

theorem failsOnly_readCases (resource : Value) (bytes : List UInt8) :
    FailsOnly (fun failure => ¬ IsRepeat failure) (Document.readCases resource bytes) := by
  apply FailsOnly.bind
  · intro failure hfails
    obtain ⟨fault, -, rfl⟩ := Document.rootOf_eq_error_iff.mp hfails
    cases fault with
    | malformed => rintro ⟨_, _, ⟨⟩⟩
    | encoding fault => rintro ⟨_, _, ⟨⟩⟩
  · intro root failure hfails
    obtain ⟨fault, rfl⟩ := Document.blames_casesOfElement root failure hfails
    rintro ⟨_, _, ⟨⟩⟩

/-- A document that can be had refuses to follow on others only where its ids are not distinct from
theirs and each other. -/
theorem not_nodup_of_firstRefused
    (hcontent : ∀ document ∈ documents, ∃ bytes, document.content = .ok bytes) {failure : Failure}
    (hrepeat : IsRepeat failure) (hrefused : Definition.FirstRefused documents failure) :
    ¬ ((allCases documents).map (·.id)).Nodup := by
  obtain ⟨before, document, after, definitions, rfl, hread, -, hwhy⟩ := hrefused
  obtain ⟨bytes, hbytes⟩ := hcontent document (by simp)
  rcases hwhy with hfails | ⟨first, c, rest, hcases, -, hrepeated, -⟩
  · rw [History.casesOf, hbytes] at hfails
    exact absurd hrepeat (failsOnly_readCases _ _ failure hfails)
  · intro hnodup
    have hsplit : allCases (before ++ document :: after) =
        allCases before ++ ((first ++ c :: rest) ++ allCases after) := by
      rw [allCases, List.flatMap_append]
      exact congrArg (allCases before ++ ·)
        (allCases_cons (Resource.cases?_eq_some_iff.mpr hcases) after)
    have hids : ((allCases before).map (·.id) ++ first.map (·.id) ++
        c.id :: (rest ++ allCases after).map (·.id)).Nodup := by
      rw [hsplit] at hnodup
      simpa using hnodup
    rw [Definition.ids_of_ofResources hread] at hrepeated
    exact (List.nodup_append.mp hids).2.2 c.id hrepeated c.id (List.mem_cons_self ..) rfl

theorem not_stopsAtRepeat_of_nodup
    (hlist : source.list files category = ⟨listing, .ok documents⟩)
    (hcontent : ∀ document ∈ documents, ∃ bytes, document.content = .ok bytes)
    (hdistinct : ((allCases documents).map (·.id)).Nodup) :
    ¬ StopsAtRepeat files source category := by
  rintro ⟨failure, hrepeat, hfails⟩
  rw [result_build_eq_error_iff hlist, History.result_defineAll_strict_eq_error_iff] at hfails
  exact not_nodup_of_firstRefused hcontent hrepeat hfails hdistinct

theorem exists_content_of_cases? {document : Resource} (hcases : document.cases?.isSome) :
    ∃ bytes, document.content = .ok bytes := by
  obtain ⟨cases, hsome⟩ := Option.isSome_iff_exists.mp hcases
  obtain ⟨bytes, hbytes, -⟩ := Option.bind_eq_some_iff.mp hsome
  exact ⟨bytes, Results.toOption_eq_some_iff.mp hbytes⟩

theorem isRepeat_of_firstRefused (hreadable : ∀ document ∈ documents, document.cases?.isSome)
    {failure : Failure} (hrefused : Definition.FirstRefused documents failure) :
    IsRepeat failure := by
  obtain ⟨before, document, after, _, rfl, -, -, hwhy⟩ := hrefused
  rcases hwhy with hfails | ⟨_, c, _, -, -, -, hfailure⟩
  · obtain ⟨cases, hcases⟩ := Option.isSome_iff_exists.mp (hreadable document (by simp))
    rw [Resource.cases?_eq_some_iff.mp hcases] at hfails
    cases hfails
  · exact ⟨_, _, hfailure⟩

/-- A strict build of documents that can be read fails at nothing but a repeated id. -/
theorem stopsAtRepeat_iff (hlist : source.list files category = ⟨listing, .ok documents⟩)
    (hreadable : ∀ document ∈ documents, document.cases?.isSome) :
    StopsAtRepeat files source category ↔ ¬ ((allCases documents).map (·.id)).Nodup := by
  have hcontent : ∀ document ∈ documents, ∃ bytes, document.content = .ok bytes :=
    fun document hdocument => exists_content_of_cases? (hreadable document hdocument)
  constructor
  · intro hstops hdistinct
    exact not_stopsAtRepeat_of_nodup hlist hcontent hdistinct hstops
  · intro hrepeated
    cases hbuild : (build files source category true).result with
    | ok corpus =>
        exact absurd ((exists_build_strict_iff hlist).mp ⟨corpus, hbuild⟩).2 hrepeated
    | error failure =>
        have hrefused := hbuild
        rw [result_build_eq_error_iff hlist, History.result_defineAll_strict_eq_error_iff]
          at hrefused
        exact ⟨failure, isRepeat_of_firstRefused hreadable hrefused, hbuild⟩

/-- Of blocks that share nothing, a choice repeats something only in a block that is taken twice. -/
theorem nodup_flatMap_iff_of_subset {α β : Type} {f : α → List β} {whole taken : List α}
    (hwhole : (whole.flatMap f).Nodup) (htaken : ∀ a ∈ taken, a ∈ whole) :
    (taken.flatMap f).Nodup ↔ ∀ a, List.Duplicate a taken → f a = [] := by
  obtain ⟨heach, hapart⟩ := List.nodup_flatMap.mp hwhole
  rw [List.nodup_flatMap, List.pairwise_iff_forall_sublist]
  constructor
  · rintro ⟨-, hdisjoint⟩ a htwice
    have hself : List.Disjoint (f a) (f a) := hdisjoint (List.duplicate_iff_sublist.mp htwice)
    exact List.eq_nil_iff_forall_not_mem.mpr fun b hb => hself hb hb
  · intro htwice
    refine ⟨fun a ha => heach a (htaken a ha), ?_⟩
    intro a b hpair
    -- A pair is two elements, or one element at two places.
    by_cases heq : a = b
    · subst b
      have hnone := htwice a (List.duplicate_iff_sublist.mpr hpair)
      simp [Function.onFun, hnone]
    · have ha := htaken a (hpair.subset (List.mem_cons_self ..))
      have hb := htaken b (hpair.subset (List.mem_cons_of_mem _ (List.mem_cons_self ..)))
      have hsymm : Std.Symm (Function.onFun List.Disjoint f) :=
        ⟨fun _ _ hdisjoint => List.Disjoint.symm hdisjoint⟩
      exact hapart.forall ha hb heq

theorem map_id_allCases (documents : List Resource) :
    (allCases documents).map (·.id) =
      documents.flatMap fun document => (document.cases?.getD []).map (·.id) :=
  List.map_flatMap

/-- If no two of the documents that are stored share an id, listing some of them repeats an id where
one that holds a case is listed twice. -/
theorem stopsAtRepeat_iff_of_subset (hlist : source.list files category = ⟨listing, .ok documents⟩)
    (hstored : ∀ document ∈ documents, document ∈ stored)
    (hreadable : ∀ document ∈ stored, document.cases?.isSome)
    (hdistinct : ((allCases stored).map (·.id)).Nodup) :
    StopsAtRepeat files source category ↔
      ∃ document, List.Duplicate document documents ∧ document.cases? ≠ some [] := by
  have hempty : ∀ document, List.Duplicate document documents →
      ((document.cases?.getD []).map (·.id) = [] ↔ document.cases? = some []) := by
    intro document htwice
    obtain ⟨cases, hcases⟩ :=
      Option.isSome_iff_exists.mp (hreadable document (hstored document htwice.mem))
    rw [hcases, Option.getD_some, List.map_eq_nil_iff, Option.some_inj]
  rw [map_id_allCases] at hdistinct
  rw [stopsAtRepeat_iff hlist fun document hdocument => hreadable document
    (hstored document hdocument), map_id_allCases, nodup_flatMap_iff_of_subset hdistinct hstored]
  constructor
  · intro hsome
    push Not at hsome
    obtain ⟨document, htwice, hcases⟩ := hsome
    exact ⟨document, htwice, fun hnone => hcases ((hempty document htwice).mpr hnone)⟩
  · rintro ⟨document, htwice, hcases⟩ hnone
    exact hcases ((hempty document htwice).mp (hnone document htwice))

end

/-- A directory lists every document once, so that a strict build does not stop at a repeated id
unless two of its documents share one.  An archive lists each name as often as it is stored, and
each time as the last document that is stored under it.  A strict build of documents that can be
read and share no id stops at a repeated id nevertheless, exactly if one that holds a case is listed
twice. -/
theorem documents_listed_once_unless_stored_twice (files : Tree) (ending category : String) :
    (files.Proper → ∀ root documents,
      (Source.list files (.directory root (.text ending)) (.text category)).result =
          .ok documents →
        (documents.map (·.name)).Nodup ∧
        (((allCases documents).map (·.id)).Nodup →
          ¬ StopsAtRepeat files (.directory root (.text ending)) (.text category))) ∧
    ∀ path base entries, Source.openArchive files path = .ok entries →
      ∃ documents,
        (Source.list files (.archive path base (.text ending)) (.text category)).result =
          .ok documents ∧
        (documents.map (·.name)).Perm
          ((Source.storedDocuments path base ending category entries).map (·.name)) ∧
        ((documents.map (·.name)).Nodup ↔
          ((Source.storedDocuments path base ending category entries).map (·.name)).Nodup) ∧
        (∀ document ∈ documents, ((Source.storedDocuments path base ending category entries).filter
          fun stored => stored.name = document.name).getLast? = some document) ∧
        ((∀ document ∈ Source.storedDocuments path base ending category entries,
            document.cases?.isSome) →
          ((allCases (Source.storedDocuments path base ending category entries)).map
            (·.id)).Nodup →
          (StopsAtRepeat files (.archive path base (.text ending)) (.text category) ↔
            ∃ document, List.Duplicate document documents ∧ document.cases? ≠ some [])) := by
  constructor
  · intro hproper root documents hlist
    refine ⟨Source.nodup_names_of_listDirectory hproper hlist, fun hdistinct => ?_⟩
    have hlisted : Source.list files (.directory root (.text ending)) (.text category) =
        ⟨_, .ok documents⟩ := congrArg (Logged.mk _) hlist
    refine not_stopsAtRepeat_of_nodup hlisted ?_ hdistinct
    exact fun document hdocument => Source.exists_content_of_mem_listDirectory hlist hdocument
  · intro path base entries hopen
    obtain ⟨log, hlist⟩ := Source.exists_list_archive hopen base ending category
    have hnames := Source.perm_names_listedDocuments path base ending category entries
    refine ⟨_, congrArg Logged.result hlist, hnames, hnames.nodup_iff, ?_, ?_⟩
    · exact fun document hlisted => Source.getLast?_of_mem_listedDocuments hlisted
    · intro hreadable hdistinct
      exact stopsAtRepeat_iff_of_subset hlist
        (fun document hlisted => Source.mem_storedDocuments_of_mem_listedDocuments hlisted)
        hreadable hdistinct

namespace Doubled

def first : List UInt8 := "<sql-cases><sql-case id='x' value='a'/></sql-cases>".toUTF8.toList

def second : List UInt8 := "<sql-cases><sql-case id='y' value='b'/></sql-cases>".toUTF8.toList

def packed : List UInt8 :=
  Archive.pack [⟨"sql/a.xml".toUTF8.toList, first⟩, ⟨"sql/a.xml".toUTF8.toList, second⟩]

def entries : List Entry := [⟨"sql/a.xml", .ok first⟩, ⟨"sql/a.xml", .ok second⟩]

def files : Tree :=
  .directory [("a.zip", .file packed), ("a", .directory
    [("sql", .directory [("a.xml", .file first), ("a", .directory [("a.xml", .file second)])])])]

def directory : Source := .directory (.ofString "a") (.text ".xml")

def archive : Source := .archive (.ofString "a.zip") "" (.text ".xml")

def listed : Resource := ⟨"a.zip!/sql/a.xml", .ok second⟩

theorem cases?_first (name : String) :
    Resource.cases? ⟨name, .ok first⟩ = some [⟨"x", "a", none⟩] := by
  change (Document.readCases .none first).toOption = _
  decide +kernel

theorem cases?_second (name : String) :
    Resource.cases? ⟨name, .ok second⟩ = some [⟨"y", "b", none⟩] := by
  change (Document.readCases .none second).toOption = _
  decide +kernel

theorem readEntries_packed : Archive.readEntries packed = .ok entries := by
  have hcontents : ((Archive.readEntries packed).toOption.map fun entries =>
      entries.map fun entry => (entry.name, entry.content.toOption)) =
        some ([("sql/a.xml", first), ("sql/a.xml", second)].map fun c => (c.1, some c.2)) := by
    decide +kernel
  exact Archive.readEntries_of_contents hcontents

theorem openArchive_packed : Source.openArchive files (.ofString "a.zip") = .ok entries := by
  have hread : files.read (.ofString "a.zip") = .ok packed := rfl
  exact Source.openArchive_eq hread readEntries_packed

theorem proper_files : files.Proper := by
  simp [files, Tree.Proper, Tree.ProperAmong, IsName]

theorem exists_list : ∃ log, Source.list files archive (.text "sql") =
    ⟨log, .ok [listed, listed]⟩ :=
  Source.list_archive_of_openArchive openArchive_packed
    (Source.archiveDocuments_of_perm (List.Perm.of_eq rfl) (by decide +kernel) _)

theorem storedDocuments_entries :
    Source.storedDocuments (.ofString "a.zip") "" ".xml" "sql" entries =
      [⟨"a.zip!/sql/a.xml", .ok first⟩, listed] := rfl

theorem readable_stored {document : Resource}
    (hstored : document ∈ Source.storedDocuments (.ofString "a.zip") "" ".xml" "sql" entries) :
    document.cases?.isSome := by
  rw [storedDocuments_entries] at hstored
  rcases List.mem_pair.mp hstored with rfl | rfl
  · rw [cases?_first]
    rfl
  · rw [listed, cases?_second]
    rfl

theorem ids_stored :
    (allCases (Source.storedDocuments (.ofString "a.zip") "" ".xml" "sql" entries)).map (·.id) =
      ["x", "y"] := by
  rw [storedDocuments_entries, allCases_cons (cases?_first _), listed,
    allCases_cons (cases?_second _)]
  rfl

end Doubled

/-- Two documents of the same name in different directories, and two entries of the same name. -/
theorem documents_listed_once_unless_stored_twice_of_doubled_entry :
    (∃ documents,
      (Source.list Doubled.files Doubled.directory (.text "sql")).result = .ok documents ∧
        (documents.map (·.name)).Nodup ∧
        ¬ StopsAtRepeat Doubled.files Doubled.directory (.text "sql")) ∧
      ∃ documents,
        (Source.list Doubled.files Doubled.archive (.text "sql")).result = .ok documents ∧
          ¬ (documents.map (·.name)).Nodup ∧
          StopsAtRepeat Doubled.files Doubled.archive (.text "sql") := by
  obtain ⟨hdirectory, harchive⟩ :=
    documents_listed_once_unless_stored_twice Doubled.files ".xml" "sql"
  constructor
  · have hlist : (Source.list Doubled.files Doubled.directory (.text "sql")).result =
        .ok [⟨"a/sql/a/a.xml", .ok Doubled.second⟩, ⟨"a/sql/a.xml", .ok Doubled.first⟩] := rfl
    have hdistinct : ((allCases [⟨"a/sql/a/a.xml", .ok Doubled.second⟩,
        ⟨"a/sql/a.xml", .ok Doubled.first⟩]).map (·.id)).Nodup := by
      rw [allCases_cons (Doubled.cases?_second _), allCases_cons (Doubled.cases?_first _)]
      decide
    obtain ⟨hnames, hstops⟩ := hdirectory Doubled.proper_files _ _ hlist
    exact ⟨_, hlist, hnames, hstops hdistinct⟩
  · obtain ⟨documents, hlist, -, -, -, hstops⟩ :=
      harchive _ "" _ Doubled.openArchive_packed
    obtain ⟨log, hlisted⟩ := Doubled.exists_list
    obtain rfl : [Doubled.listed, Doubled.listed] = documents :=
      Except.ok.inj ((congrArg Logged.result hlisted).symm.trans hlist)
    have htwice : List.Duplicate Doubled.listed [Doubled.listed, Doubled.listed] :=
      List.Mem.duplicate_cons_self (List.mem_singleton_self _)
    refine ⟨_, hlist, by simp, (hstops (fun _ hstored => Doubled.readable_stored hstored)
      (by rw [Doubled.ids_stored]; decide)).mpr ⟨_, htwice, ?_⟩⟩
    rw [Doubled.listed, Doubled.cases?_second]
    simp

/-- The two entries share no id, and yet a strict build of the category stops at a repeated one. -/
theorem doubled_entry_is_listed_twice :
    Source.openArchive Doubled.files (.ofString "a.zip") = .ok Doubled.entries ∧
      (allCases (Source.storedDocuments (.ofString "a.zip") "" ".xml" "sql"
        Doubled.entries)).map (·.id) = ["x", "y"] ∧
      (Source.list Doubled.files Doubled.archive (.text "sql")).result =
        .ok [Doubled.listed, Doubled.listed] ∧
      ¬ ([Doubled.listed, Doubled.listed].map (·.name)).Nodup ∧
      (build Doubled.files Doubled.archive (.text "sql") true).result =
        .error (.duplicateCase "y" "a.zip!/sql/a.xml") := by
  obtain ⟨log, hlist⟩ := Doubled.exists_list
  have hcases : History.casesOf Doubled.listed = .ok [⟨"y", "b", none⟩] :=
    Resource.cases?_eq_some_iff.mp (Doubled.cases?_second _)
  have hbefore : Definition.ofResources [Doubled.listed] =
      .ok [⟨⟨"y", "b", none⟩, "a.zip!/sql/a.xml"⟩] :=
    Definition.ofResources_concat (rfl : Definition.ofResources [] = .ok []) hcases
  refine ⟨Doubled.openArchive_packed, Doubled.ids_stored, congrArg Logged.result hlist, by simp, ?_⟩
  rw [result_build_eq_error_iff hlist, History.result_defineAll_strict_eq_error_iff]
  exact ⟨[Doubled.listed], Doubled.listed, [], _, rfl, hbefore, by decide,
    .inr ⟨[], _, [], hcases, by decide, by decide, rfl⟩⟩

end Corpus

end SqlFixtures
