import SqlFixtures.Proofs.Results
import SqlFixtures.Proofs.Source.Directory
import Mathlib.Tactic

/-!
# What an archive lists

An archive that holds the files of a tree has an entry for each of them, named by the base of the
archive and the way to the file.  The documents of a category are the entries below it with the
right ending, in the order of their names as texts.
-/

namespace SqlFixtures

open Files (IsName Located Path Tree)

namespace Archive

/-- What stands in front of the way to a file in the name of its entry. -/
def baseBeginning (base : String) : String := if base.isEmpty then "" else base ++ "/"

/-- The name of the entry for the file that names lead to. -/
def entryName (base : String) (way : List String) : String :=
  baseBeginning base ++ Files.slashed way

/-- The entries are the files of the tree, in any order, and possibly directories, the names of
which end with a slash. -/
def Packs (base : String) (tree : Tree) (entries : List Entry) : Prop :=
  (entries.filter fun entry => !Text.endsWith "/" entry.name).Perm
    (tree.files.map fun f => ⟨entryName base f.1, .ok f.2⟩)

def packedEntries (base : String) (tree : Tree) : List Entry :=
  tree.files.map fun f => ⟨entryName base f.1, .ok f.2⟩

/-- The entries with an ending are those of the files of the tree, in any order. -/
def PacksEnding (base ending : String) (tree : Tree) (entries : List Entry) : Prop :=
  (entries.filter fun entry => Text.endsWith ending entry.name).Perm
    ((packedEntries base tree).filter fun entry => Text.endsWith ending entry.name)

theorem entryName_injective {base : String} {first second : List String}
    (hfirst : ∀ name ∈ first, IsName name) (hsecond : ∀ name ∈ second, IsName name)
    (heq : entryName base first = entryName base second) : first = second := by
  apply Files.slashed_injective hfirst hsecond
  rwa [entryName, entryName, String.append_right_inj] at heq

theorem entryName_append (base : String) {category below : List String}
    (hcategory : category ≠ []) (hbelow : below ≠ []) :
    entryName base (category ++ below) =
      baseBeginning base ++ Files.slashed category ++ "/" ++ Files.slashed below := by
  rw [entryName, Files.slashed_append hcategory hbelow, ← String.append_assoc,
    ← String.append_assoc]

theorem entryName_append_lt_iff {base : String} {category first second : List String}
    (hcategory : category ≠ []) (hfirst : first ≠ []) (hsecond : second ≠ []) :
    entryName base (category ++ first) < entryName base (category ++ second) ↔
      Files.slashed first < Files.slashed second := by
  rw [entryName_append base hcategory hfirst, entryName_append base hcategory hsecond]
  exact Files.append_lt_append_iff

theorem entryBeginning_eq (base category : String) :
    Source.entryBeginning base category = baseBeginning base ++ (category ++ "/") := by
  rw [Source.entryBeginning, baseBeginning]
  split
  · rw [String.empty_append]
  · rw [String.append_assoc]

theorem beginsWith_entryName_iff {base : String} {category way : List String}
    (hcategory : category ≠ []) (hall : ∀ name ∈ category, IsName name)
    (hway : ∀ name ∈ way, IsName name) :
    Text.beginsWith (Source.entryBeginning base (Files.slashed category)) (entryName base way) ↔
      ∃ below, below ≠ [] ∧ way = category ++ below := by
  rw [← Files.beginsWith_slashed_iff hcategory hall hway, entryBeginning_eq, entryName,
    Text.beginsWith, Text.beginsWith, List.isPrefixOf_iff_prefix, List.isPrefixOf_iff_prefix]
  simp only [String.toList_append, List.prefix_append_right_inj]

theorem endsWith_entryName {ending : String} (hending : '/' ∉ ending.toList) (base : String)
    {category : List String} (hcategory : category ≠ []) {f : Located} (hway : f.1 ≠ []) :
    Text.endsWith ending (entryName base (category ++ f.1)) = Tree.HasEnding ending f := by
  obtain ⟨above, name, habove⟩ := (List.eq_nil_or_concat' f.1).resolve_left hway
  rw [Tree.HasEnding, habove, List.getLast?_concat, Option.any_some, ← List.append_assoc,
    entryName_append base (by simp [hcategory]) (List.cons_ne_nil _ _), Files.slashed_singleton,
    Files.endsWith_append_slash hending]

/-- The slashes that an entry name has after its beginning. -/
def slashesAfter (beginning name : String) : Nat :=
  (name.toList.drop beginning.toList.length).count '/'

theorem slashesAfter_entryName (base : String) {category way : List String}
    (hcategory : category ≠ []) (hway : way ≠ []) (hnames : ∀ name ∈ way, IsName name) :
    slashesAfter (Source.entryBeginning base (Files.slashed category))
      (entryName base (category ++ way)) + 1 = way.length := by
  have hname : (entryName base (category ++ way)).toList =
      (Source.entryBeginning base (Files.slashed category)).toList ++
        (Files.slashed way).toList := by
    rw [entryName_append base hcategory hway, entryBeginning_eq, String.append_assoc,
      String.append_assoc, String.toList_append, String.toList_append, String.toList_append,
      String.toList_append, String.toList_append, List.append_assoc, List.append_assoc]
  rw [slashesAfter, hname, List.drop_left]
  exact Files.count_slash_slashed hway hnames

theorem endsWith_slash_eq_false {ending name : String} (hnonempty : ending ≠ "")
    (hending : '/' ∉ ending.toList) (hname : Text.endsWith ending name) :
    Text.endsWith "/" name = false := by
  rw [Bool.eq_false_iff]
  intro hslash
  rw [Text.endsWith, List.isSuffixOf_iff_suffix] at hname hslash
  rcases List.suffix_or_suffix_of_suffix hname hslash with hshort | hlong
  · rcases List.suffix_cons_iff.mp hshort with heq | hnil
    · rw [heq] at hending
      exact hending (List.mem_cons_self ..)
    · exact Files.toList_ne_nil hnonempty (List.suffix_nil.mp hnil)
  · exact hending (hlong.subset (List.mem_cons_self ..))

theorem entries_eq_of_contents {entries : List Entry} {contents : List (String × List UInt8)}
    (hcontents : entries.map (fun entry => (entry.name, entry.content.toOption)) =
      contents.map fun c => (c.1, some c.2)) :
    entries = contents.map fun c => ⟨c.1, .ok c.2⟩ := by
  induction contents generalizing entries with
  | nil => exact List.map_eq_nil_iff.mp hcontents
  | cons c contents ih =>
      obtain ⟨entry, rest, rfl, hhead, hrest⟩ := List.map_eq_cons_iff.mp hcontents
      obtain ⟨hname, hcontent⟩ := Prod.mk.inj hhead
      have hentry : entry = ⟨c.1, .ok c.2⟩ := by
        rw [← hname, ← Results.toOption_eq_some_iff.mp hcontent]
      rw [List.map_cons, ← hentry, ← ih hrest]

/-- What an archive reads as can be told from the names and contents alone, which unlike faults can
be compared. -/
theorem readEntries_of_contents {bytes : List UInt8} {contents : List (String × List UInt8)}
    (hcontents : ((readEntries bytes).toOption.map fun entries =>
      entries.map fun entry => (entry.name, entry.content.toOption)) =
        some (contents.map fun c => (c.1, some c.2))) :
    readEntries bytes = .ok (contents.map fun c => ⟨c.1, .ok c.2⟩) := by
  obtain ⟨entries, hread, hentries⟩ := Option.map_eq_some_iff.mp hcontents
  rw [Results.toOption_eq_some_iff.mp hread, entries_eq_of_contents hentries]

theorem Packs.packsEnding {base ending : String} {tree : Tree} {entries : List Entry}
    (hpacks : Packs base tree entries) (hnonempty : ending ≠ "") (hending : '/' ∉ ending.toList) :
    PacksEnding base ending tree entries := by
  have hfiles : (entries.filter fun entry => !Text.endsWith "/" entry.name).filter
      (fun entry => Text.endsWith ending entry.name) =
        entries.filter fun entry => Text.endsWith ending entry.name := by
    rw [List.filter_filter]
    apply List.filter_congr
    intro entry _
    cases hname : Text.endsWith ending entry.name with
    | false => rfl
    | true => rw [endsWith_slash_eq_false hnonempty hending hname]; rfl
  have hmatching := hpacks.filter fun entry => Text.endsWith ending entry.name
  rwa [hfiles] at hmatching

theorem packsEnding_of_perm {base : String} {tree : Tree} {entries : List Entry}
    (hpacked : entries.Perm (packedEntries base tree)) (ending : String) :
    PacksEnding base ending tree entries :=
  hpacked.filter _

namespace PacksEnding

variable {base ending : String} {tree : Tree} {entries : List Entry}

theorem exists_file (hpacks : PacksEnding base ending tree entries) {entry : Entry}
    (hmem : entry ∈ entries) (hname : Text.endsWith ending entry.name = true) :
    ∃ f ∈ tree.files, ⟨entryName base f.1, .ok f.2⟩ = entry := by
  have hkept : entry ∈ entries.filter fun entry => Text.endsWith ending entry.name :=
    List.mem_filter.mpr ⟨hmem, hname⟩
  exact List.mem_map.mp (List.mem_filter.mp ((List.Perm.mem_iff hpacks).mp hkept)).1

theorem mem_entries (hpacks : PacksEnding base ending tree entries) {f : Located}
    (hf : f ∈ tree.files) (hname : Text.endsWith ending (entryName base f.1) = true) :
    (⟨entryName base f.1, .ok f.2⟩ : Entry) ∈ entries := by
  have hpacked : (⟨entryName base f.1, .ok f.2⟩ : Entry) ∈
      (packedEntries base tree).filter fun entry => Text.endsWith ending entry.name :=
    List.mem_filter.mpr ⟨List.mem_map_of_mem hf, hname⟩
  exact (List.mem_filter.mp ((List.Perm.mem_iff hpacks).mpr hpacked)).1

/-- The entry of a name with the ending has the content of the file of that name. -/
theorem lookup_eq (hpacks : PacksEnding base ending tree entries) (hproper : tree.Proper)
    {f : Located} (hf : f ∈ tree.files)
    (hending : Text.endsWith ending (entryName base f.1) = true) :
    lookup (entryName base f.1) entries = some (.ok f.2) := by
  have hmem := hpacks.mem_entries hf hending
  rw [lookup]
  cases hfound : entries.reverse.find? fun entry => entry.name = entryName base f.1 with
  | none =>
      have hnone := List.find?_eq_none.mp hfound _ (List.mem_reverse.mpr hmem)
      simp at hnone
  | some entry =>
      have hname : entry.name = entryName base f.1 := by
        simpa using List.find?_some hfound
      have hentry : entry ∈ entries := List.mem_reverse.mp (List.mem_of_find?_eq_some hfound)
      rw [← hname] at hending
      obtain ⟨g, hg, rfl⟩ := hpacks.exists_file hentry hending
      have hway : g.1 = f.1 := entryName_injective (Tree.isName_of_mem_files hproper hg)
        (Tree.isName_of_mem_files hproper hf) hname
      have hcontent : g.2 = f.2 := Tree.content_eq_of_mem_files hproper (hway ▸ hg) hf
      rw [Option.map_some, hcontent]

theorem nodup_names (hpacks : PacksEnding base ending tree entries) (hproper : tree.Proper) :
    ((entries.filter fun entry => Text.endsWith ending entry.name).map (·.name)).Nodup := by
  have hnames : ((tree.files.map (·.1)).map (entryName base)).Nodup := by
    apply List.Nodup.map_on _ (Tree.nodup_files hproper)
    intro first hfirst second hsecond heq
    obtain ⟨f, hf, rfl⟩ := List.mem_map.mp hfirst
    obtain ⟨g, hg, rfl⟩ := List.mem_map.mp hsecond
    exact entryName_injective (Tree.isName_of_mem_files hproper hf)
      (Tree.isName_of_mem_files hproper hg) heq
  have hpacked : ((packedEntries base tree).map (·.name)).Nodup := by
    rw [packedEntries, List.map_map]
    rwa [List.map_map] at hnames
  have hperm := List.Perm.map (fun entry : Entry => entry.name) hpacks
  exact hperm.nodup_iff.mpr (hpacked.sublist (List.filter_sublist.map _))

end PacksEnding

end Archive

namespace Source

open Archive (Entry Packs PacksEnding entryName)

def packedAt (path : Path) (base : String) (category : List String) (f : Located) : Resource :=
  ⟨placeInArchive path (entryName base (category ++ f.1)), .ok f.2⟩

/-- The names of the documents of a category in an archive before they are sorted. -/
def documentEntries (beginning ending : String) (entries : List Entry) : List String :=
  (namesUnder beginning entries).filter (Text.endsWith ending)

theorem documentNames_eq (beginning ending : String) (entries : List Entry) :
    documentNames beginning (.text ending) entries =
      .ok (documentEntries beginning ending entries).mergeSort := by
  rw [documentNames, withEnding, List.filter_map, List.map_map]
  exact congrArg (fun names : List String => Except.ok names.mergeSort) (List.map_id _)

section

variable {tree : Tree} {base ending : String} {category : List String} {entries : List Entry}

theorem mem_documentEntries_iff
    (hpacks : PacksEnding base ending tree entries) (hproper : tree.Proper)
    (hcategory : category ≠ []) (hall : ∀ name ∈ category, IsName name)
    (hending : '/' ∉ ending.toList) (name : String) :
    name ∈ documentEntries (entryBeginning base (Files.slashed category)) ending entries ↔
      ∃ f ∈ tree.documents ending category, entryName base (category ++ f.1) = name := by
  rw [documentEntries, namesUnder, List.mem_filter, List.mem_filter, List.mem_map]
  constructor
  · rintro ⟨⟨⟨entry, hentry, rfl⟩, hbeginning⟩, hname⟩
    obtain ⟨f, hf, rfl⟩ := hpacks.exists_file hentry hname
    have hway := Tree.isName_of_mem_files hproper hf
    obtain ⟨below, hbelow, heq⟩ :=
      (Archive.beginsWith_entryName_iff hcategory hall hway).mp hbeginning
    refine ⟨(below, f.2), ?_, congrArg (entryName base) heq.symm⟩
    rw [Tree.mem_documents_iff hproper, ← heq]
    refine ⟨hf, ?_⟩
    rw [← Archive.endsWith_entryName hending base hcategory (f := (below, f.2)) hbelow, ← heq]
    exact hname
  · rintro ⟨f, hf, rfl⟩
    obtain ⟨hfile, hsuffix⟩ := (Tree.mem_documents_iff hproper).mp hf
    have hbelow : f.1 ≠ [] := Tree.ne_nil_of_hasEnding hsuffix
    have hway := Tree.isName_of_mem_files hproper hfile
    have hname := Archive.endsWith_entryName hending base hcategory hbelow
    rw [hsuffix] at hname
    refine ⟨⟨⟨_, hpacks.mem_entries hfile hname, rfl⟩, ?_⟩, hname⟩
    exact (Archive.beginsWith_entryName_iff hcategory hall hway).mpr ⟨f.1, hbelow, rfl⟩

theorem nodup_documentEntries (hpacks : PacksEnding base ending tree entries)
    (hproper : tree.Proper) (beginning : String) :
    (documentEntries beginning ending entries).Nodup := by
  have hsublist : (entries.filter fun entry =>
      Text.endsWith ending entry.name && Text.beginsWith beginning entry.name).Sublist
        (entries.filter fun entry => Text.endsWith ending entry.name) := by
    apply List.monotone_filter_right
    intro entry hentry
    exact (Bool.and_eq_true_iff.mp hentry).1
  rw [documentEntries, namesUnder, List.filter_filter, List.filter_map]
  exact (hpacks.nodup_names hproper).sublist (hsublist.map _)

theorem exists_documents_of_names {names : List String} {files : List Located}
    {nameOf : Located → String} (hnames : ∀ name ∈ names, ∃ f ∈ files, nameOf f = name) :
    ∃ listed : List Located, listed.map nameOf = names ∧ ∀ f ∈ listed, f ∈ files := by
  induction names with
  | nil => exact ⟨[], rfl, by simp⟩
  | cons name names ih =>
      obtain ⟨f, hf, rfl⟩ := hnames name (List.mem_cons_self ..)
      obtain ⟨listed, rfl, hlisted⟩ := ih fun other hother =>
        hnames other (List.mem_cons_of_mem _ hother)
      exact ⟨f :: listed, rfl, List.forall_mem_cons.mpr ⟨hf, hlisted⟩⟩

theorem openArchive_eq {files : Tree} {path : Path} {bytes : List UInt8}
    (hread : files.read path = .ok bytes) (hentries : Archive.readEntries bytes = .ok entries) :
    openArchive files path = .ok entries := by
  rw [openArchive, hread]
  change (Archive.readEntries bytes).mapError Failure.archive = _
  rw [hentries]
  rfl

theorem entryContent_eq (hpacks : PacksEnding base ending tree entries) (hproper : tree.Proper)
    (hcategory : category ≠ []) (hending : '/' ∉ ending.toList) {f : Located}
    (hf : f ∈ tree.documents ending category) :
    entryContent entries (entryName base (category ++ f.1)) = .ok f.2 := by
  obtain ⟨hfile, hsuffix⟩ := (Tree.mem_documents_iff hproper).mp hf
  have hbelow := Tree.ne_nil_of_hasEnding hsuffix
  have hname := Archive.endsWith_entryName hending base hcategory hbelow
  rw [hsuffix] at hname
  rw [entryContent, hpacks.lookup_eq hproper hfile hname]
  rfl

theorem archiveDocuments_eq {listed : List Located}
    (hpacks : PacksEnding base ending tree entries) (hproper : tree.Proper)
    (hcategory : category ≠ []) (hending : '/' ∉ ending.toList) {beginning : String}
    (hlisted : listed.map (fun f => entryName base (category ++ f.1)) =
      (documentEntries beginning ending entries).mergeSort)
    (hdocuments : ∀ f ∈ listed, f ∈ tree.documents ending category) (path : Path) :
    archiveDocuments path beginning (.text ending) entries =
      .ok (listed.map (packedAt path base category)) := by
  have hresources : (documentEntries beginning ending entries).mergeSort.map
      (fun name => (⟨placeInArchive path name, entryContent entries name⟩ : Resource)) =
        listed.map (packedAt path base category) := by
    rw [← hlisted, List.map_map]
    apply List.map_congr_left
    intro f hf
    have hcontent := entryContent_eq hpacks hproper hcategory hending (hdocuments f hf)
    simp only [Function.comp_apply, packedAt, hcontent]
  rw [archiveDocuments, documentNames_eq, ← hresources]
  rfl

/-- The names are listed in order, however they are stored. -/
theorem archiveDocuments_of_perm {beginning : String} {names : List String}
    (hperm : names.Perm (documentEntries beginning ending entries))
    (hsorted : names.Pairwise (· ≤ ·)) (path : Path) :
    archiveDocuments path beginning (.text ending) entries =
      .ok (names.map fun name => ⟨placeInArchive path name, entryContent entries name⟩) := by
  rw [archiveDocuments, documentNames_eq, ← Keyed.mergeSort_eq_of_perm hperm,
    List.mergeSort_of_pairwise (by simpa using hsorted)]
  rfl

theorem list_archive_of_openArchive {files : Tree} {path : Path}
    (hopen : openArchive files path = .ok entries) {ending : Value} {category : String}
    {documents : List Resource}
    (hdocuments : archiveDocuments path (entryBeginning base category) ending entries =
      .ok documents) :
    ∃ log, list files (.archive path base ending) (.text category) = ⟨log, .ok documents⟩ := by
  have htext : Value.toText (.text category) = category := rfl
  simp only [list, listArchive, htext, hopen, hdocuments, Logged.ofExcept_ok_bind]
  split
  · exact ⟨_, rfl⟩
  · exact ⟨_, rfl⟩

theorem list_archive_of_documents {files : Tree} {path : Path} {bytes : List UInt8}
    (hread : files.read path = .ok bytes) (hentries : Archive.readEntries bytes = .ok entries)
    {ending : Value} {category : String} {documents : List Resource}
    (hdocuments : archiveDocuments path (entryBeginning base category) ending entries =
      .ok documents) :
    ∃ log, list files (.archive path base ending) (.text category) = ⟨log, .ok documents⟩ :=
  list_archive_of_openArchive (openArchive_eq hread hentries) hdocuments

theorem exists_listed (hpacks : PacksEnding base ending tree entries) (hproper : tree.Proper)
    (hcategory : category ≠ []) (hall : ∀ name ∈ category, IsName name)
    (hending : '/' ∉ ending.toList) :
    ∃ listed : List Located,
      listed.map (fun f => entryName base (category ++ f.1)) =
        (documentEntries (entryBeginning base (Files.slashed category)) ending
          entries).mergeSort ∧
      listed.Pairwise (fun f g => Files.slashed f.1 < Files.slashed g.1) ∧
      ∀ f, f ∈ listed ↔ f ∈ tree.documents ending category := by
  have hmem := mem_documentEntries_iff hpacks hproper hcategory hall hending
  have hnodup := nodup_documentEntries hpacks hproper
    (entryBeginning base (Files.slashed category))
  have hsorted := List.mergeSort_perm
    (documentEntries (entryBeginning base (Files.slashed category)) ending entries) (· ≤ ·)
  have hincreasing := Keyed.pairwise_lt_mergeSort hnodup
  obtain ⟨listed, hlisted, hsub⟩ := exists_documents_of_names fun name hname =>
    (hmem name).mp (hsorted.mem_iff.mp hname)
  have hbelow : ∀ f ∈ tree.documents ending category, f.1 ≠ [] := fun f hf =>
    Tree.ne_nil_of_hasEnding ((Tree.mem_documents_iff hproper).mp hf).2
  refine ⟨listed, hlisted, ?_, fun f => ⟨hsub f, ?_⟩⟩
  · rw [← hlisted, List.pairwise_map] at hincreasing
    apply hincreasing.imp_of_mem
    intro f g hf hg hlt
    exact (Archive.entryName_append_lt_iff hcategory (hbelow f (hsub f hf))
      (hbelow g (hsub g hg))).mp hlt
  · intro hf
    have hname := hsorted.mem_iff.mpr ((hmem _).mpr ⟨f, hf, rfl⟩)
    rw [← hlisted] at hname
    obtain ⟨g, hg, heq⟩ := List.mem_map.mp hname
    have hfile := ((Tree.mem_documents_iff hproper).mp hf).1
    have hother := ((Tree.mem_documents_iff hproper).mp (hsub g hg)).1
    have hway : category ++ g.1 = category ++ f.1 :=
      Archive.entryName_injective (Tree.isName_of_mem_files hproper hother)
        (Tree.isName_of_mem_files hproper hfile) heq
    rw [hway] at hother
    have hcontent := Tree.content_eq_of_mem_files hproper hother hfile
    have hsame : g = f := Prod.ext (List.append_cancel_left hway) hcontent
    exact hsame ▸ hg

/-- An archive lists the documents of a category, however deep they are, in the order of their
ways as texts. -/
theorem list_archive_of_packsEnding {files : Tree} {path : Path} {bytes : List UInt8}
    (hread : files.read path = .ok bytes) (hentries : Archive.readEntries bytes = .ok entries)
    (hpacks : PacksEnding base ending tree entries) (hproper : tree.Proper)
    (hcategory : category ≠ []) (hall : ∀ name ∈ category, IsName name)
    (hending : '/' ∉ ending.toList) :
    ∃ (log : List LogEntry) (listed : List Located),
      list files (.archive path base (.text ending)) (.text (Files.slashed category)) =
        ⟨log, .ok (listed.map (packedAt path base category))⟩ ∧
      listed.Pairwise (fun f g => Files.slashed f.1 < Files.slashed g.1) ∧
      ∀ f, f ∈ listed ↔ f ∈ tree.documents ending category := by
  obtain ⟨listed, hlisted, horder, hmem⟩ :=
    exists_listed hpacks hproper hcategory hall hending
  have hdocuments := archiveDocuments_eq hpacks hproper hcategory hending hlisted
    (fun f hf => (hmem f).mp hf) path
  obtain ⟨log, hlist⟩ := list_archive_of_documents hread hentries hdocuments
  exact ⟨log, listed, hlist, horder, hmem⟩

theorem list_archive {files : Tree} {path : Path} {bytes : List UInt8}
    (hread : files.read path = .ok bytes) (hentries : Archive.readEntries bytes = .ok entries)
    (hpacks : Packs base tree entries) (hproper : tree.Proper) (hcategory : category ≠ [])
    (hall : ∀ name ∈ category, IsName name) (hnonempty : ending ≠ "")
    (hending : '/' ∉ ending.toList) :
    ∃ (log : List LogEntry) (listed : List Located),
      list files (.archive path base (.text ending)) (.text (Files.slashed category)) =
        ⟨log, .ok (listed.map (packedAt path base category))⟩ ∧
      listed.Pairwise (fun f g => Files.slashed f.1 < Files.slashed g.1) ∧
      ∀ f, f ∈ listed ↔ f ∈ tree.documents ending category :=
  list_archive_of_packsEnding hread hentries (hpacks.packsEnding hnonempty hending) hproper
    hcategory hall hending

end

end Source

end SqlFixtures
