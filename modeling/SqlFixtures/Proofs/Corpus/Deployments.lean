import SqlFixtures.Archive.Pack
import SqlFixtures.Proofs.Corpus.Documents
import SqlFixtures.Proofs.Source.Archive
import Mathlib.Tactic

/-!
# A tree in a directory and in an archive

The same tree of documents can be read from a directory and from an archive that holds its files.
As long as no path in the directory is too long to ask for it, both builds go through the same
documents, the one in the order of the ways name by name, the other in the order of the ways as
texts.  An id can therefore have different cases only if it is defined
in two documents whose ways cross: the directory takes the case from the one with the longer name,
the archive from the one in the subdirectory.
-/

namespace SqlFixtures.Corpus

open Archive (Entry Packs)
open Document (Readable casesIn lastCase?)
open Files (Crosses IsName Located Path Tree slashed)

section

variable {tree : Tree} {category : List String} {f : Located}

theorem isName_of_mem_documents {ending : String} (hproper : tree.Proper)
    (hmem : f ∈ tree.documents ending category) : ∀ name ∈ f.1, IsName name := by
  have hfile := ((Tree.mem_documents_iff hproper).mp hmem).1
  exact fun name hname =>
    Tree.isName_of_mem_files hproper hfile name (List.mem_append_right _ hname)

theorem slash_not_mem_ending : '/' ∉ ".xml".toList := by decide

/-- Documents that are at most one directory below their category make up the same corpus in a
directory where everything can be asked for and in an archive, except that an id which is defined in
two documents whose ways cross may have the case of the one in the directory and the case of the
other one in the archive. -/
theorem build_of_packed_tree
    {files others : Tree} {root archive : Path} {found : Option Tree} {base : String}
    {bytes : List UInt8} {entries : List Entry}
    (hfind : files.find root = .ok tree) (hproper : tree.Proper)
    (hcategory : category ≠ []) (hnames : ∀ name ∈ category, IsName name)
    (hlook : files.look (root.extend category) = .ok found)
    (hasked : ∀ next ∈ found, Source.Askable files (root.extend category) next)
    (hread : others.read archive = .ok bytes) (hentries : Archive.readEntries bytes = .ok entries)
    (hpacks : Packs base tree entries)
    (hshallow : ∀ f ∈ tree.documents ".xml" category, f.1.length ≤ 2)
    (hreadable : ∀ f ∈ tree.documents ".xml" category, Readable f.2) :
    ∃ fromDirectory fromArchive : Corpus,
      (build files (.directory root (.text ".xml")) (.text (slashed category)) false).result =
        .ok fromDirectory ∧
      (build others (.archive archive base (.text ".xml")) (.text (slashed category))
        false).result = .ok fromArchive ∧
      fromDirectory.keys = fromArchive.keys ∧
      ∀ id, fromDirectory.get? id = fromArchive.get? id ∨
        ∃ inner ∈ tree.documents ".xml" category, ∃ outer ∈ tree.documents ".xml" category,
          Crosses inner.1 outer.1 ∧
          ∃ c d, lastCase? id outer.2 = some c ∧ lastCase? id inner.2 = some d ∧
            fromDirectory.get? id = some c ∧ fromArchive.get? id = some d := by
  obtain ⟨log, listed, hlist, horder, hmem⟩ :=
    Source.list_directory hfind hproper hnames hlook hasked ".xml"
  obtain ⟨logOther, listedOther, hlistOther, horderOther, hmemOther⟩ :=
    Source.list_archive hread hentries hpacks hproper hcategory hnames (by decide)
      slash_not_mem_ending
  have hdocuments : ∀ f, f ∈ listed ↔ f ∈ tree.documents ".xml" category := fun f =>
    (hmem f).trans (and_iff_left_of_imp (hshallow f))
  have hsame : ∀ f, f ∈ listed ↔ f ∈ listedOther := fun f =>
    (hdocuments f).trans (hmemOther f).symm
  obtain ⟨fromDirectory, hbuild, hkeys, hmemKeys, hget⟩ :=
    exists_build_of_readable (fun _ => rfl) hlist fun f hf => hreadable f ((hdocuments f).mp hf)
  obtain ⟨fromArchive, hbuildOther, hkeysOther, hmemKeysOther, hgetOther⟩ :=
    exists_build_of_readable (fun _ => rfl) hlistOther fun f hf =>
      hreadable f ((hmemOther f).mp hf)
  refine ⟨fromDirectory, fromArchive, hbuild, hbuildOther, ?_, ?_⟩
  · apply Keyed.eq_of_pairwise_lt hkeys hkeysOther
    intro id
    simp only [hmemKeys, hmemKeysOther, hsame]
  · intro id
    rw [hget, hgetOther]
    rcases findSome?_eq_or_exists (g := fun f => lastCase? id f.2) horder horderOther hsame with
      heq | ⟨inner, hinner, outer, houter, hlt, htext, hcases⟩
    · exact Or.inl heq
    · have hinnerDocument := (hdocuments inner).mp hinner
      have houterDocument := (hdocuments outer).mp houter
      have hcrosses := (Files.crosses_iff (isName_of_mem_documents hproper houterDocument)).mpr
        ⟨hlt, htext⟩
      exact Or.inr ⟨inner, hinnerDocument, outer, houterDocument, hcrosses, hcases⟩

end

/-! ## Ways that cross

The way `a/b.xml` comes before `a.xml` name by name, because `a` does, but not as a text, because a
dot comes before a slash.
-/

namespace Crossing

def inner : List UInt8 := "<sql-cases><sql-case id='x' value='a'/></sql-cases>".toUTF8.toList

def outer : List UInt8 := "<sql-cases><sql-case id='x' value='b'/></sql-cases>".toUTF8.toList

def single : List UInt8 := "<sql-cases><sql-case id='y' value='c'/></sql-cases>".toUTF8.toList

def tree : Tree :=
  .directory [("sql", .directory
    [("a.xml", .file outer), ("a", .directory [("b.xml", .file inner)]),
      ("c.xml", .file single)])]

def packed : List UInt8 :=
  Archive.pack [⟨"sql/a.xml".toUTF8.toList, outer⟩, ⟨"sql/a/b.xml".toUTF8.toList, inner⟩,
    ⟨"sql/c.xml".toUTF8.toList, single⟩]

def entries : List Entry :=
  [⟨"sql/a.xml", .ok outer⟩, ⟨"sql/a/b.xml", .ok inner⟩, ⟨"sql/c.xml", .ok single⟩]

def files : Tree := .directory [("tree", tree), ("tree.zip", .file packed)]

def directory : Source := .directory (.ofString "tree") (.text ".xml")

def archive : Source := .archive (.ofString "tree.zip") "" (.text ".xml")

theorem readCases_inner : Document.readCases .none inner = .ok [⟨"x", "a", none⟩] := by
  rw [← Results.toOption_eq_some_iff]
  decide +kernel

theorem readCases_outer : Document.readCases .none outer = .ok [⟨"x", "b", none⟩] := by
  rw [← Results.toOption_eq_some_iff]
  decide +kernel

theorem readCases_single : Document.readCases .none single = .ok [⟨"y", "c", none⟩] := by
  rw [← Results.toOption_eq_some_iff]
  decide +kernel

theorem readable_inner : Readable inner := ⟨_, _, readCases_inner⟩

theorem readable_outer : Readable outer := ⟨_, _, readCases_outer⟩

theorem readable_single : Readable single := ⟨_, _, readCases_single⟩

theorem lastCase?_of_readCases {id : String} {bytes : List UInt8} {c : Record.Case}
    (hread : Document.readCases .none bytes = .ok [c]) :
    lastCase? id bytes = if c.id = id then some c else none := by
  rw [lastCase?, Document.casesIn_of_readCases hread, List.reverse_singleton, List.find?_singleton]
  simp

theorem readEntries_packed : Archive.readEntries packed = .ok entries := by
  have hcontents : ((Archive.readEntries packed).toOption.map fun entries =>
      entries.map fun entry => (entry.name, entry.content.toOption)) =
        some ([("sql/a.xml", outer), ("sql/a/b.xml", inner), ("sql/c.xml", single)].map
          fun c => (c.1, some c.2)) := by
    decide +kernel
  exact Archive.readEntries_of_contents hcontents

theorem proper_tree : tree.Proper := by
  simp [tree, Tree.Proper, Tree.ProperAmong, IsName]

theorem packs_entries : Packs "" tree entries := List.Perm.of_eq rfl

/-- Nothing in the tree has too long a path. -/
theorem askable {next : Tree} (hnext : next ∈ tree.below? ["sql"]) :
    Source.Askable files ((Path.ofString "tree").extend ["sql"]) next := by
  obtain rfl := Option.some.inj hnext
  have hfind : files.find ((Path.ofString "tree").extend ["sql"]) = .ok _ := rfl
  exact (Source.askable_iff (by simp [hfind])).mpr rfl

theorem mem_documents {f : Located} (hmem : f ∈ tree.documents ".xml" ["sql"]) :
    f = (["a.xml"], outer) ∨ f = (["a", "b.xml"], inner) ∨ f = (["c.xml"], single) := by
  have hdocuments : tree.documents ".xml" ["sql"] =
      [(["a.xml"], outer), (["a", "b.xml"], inner), (["c.xml"], single)] := rfl
  rw [hdocuments] at hmem
  simpa using hmem

theorem shallow_documents {f : Located} (hmem : f ∈ tree.documents ".xml" ["sql"]) :
    f.1.length ≤ 2 := by
  rcases mem_documents hmem with rfl | rfl | rfl
  · simp
  · simp
  · simp

theorem readable_documents {f : Located} (hmem : f ∈ tree.documents ".xml" ["sql"]) :
    Readable f.2 := by
  rcases mem_documents hmem with rfl | rfl | rfl
  · exact readable_outer
  · exact readable_inner
  · exact readable_single

end Crossing

theorem build_of_packed_tree_at_crossing :
    ∃ fromDirectory fromArchive : Corpus,
      (build Crossing.files Crossing.directory (.text "sql") false).result = .ok fromDirectory ∧
      (build Crossing.files Crossing.archive (.text "sql") false).result = .ok fromArchive ∧
      fromDirectory.keys = fromArchive.keys ∧
      fromDirectory.get? "y" = fromArchive.get? "y" := by
  have hfind : Crossing.files.find (.ofString "tree") = .ok Crossing.tree := rfl
  have hnames : ∀ name ∈ ["sql"], IsName name := by decide
  have hlook : Crossing.files.look ((Path.ofString "tree").extend ["sql"]) =
      .ok (Crossing.tree.below? ["sql"]) := rfl
  have hread : Crossing.files.read (.ofString "tree.zip") = .ok Crossing.packed := rfl
  obtain ⟨fromDirectory, fromArchive, hdirectory, harchive, hkeys, hget⟩ :=
    build_of_packed_tree hfind Crossing.proper_tree (List.cons_ne_nil _ _) hnames hlook
      (fun _ hnext => Crossing.askable hnext) hread Crossing.readEntries_packed
      Crossing.packs_entries
      (fun _ hmem => Crossing.shallow_documents hmem)
      (fun _ hmem => Crossing.readable_documents hmem)
  refine ⟨fromDirectory, fromArchive, hdirectory, harchive, hkeys, ?_⟩
  rcases hget "y" with heq | ⟨inner, hinner, outer, houter, hcrosses, c, d, hc, hd, -⟩
  · exact heq
  · exfalso
    have hsingle : ∀ f ∈ Crossing.tree.documents ".xml" ["sql"], ∀ c,
        lastCase? "y" f.2 = some c → f.1 = ["c.xml"] := by
      intro f hf c hlast
      rcases Crossing.mem_documents hf with rfl | rfl | rfl
      · simp [Crossing.lastCase?_of_readCases Crossing.readCases_outer] at hlast
      · simp [Crossing.lastCase?_of_readCases Crossing.readCases_inner] at hlast
      · rfl
    have hlt := hcrosses.lt
    rw [hsingle inner hinner d hd, hsingle outer houter c hc] at hlt
    exact absurd hlt (by decide +kernel)

/-- The corpora of a category in two places are the same. -/
def SameCorpus (files : Tree) (first second : Source) (category : Value) : Prop :=
  ∃ a b : Corpus, (build files first category false).result = .ok a ∧
    (build files second category false).result = .ok b ∧
    a.keys = b.keys ∧ ∀ id, a.get? id = b.get? id

theorem not_sameCorpus {files : Tree} {first second : Source} {category : Value} {a b : Corpus}
    (hfirst : (build files first category false).result = .ok a)
    (hsecond : (build files second category false).result = .ok b)
    (id : String) (hne : a.get? id ≠ b.get? id) : ¬ SameCorpus files first second category := by
  rintro ⟨a', b', hfirst', hsecond', -, hget⟩
  rw [hfirst] at hfirst'
  rw [hsecond] at hsecond'
  cases hfirst'
  cases hsecond'
  exact hne (hget id)

namespace Crossing

theorem exists_build_directory (category : Value)
    (hlist : Source.list files directory category =
      ⟨[], .ok ([(["a", "b.xml"], inner), (["a.xml"], outer), (["c.xml"], single)].map
        (Source.documentAt (.ofString "tree/sql")))⟩) :
    ∃ corpus, (build files directory category false).result = .ok corpus ∧
      corpus.get? "x" = some ⟨"x", "b", none⟩ := by
  obtain ⟨corpus, hbuild, -, -, hget⟩ := exists_build_of_readable (fun _ => rfl) hlist (by
    simp [readable_inner, readable_outer, readable_single])
  refine ⟨corpus, hbuild, ?_⟩
  rw [hget]
  simp [lastCase?_of_readCases readCases_single, lastCase?_of_readCases readCases_outer]

theorem exists_build_archive :
    ∃ corpus, (build files archive (.text "sql") false).result = .ok corpus ∧
      corpus.get? "x" = some ⟨"x", "a", none⟩ := by
  have hdocuments : Source.archiveDocuments (.ofString "tree.zip") (Source.entryBeginning "" "sql")
      (.text ".xml") entries =
        .ok ([(["a.xml"], outer), (["a", "b.xml"], inner), (["c.xml"], single)].map
          (Source.packedAt (.ofString "tree.zip") "" ["sql"])) :=
    Source.archiveDocuments_of_perm (List.Perm.of_eq rfl) (by decide +kernel) _
  have hread : files.read (.ofString "tree.zip") = .ok packed := rfl
  obtain ⟨log, hlist⟩ := Source.list_archive_of_documents hread readEntries_packed hdocuments
  obtain ⟨corpus, hbuild, -, -, hget⟩ := exists_build_of_readable (fun _ => rfl) hlist (by
    simp [readable_inner, readable_outer, readable_single])
  refine ⟨corpus, hbuild, ?_⟩
  rw [hget]
  simp [lastCase?_of_readCases readCases_single, lastCase?_of_readCases readCases_inner]

theorem exists_build_archive_of_dot :
    ∃ corpus, (build files archive (.text "sql/.") false).result = .ok corpus ∧
      corpus.get? "x" = none := by
  have hdocuments : Source.archiveDocuments (.ofString "tree.zip")
      (Source.entryBeginning "" "sql/.") (.text ".xml") entries =
        .ok (([] : List Located).map (Source.packedAt (.ofString "tree.zip") "" ["sql"])) :=
    Source.archiveDocuments_of_perm (List.Perm.of_eq rfl) (by decide +kernel) _
  have hread : files.read (.ofString "tree.zip") = .ok packed := rfl
  obtain ⟨log, hlist⟩ := Source.list_archive_of_documents hread readEntries_packed hdocuments
  obtain ⟨corpus, hbuild, -, -, hget⟩ := exists_build_of_readable (fun _ => rfl) hlist (by simp)
  exact ⟨corpus, hbuild, hget "x"⟩

end Crossing

theorem builds_of_packed_tree_differ :
    Crossing.files.find (.ofString "tree") = .ok Crossing.tree ∧ Crossing.tree.Proper ∧
      Crossing.files.read (.ofString "tree.zip") = .ok Crossing.packed ∧
      Archive.readEntries Crossing.packed = .ok Crossing.entries ∧
      Packs "" Crossing.tree Crossing.entries ∧
      (∀ f ∈ Crossing.tree.documents ".xml" ["sql"], f.1.length ≤ 2 ∧ Readable f.2) ∧
      ¬ SameCorpus Crossing.files Crossing.directory Crossing.archive (.text "sql") ∧
      ¬ SameCorpus Crossing.files Crossing.directory Crossing.archive (.text "sql/.") ∧
      ¬ SameCorpus Crossing.files Crossing.directory Crossing.archive
        (.text (String.ofList (List.replicate 256 'a'))) := by
  refine ⟨rfl, Crossing.proper_tree, rfl, Crossing.readEntries_packed, Crossing.packs_entries,
    fun f hf => ⟨Crossing.shallow_documents hf, Crossing.readable_documents hf⟩, ?_, ?_, ?_⟩
  · obtain ⟨a, hdirectory, ha⟩ := Crossing.exists_build_directory (.text "sql") rfl
    obtain ⟨b, harchive, hb⟩ := Crossing.exists_build_archive
    exact not_sameCorpus hdirectory harchive "x" (by simp [ha, hb])
  · obtain ⟨a, hdirectory, ha⟩ := Crossing.exists_build_directory (.text "sql/.") rfl
    obtain ⟨b, harchive, hb⟩ := Crossing.exists_build_archive_of_dot
    exact not_sameCorpus hdirectory harchive "x" (by simp [ha, hb])
  · have hname : IsName (String.ofList (List.replicate 256 'a')) :=
      Files.isName_replicate (by decide) (by decide) (by decide) 255
    have hlong : Files.longestName < (String.ofList (List.replicate 256 'a')).utf8ByteSize := by
      decide +kernel
    have hfind : Crossing.files.find (.ofString "tree") = .ok Crossing.tree := rfl
    rintro ⟨a, -, hdirectory, -⟩
    rw [build, Crossing.directory, Source.list_directory_of_long hfind hname hlong] at hdirectory
    cases hdirectory

end SqlFixtures.Corpus
