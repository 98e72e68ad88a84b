import SqlFixtures.Proofs.Results
import SqlFixtures.Proofs.Source.Directory
import Mathlib.Tactic

/-!
# The two levels of a category

A directory lists the files of a category that have the right ending, in it or in one of its
immediate subdirectories, and nothing else.  Their ways below the category increase name by name:
the files of a subdirectory come where the name of the subdirectory comes among the entries, which
may be somewhere else than where their paths come as texts.  A category that is not there or is no
directory lists nothing.  One whose path is too long cannot be asked for, and the listing fails.
-/

namespace SqlFixtures

open Files (Located Path Tree)

namespace Files.Tree

variable {entries : List (String × Tree)} {ending : String} {f : Located}

/-- The file is among the entries, and its name has the ending. -/
def IsDocumentIn (ending : String) (entries : List (String × Tree)) (f : Located) : Prop :=
  ∃ name, f.1 = [name] ∧ Text.endsWith ending name ∧ (name, file f.2) ∈ entries

/-- The file is in a directory among the entries, and its name has the ending. -/
def IsDocumentBelow (ending : String) (entries : List (String × Tree)) (f : Located) : Prop :=
  ∃ above inner name, f.1 = [above, name] ∧ Text.endsWith ending name ∧
    (above, directory inner) ∈ entries ∧ (name, file f.2) ∈ inner

theorem mem_shallowFiles_file_iff {name : String} {content : List UInt8} :
    f ∈ shallowFiles (name, file content) ↔ f.1 = [name] ∧ f.2 = content := by
  obtain ⟨way, bytes⟩ := f
  simp [shallowFiles, fileAt?]

theorem mem_shallowFiles_directory_iff {name : String} {inner : List (String × Tree)}
    (hnodup : (inner.map (·.1)).Nodup) :
    f ∈ shallowFiles (name, directory inner) ↔
      ∃ last, f.1 = [name, last] ∧ (last, file f.2) ∈ inner := by
  simp only [shallowFiles, List.mem_filterMap, mem_sortedEntries hnodup, fileAt?_eq_some_iff]
  constructor
  · rintro ⟨⟨last, tree⟩, hmem, hway, rfl⟩
    exact ⟨last, hway, hmem⟩
  · rintro ⟨last, hway, hmem⟩
    exact ⟨(last, file f.2), hmem, hway, rfl⟩

theorem hasEnding_concat (above : List String) {name : String} (hway : f.1 = above ++ [name]) :
    HasEnding ending f = Text.endsWith ending name := by
  rw [HasEnding, hway, List.getLast?_concat]
  rfl

/-- What is listed of entries is on one of the two levels. -/
theorem mem_listed_iff (hproper : (directory entries).Proper) :
    f ∈ ((directory entries).sortedEntries.flatMap shallowFiles).filter (HasEnding ending) ↔
      IsDocumentIn ending entries f ∨ IsDocumentBelow ending entries f := by
  obtain ⟨hnodup, hamong⟩ := hproper
  rw [properAmong_iff] at hamong
  rw [List.mem_filter, List.mem_flatMap]
  constructor
  · rintro ⟨⟨⟨name, tree⟩, hentry, hf⟩, hending⟩
    rw [mem_sortedEntries hnodup] at hentry
    cases tree with
    | file content =>
        obtain ⟨hway, rfl⟩ := mem_shallowFiles_file_iff.mp hf
        rw [hasEnding_concat [] hway] at hending
        exact Or.inl ⟨name, hway, hending, hentry⟩
    | directory inner =>
        have hinner := (hamong _ hentry).2
        obtain ⟨last, hway, hlast⟩ := (mem_shallowFiles_directory_iff hinner.1).mp hf
        rw [hasEnding_concat [name] hway] at hending
        exact Or.inr ⟨name, inner, last, hway, hending, hentry, hlast⟩
  · rintro (⟨name, hway, hending, hentry⟩ | ⟨above, inner, name, hway, hending, hentry, hname⟩)
    · refine ⟨⟨(name, file f.2), (mem_sortedEntries hnodup).mpr hentry, ?_⟩, ?_⟩
      · exact mem_shallowFiles_file_iff.mpr ⟨hway, rfl⟩
      · rwa [hasEnding_concat [] hway]
    · have hinner := (hamong _ hentry).2
      refine ⟨⟨(above, directory inner), (mem_sortedEntries hnodup).mpr hentry, ?_⟩, ?_⟩
      · exact (mem_shallowFiles_directory_iff hinner.1).mpr ⟨name, hway, hname⟩
      · rwa [hasEnding_concat [above] hway]

end Files.Tree

namespace Source

/-- A directory lists the documents on the two levels of a category, each once, in order name by
name, if everything there can be asked for, and fails at the first thing that cannot.  If the
category is not there or is no directory, nothing is listed, unless its path is too long to ask for
it. -/
theorem list_directory_on_two_levels {files : Tree} (hproper : files.Proper) (root : Path)
    (ending category : String) :
    let place := root.join (.ofString category)
    let listing := list files (.directory root (.text ending)) (.text category)
    (∀ entries, files.find place = .ok (.directory entries) →
      (Askable files place (.directory entries) →
        ∃ listed : List Located, listing = ⟨[], .ok (listed.map (documentAt place))⟩ ∧
          listed.Pairwise (fun f g => f.1 < g.1) ∧
          ∀ f, f ∈ listed ↔
            Tree.IsDocumentIn ending entries f ∨ Tree.IsDocumentBelow ending entries f) ∧
      (¬ Askable files place (.directory entries) →
        ∃ way, (Tree.directory entries).IsShallow way ∧
          files.find (place.extend way) = .error .tooLong ∧
          (∀ other, (Tree.directory entries).IsShallow other → other < way →
            files.find (place.extend other) ≠ .error .tooLong) ∧
          listing = Logged.fail (.file (.nameTooLong (place.extend way).text)))) ∧
    ((∀ entries, files.find place ≠ .ok (.directory entries)) →
      files.find place ≠ .error .tooLong →
        listing = ⟨[absenceNotice place category], .ok []⟩) ∧
    (files.find place = .error .tooLong →
      listing = Logged.fail (.file (.nameTooLong place.text))) := by
  intro place listing
  refine ⟨?_, ?_, ?_⟩
  · intro entries hfind
    have hlook : files.look place = .ok (some (.directory entries)) :=
      Tree.look_eq_ok_iff.mpr (by simp [hfind, Except.toOption])
    have hentries := Tree.proper_of_find hproper hfind
    refine ⟨fun hasked => ?_, fun hasked => ?_⟩
    · refine ⟨_, list_directory_of_askable hlook hasked ending, ?_,
        fun f => Tree.mem_listed_iff hentries⟩
      exact (Tree.pairwise_flatMap_shallowFiles (Tree.ordered_sortedEntries _)).filter _
    · exact list_directory_of_not_askable hlook hasked ending
  · intro hnone hshort
    have hlook : files.look place = .ok (files.find place).toOption :=
      Tree.look_eq_ok_iff.mpr ⟨hshort, rfl⟩
    apply list_directory_of_no_directory hlook
    intro entries hfound
    exact hnone entries (Results.toOption_eq_some_iff.mp hfound)
  · intro hlong
    have hlook : files.look place = .error (.nameTooLong place.text) := by
      rw [Tree.look, hlong]
    exact list_directory_of_fault hlook _

namespace Nested

def entries : List (String × Tree) :=
  [("a-b.xml", .file [1]), ("a", .directory [("x.xml", .file [2])]),
    ("d.xml", .directory [("e", .directory [("y.xml", .file [3])])])]

def files : Tree := .directory [("tree", .directory [("sql", .directory entries)])]

def root : Path := .ofString "tree"

def longCategory : String := String.ofList (List.replicate 256 'a')

theorem proper_files : files.Proper := by
  simp [files, entries, Tree.Proper, Tree.ProperAmong, Files.IsName]

theorem isName_longCategory : Files.IsName longCategory :=
  Files.isName_replicate (by decide) (by decide) (by decide) 255

theorem longestName_lt_longCategory : Files.longestName < longCategory.utf8ByteSize := by
  decide +kernel

theorem find_longCategory :
    files.find (root.join (.ofString longCategory)) = .error .tooLong := by
  have hnames : ∀ name ∈ [longCategory], Files.IsName name :=
    List.forall_mem_singleton.mpr isName_longCategory
  have hroot : files.find root = .ok (.directory [("sql", .directory entries)]) := rfl
  rw [join_name root isName_longCategory]
  rcases Tree.find_extend hroot hnames with hlong | ⟨above, hfollow⟩
  · exact hlong
  · rw [hfollow, Tree.follow_name isName_longCategory.2.2.1, if_pos longestName_lt_longCategory]

end Nested

/-- The directory `a` comes before the file `a-b.xml`, although its file comes after it as a text.
The directory `d.xml` is no document, and the file below its directory is too deep. -/
theorem list_directory_on_two_levels_of_nested_directories :
    (∃ listed : List Located,
      list Nested.files (.directory Nested.root (.text ".xml")) (.text "sql") =
        ⟨[], .ok (listed.map (documentAt (.ofString "tree/sql")))⟩ ∧
      listed.Pairwise (fun f g => f.1 < g.1) ∧
      (["a", "x.xml"], [2]) ∈ listed ∧ (["a-b.xml"], [1]) ∈ listed ∧
      (["d.xml", "e", "y.xml"], [3]) ∉ listed) ∧
    list Nested.files (.directory Nested.root (.text ".xml")) (.text "none") =
      ⟨[⟨.debug, "No case directory at tree/none; skipping category 'none'"⟩], .ok []⟩ ∧
    list Nested.files (.directory Nested.root (.text ".xml")) (.text Nested.longCategory) =
      Logged.fail (.file (.nameTooLong
        (Nested.root.join (.ofString Nested.longCategory)).text)) := by
  have hlisting := list_directory_on_two_levels Nested.proper_files Nested.root ".xml"
  have hfind : Nested.files.find (Nested.root.join (.ofString "sql")) =
      .ok (.directory Nested.entries) := rfl
  have hmissing : Nested.files.find (Nested.root.join (.ofString "none")) = .error .missing := rfl
  have hasked : Askable Nested.files (Nested.root.join (.ofString "sql"))
      (.directory Nested.entries) :=
    (askable_iff (by simp [hfind])).mpr rfl
  refine ⟨?_, ?_, (hlisting Nested.longCategory).2.2 Nested.find_longCategory⟩
  · obtain ⟨listed, hlist, hordered, hmem⟩ := ((hlisting "sql").1 Nested.entries hfind).1 hasked
    refine ⟨listed, hlist, hordered, ?_, ?_, ?_⟩
    · rw [hmem]
      exact Or.inr ⟨"a", [("x.xml", .file [2])], "x.xml", rfl, by decide, by simp [Nested.entries],
        by simp⟩
    · rw [hmem]
      exact Or.inl ⟨"a-b.xml", rfl, by decide, by simp [Nested.entries]⟩
    · rw [hmem]
      rintro (⟨name, hway, -⟩ | ⟨above, inner, name, hway, -⟩)
      · simp at hway
      · simp at hway
  · exact (hlisting "none").2.1 (by simp [hmissing]) (by simp [hmissing])

/-- No directory can have such a name, and still the category is not passed over. -/
theorem list_directory_fails_at_long_category :
    Nested.files.Proper ∧
      (∀ found, Nested.files.find (Nested.root.join (.ofString Nested.longCategory)) ≠ .ok found) ∧
      ∀ log, list Nested.files (.directory Nested.root (.text ".xml"))
        (.text Nested.longCategory) ≠ ⟨log, .ok []⟩ := by
  have hfind := Nested.find_longCategory
  have hlook : Nested.files.look (Nested.root.join (.ofString Nested.longCategory)) =
      .error (.nameTooLong (Nested.root.join (.ofString Nested.longCategory)).text) := by
    rw [Tree.look, hfind]
  refine ⟨Nested.proper_files, ?_, ?_⟩
  · intro found hfound
    rw [hfind] at hfound
    cases hfound
  · intro log hlist
    rw [list_directory_of_fault hlook] at hlist
    cases hlist

end Source

end SqlFixtures
