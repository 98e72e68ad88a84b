import SqlFixtures.Proofs.Files.Order
import SqlFixtures.Proofs.Files.Trees
import SqlFixtures.Proofs.Logging.Logged
import SqlFixtures.Proofs.Results
import SqlFixtures.Source.Listing
import Mathlib.Tactic

/-!
# What a directory lists

The documents of a directory are those of its files with the right ending that are in it or in an
immediate subdirectory.  Each stands where its way of names belongs, name by name, so the files of a
subdirectory are where the name of the subdirectory is.  On the way everything that is at most two
names deep is asked for by its path, in the same order; the first path that is too long is what the
listing fails with.
-/

namespace SqlFixtures

open Files (Located Path Tree)

namespace Files.Tree

def HasEnding (ending : String) (f : Located) : Bool :=
  f.1.getLast?.any (Text.endsWith ending)

theorem ne_nil_of_hasEnding {ending : String} {f : Located} (hending : HasEnding ending f) :
    f.1 ≠ [] := by
  intro hnil
  rw [HasEnding, hnil] at hending
  cases hending

/-- The files with an ending that names lead to from a place in a tree, each with the names that
lead on to it. -/
def documents (ending : String) (category : List String) (tree : Tree) :
    List Located :=
  match tree.below? category with
  | some next => next.files.filter (HasEnding ending)
  | none => []

theorem mem_documents_iff {ending : String} {category : List String} {tree : Tree}
    (hproper : tree.Proper) {f : Located} :
    f ∈ tree.documents ending category ↔
      (category ++ f.1, f.2) ∈ tree.files ∧ HasEnding ending f := by
  rw [documents]
  cases hbelow : tree.below? category with
  | none =>
      have hnone : (category ++ f.1, f.2) ∉ tree.files := by
        rw [mem_files_iff hproper, below?_append, hbelow]
        simp
      simp [hnone]
  | some next => rw [List.mem_filter, mem_files_append_iff hproper hbelow]

theorem documents_eq_nil {ending : String} {category : List String} {tree : Tree}
    (hnone : ∀ entries, tree.below? category ≠ some (directory entries)) :
    tree.documents ending category = [] := by
  rw [documents]
  cases hbelow : tree.below? category with
  | none => rfl
  | some next =>
      cases next with
      | file content => rfl
      | directory entries => exact absurd hbelow (hnone entries)

/-- The file that an entry is, with the names that lead to it. -/
def fileAt? (above : List String) (entry : String × Tree) :
    Option Located :=
  match entry.2 with
  | file content => some (above ++ [entry.1], content)
  | directory _ => none

/-- The files that an entry is or immediately holds. -/
def shallowFiles (entry : String × Tree) : List Located :=
  match entry.2 with
  | file _ => (fileAt? [] entry).toList
  | directory _ => entry.2.sortedEntries.filterMap (fileAt? [entry.1])

theorem fileAt?_eq_some_iff {above : List String} {entry : String × Tree}
    {f : Located} :
    fileAt? above entry = some f ↔ f.1 = above ++ [entry.1] ∧ entry.2 = file f.2 := by
  obtain ⟨name, tree⟩ := entry
  obtain ⟨way, content⟩ := f
  cases tree with
  | file other => simp [fileAt?, eq_comm]
  | directory entries => simp [fileAt?]

theorem mem_shallowFiles_iff {entry : String × Tree} (hproper : entry.2.Proper)
    {f : Located} :
    f ∈ shallowFiles entry ↔
      (∃ inner ∈ entry.2.files, f = (entry.1 :: inner.1, inner.2)) ∧ f.1.length ≤ 2 := by
  obtain ⟨name, tree⟩ := entry
  obtain ⟨way, bytes⟩ := f
  cases tree with
  | file content =>
      simp only [shallowFiles, fileAt?, files, Option.toList_some, List.mem_singleton,
        exists_eq_left, List.nil_append, Prod.mk.injEq]
      constructor
      · rintro ⟨rfl, rfl⟩
        exact ⟨⟨rfl, rfl⟩, by simp⟩
      · exact fun hmem => hmem.1
  | directory entries =>
      obtain ⟨hnodup, -⟩ := hproper
      simp only [shallowFiles, List.mem_filterMap, mem_sortedEntries hnodup,
        fileAt?_eq_some_iff, files]
      constructor
      · rintro ⟨inner, hinner, rfl, hfile⟩
        refine ⟨⟨([inner.1], bytes), ?_, rfl⟩, by simp⟩
        rw [mem_filesAmong]
        refine ⟨inner, hinner, ([], bytes), ?_, rfl⟩
        rw [hfile]
        exact List.mem_singleton_self _
      · rintro ⟨⟨⟨rest, _⟩, hrest, ⟨⟩⟩, hlength⟩
        obtain ⟨inner, hinner, ⟨deeper, _⟩, hdeeper, ⟨⟩⟩ := mem_filesAmong.mp hrest
        refine ⟨inner, hinner, ?_⟩
        cases deeper with
        | nil =>
            refine ⟨rfl, ?_⟩
            cases htree : inner.2 with
            | file content =>
                rw [htree, files, List.mem_singleton] at hdeeper
                cases hdeeper
                rfl
            | directory others =>
                rw [htree, files, mem_filesAmong] at hdeeper
                obtain ⟨_, _, _, _, ⟨⟩⟩ := hdeeper
        | cons last deeper => simp at hlength

theorem head?_of_mem_shallowFiles {entry : String × Tree} {f : Located}
    (hmem : f ∈ shallowFiles entry) : ∃ rest, f.1 = entry.1 :: rest := by
  rw [shallowFiles] at hmem
  split at hmem
  · obtain ⟨hway, -⟩ := fileAt?_eq_some_iff.mp (Option.mem_toList.mp hmem)
    exact ⟨[], hway⟩
  · obtain ⟨inner, -, hinner⟩ := List.mem_filterMap.mp hmem
    obtain ⟨hway, -⟩ := fileAt?_eq_some_iff.mp hinner
    exact ⟨[inner.1], hway⟩

theorem pairwise_shallowFiles (entry : String × Tree) :
    (shallowFiles entry).Pairwise fun f g => f.1 < g.1 := by
  rw [shallowFiles]
  split
  · cases fileAt? [] entry with
    | none => exact List.Pairwise.nil
    | some f => exact List.pairwise_singleton _ _
  · rw [List.pairwise_filterMap]
    apply (ordered_sortedEntries entry.2).imp
    intro first second hlt f hf g hg
    rw [(fileAt?_eq_some_iff.mp hf).1, (fileAt?_eq_some_iff.mp hg).1]
    exact List.append_left_lt (List.cons_lt_cons_iff.mpr (Or.inl hlt))

theorem pairwise_flatMap_shallowFiles {entries : List (String × Tree)}
    (hordered : Keyed.Ordered entries) :
    (entries.flatMap shallowFiles).Pairwise fun f g => f.1 < g.1 := by
  rw [List.pairwise_flatMap]
  refine ⟨fun entry _ => pairwise_shallowFiles entry, hordered.imp ?_⟩
  intro first second hlt f hf g hg
  obtain ⟨rest, hfirst⟩ := head?_of_mem_shallowFiles hf
  obtain ⟨others, hsecond⟩ := head?_of_mem_shallowFiles hg
  rw [hfirst, hsecond]
  exact List.cons_lt_cons_iff.mpr (Or.inl hlt)

theorem mem_flatMap_shallowFiles_iff {entries : List (String × Tree)}
    (hproper : (directory entries).Proper) {f : Located} :
    f ∈ (directory entries).sortedEntries.flatMap shallowFiles ↔
      f ∈ (directory entries).files ∧ f.1.length ≤ 2 := by
  obtain ⟨hnodup, hamong⟩ := hproper
  rw [properAmong_iff] at hamong
  simp only [List.mem_flatMap, mem_sortedEntries hnodup, files, mem_filesAmong]
  constructor
  · rintro ⟨entry, hentry, hf⟩
    obtain ⟨hinner, hlength⟩ := (mem_shallowFiles_iff (hamong entry hentry).2).mp hf
    exact ⟨⟨entry, hentry, hinner⟩, hlength⟩
  · rintro ⟨⟨entry, hentry, hinner⟩, hlength⟩
    exact ⟨entry, hentry, (mem_shallowFiles_iff (hamong entry hentry).2).mpr ⟨hinner, hlength⟩⟩

/-! ## What is asked for -/

/-- The ways of names that are asked for when an entry is listed. -/
def askedIn (entry : String × Tree) : List (List String) :=
  [entry.1] :: match entry.2 with
    | file _ => []
    | directory _ => entry.2.sortedEntries.map fun inner => [entry.1, inner.1]

/-- The ways of names that are asked for when a directory is listed, in order. -/
def asked (tree : Tree) : List (List String) := tree.sortedEntries.flatMap askedIn

/-- The names lead to something in the tree, and there are at most two of them. -/
def IsShallow (tree : Tree) (way : List String) : Prop :=
  way.length ≤ 2 ∧ tree.below? way ≠ none

theorem below?_singleton_ne_none_iff {entries : List (String × Tree)} {name : String} :
    (directory entries).below? [name] ≠ none ↔
      ∃ entry ∈ (directory entries).sortedEntries, entry.1 = name := by
  rw [below?, Option.ne_none_iff_exists']
  constructor
  · rintro ⟨_, hbelow⟩
    obtain ⟨next, hnext, -⟩ := Option.bind_eq_some_iff.mp hbelow
    exact ⟨(name, next), mem_sortedEntries_iff_lookup.mpr hnext, rfl⟩
  · rintro ⟨entry, hentry, rfl⟩
    exact ⟨entry.2, by rw [mem_sortedEntries_iff_lookup.mp hentry]; rfl⟩

theorem mem_askedIn_iff {entry : String × Tree} {way : List String} :
    way ∈ askedIn entry ↔
      ∃ rest, way = entry.1 :: rest ∧ rest.length ≤ 1 ∧ entry.2.below? rest ≠ none := by
  obtain ⟨name, tree⟩ := entry
  rw [askedIn, List.mem_cons]
  constructor
  · rintro (rfl | hinner)
    · exact ⟨[], rfl, by simp, by simp [below?]⟩
    · cases tree with
      | file content => cases hinner
      | directory entries =>
          obtain ⟨inner, hmem, rfl⟩ := List.mem_map.mp hinner
          exact ⟨[inner.1], rfl, by simp, below?_singleton_ne_none_iff.mpr ⟨inner, hmem, rfl⟩⟩
  · rintro ⟨rest, rfl, hlength, hbelow⟩
    rcases rest with _ | ⟨last, _ | ⟨_, _⟩⟩
    · exact Or.inl rfl
    · cases tree with
      | file content => exact absurd rfl hbelow
      | directory entries =>
          obtain ⟨inner, hinner, rfl⟩ := below?_singleton_ne_none_iff.mp hbelow
          exact Or.inr (List.mem_map.mpr ⟨inner, hinner, rfl⟩)
    · simp at hlength

theorem mem_asked_iff {entries : List (String × Tree)} {way : List String} :
    way ∈ (directory entries).asked ↔ way ≠ [] ∧ (directory entries).IsShallow way := by
  simp only [asked, List.mem_flatMap, mem_askedIn_iff, mem_sortedEntries_iff_lookup]
  constructor
  · rintro ⟨entry, hentry, rest, rfl, hlength, hbelow⟩
    refine ⟨List.cons_ne_nil _ _, by simpa using hlength, ?_⟩
    rw [below?, hentry]
    exact hbelow
  · rintro ⟨hne, hlength, hbelow⟩
    obtain ⟨name, rest, rfl⟩ := List.exists_cons_of_ne_nil hne
    obtain ⟨found, hfound⟩ := Option.ne_none_iff_exists'.mp hbelow
    obtain ⟨next, hnext, hrest⟩ := Option.bind_eq_some_iff.mp hfound
    exact ⟨(name, next), hnext, rest, rfl, by simpa using hlength, by simp [hrest]⟩

theorem pairwise_askedIn (entry : String × Tree) : (askedIn entry).Pairwise (· < ·) := by
  rw [askedIn, List.pairwise_cons]
  cases entry.2 with
  | file content => simp
  | directory entries =>
      constructor
      · intro way hway
        obtain ⟨inner, -, rfl⟩ := List.mem_map.mp hway
        exact List.cons_lt_cons_iff.mpr (Or.inr ⟨rfl, List.nil_lt_cons ..⟩)
      · rw [List.pairwise_map]
        apply (ordered_sortedEntries _).imp
        intro first second hlt
        exact List.cons_lt_cons_iff.mpr
          (Or.inr ⟨rfl, List.cons_lt_cons_iff.mpr (Or.inl hlt)⟩)

/-- What is asked for comes in the same order as what is listed. -/
theorem pairwise_asked (tree : Tree) : tree.asked.Pairwise (· < ·) := by
  rw [asked, List.pairwise_flatMap]
  refine ⟨fun entry _ => pairwise_askedIn entry, (ordered_sortedEntries tree).imp ?_⟩
  intro first second hlt way hway other hother
  obtain ⟨rest, rfl, -⟩ := mem_askedIn_iff.mp hway
  obtain ⟨others, rfl, -⟩ := mem_askedIn_iff.mp hother
  exact List.cons_lt_cons_iff.mpr (Or.inl hlt)

end Files.Tree

namespace Source

/-- A file as a document, where `place` is the directory that its way begins in. -/
def documentAt (place : Path) (f : Located) : Resource :=
  ⟨(place.extend f.1).text, .ok f.2⟩

/-- What comes of asking for the path to which names lead on from a place, if it is a failure. -/
def faultAt? (files : Tree) (place : Path) (way : List String) : Option Failure :=
  Results.failure? ((files.look (place.extend way)).mapError .file)

theorem faultAt?_eq_none_iff {files : Tree} {place : Path} {way : List String} :
    faultAt? files place way = none ↔ files.find (place.extend way) ≠ .error .tooLong := by
  rw [faultAt?, Tree.look]
  cases files.find (place.extend way) with
  | ok found => simp [Except.mapError, Results.failure?]
  | error absence => cases absence <;> simp [Except.mapError, Results.failure?]

theorem faultAt?_of_tooLong {files : Tree} {place : Path} {way : List String}
    (hlong : files.find (place.extend way) = .error .tooLong) :
    faultAt? files place way = some (.file (.nameTooLong (place.extend way).text)) := by
  rw [faultAt?, Tree.look, hlong]
  rfl

theorem faultAt?_congr {files others : Tree} {place : Path} {way : List String}
    (hlong : files.find (place.extend way) = .error .tooLong ↔
      others.find (place.extend way) = .error .tooLong) :
    faultAt? files place way = faultAt? others place way := by
  by_cases htooLong : files.find (place.extend way) = .error .tooLong
  · rw [faultAt?_of_tooLong htooLong, faultAt?_of_tooLong (hlong.mp htooLong)]
  · rw [faultAt?_eq_none_iff.mpr htooLong,
      faultAt?_eq_none_iff.mpr fun hother => htooLong (hlong.mpr hother)]

/-- From the place on, no path to what the tree holds within two names is too long. -/
def Askable (files : Tree) (place : Path) (tree : Tree) : Prop :=
  ∀ way, tree.IsShallow way → files.find (place.extend way) ≠ .error .tooLong

theorem askable_iff {files : Tree} {place : Path} {entries : List (String × Tree)}
    (hplace : files.find place ≠ .error .tooLong) :
    Askable files place (.directory entries) ↔
      (Tree.directory entries).asked.findSome? (faultAt? files place) = none := by
  simp only [List.findSome?_eq_none_iff, faultAt?_eq_none_iff, Tree.mem_asked_iff]
  constructor
  · exact fun hasked way hway => hasked way hway.2
  · intro hnone way hshallow
    by_cases hway : way = []
    · rwa [hway, Path.extend_nil]
    · exact hnone way ⟨hway, hshallow⟩

theorem exists_first_of_findSome? {ways : List (List String)} (hordered : ways.Pairwise (· < ·))
    {fault? : List String → Option Failure} {failure : Failure}
    (hsome : ways.findSome? fault? = some failure) :
    ∃ way ∈ ways, fault? way = some failure ∧ ∀ other ∈ ways, other < way → fault? other = none := by
  obtain ⟨before, way, after, rfl, hfault, hbefore⟩ := List.findSome?_eq_some_iff.mp hsome
  obtain ⟨-, hafter, -⟩ := List.pairwise_append.mp hordered
  refine ⟨way, List.mem_append_right _ (List.mem_cons_self ..), hfault, fun other hmem hlt => ?_⟩
  rcases List.mem_append.mp hmem with hmem | hmem
  · exact hbefore other hmem
  rcases List.mem_cons.mp hmem with rfl | hmem
  · exact absurd hlt (List.lt_irrefl _)
  · exact absurd hlt (List.lt_asymm (List.rel_of_pairwise_cons hafter hmem))

/-- The first fault is that of the first path that is too long. -/
theorem exists_way_of_findSome? {files : Tree} {place : Path} {entries : List (String × Tree)}
    {failure : Failure} (hplace : files.find place ≠ .error .tooLong)
    (hsome : (Tree.directory entries).asked.findSome? (faultAt? files place) = some failure) :
    ∃ way, (Tree.directory entries).IsShallow way ∧
      files.find (place.extend way) = .error .tooLong ∧
      (∀ other, (Tree.directory entries).IsShallow other → other < way →
        files.find (place.extend other) ≠ .error .tooLong) ∧
      failure = .file (.nameTooLong (place.extend way).text) := by
  obtain ⟨way, hasked, hfault, hfirst⟩ :=
    exists_first_of_findSome? (Tree.pairwise_asked _) hsome
  have hlong : files.find (place.extend way) = .error .tooLong := by
    by_contra hshort
    rw [faultAt?_eq_none_iff.mpr hshort] at hfault
    cases hfault
  rw [faultAt?_of_tooLong hlong] at hfault
  refine ⟨way, (Tree.mem_asked_iff.mp hasked).2, hlong, ?_, (Option.some.inj hfault).symm⟩
  intro other hshallow hlt
  by_cases hother : other = []
  · rwa [hother, Path.extend_nil]
  · exact faultAt?_eq_none_iff.mp (hfirst other (Tree.mem_asked_iff.mpr ⟨hother, hshallow⟩) hlt)

section

variable (files : Tree) (place : Path) (ending : String)

/-- The files with the ending, as documents. -/
def documentsOf (listed : List Located) : List Resource :=
  (listed.filter (Tree.HasEnding ending)).map (documentAt place)

theorem entryAt_extend (above : List String) (entry : String × Tree) :
    (files.entryAt (place.extend above) entry).mapError Failure.file =
      Results.guarded (faultAt? files place (above ++ [entry.1])) entry.2 := by
  rw [Tree.entryAt, Path.child_extend, faultAt?]
  cases files.look (place.extend (above ++ [entry.1])) with
  | ok found => rfl
  | error fault => rfl

theorem fileOf_extend (above : List String) (entry : String × Tree) :
    fileOf files (place.extend above) (.text ending) entry =
      Results.guarded (faultAt? files place (above ++ [entry.1]))
        (documentsOf place ending (Tree.fileAt? above entry).toList) := by
  obtain ⟨name, tree⟩ := entry
  rw [fileOf, entryAt_extend]
  cases faultAt? files place (above ++ [name]) with
  | some failure => rfl
  | none =>
      cases tree with
      | directory entries => rfl
      | file content =>
          change withEnding (.text ending) [(name, _)] = .ok (documentsOf place ending _)
          have hending : Tree.HasEnding ending (above ++ [name], content) =
              Text.endsWith ending name := by
            rw [Tree.HasEnding, List.getLast?_concat]
            rfl
          rw [documentsOf, Tree.fileAt?, Option.toList_some, List.filter_singleton, hending,
            withEnding, List.filter_singleton]
          cases Text.endsWith ending name with
          | true => rw [Path.child_extend]; rfl
          | false => rfl

theorem documentsOf_flatMap {α : Type} (parts : α → List Located) (whole : List α) :
    documentsOf place ending (whole.flatMap parts) =
      whole.flatMap fun a => documentsOf place ending (parts a) := by
  simp only [documentsOf, List.filter_flatMap, List.map_flatMap]

theorem filesOf_eq (entry : String × Tree) :
    filesOf files place (.text ending) entry =
      Results.guarded ((Tree.askedIn entry).findSome? (faultAt? files place))
        (documentsOf place ending (Tree.shallowFiles entry)) := by
  obtain ⟨name, tree⟩ := entry
  have hask := entryAt_extend files place [] (name, tree)
  have hfile := fileOf_extend files place ending [] (name, tree)
  rw [Path.extend_nil, List.nil_append] at hask hfile
  rw [filesOf, hask, Tree.askedIn, List.findSome?_cons]
  cases hfault : faultAt? files place [name] with
  | some failure => rfl
  | none =>
      cases tree with
      | file content =>
          rw [hfault] at hfile
          exact hfile
      | directory inner =>
          have hinner := Results.mapM_eq_guarded (fileOf_extend files place ending [name])
            (Tree.directory inner).sortedEntries
          change ((Tree.directory inner).sortedEntries.mapM
            (fileOf files (place.extend [name]) (.text ending))).map List.flatten = _
          rw [hinner, Results.map_guarded, List.findSome?_map, Tree.shallowFiles,
            List.filterMap_eq_flatMap_toList, documentsOf_flatMap, List.flatMap_def]
          rfl

/-- A directory gives the documents among its shallow files, unless asking for something in it
fails. -/
theorem directoryDocuments_eq (tree : Tree) :
    directoryDocuments files place (.text ending) tree.sortedEntries =
      Results.guarded (tree.asked.findSome? (faultAt? files place))
        (documentsOf place ending (tree.sortedEntries.flatMap Tree.shallowFiles)) := by
  rw [directoryDocuments, Results.mapM_eq_guarded (filesOf_eq files place ending),
    Results.map_guarded, Tree.asked, Results.findSome?_flatMap, documentsOf_flatMap,
    List.flatMap_def]

end

theorem directoryAt_of_directory {files : Tree} {path : Path} {entries : List (String × Tree)}
    (hlook : files.look path = .ok (some (.directory entries))) :
    files.directoryAt path = .ok (some (Tree.directory entries).sortedEntries) := by
  rw [Tree.directoryAt, hlook]
  rfl

theorem directoryAt_of_no_directory {files : Tree} {path : Path} {found : Option Tree}
    (hlook : files.look path = .ok found) (hnone : ∀ entries, found ≠ some (.directory entries)) :
    files.directoryAt path = .ok none := by
  rw [Tree.directoryAt, hlook]
  cases found with
  | none => rfl
  | some next =>
      cases next with
      | file content => rfl
      | directory entries => exact absurd rfl (hnone entries)

section

variable {files : Tree} {root : Path} {category : String}

theorem list_directory_of_directory {entries : List (String × Tree)}
    (hlook : files.look (root.join (.ofString category)) = .ok (some (.directory entries)))
    (ending : String) :
    list files (.directory root (.text ending)) (.text category) =
      ⟨[], Results.guarded
        ((Tree.directory entries).asked.findSome?
          (faultAt? files (root.join (.ofString category))))
        (documentsOf (root.join (.ofString category)) ending
          ((Tree.directory entries).sortedEntries.flatMap Tree.shallowFiles))⟩ := by
  rw [list, listDirectory, directoryAt_of_directory hlook]
  simp only [Except.mapError, Logged.ofExcept_ok_bind, directoryDocuments_eq]
  rfl

/-- If everything in it can be asked for, a directory lists the documents among its shallow
files. -/
theorem list_directory_of_askable {entries : List (String × Tree)}
    (hlook : files.look (root.join (.ofString category)) = .ok (some (.directory entries)))
    (hasked : Askable files (root.join (.ofString category)) (.directory entries))
    (ending : String) :
    list files (.directory root (.text ending)) (.text category) =
      ⟨[], .ok (documentsOf (root.join (.ofString category)) ending
        ((Tree.directory entries).sortedEntries.flatMap Tree.shallowFiles))⟩ := by
  have hnone := (askable_iff (Tree.look_eq_ok_iff.mp hlook).1).mp hasked
  rw [list_directory_of_directory hlook, hnone]
  rfl

/-- Otherwise the first path that is too long is what the listing fails with. -/
theorem list_directory_of_not_askable {entries : List (String × Tree)}
    (hlook : files.look (root.join (.ofString category)) = .ok (some (.directory entries)))
    (hasked : ¬ Askable files (root.join (.ofString category)) (.directory entries))
    (ending : String) :
    ∃ way, (Tree.directory entries).IsShallow way ∧
      files.find ((root.join (.ofString category)).extend way) = .error .tooLong ∧
      (∀ other, (Tree.directory entries).IsShallow other → other < way →
        files.find ((root.join (.ofString category)).extend other) ≠ .error .tooLong) ∧
      list files (.directory root (.text ending)) (.text category) =
        Logged.fail (.file (.nameTooLong ((root.join (.ofString category)).extend way).text)) := by
  have hplace := (Tree.look_eq_ok_iff.mp hlook).1
  rw [askable_iff hplace] at hasked
  obtain ⟨failure, hfails⟩ := Option.ne_none_iff_exists'.mp hasked
  obtain ⟨way, hshallow, hlong, hfirst, rfl⟩ := exists_way_of_findSome? hplace hfails
  refine ⟨way, hshallow, hlong, hfirst, ?_⟩
  rw [list_directory_of_directory hlook, hfails]
  rfl

def absenceNotice (place : Path) (category : String) : LogEntry :=
  ⟨.debug, s!"No case directory at {place.text}; skipping category '{category}'"⟩

theorem list_directory_of_no_directory {found : Option Tree}
    (hlook : files.look (root.join (.ofString category)) = .ok found)
    (hnone : ∀ entries, found ≠ some (.directory entries)) (ending : Value) :
    list files (.directory root ending) (.text category) =
      ⟨[absenceNotice (root.join (.ofString category)) category], .ok []⟩ := by
  rw [list, listDirectory, directoryAt_of_no_directory hlook hnone]
  rfl

theorem list_directory_of_fault {fault : Files.Fault}
    (hlook : files.look (root.join (.ofString category)) = .error fault) (ending : Value) :
    list files (.directory root ending) (.text category) = Logged.fail (.file fault) := by
  rw [list, listDirectory, Tree.directoryAt, hlook]
  rfl

end

theorem join_slashed (root : Path) {category : List String}
    (hnames : ∀ name ∈ category, Files.IsName name) :
    root.join (.ofString (Files.slashed category)) = root.extend category := by
  rw [Path.ofString_slashed hnames]
  rfl

theorem join_name (root : Path) {name : String} (hname : Files.IsName name) :
    root.join (.ofString name) = root.extend [name] := by
  have hplace := join_slashed root (List.forall_mem_singleton.mpr hname)
  rwa [Files.slashed_singleton] at hplace

/-- A directory lists the documents of a category that are at most one directory below it, in order
name by name. -/
theorem list_directory {files tree : Tree} {root : Path} {category : List String}
    {found : Option Tree} (hfind : files.find root = .ok tree) (hproper : tree.Proper)
    (hnames : ∀ name ∈ category, Files.IsName name)
    (hlook : files.look (root.extend category) = .ok found)
    (hasked : ∀ next ∈ found, Askable files (root.extend category) next) (ending : String) :
    ∃ (log : List LogEntry) (listed : List Located),
      list files (.directory root (.text ending)) (.text (Files.slashed category)) =
        ⟨log, .ok (listed.map (documentAt (root.extend category)))⟩ ∧
      listed.Pairwise (fun f g => f.1 < g.1) ∧
      ∀ f, f ∈ listed ↔ f ∈ tree.documents ending category ∧ f.1.length ≤ 2 := by
  have hfound := Tree.look_extend hfind hnames hlook
  have hplace := join_slashed root hnames
  rw [← hplace] at hlook hasked ⊢
  by_cases hdirectory : ∃ entries, found = some (.directory entries)
  · obtain ⟨entries, rfl⟩ := hdirectory
    have hentries := (Tree.proper_of_below? hproper hfound.symm).2
    refine ⟨[], _, list_directory_of_askable hlook (hasked _ rfl) ending, ?_, ?_⟩
    · exact (Tree.pairwise_flatMap_shallowFiles (Tree.ordered_sortedEntries _)).filter _
    · intro f
      rw [List.mem_filter, Tree.mem_flatMap_shallowFiles_iff hentries, Tree.documents, ← hfound,
        List.mem_filter, and_right_comm]
  · have hnone : ∀ entries, found ≠ some (.directory entries) := fun entries heq =>
      hdirectory ⟨entries, heq⟩
    rw [Tree.documents_eq_nil fun entries => hfound ▸ hnone entries]
    exact ⟨_, [], list_directory_of_no_directory hlook hnone _, List.Pairwise.nil, by simp⟩

theorem list_directory_of_look_error {files : Tree} {root : Path} {category : List String}
    {fault : Files.Fault} (hnames : ∀ name ∈ category, Files.IsName name)
    (hlook : files.look (root.extend category) = .error fault) (ending : Value) :
    list files (.directory root ending) (.text (Files.slashed category)) =
      Logged.fail (.file fault) := by
  rw [← join_slashed root hnames] at hlook
  exact list_directory_of_fault hlook ending

theorem list_directory_of_long {files : Tree} {root : Path} {entries : List (String × Tree)}
    (hfind : files.find root = .ok (.directory entries)) {name : String}
    (hname : Files.IsName name) (hlong : Files.longestName < name.utf8ByteSize) (ending : Value) :
    list files (.directory root ending) (.text name) =
      Logged.fail (.file (.nameTooLong (root.extend [name]).text)) := by
  have hfails := list_directory_of_look_error (List.forall_mem_singleton.mpr hname)
    (Tree.look_extend_of_long hfind hname hlong) ending
  rwa [Files.slashed_singleton] at hfails

end Source

end SqlFixtures
