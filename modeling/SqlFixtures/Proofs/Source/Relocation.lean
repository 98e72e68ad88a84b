import SqlFixtures.Archive.Pack
import SqlFixtures.Proofs.Corpus.AssertRows
import SqlFixtures.Proofs.Source.Agreement
import SqlFixtures.Proofs.Text.Trimming
import Mathlib.Tactic

/-!
# Components between location and category

The path of a document below a location can be cut anywhere into the rest of the location and a
category.  In a directory both cuts lead to the same place.  In an archive both make up the same
beginning of entry names, and the archive is the same one: nothing leads on from a file, so at most
one archive is on the way to a location, wherever the location ends.
-/

namespace SqlFixtures

open Files (IsPart Path Tree slashed)

namespace Archive

theorem baseBeginning_slashed {above : List String} (habove : ∀ name ∈ above, IsPart name)
    {below : List String} (hbelow : below ≠ []) :
    baseBeginning (slashed above) ++ slashed below = slashed (above ++ below) := by
  by_cases hnone : above = []
  · subst above
    exact String.empty_append
  · have hnonempty : slashed above ≠ "" := by
      intro hempty
      have hparts := Path.partsOf_slashed habove
      rw [hempty] at hparts
      exact hnone hparts.symm
    rw [baseBeginning, if_neg (by simpa using hnonempty), Files.slashed_append hnone hbelow]

theorem entryBeginning_slashed {above : List String} (habove : ∀ name ∈ above, IsPart name)
    {below : List String} (hbelow : below ≠ []) :
    Source.entryBeginning (slashed above) (slashed below) = slashed (above ++ below) ++ "/" := by
  rw [entryBeginning_eq, ← String.append_assoc, baseBeginning_slashed habove hbelow]

end Archive

namespace Source

section

variable {files : Tree} {location archive : Path} {rest : List String} {ending : Value}

/-! ## The archive on the way to a location -/

theorem exists_file_of_isArchiveAt (harchive : isArchiveAt files archive = .ok true) :
    ∃ content, files.find archive = .ok (.file content) := by
  by_contra hnone
  rw [not_exists] at hnone
  by_cases hlong : files.find archive = .error .tooLong
  · rw [isArchiveAt_of_tooLong hlong] at harchive
    cases harchive
  · rw [isArchiveAt_of_no_file hlong hnone] at harchive
    cases harchive

theorem eq_nil_of_isArchiveAt_extend (harchive : isArchiveAt files archive = .ok true)
    (hbelow : isArchiveAt files (archive.extend rest) = .ok true) : rest = [] := by
  obtain ⟨content, hcontent⟩ := exists_file_of_isArchiveAt harchive
  obtain ⟨other, hother⟩ := exists_file_of_isArchiveAt hbelow
  exact Tree.eq_nil_of_find_extend hcontent hother

/-- There is at most one archive on the way to a location. -/
theorem eq_of_isArchiveAt {other : Path} {more : List String}
    (hfirst : isArchiveAt files archive = .ok true) (hsecond : isArchiveAt files other = .ok true)
    (hsame : archive.extend rest = other.extend more) : archive = other ∧ rest = more := by
  obtain ⟨anchor, parts⟩ := archive
  obtain ⟨anchor', others⟩ := other
  obtain ⟨rfl, hparts⟩ := Files.Path.mk.inj hsame
  -- Both begin the same way, so one of them is at the other one or below it.
  have hnone : ∀ names, (others = parts ++ names ∨ parts = others ++ names) → names = [] := by
    rintro names (rfl | rfl)
    · exact eq_nil_of_isArchiveAt_extend hfirst hsecond
    · exact eq_nil_of_isArchiveAt_extend hsecond hfirst
  rcases List.append_eq_append_iff.mp hparts with ⟨names, hothers, hrest⟩ | ⟨names, hothers, hrest⟩
  · obtain rfl := hnone names (.inl hothers)
    rw [List.append_nil] at hothers
    exact ⟨congrArg _ hothers.symm, hrest⟩
  · obtain rfl := hnone names (.inr hothers)
    rw [List.append_nil] at hothers
    exact ⟨congrArg _ hothers, hrest.symm⟩

theorem eq_extend_of_mem_ascent {candidate : Path × List String}
    (hcandidate : candidate ∈ location.ascent) : location = candidate.1.extend candidate.2 := by
  obtain ⟨n, -, rfl⟩ := List.mem_map.mp hcandidate
  rw [Files.Path.extend, List.take_append_drop]

/-- The archive that is found is the nearest one. -/
theorem firstArchive_eq_some_iff {candidates : List (Path × List String)}
    {candidate : Path × List String} :
    firstArchive files candidates = .ok (some candidate) ↔
      ∃ nearer farther, candidates = nearer ++ candidate :: farther ∧
        (∀ other ∈ nearer, isArchiveAt files other.1 = .ok false) ∧
        isArchiveAt files candidate.1 = .ok true := by
  induction candidates with
  | nil => simp [firstArchive]
  | cons nearest others ih =>
      rw [firstArchive, Results.bind_eq_ok_iff]
      constructor
      · rintro ⟨isArchive, hnearest, hchosen⟩
        cases isArchive with
        | true =>
            cases hchosen
            exact ⟨[], others, rfl, by simp, hnearest⟩
        | false =>
            obtain ⟨nearer, farther, rfl, hnearer, harchive⟩ := ih.mp hchosen
            exact ⟨nearest :: nearer, farther, rfl,
              List.forall_mem_cons.mpr ⟨hnearest, hnearer⟩, harchive⟩
      · rintro ⟨nearer, farther, hsplit, hnearer, harchive⟩
        cases nearer with
        | nil =>
            obtain ⟨rfl, rfl⟩ := List.cons.inj hsplit
            exact ⟨true, harchive, rfl⟩
        | cons other nearer =>
            obtain ⟨rfl, rfl⟩ := List.cons.inj hsplit
            obtain ⟨hother, hnearer⟩ := List.forall_mem_cons.mp hnearer
            exact ⟨false, hother, ih.mpr ⟨nearer, farther, rfl, hnearer, harchive⟩⟩

theorem result_probe_of_archiveAbove
    (habove : archiveAbove files location = .ok (some (archive, rest))) (ending : Value) :
    (probe files location .none ending).result =
      inArchive archive (.text (slashed rest)) ending := by
  rw [probe, Logged.result_bind, habove]
  rfl

theorem inArchive_slashed (hrest : ∀ name ∈ rest, IsPart name) (path : Path) (ending : Value) :
    inArchive path (.text (slashed rest)) ending = .ok (.archive path (slashed rest) ending) := by
  have htrim : Text.trim (· = '/') (slashed rest).toList = (slashed rest).toList := by
    apply Text.trim_eq_self
    · intro c hc hslash
      exact Path.head?_slashed hrest (of_decide_eq_true hslash ▸ hc)
    · intro c hc hslash
      exact Files.getLast?_slashed hrest (of_decide_eq_true hslash ▸ hc)
  rw [inArchive, htrim, String.ofList_toList]

/-- A source that probing finds without a given base is the directory at the location, or the
archive on the way to it with what leads on from there. -/
theorem probe_cases (hparts : ∀ part ∈ location.parts, IsPart part) {source : Source}
    (hprobe : (probe files location .none ending).result = .ok source) :
    source = .directory location ending ∨
      ∃ archive rest, location = Files.Path.extend archive rest ∧
        (∀ name ∈ rest, IsPart name) ∧ isArchiveAt files archive = .ok true ∧
        source = .archive archive (slashed rest) ending := by
  have hsteps := hprobe
  rw [probe, Logged.result_bind] at hsteps
  obtain ⟨found, hfound, hchosen⟩ := Results.bind_eq_ok_iff.mp hsteps
  cases found with
  | none => exact .inl (Except.ok.inj hchosen).symm
  | some nearest =>
      obtain ⟨archive, rest⟩ := nearest
      obtain ⟨nearer, farther, hascent, -, harchive⟩ := firstArchive_eq_some_iff.mp hfound
      have hmem : (archive, rest) ∈ location.ascent :=
        hascent ▸ List.mem_append_right _ (List.mem_cons_self ..)
      have hlocation := eq_extend_of_mem_ascent hmem
      have hrest : ∀ name ∈ rest, IsPart name := by
        intro name hname
        apply hparts
        rw [hlocation]
        exact List.mem_append_right _ hname
      rw [result_probe_of_archiveAbove hfound, inArchive_slashed hrest] at hprobe
      exact .inr ⟨archive, rest, hlocation, hrest, harchive, (Except.ok.inj hprobe).symm⟩

/-! ## Moving components -/

/-- Both sources are directories, or both are archives. -/
def SameKind : Source → Source → Prop
  | directory .., directory .. | .archive .., .archive .. | memory _, memory _ => True
  | _, _ => False

variable {above below : List String}

theorem result_listDirectory_extend (hbelow : ∀ name ∈ below, IsPart name)
    (habove : ∀ name ∈ above, IsPart name) (files : Tree) (location : Path) (ending : Value) :
    (listDirectory files (location.extend above) ending (.text (slashed below))).result =
      (listDirectory files location ending (.text (slashed (above ++ below)))).result := by
  have hall : ∀ name ∈ above ++ below, IsPart name := by
    intro name hname
    exact (List.mem_append.mp hname).elim (habove name) (hbelow name)
  have hplace : (location.extend above).join (.ofString (slashed below)) =
      location.join (.ofString (slashed (above ++ below))) := by
    rw [Path.ofString_slashed_of_isPart hbelow, Path.ofString_slashed_of_isPart hall]
    exact congrArg (Files.Path.mk location.anchor) (List.append_assoc ..)
  simp only [listDirectory, hplace, Logged.result_bind]
  congr 1
  funext found
  cases found with
  | none => rfl
  | some entries => rfl

theorem listArchive_extend (hrest : ∀ name ∈ rest, IsPart name)
    (habove : ∀ name ∈ above, IsPart name) (hbelow : below ≠ []) (files : Tree) (path : Path)
    (ending : Value) :
    listArchive files path (slashed (rest ++ above)) ending (.text (slashed below)) =
      listArchive files path (slashed rest) ending (.text (slashed (above ++ below))) := by
  have hfront : ∀ name ∈ rest ++ above, IsPart name := by
    intro name hname
    exact (List.mem_append.mp hname).elim (hrest name) (habove name)
  have hbeginning : entryBeginning (slashed (rest ++ above)) (slashed below) =
      entryBeginning (slashed rest) (slashed (above ++ below)) := by
    rw [Archive.entryBeginning_slashed hfront hbelow,
      Archive.entryBeginning_slashed hrest (by simp [hbelow]), List.append_assoc]
  have htext (name : String) : Value.toText (.text name) = name := rfl
  simp only [listArchive, htext, hbeginning]

theorem result_list_extend (hparts : ∀ part ∈ location.parts, IsPart part)
    (habove : ∀ name ∈ above, IsPart name) (hbelow : ∀ name ∈ below, IsPart name)
    (hnonempty : below ≠ []) {upper lower : Source}
    (hupper : (probe files location .none ending).result = .ok upper)
    (hlower : (probe files (location.extend above) .none ending).result = .ok lower)
    (hkind : upper.SameKind lower) :
    (lower.list files (.text (slashed below))).result =
      (upper.list files (.text (slashed (above ++ below)))).result := by
  have hlowerParts : ∀ part ∈ (location.extend above).parts, IsPart part := by
    intro part hpart
    exact (List.mem_append.mp hpart).elim (hparts part) (habove part)
  rcases probe_cases hparts hupper with rfl | ⟨archive, rest, hlocation, hrest, harchive, rfl⟩
  · rcases probe_cases hlowerParts hlower with rfl | ⟨_, _, -, -, -, rfl⟩
    · exact result_listDirectory_extend hbelow habove files location ending
    · exact hkind.elim
  · rcases probe_cases hlowerParts hlower with rfl | ⟨other, more, hother, -, hotherArchive, rfl⟩
    · exact hkind.elim
    · have hsame : archive.extend (rest ++ above) = other.extend more := by
        rw [← hother, hlocation]
        exact congrArg (Files.Path.mk archive.anchor) (List.append_assoc ..).symm
      obtain ⟨rfl, rfl⟩ := eq_of_isArchiveAt harchive hotherArchive hsame
      exact congrArg Logged.result
        (listArchive_extend hrest habove hnonempty files archive ending)

end

/-- Where probing finds sources of the same kind at a location and below it, the source below lists
under a category what the other one lists under the components between them and the category, or
fails as it does.  The same holds of the rows of assertions. -/
theorem components_move_between_location_and_category {files : Tree} {location : String}
    {above below : List String} {ending : Value} {upper lower : Source}
    (haboveNonempty : above ≠ []) (hbelowNonempty : below ≠ [])
    (habove : ∀ name ∈ above, IsPart name) (hbelow : ∀ name ∈ below, IsPart name)
    (hupper : (probe files (.ofString location) .none ending).result = .ok upper)
    (hlower : (probe files ((Files.Path.ofString location).join (.ofString (slashed above))) .none
      ending).result = .ok lower)
    (hkind : upper.SameKind lower) :
    (lower.list files (.text (slashed below))).result =
        (upper.list files (.text (slashed above ++ "/" ++ slashed below))).result ∧
      ∀ registry,
        (AssertRow.load files ((Files.Path.ofString location).join (.ofString (slashed above)))
            (.text (slashed below)) registry ending).result =
          (AssertRow.load files (.ofString location)
            (.text (slashed above ++ "/" ++ slashed below)) registry ending).result := by
  have hjoin : (Files.Path.ofString location).join (.ofString (slashed above)) =
      (Files.Path.ofString location).extend above := by
    rw [Path.ofString_slashed_of_isPart habove]
    rfl
  have hlist : (lower.list files (.text (slashed below))).result =
      (upper.list files (.text (slashed above ++ "/" ++ slashed below))).result := by
    rw [← Files.slashed_append haboveNonempty hbelowNonempty]
    exact result_list_extend (fun _ hpart => Path.isPart_of_mem_ofString hpart) habove hbelow
      hbelowNonempty hupper (hjoin ▸ hlower) hkind
  refine ⟨hlist, fun registry => ?_⟩
  rw [AssertRow.result_load_eq_bind, AssertRow.result_load_eq_bind, hupper, hlower]
  exact congrArg (· >>= AssertRow.ofResources registry) hlist

namespace Shipped

def document : List UInt8 := "<sql-asserts/>".toUTF8.toList

def packed : List UInt8 :=
  Archive.pack [⟨"pkg/cases/asserts/b.xml".toUTF8.toList, document⟩,
    ⟨"pkg/cases/asserts/a/c.xml".toUTF8.toList, document⟩, ⟨"pkg/cases.xml".toUTF8.toList, []⟩]

def files : Tree := .directory [("app.pyz", .file packed)]

def archive (base : String) : Source := .archive (.ofString "app.pyz") base (.text ".xml")

def entries : List Archive.Entry :=
  [⟨"pkg/cases/asserts/b.xml", .ok document⟩, ⟨"pkg/cases/asserts/a/c.xml", .ok document⟩,
    ⟨"pkg/cases.xml", .ok []⟩]

theorem openArchive_packed : openArchive files (.ofString "app.pyz") = .ok entries := by
  have hread : files.read (.ofString "app.pyz") = .ok packed := rfl
  have hcontents : ((Archive.readEntries packed).toOption.map fun entries =>
      entries.map fun entry => (entry.name, entry.content.toOption)) =
        some ([("pkg/cases/asserts/b.xml", document), ("pkg/cases/asserts/a/c.xml", document),
          ("pkg/cases.xml", [])].map fun c => (c.1, some c.2)) := by
    decide +kernel
  exact openArchive_eq hread (Archive.readEntries_of_contents hcontents)

theorem isArchiveAt_packed : isArchiveAt files (.ofString "app.pyz") = .ok true := by
  have hfile : files.find (.ofString "app.pyz") = .ok (.file packed) := rfl
  have htold : (Archive.isArchive packed).toOption = some true := by decide +kernel
  rw [isArchiveAt_of_file hfile, Results.toOption_eq_some_iff.mp htold]
  rfl

theorem result_probe {location : Path} {nearer : List (Path × List String)} {rest : List String}
    (hascent : location.ascent =
      nearer ++ [(.ofString "app.pyz", rest), (.ofString "", "app.pyz" :: rest)])
    (hnearer : ∀ other ∈ nearer, isArchiveAt files other.1 = .ok false)
    (hrest : ∀ name ∈ rest, IsPart name) :
    (probe files location .none (.text ".xml")).result = .ok (archive (slashed rest)) := by
  have habove : archiveAbove files location = .ok (some (.ofString "app.pyz", rest)) :=
    firstArchive_eq_some_iff.mpr ⟨nearer, _, hascent, hnearer, isArchiveAt_packed⟩
  rw [result_probe_of_archiveAbove habove, inArchive_slashed hrest, archive]

end Shipped

/-- The location of a package that is imported from an archive, and a place below it. -/
theorem components_move_between_location_and_category_of_shipped_package :
    (probe Shipped.files (.ofString "app.pyz/pkg") .none (.text ".xml")).result =
        .ok (Shipped.archive "pkg") ∧
      (probe Shipped.files ((Files.Path.ofString "app.pyz/pkg").join
        (.ofString (slashed ["cases"]))) .none (.text ".xml")).result =
          .ok (Shipped.archive "pkg/cases") ∧
      ((Shipped.archive "pkg/cases").list Shipped.files (.text "asserts")).result =
        ((Shipped.archive "pkg").list Shipped.files (.text "cases/asserts")).result ∧
      (((Shipped.archive "pkg").list Shipped.files (.text "cases/asserts")).result.toOption.map
        fun documents => documents.map (·.name)) =
          some ["app.pyz!/pkg/cases/asserts/a/c.xml", "app.pyz!/pkg/cases/asserts/b.xml"] := by
  have hbase : slashed ["pkg", "cases"] = "pkg/cases" := by decide
  have hcategory : slashed ["cases"] ++ "/" ++ slashed ["asserts"] = "cases/asserts" := by decide
  have hupper : (probe Shipped.files (.ofString "app.pyz/pkg") .none (.text ".xml")).result =
      .ok (Shipped.archive "pkg") := by
    have hnearer : ∀ other ∈ [(Files.Path.ofString "app.pyz/pkg", ([] : List String))],
        isArchiveAt Shipped.files other.1 = .ok false :=
      List.forall_mem_singleton.mpr rfl
    rw [← Files.slashed_singleton "pkg"]
    exact Shipped.result_probe rfl hnearer (by decide)
  have hlower : (probe Shipped.files ((Files.Path.ofString "app.pyz/pkg").join
      (.ofString (slashed ["cases"]))) .none (.text ".xml")).result =
        .ok (Shipped.archive "pkg/cases") := by
    have hnearer : ∀ other ∈ [(Files.Path.ofString "app.pyz/pkg/cases", ([] : List String)),
        (Files.Path.ofString "app.pyz/pkg", ["cases"])],
          isArchiveAt Shipped.files other.1 = .ok false :=
      List.forall_mem_cons.mpr ⟨rfl, List.forall_mem_singleton.mpr rfl⟩
    rw [← hbase]
    exact Shipped.result_probe rfl hnearer (by decide)
  have hmoved := (components_move_between_location_and_category
    (List.cons_ne_nil "cases" []) (List.cons_ne_nil "asserts" []) (by decide) (by decide) hupper
    hlower trivial).1
  rw [hcategory, Files.slashed_singleton] at hmoved
  have hlisted : (((Shipped.archive "pkg").list Shipped.files
      (.text "cases/asserts")).result.toOption.map fun documents => documents.map (·.name)) =
        some ["app.pyz!/pkg/cases/asserts/a/c.xml", "app.pyz!/pkg/cases/asserts/b.xml"] := by
    have hnames : ["pkg/cases/asserts/a/c.xml", "pkg/cases/asserts/b.xml"].Perm
        (documentEntries (entryBeginning "pkg" "cases/asserts") ".xml" Shipped.entries) :=
      List.Perm.swap _ _ []
    obtain ⟨log, hlist⟩ := list_archive_of_openArchive Shipped.openArchive_packed
      (archiveDocuments_of_perm hnames (by decide +kernel) _)
    rw [Shipped.archive, hlist]
    rfl
  exact ⟨hupper, hlower, hmoved, hlisted⟩

end Source

end SqlFixtures
