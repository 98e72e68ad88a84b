import SqlFixtures.Proofs.Corpus.Deployments
import SqlFixtures.Proofs.Corpus.Order
import Mathlib.Tactic

/-!
# What a directory and an archive share

A directory lists the documents that are at most one directory below a category; an archive lists
them all, however deep.  Of the names of its entries, those of the shared documents have at most one
slash after the category.  Where nothing lies deeper, both sources hold the same contents, so their
builds succeed or fail together, and only repeated ids can make a difference between their corpora.
All of this is said of directories where no path is too long to ask for it: an archive compares names
only, and never fails like that.
-/

namespace SqlFixtures

open Archive (Entry entryName packedEntries slashesAfter)
open Document (casesIn)
open Files (IsName Located Path Tree slashed)

section

variable {tree : Tree} {base ending : String} {category : List String} {f : Located}

/-- The slashes in the name of an entry tell how deep its document is. -/
theorem slashesAfter_le_one_iff (hproper : tree.Proper) (hcategory : category ≠ [])
    (hmem : f ∈ tree.documents ending category) :
    slashesAfter (Source.entryBeginning base (slashed category)) (entryName base (category ++ f.1))
      ≤ 1 ↔ f.1.length ≤ 2 := by
  obtain ⟨hfile, hsuffix⟩ := (Tree.mem_documents_iff hproper).mp hmem
  have hway : ∀ name ∈ f.1, IsName name := fun name hname =>
    Tree.isName_of_mem_files hproper hfile name (List.mem_append_right _ hname)
  have hslashes := Archive.slashesAfter_entryName base hcategory
    (Tree.ne_nil_of_hasEnding hsuffix) hway
  omega

/-- Of the documents of a category, a directory and an archive list the shallow ones in common. -/
theorem perm_filter_slashesAfter (base : String) {fromDirectory fromArchive : List Located}
    (hproper : tree.Proper) (hcategory : category ≠ [])
    (horder : fromDirectory.Pairwise fun f g => f.1 < g.1)
    (horderOther : fromArchive.Pairwise fun f g => slashed f.1 < slashed g.1)
    (hmem : ∀ f, f ∈ fromDirectory ↔ f ∈ tree.documents ending category ∧ f.1.length ≤ 2)
    (hmemOther : ∀ f, f ∈ fromArchive ↔ f ∈ tree.documents ending category) :
    fromDirectory.Perm (fromArchive.filter fun f =>
      slashesAfter (Source.entryBeginning base (slashed category))
        (entryName base (category ++ f.1)) ≤ 1) := by
  have hnodup : fromDirectory.Nodup := by
    apply horder.imp
    rintro f g hlt rfl
    exact absurd hlt (List.lt_irrefl _)
  have hnodupOther : fromArchive.Nodup := by
    apply horderOther.imp
    rintro f g hlt rfl
    exact absurd hlt (String.lt_irrefl _)
  rw [List.perm_ext_iff_of_nodup hnodup (hnodupOther.filter _)]
  intro f
  rw [List.mem_filter, hmem, hmemOther, decide_eq_true_eq]
  constructor
  · rintro ⟨hf, hlength⟩
    exact ⟨hf, (slashesAfter_le_one_iff hproper hcategory hf).mpr hlength⟩
  · rintro ⟨hf, hslashes⟩
    exact ⟨hf, (slashesAfter_le_one_iff hproper hcategory hf).mp hslashes⟩

end

theorem allCases_map {asResource : Located → Resource}
    (hcontent : ∀ f, (asResource f).content = .ok f.2) (listed : List Located) :
    allCases (listed.map asResource) = listed.flatMap fun f => casesIn f.2 := by
  rw [allCases, List.flatMap_map]
  congr 1
  funext f
  rw [Resource.cases?, hcontent]
  rfl

theorem sameContents_of_perm {asResource asOther : Located → Resource}
    (hcontent : ∀ f, (asResource f).content = .ok f.2)
    (hcontentOther : ∀ f, (asOther f).content = .ok f.2) {first second : List Located}
    (hperm : first.Perm second) :
    SameContents (first.map asResource) (second.map asOther) := by
  have hcontents : ∀ (as : Located → Resource), (∀ f, (as f).content = .ok f.2) →
      ∀ listed : List Located, (listed.map as).map (·.content) =
        listed.map fun f => .ok f.2 := by
    intro as has listed
    rw [List.map_map]
    exact List.map_congr_left fun f _ => has f
  rw [SameContents, hcontents _ hcontent, hcontents _ hcontentOther]
  exact hperm.map _

namespace Corpus

/-- A directory in which everything can be asked for lists those documents of a category that an
archive of the same files lists under names with at most one slash after the category, with the same
bytes.  If no document lies deeper, the two builds succeed or fail together, in either mode, and if
no id is repeated they make the same corpus. -/
theorem builds_of_packed_files_agree
    {files others tree : Tree} {root archive : Path} {found : Option Tree} {base ending : String}
    {category : List String} {bytes : List UInt8} {entries : List Entry}
    (hfind : files.find root = .ok tree) (hproper : tree.Proper)
    (hcategory : category ≠ []) (hnames : ∀ name ∈ category, IsName name)
    (hending : '/' ∉ ending.toList)
    (hlook : files.look (root.extend category) = .ok found)
    (hasked : ∀ next ∈ found, Source.Askable files (root.extend category) next)
    (hread : others.read archive = .ok bytes) (hentries : Archive.readEntries bytes = .ok entries)
    (hpacked : entries.Perm (packedEntries base tree)) :
    ∃ (log logOther : List LogEntry) (fromDirectory fromArchive : List Located),
      Source.list files (.directory root (.text ending)) (.text (slashed category)) =
        ⟨log, .ok (fromDirectory.map (Source.documentAt (root.extend category)))⟩ ∧
      Source.list others (.archive archive base (.text ending)) (.text (slashed category)) =
        ⟨logOther, .ok (fromArchive.map (Source.packedAt archive base category))⟩ ∧
      fromDirectory.Perm (fromArchive.filter fun f =>
        slashesAfter (Source.entryBeginning base (slashed category))
          (entryName base (category ++ f.1)) ≤ 1) ∧
      ((∀ f ∈ tree.documents ending category, f.1.length ≤ 2) →
        ∀ strict,
          ((∃ corpus, (build files (.directory root (.text ending)) (.text (slashed category))
              strict).result = .ok corpus) ↔
            ∃ corpus, (build others (.archive archive base (.text ending))
              (.text (slashed category)) strict).result = .ok corpus) ∧
          (((fromDirectory.flatMap fun f => casesIn f.2).map (·.id)).Nodup →
            ∀ corpus corpusOther,
              (build files (.directory root (.text ending)) (.text (slashed category))
                strict).result = .ok corpus →
              (build others (.archive archive base (.text ending)) (.text (slashed category))
                strict).result = .ok corpusOther →
              corpus = corpusOther)) := by
  have hpacks := Archive.packsEnding_of_perm hpacked ending
  obtain ⟨log, fromDirectory, hlist, horder, hmem⟩ :=
    Source.list_directory hfind hproper hnames hlook hasked ending
  obtain ⟨logOther, fromArchive, hlistOther, horderOther, hmemOther⟩ :=
    Source.list_archive_of_packsEnding hread hentries hpacks hproper hcategory hnames hending
  have hshared := perm_filter_slashesAfter base hproper hcategory horder horderOther
    hmem hmemOther
  refine ⟨log, logOther, fromDirectory, fromArchive, hlist, hlistOther, hshared, ?_⟩
  intro hshallow strict
  have hall : (fromArchive.filter fun f =>
      slashesAfter (Source.entryBeginning base (slashed category))
        (entryName base (category ++ f.1)) ≤ 1) = fromArchive := by
    rw [List.filter_eq_self]
    intro f hf
    have hdocument := (hmemOther f).mp hf
    exact decide_eq_true
      ((slashesAfter_le_one_iff hproper hcategory hdocument).mpr (hshallow f hdocument))
  rw [hall] at hshared
  have hsame : SameContents (fromDirectory.map (Source.documentAt (root.extend category)))
      (fromArchive.map (Source.packedAt archive base category)) :=
    sameContents_of_perm (fun _ => rfl) (fun _ => rfl) hshared
  refine ⟨exists_build_iff_of_sameContents hlist hlistOther hsame strict, ?_⟩
  intro hdistinct corpus corpusOther hbuild hbuildOther
  have hcases : allCases (fromDirectory.map (Source.documentAt (root.extend category))) =
      fromDirectory.flatMap fun f => casesIn f.2 := allCases_map (fun _ => rfl) fromDirectory
  rw [← hcases] at hdistinct
  exact eq_of_sameContents hlist hlistOther hsame hdistinct hbuild hbuildOther

theorem packed_entries : Crossing.entries.Perm (packedEntries "" Crossing.tree) :=
  List.Perm.of_eq rfl

/-- An id is repeated here, and so both strict builds fail. -/
theorem builds_of_packed_files_agree_at_crossing :
    (∃ corpus, (build Crossing.files Crossing.directory (.text "sql") true).result = .ok corpus) ↔
      ∃ corpus, (build Crossing.files Crossing.archive (.text "sql") true).result = .ok corpus := by
  have hfind : Crossing.files.find (.ofString "tree") = .ok Crossing.tree := rfl
  have hnames : ∀ name ∈ ["sql"], IsName name := by decide
  have hlook : Crossing.files.look ((Path.ofString "tree").extend ["sql"]) =
      .ok (Crossing.tree.below? ["sql"]) := rfl
  have hread : Crossing.files.read (.ofString "tree.zip") = .ok Crossing.packed := rfl
  obtain ⟨_, _, _, _, -, -, -, hagree⟩ :=
    builds_of_packed_files_agree hfind Crossing.proper_tree (List.cons_ne_nil _ _) hnames
      slash_not_mem_ending hlook (fun _ hnext => Crossing.askable hnext) hread
      Crossing.readEntries_packed packed_entries
  exact (hagree (fun _ hmem => Crossing.shallow_documents hmem) true).1

/-! ## A category that cannot be asked for -/

/-- Each of the names is short, but together they are longer than any path may be. -/
def longCategory : List String := List.replicate 4096 "a"

theorem length_longCategory : longCategory.length = 4096 := List.length_replicate

theorem longCategory_ne_nil : longCategory ≠ [] :=
  List.ne_nil_of_length_pos (by rw [length_longCategory]; decide)

theorem isName_of_mem_longCategory {name : String} (hmem : name ∈ longCategory) : IsName name := by
  rw [List.eq_of_mem_replicate hmem]
  decide

theorem documents_longCategory : Crossing.tree.documents ".xml" longCategory = [] := rfl

theorem not_exists_build_directory_of_longCategory (strict : Bool) :
    ¬ ∃ corpus, (build Crossing.files Crossing.directory (.text (slashed longCategory))
      strict).result = .ok corpus := by
  have hmany : Files.longestPath < ((Path.ofString "tree").extend longCategory).parts.length := by
    change Files.longestPath < ((Path.ofString "tree").parts ++ longCategory).length
    rw [List.length_append, length_longCategory]
    decide
  have hparts : ∀ part ∈ ((Path.ofString "tree").extend longCategory).parts, IsName part := by
    intro part hpart
    rcases List.mem_append.mp hpart with hroot | hcategory
    · have htree : ∀ part ∈ (Path.ofString "tree").parts, IsName part := by decide
      exact htree part hroot
    · exact isName_of_mem_longCategory hcategory
  have hlook := Tree.look_of_many_parts Crossing.files hparts hmany
  have hlist := Source.list_directory_of_look_error (fun _ => isName_of_mem_longCategory) hlook
    (.text ".xml")
  rintro ⟨corpus, hbuild⟩
  rw [build, Crossing.directory, hlist] at hbuild
  cases hbuild

theorem exists_build_archive_of_longCategory :
    ∃ corpus, (build Crossing.files Crossing.archive (.text (slashed longCategory))
      false).result = .ok corpus := by
  have hread : Crossing.files.read (.ofString "tree.zip") = .ok Crossing.packed := rfl
  obtain ⟨log, listed, hlist, -, hmem⟩ := Source.list_archive_of_packsEnding hread
    Crossing.readEntries_packed (Archive.packsEnding_of_perm packed_entries _) Crossing.proper_tree
    longCategory_ne_nil (fun _ => isName_of_mem_longCategory) slash_not_mem_ending
  have hnone : ∀ f ∈ listed, Document.Readable f.2 := by
    intro f hf
    rw [hmem, documents_longCategory] at hf
    cases hf
  obtain ⟨corpus, hbuild, -⟩ := exists_build_of_readable (fun _ => rfl) hlist hnone
  exact ⟨corpus, hbuild⟩

/-- The archive holds nothing under the long category, and builds an empty corpus, where the
directory fails. -/
theorem builds_of_packed_files_differ_at_long_category :
    Crossing.files.find (.ofString "tree") = .ok Crossing.tree ∧ Crossing.tree.Proper ∧
      Crossing.files.read (.ofString "tree.zip") = .ok Crossing.packed ∧
      Archive.readEntries Crossing.packed = .ok Crossing.entries ∧
      Crossing.entries.Perm (packedEntries "" Crossing.tree) ∧
      longCategory ≠ [] ∧ (∀ name ∈ longCategory, IsName name) ∧
      (∀ f ∈ Crossing.tree.documents ".xml" longCategory, f.1.length ≤ 2) ∧
      ¬ ((∃ corpus, (build Crossing.files Crossing.directory (.text (slashed longCategory))
          false).result = .ok corpus) ↔
        ∃ corpus, (build Crossing.files Crossing.archive (.text (slashed longCategory))
          false).result = .ok corpus) := by
  refine ⟨rfl, Crossing.proper_tree, rfl, Crossing.readEntries_packed, packed_entries,
    longCategory_ne_nil, fun _ => isName_of_mem_longCategory, ?_, ?_⟩
  · rw [documents_longCategory]
    simp
  · intro hagree
    exact not_exists_build_directory_of_longCategory false
      (hagree.mpr exists_build_archive_of_longCategory)

end Corpus

end SqlFixtures
