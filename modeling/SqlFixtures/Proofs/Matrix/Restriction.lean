import SqlFixtures.Proofs.Matrix.Repeats
import Mathlib.Tactic

/-!
# Matrices of two suites

A suite decides on the rows of those cases only that name no database types.  Two suites have a
matrix for the same corpora, and where there is none both are told of the same unknown name.  The
rows of the other cases are the same in both matrices, in the same order, although the rows between
them are different ones.
-/

namespace SqlFixtures

open Record (Case)

namespace Matrix

/-- The rows of one case in a matrix, with the case. -/
structure Block where
  owner : Case
  rows : List MatrixRow

/-- The matrix before the rows of its cases are put together. -/
def blocks (registry : Registry) (suite : List String) (cases : List Case) :
    Except Failure (List Block) :=
  cases.mapM fun c => (dialectsOf registry suite c).map fun found => ⟨c, rowsOf c found⟩

/-- The case names some database type. -/
def isRestricted (c : Case) : Bool := !Dialect.namesNothing c.databaseTypes

def rowsIn (blocks : List Block) : List MatrixRow := blocks.flatMap (·.rows)

/-- The rows of the cases that name database types. -/
def restrictedRows (blocks : List Block) : List MatrixRow :=
  rowsIn (blocks.filter fun block => isRestricted block.owner)

theorem expand_eq_map_blocks (registry : Registry) (suite : List String) (cases : List Case) :
    expand registry suite cases = (blocks registry suite cases).map rowsIn := by
  have hrows : (fun c => (dialectsOf registry suite c).map (rowsOf c)) = fun c =>
      ((dialectsOf registry suite c).map fun found => (⟨c, rowsOf c found⟩ : Block)).map
        (·.rows) := by
    funext c
    cases dialectsOf registry suite c with
    | ok found => rfl
    | error failure => rfl
  rw [expand, hrows, Results.mapM_map_eq, blocks]
  cases cases.mapM fun c =>
      (dialectsOf registry suite c).map fun found => (⟨c, rowsOf c found⟩ : Block) with
  | ok found => exact congrArg Except.ok (List.flatMap_def ..).symm
  | error failure => rfl

variable {registry : Registry} {suite : List String} {c : Case}

/-- What a case contributes to a matrix, if its names are known. -/
def blockOf (registry : Registry) (suite : List String) (c : Case) : Block :=
  ⟨c, rowsOf c (dialects registry suite c)⟩

theorem blocks_eq_ok_iff {cases : List Case} {found : List Block} :
    blocks registry suite cases = .ok found ↔
      (∀ c ∈ cases, Understood registry c) ∧ found = cases.map (blockOf registry suite) := by
  apply Results.mapM_eq_ok_iff_map
  intro c block
  rw [Results.map_eq_ok_iff]
  constructor
  · rintro ⟨found, hfound, rfl⟩
    obtain ⟨hknown, rfl⟩ := dialectsOf_eq_ok_iff.mp hfound
    exact ⟨hknown, rfl⟩
  · rintro ⟨hknown, rfl⟩
    exact ⟨_, dialectsOf_eq_ok_iff.mpr ⟨hknown, rfl⟩, rfl⟩

theorem dialects_of_not_isRestricted (hfree : ¬ isRestricted c) :
    dialects registry suite c = suite := by
  have hnone : Dialect.namesNothing c.databaseTypes := by simpa [isRestricted] using hfree
  rw [dialects, if_pos hnone]

theorem rows_blockOf_of_not_isRestricted (hfree : ¬ isRestricted c) :
    (blockOf registry suite c).rows =
      (suite.map fun dialect => ⟨c.id, dialect, .literal⟩) ++
        suite.map fun dialect => ⟨c.id, dialect, .placeholder⟩ := by
  rw [blockOf, dialects_of_not_isRestricted hfree]
  simp [rowsOf, Variant.all]

theorem blockOf_of_isRestricted (hrestricted : isRestricted c) (suite other : List String) :
    blockOf registry suite c = blockOf registry other c := by
  have hsome : ¬ Dialect.namesNothing c.databaseTypes := by simpa [isRestricted] using hrestricted
  rw [blockOf, blockOf, dialects, dialects, if_neg hsome, if_neg hsome]

theorem restrictedRows_map_blockOf (registry : Registry) (suite other : List String)
    (cases : List Case) :
    restrictedRows (cases.map (blockOf registry suite)) =
      restrictedRows (cases.map (blockOf registry other)) := by
  rw [restrictedRows, restrictedRows, List.filter_map, List.filter_map]
  apply congrArg rowsIn
  apply List.map_congr_left
  intro c hc
  have hrestricted : isRestricted c := (List.mem_filter.mp hc).2
  exact blockOf_of_isRestricted hrestricted suite other

/-- The matrix of a corpus is made of these blocks: one for each case, in order, with rows of its
id, and for a case without database types with the whole suite in each variant. -/
structure IsMadeOf (registry : Registry) (suite : List String) (corpus : Corpus)
    (found : List Block) : Prop where
  blocks : blocks registry suite corpus.cases = .ok found
  matrix : corpus.matrix registry suite = .ok (rowsIn found)
  owners : found.map (·.owner) = corpus.cases
  ids : ∀ block ∈ found, ∀ row ∈ block.rows, row.caseId = block.owner.id
  unrestricted : ∀ block ∈ found, ¬ isRestricted block.owner →
    block.rows = (suite.map fun dialect => ⟨block.owner.id, dialect, .literal⟩) ++
      suite.map fun dialect => ⟨block.owner.id, dialect, .placeholder⟩

theorem isMadeOf_of_understood {corpus : Corpus}
    (hknown : ∀ c ∈ corpus.cases, Understood registry c) (suite : List String) :
    IsMadeOf registry suite corpus (corpus.cases.map (blockOf registry suite)) := by
  have hblocks : Matrix.blocks registry suite corpus.cases =
      .ok (corpus.cases.map (blockOf registry suite)) :=
    blocks_eq_ok_iff.mpr ⟨hknown, rfl⟩
  constructor
  case blocks => exact hblocks
  case matrix =>
    rw [Corpus.matrix, expand_eq_map_blocks, hblocks]
    rfl
  case owners =>
    rw [List.map_map]
    exact List.map_id _
  case ids =>
    intro block hblock row hrow
    obtain ⟨c, -, rfl⟩ := List.mem_map.mp hblock
    exact caseId_of_mem_rowsOf hrow
  case unrestricted =>
    intro block hblock hfree
    obtain ⟨c, -, rfl⟩ := List.mem_map.mp hblock
    exact rows_blockOf_of_not_isRestricted hfree

end Matrix

namespace Corpus

open SqlFixtures.Matrix (IsMadeOf Understood isRestricted restrictedRows)

/-- Whatever two suites ask for, they both have no matrix, and are told of the same unknown name of
the same case, or they both have one.  Then the rows of the cases that name database types are the
same for both, and the other cases have exactly what the suite asks for, in its order. -/
theorem restricted_rows_ignore_suite (corpus : Corpus) (registry : Registry)
    (first second : List String) :
    (∃ c ∈ corpus.cases, ∃ literal ∈ c.dialectNames,
      corpus.matrix registry first = .error (registry.unknown c.id literal) ∧
      corpus.matrix registry second = .error (registry.unknown c.id literal)) ∨
    ∃ blocks others, IsMadeOf registry first corpus blocks ∧
      IsMadeOf registry second corpus others ∧ restrictedRows blocks = restrictedRows others := by
  by_cases hknown : ∀ c ∈ corpus.cases, Understood registry c
  · right
    exact ⟨_, _, Matrix.isMadeOf_of_understood hknown first,
      Matrix.isMadeOf_of_understood hknown second, Matrix.restrictedRows_map_blockOf ..⟩
  · left
    cases hmatrix : corpus.matrix registry first with
    | ok rows => exact absurd (Matrix.expand_eq_ok_iff.mp hmatrix).1 hknown
    | error failure =>
        -- the condition for this failure does not mention the suite
        have hfails := Matrix.expand_eq_error_iff.mp hmatrix
        have hother : corpus.matrix registry second = .error failure :=
          Matrix.expand_eq_error_iff.mpr hfails
        obtain ⟨before, c, after, hcases, -, name, hname, rfl⟩ := hfails
        obtain ⟨earlier, later, hnames, -, -⟩ := hname
        refine ⟨c, ?_, name, ?_, rfl, hother⟩
        · rw [hcases]
          simp
        · rw [hnames]
          simp

/-- The case that names a database type stands between cases that name none, with the same id. -/
theorem restricted_rows_ignore_suite_between_unrestricted_cases :
    let unnamed : Case := ⟨"a", "SELECT 1", some " , "⟩
    let named : Case := ⟨"a", "SELECT 2", some "Oracle"⟩
    let corpus : Corpus := ⟨"sql", [("1", unnamed), ("2", named), ("3", unnamed)]⟩
    let rows : List MatrixRow := [⟨"a", "Oracle", .literal⟩, ⟨"a", "Oracle", .placeholder⟩]
    ∃ blocks others, IsMadeOf .standard ["H2", "Oracle", "H2"] corpus blocks ∧
      IsMadeOf .standard [] corpus others ∧ restrictedRows blocks = rows ∧
      restrictedRows others = rows := by
  intro unnamed named corpus rows
  rcases restricted_rows_ignore_suite corpus .standard ["H2", "Oracle", "H2"] [] with
    ⟨c, -, literal, -, -, hfails⟩ | ⟨blocks, others, hblocks, hothers, hsame⟩
  · have hrows : corpus.matrix .standard [] = .ok rows := rfl
    rw [hrows] at hfails
    cases hfails
  · have hothersRows : restrictedRows others = rows := by
      rw [← Except.ok.inj hothers.blocks]
      rfl
    exact ⟨blocks, others, hblocks, hothers, hsame.trans hothersRows, hothersRows⟩

end Corpus

end SqlFixtures
