import SqlFixtures.Matrix
import SqlFixtures.Proofs.Text.Fields
import Mathlib.Tactic

/-!
# Ids of tests

The id of a test joins the id of a case, a database type and a variant by hyphens.  The id of a case
may hold anything, also hyphens and what looks like a whole test id, but where the name of the
database type has no hyphen the last two parts can be read off the end.  Then a test id belongs to
one row only, and the ids of a matrix are different exactly if its rows are.
-/

namespace SqlFixtures

theorem Variant.hyphen_not_mem_name (v : Variant) : '-' ∉ v.name.toList := by
  cases v with
  | literal => decide
  | placeholder => decide

theorem Variant.name_injective : Function.Injective Variant.name := by
  intro v w heq
  cases v with
  | literal =>
      cases w with
      | literal => rfl
      | placeholder => exact absurd heq (by decide)
  | placeholder =>
      cases w with
      | literal => exact absurd heq (by decide)
      | placeholder => rfl

namespace MatrixRow

theorem toList_testId (row : MatrixRow) :
    row.testId.toList =
      (row.caseId.toList ++ '-' :: row.dialect.toList) ++ '-' :: row.variant.name.toList := by
  simp [testId, String.toList_append]

/-- The variant is read off first, then the database type, and what is left is the id of the case. -/
theorem testId_eq_iff {first second : MatrixRow} (hfirst : '-' ∉ first.dialect.toList)
    (hsecond : '-' ∉ second.dialect.toList) :
    first.testId = second.testId ↔ first.arguments = second.arguments := by
  rw [← String.toList_inj, toList_testId, toList_testId,
    Text.append_separator_inj (Variant.hyphen_not_mem_name _) (Variant.hyphen_not_mem_name _),
    Text.append_separator_inj hfirst hsecond, String.toList_inj, String.toList_inj,
    String.toList_inj, Variant.name_injective.eq_iff, and_assoc, arguments, arguments,
    Prod.mk.injEq, Prod.mk.injEq]

end MatrixRow

namespace Matrix

theorem nodup_ids_parametrize_iff {rows : List MatrixRow}
    (hrows : ∀ row ∈ rows, '-' ∉ row.dialect.toList) :
    (parametrize rows).ids.Nodup ↔ (parametrize rows).arguments.Nodup := by
  have hpairs : ∀ {first second}, first ∈ rows → second ∈ rows →
      (first.testId ≠ second.testId ↔ first.arguments ≠ second.arguments) := by
    intro first second hfirst hsecond
    exact not_congr (MatrixRow.testId_eq_iff (hrows first hfirst) (hrows second hsecond))
  rw [parametrize, List.Nodup, List.Nodup, List.pairwise_map, List.pairwise_map]
  exact List.Pairwise.iff_of_mem hpairs

/-- Rows whose database types have no hyphen in their names have the same test id exactly if they
have the same case id, database type and variant, whatever the case ids hold.  Setting up a test
gives each row its id, in the order of the rows, and the ids are different exactly if the rows
are. -/
theorem test_ids_identify_rows :
    (∀ first second : MatrixRow, '-' ∉ first.dialect.toList → '-' ∉ second.dialect.toList →
      (first.testId = second.testId ↔
        first.caseId = second.caseId ∧ first.dialect = second.dialect ∧
          first.variant = second.variant)) ∧
    ∀ rows : List MatrixRow, (∀ row ∈ rows, '-' ∉ row.dialect.toList) →
      (parametrize rows).arguments.length = rows.length ∧
      (parametrize rows).ids.length = rows.length ∧
      (parametrize rows).arguments.zip (parametrize rows).ids =
        rows.map (fun row => ((row.caseId, row.dialect, row.variant), row.testId)) ∧
      ((parametrize rows).ids.Nodup ↔
        (rows.map fun row => (row.caseId, row.dialect, row.variant)).Nodup) := by
  constructor
  · intro first second hfirst hsecond
    rw [MatrixRow.testId_eq_iff hfirst hsecond, MatrixRow.arguments, MatrixRow.arguments,
      Prod.mk.injEq, Prod.mk.injEq]
  · intro rows hrows
    refine ⟨List.length_map _, List.length_map _, ?_, nodup_ids_parametrize_iff hrows⟩
    rw [parametrize, List.zip_map']
    rfl

/-- The id of the second case reads like the test id of the first. -/
theorem test_ids_identify_rows_of_confusable_cases :
    let first : MatrixRow := ⟨"a", "MySQL", .literal⟩
    let second : MatrixRow := ⟨"a-MySQL-Literal", "MySQL", .literal⟩
    (∀ row ∈ [first, second], '-' ∉ row.dialect.toList) ∧
      (parametrize [first, second]).ids = ["a-MySQL-Literal", "a-MySQL-Literal-MySQL-Literal"] ∧
      first.testId ≠ second.testId ∧ (parametrize [first, second]).ids.Nodup := by
  intro first second
  have hplain : ∀ row ∈ [first, second], '-' ∉ row.dialect.toList := by decide
  refine ⟨hplain, rfl, ?_, ?_⟩
  · intro hsame
    have hparts := (test_ids_identify_rows.1 first second (by decide) (by decide)).mp hsame
    exact absurd hparts.1 (by decide)
  · obtain ⟨-, -, -, hnodup⟩ := test_ids_identify_rows.2 [first, second] hplain
    exact hnodup.mpr (by decide)

end Matrix

end SqlFixtures
