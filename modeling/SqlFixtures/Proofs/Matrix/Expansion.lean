import SqlFixtures.Corpus.Query
import SqlFixtures.Proofs.Dialect.Names
import SqlFixtures.Proofs.Dialect.Registry
import Mathlib.Tactic

/-!
# Expanding a matrix

A matrix is the product of the cases, the two variants and the database types of each case, in this
order, or there is none.  There is none exactly if some case names a database type that the registry
does not know, whatever the suite asks for, and then the first such name of the first such case is
reported.
-/

namespace SqlFixtures

open Record (Case)

namespace Matrix

variable {registry : Registry} {suite : List String} {c : Case}

/-- The database types of a case: those of the suite if the case names none, and otherwise what
its names stand for, in the order in which they are first mentioned.  A member of the registry that
the case names by two names is listed once for each of them. -/
def dialects (registry : Registry) (suite : List String) (c : Case) : List String :=
  if Dialect.namesNothing c.databaseTypes then suite else c.dialectNames.map registry.memberOf

theorem dialectNames_eq_nil_iff :
    c.dialectNames = [] ↔ Dialect.namesNothing c.databaseTypes :=
  Dialect.names_eq_nil_iff c.databaseTypes

theorem dialectsOf_of_nil (hnames : c.dialectNames = []) :
    dialectsOf registry suite c = .ok suite := by
  rw [dialectsOf, hnames]

theorem dialectsOf_of_ne_nil (hnames : c.dialectNames ≠ []) :
    dialectsOf registry suite c = registry.resolveAll c.id c.dialectNames := by
  unfold dialectsOf
  split
  next hnil => exact absurd hnil hnames
  next names _ => rfl

theorem dialectsOf_eq_ok_iff {found : List String} :
    dialectsOf registry suite c = .ok found ↔
      (∀ name ∈ c.dialectNames, registry.Knows name) ∧ found = dialects registry suite c := by
  unfold dialects
  by_cases hnames : c.dialectNames = []
  · rw [dialectsOf_of_nil hnames, if_pos (dialectNames_eq_nil_iff.mp hnames), hnames]
    simp [eq_comm]
  · rw [dialectsOf_of_ne_nil hnames, if_neg (fun hnone => hnames (dialectNames_eq_nil_iff.mpr hnone)),
      Registry.resolveAll_eq_ok_iff]

/-- The name is the first that the case declares and the registry does not know. -/
def FirstUnknown (registry : Registry) (c : Case) (name : String) : Prop :=
  ∃ first rest, c.dialectNames = first ++ name :: rest ∧ (∀ n ∈ first, registry.Knows n) ∧
    ¬ registry.Knows name

theorem dialectsOf_eq_error_iff {failure : Failure} :
    dialectsOf registry suite c = .error failure ↔
      ∃ name, FirstUnknown registry c name ∧ failure = registry.unknown c.id name := by
  unfold FirstUnknown
  by_cases hnames : c.dialectNames = []
  · rw [dialectsOf_of_nil hnames, hnames]
    simp
  · rw [dialectsOf_of_ne_nil hnames, Registry.resolveAll_eq_error_iff]
    constructor
    · rintro ⟨first, name, rest, hsplit, hfirst, hunknown, hfailure⟩
      exact ⟨name, ⟨first, rest, hsplit, hfirst, hunknown⟩, hfailure⟩
    · rintro ⟨name, ⟨first, rest, hsplit, hfirst, hunknown⟩, hfailure⟩
      exact ⟨first, name, rest, hsplit, hfirst, hunknown, hfailure⟩

def Understood (registry : Registry) (c : Case) : Prop :=
  ∀ name ∈ c.dialectNames, registry.Knows name

instance (registry : Registry) (c : Case) : Decidable (Understood registry c) :=
  inferInstanceAs (Decidable (∀ name ∈ c.dialectNames, registry.Knows name))

theorem rowsOf_eq_ok_iff {block : List MatrixRow} :
    (dialectsOf registry suite c).map (rowsOf c) = .ok block ↔
      Understood registry c ∧ block = rowsOf c (dialects registry suite c) := by
  cases hfound : dialectsOf registry suite c with
  | ok found =>
      obtain ⟨hknown, rfl⟩ := dialectsOf_eq_ok_iff.mp hfound
      have hunderstood : Understood registry c := hknown
      simp [Except.map, hunderstood, eq_comm]
  | error failure =>
      have hnot : ¬ Understood registry c := by
        intro hknown
        rw [dialectsOf_eq_ok_iff.mpr ⟨hknown, rfl⟩] at hfound
        cases hfound
      simp [Except.map, hnot]

theorem expand_eq_ok_iff {cases : List Case} {rows : List MatrixRow} :
    expand registry suite cases = .ok rows ↔
      (∀ c ∈ cases, Understood registry c) ∧
        rows = cases.flatMap fun c => rowsOf c (dialects registry suite c) := by
  have hblocks : ∀ blocks,
      (cases.mapM fun c => (dialectsOf registry suite c).map (rowsOf c)) = .ok blocks ↔
        (∀ c ∈ cases, Understood registry c) ∧
          blocks = cases.map fun c => rowsOf c (dialects registry suite c) := fun blocks =>
    Results.mapM_eq_ok_iff_map fun c block => rowsOf_eq_ok_iff
  rw [expand, Results.bind_eq_ok_iff, List.flatMap_def]
  simp only [hblocks]
  constructor
  · rintro ⟨blocks, ⟨hknown, rfl⟩, hflatten⟩
    exact ⟨hknown, (Except.ok.inj hflatten).symm⟩
  · rintro ⟨hknown, rfl⟩
    exact ⟨_, ⟨hknown, rfl⟩, rfl⟩

theorem expand_eq_error_iff {cases : List Case} {failure : Failure} :
    expand registry suite cases = .error failure ↔
      ∃ before c after, cases = before ++ c :: after ∧
        (∀ earlier ∈ before, Understood registry earlier) ∧
        ∃ name, FirstUnknown registry c name ∧ failure = registry.unknown c.id name := by
  have hblock : ∀ c : Case, (∃ block, (dialectsOf registry suite c).map (rowsOf c) = .ok block) ↔
      Understood registry c := by
    intro c
    simp [rowsOf_eq_ok_iff]
  have hfailure : ∀ c : Case, (dialectsOf registry suite c).map (rowsOf c) = .error failure ↔
      ∃ name, FirstUnknown registry c name ∧ failure = registry.unknown c.id name := fun c =>
    Results.map_eq_error_iff.trans dialectsOf_eq_error_iff
  have hflatten : expand registry suite cases = .error failure ↔
      (cases.mapM fun c => (dialectsOf registry suite c).map (rowsOf c)) = .error failure :=
    Results.bind_pure_eq_error_iff
  simp only [hflatten, Results.mapM_eq_error_iff, hblock, hfailure]

theorem length_rowsOf (c : Case) (found : List String) :
    (rowsOf c found).length = 2 * found.length := by
  simp [rowsOf, Variant.all]
  omega

end Matrix

namespace Corpus

open SqlFixtures.Matrix (FirstUnknown Understood dialects)

/-- There is no matrix exactly if a case names an unknown database type, and then the first one of
the first such case is reported, with the members of the registry.  Otherwise the rows are the
cases, the variants and the database types of each case, in this order. -/
theorem matrix_is_product (corpus : Corpus) (registry : Registry) (suite : List String) :
    ((∃ failure, corpus.matrix registry suite = .error failure) ↔
      ∃ c ∈ corpus.cases, ∃ name ∈ c.dialectNames, ¬ registry.Knows name) ∧
    (∀ failure, corpus.matrix registry suite = .error failure ↔
      ∃ before c after name, corpus.cases = before ++ c :: after ∧
        (∀ earlier ∈ before, Understood registry earlier) ∧ FirstUnknown registry c name ∧
        failure = .unknownDialect name c.id (.list (registry.members.map Value.text))) ∧
    (∀ rows, corpus.matrix registry suite = .ok rows →
      rows = (corpus.cases.flatMap fun c =>
        [Variant.literal, Variant.placeholder].flatMap fun variant =>
          (dialects registry suite c).map fun dialect => ⟨c.id, dialect, variant⟩) ∧
      rows.length = 2 * (corpus.cases.map fun c => (dialects registry suite c).length).sum) := by
  have hok : ∀ rows, corpus.matrix registry suite = .ok rows ↔ _ := fun rows =>
    Matrix.expand_eq_ok_iff
  refine ⟨?_, ?_, ?_⟩
  · cases hrows : corpus.matrix registry suite with
    | ok rows =>
        have hknown := ((hok rows).mp hrows).1
        simp only [reduceCtorEq, exists_false, false_iff, not_exists, not_and, not_not]
        exact hknown
    | error failure =>
        have hnot : ¬ ∀ c ∈ corpus.cases, Understood registry c := by
          intro hknown
          rw [(hok _).mpr ⟨hknown, rfl⟩] at hrows
          cases hrows
        simpa [Understood] using hnot
  · intro failure
    rw [matrix, Matrix.expand_eq_error_iff]
    constructor
    · rintro ⟨before, c, after, hsplit, hbefore, name, hname, hfailure⟩
      exact ⟨before, c, after, name, hsplit, hbefore, hname, hfailure⟩
    · rintro ⟨before, c, after, name, hsplit, hbefore, hname, hfailure⟩
      exact ⟨before, c, after, hsplit, hbefore, name, hname, hfailure⟩
  · intro rows hrows
    obtain ⟨-, rfl⟩ := (hok rows).mp hrows
    refine ⟨rfl, ?_⟩
    rw [List.length_flatMap]
    simp only [Matrix.length_rowsOf]
    rw [List.sum_map_mul_left]

/-- An alias stands for its member, and a list without a name stands for the whole suite. -/
theorem matrix_is_product_of_alias :
    let registry : Registry :=
      .ofDeclarations [("MySQL", .text "m"), ("Maria", .text "m"), ("Oracle", .text "o")]
    let named : Case := ⟨"b", "SELECT 1", some "Oracle, Maria"⟩
    let unnamed : Case := ⟨"a", "SELECT 2", some " , "⟩
    let broken : Case := ⟨"c", "SELECT 3", some "Maria,Fake,Other"⟩
    (Corpus.mk "sql" [("1", named), ("2", unnamed)]).matrix registry ["MySQL"] =
        .ok [⟨"b", "Oracle", .literal⟩, ⟨"b", "MySQL", .literal⟩, ⟨"b", "Oracle", .placeholder⟩,
          ⟨"b", "MySQL", .placeholder⟩, ⟨"a", "MySQL", .literal⟩,
          ⟨"a", "MySQL", .placeholder⟩] ∧
      (Corpus.mk "sql" [("1", named), ("2", broken)]).matrix registry [] =
        .error (.unknownDialect "Fake" "c" (.list [.text "MySQL", .text "Oracle"])) := by
  intro registry named unnamed broken
  constructor
  · obtain ⟨hfails, -, hrows⟩ :=
      matrix_is_product ⟨"sql", [("1", named), ("2", unnamed)]⟩ registry ["MySQL"]
    cases hmatrix : (Corpus.mk "sql" [("1", named), ("2", unnamed)]).matrix registry ["MySQL"] with
    | ok rows =>
        rw [(hrows rows hmatrix).1]
        rfl
    | error failure =>
        have hunknown := hfails.mp ⟨failure, hmatrix⟩
        exact absurd hunknown (by decide)
  · rw [(matrix_is_product ⟨"sql", [("1", named), ("2", broken)]⟩ registry []).2.1]
    refine ⟨[named], broken, [], "Fake", rfl, ?_, ⟨["Maria"], ["Other"], ?_, ?_, ?_⟩, rfl⟩
    · decide
    · decide
    · decide
    · decide

end Corpus

end SqlFixtures
