import SqlFixtures.Proofs.Corpus.LastDefinition
import SqlFixtures.Proofs.Matrix.Expansion
import Mathlib.Tactic

/-!
# Repeated rows

The names that a case declares are different as texts, but two of them may stand for one member of
the registry, of which one is then an alias.  Such a case has every row of that member twice.  A
matrix of a built corpus repeats a row in no other way: its cases have different ids, and a suite
that asks for each database type once repeats none for the cases that name none.
-/

namespace SqlFixtures

open Record (Case)

namespace Matrix

variable {registry : Registry} {suite : List String} {c : Case}

theorem caseId_of_mem_rowsOf {found : List String} {row : MatrixRow}
    (hrow : row ∈ rowsOf c found) : row.caseId = c.id := by
  obtain ⟨variant, -, hvariant⟩ := List.mem_flatMap.mp hrow
  obtain ⟨dialect, -, rfl⟩ := List.mem_map.mp hvariant
  rfl

theorem nodup_rowsOf_iff {found : List String} : (rowsOf c found).Nodup ↔ found.Nodup := by
  have hblock : ∀ variant, (found.map fun dialect =>
      (⟨c.id, dialect, variant⟩ : MatrixRow)).Nodup ↔ found.Nodup := by
    intro variant
    apply List.nodup_map_iff
    intro first second heq
    exact (MatrixRow.mk.inj heq).2.1
  have hvariants : Variant.all.Pairwise (Function.onFun List.Disjoint fun variant =>
      found.map fun dialect => (⟨c.id, dialect, variant⟩ : MatrixRow)) := by
    have hdistinct : Variant.all.Nodup := by decide
    apply hdistinct.imp
    intro first second hne row hfirst hsecond
    obtain ⟨dialect, -, rfl⟩ := List.mem_map.mp hfirst
    obtain ⟨other, -, heq⟩ := List.mem_map.mp hsecond
    exact hne (MatrixRow.mk.inj heq).2.2.symm
  rw [rowsOf, List.nodup_flatMap, and_iff_left hvariants]
  simp [hblock, Variant.all]

/-- Cases with different ids repeat a row only within the rows of one case. -/
theorem nodup_flatMap_rowsOf_iff {cases : List Case} (hids : (cases.map (·.id)).Nodup)
    (found : Case → List String) :
    (cases.flatMap fun c => rowsOf c (found c)).Nodup ↔ ∀ c ∈ cases, (found c).Nodup := by
  have hcases : cases.Pairwise (Function.onFun List.Disjoint fun c => rowsOf c (found c)) := by
    apply (List.pairwise_map.mp hids).imp
    intro first second hne row hfirst hsecond
    exact hne ((caseId_of_mem_rowsOf hfirst).symm.trans (caseId_of_mem_rowsOf hsecond))
  rw [List.nodup_flatMap, and_iff_left hcases]
  simp only [nodup_rowsOf_iff]

/-- Two different names of the case stand for different members. -/
def NamesApart (registry : Registry) (c : Case) : Prop :=
  ∀ first ∈ c.dialectNames, ∀ second ∈ c.dialectNames,
    registry.memberOf first = registry.memberOf second → first = second

instance (registry : Registry) (c : Case) : Decidable (NamesApart registry c) :=
  inferInstanceAs (Decidable (∀ first ∈ c.dialectNames, ∀ second ∈ c.dialectNames,
    registry.memberOf first = registry.memberOf second → first = second))

theorem nodup_dialects_iff (hsuite : suite.Nodup) :
    (dialects registry suite c).Nodup ↔ NamesApart registry c := by
  unfold dialects NamesApart
  by_cases hnone : Dialect.namesNothing c.databaseTypes
  · rw [if_pos hnone, dialectNames_eq_nil_iff.mpr hnone]
    simp [hsuite]
  · rw [if_neg hnone]
    exact List.nodup_map_iff_inj_on (Dialect.nodup_names c.databaseTypes)

end Matrix

namespace Corpus

namespace Alias

def registry : Registry := .ofDeclarations [("MySQL", .text "m"), ("Maria", .text "m")]

def bytes : List UInt8 :=
  "<sql-cases><sql-case id='x' value='v' database-types='MySQL,Maria'/></sql-cases>".toUTF8.toList

def source : Source := .memory [("sql", [("a.xml", bytes)])]

def corpus : Corpus := ⟨"sql", [("x", ⟨"x", "v", some "MySQL,Maria"⟩)]⟩

def rows : List MatrixRow :=
  [⟨"x", "MySQL", .literal⟩, ⟨"x", "MySQL", .literal⟩, ⟨"x", "MySQL", .placeholder⟩,
    ⟨"x", "MySQL", .placeholder⟩]

theorem result_build_source : (build .empty source (.text "sql") false).result = .ok corpus := by
  have hread : Definition.ofResources [⟨"a.xml", .ok bytes⟩] =
      .ok [⟨⟨"x", "v", some "MySQL,Maria"⟩, "a.xml"⟩] := by
    rw [← Results.toOption_eq_some_iff]
    decide +kernel
  have hlist : source.list .empty (.text "sql") = ⟨[], .ok [⟨"a.xml", .ok bytes⟩]⟩ := rfl
  rw [build, hlist, Logged.ok_bind, buildFrom_lax hread]
  rfl

theorem matrix_corpus : corpus.matrix registry registry.members = .ok rows := rfl

end Alias

/-- The rows of a built corpus are pairwise different exactly if no case names one database type by
two names. -/
theorem nodup_matrix_of_build_iff {files : Files.Tree} {source : Source} {category : Value}
    {strict : Bool} {corpus : Corpus} {registry : Registry} {suite : List String}
    {rows : List MatrixRow}
    (hbuild : (build files source category strict).result = .ok corpus) (hsuite : suite.Nodup)
    (hrows : corpus.matrix registry suite = .ok rows) :
    rows.Nodup ↔ ∀ c ∈ corpus.cases, Matrix.NamesApart registry c := by
  obtain ⟨-, rfl⟩ := Matrix.expand_eq_ok_iff.mp hrows
  rw [Matrix.nodup_flatMap_rowsOf_iff (nodup_ids_of_build hbuild)]
  simp only [Matrix.nodup_dialects_iff hsuite]

theorem nodup_matrix_of_build_iff_at_alias :
    Alias.rows.Nodup ↔ ∀ c ∈ Alias.corpus.cases, Matrix.NamesApart Alias.registry c :=
  nodup_matrix_of_build_iff Alias.result_build_source (by decide) Alias.matrix_corpus

/-- A case that names a member and its alias has each row of that member twice. -/
theorem exists_matrix_of_build_with_repeated_row :
    (build .empty Alias.source (.text "sql") false).result = .ok Alias.corpus ∧
      Alias.registry.members.Nodup ∧
      Alias.corpus.matrix Alias.registry Alias.registry.members = .ok Alias.rows ∧
      ¬ Alias.rows.Nodup :=
  ⟨Alias.result_build_source, by decide, Alias.matrix_corpus, by decide⟩

end Corpus

end SqlFixtures
