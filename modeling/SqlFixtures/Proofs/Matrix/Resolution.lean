import SqlFixtures.Proofs.Matrix.Repeats
import SqlFixtures.Proofs.Template.Matching
import Mathlib.Tactic

/-!
# Resolving the rows of a matrix

A built corpus has each case under the id of the case, which is the id that the rows carry, so each
row leads back to its case.  The template of the case can then be rendered with one parameter for
each marker: always in the placeholder variant, and in the literal variant unless the template has
both a marker and a stray percent sign.
-/

namespace SqlFixtures

open Record (Case)

namespace Template

theorem resolve_placeholder (template : String) (parameters : Value) :
    resolve template Variant.placeholder.toValue parameters = .ok (placeholder template) := rfl

theorem resolve_literal (template : String) (parameters : Value) :
    resolve template Variant.literal.toValue parameters = literalOf template parameters := rfl

end Template

namespace Matrix

theorem exists_case_of_mem_rows {registry : Registry} {suite : List String} {cases : List Case}
    {rows : List MatrixRow} (hrows : expand registry suite cases = .ok rows) {row : MatrixRow}
    (hrow : row ∈ rows) : ∃ c ∈ cases, c.id = row.caseId := by
  obtain ⟨-, rfl⟩ := expand_eq_ok_iff.mp hrows
  obtain ⟨c, hc, hblock⟩ := List.mem_flatMap.mp hrow
  exact ⟨c, hc, (caseId_of_mem_rowsOf hblock).symm⟩

end Matrix

namespace Corpus

open Template (Token countMarkers markerText tokens)

theorem lookup_of_mem_cases {files : Files.Tree} {source : Source} {category : Value}
    {strict : Bool} {corpus : Corpus}
    (hbuild : (build files source category strict).result = .ok corpus) {c : Case}
    (hc : c ∈ corpus.cases) : corpus.lookup c.id = .ok c := by
  obtain ⟨definitions, rfl⟩ := exists_definitions_of_build hbuild
  obtain ⟨pair, hpair, rfl⟩ := List.mem_map.mp hc
  obtain ⟨d, -, rfl⟩ := Definition.exists_of_mem_entries_corpus hpair
  have hkeys : (Definition.corpus category definitions).keys.Nodup :=
    nodup_keys_ofEntries category _
  have hget : (Definition.corpus category definitions).get? d.id = some d.definedCase :=
    (Keyed.lookup_eq_some_iff_mem hkeys).mpr hpair
  exact lookup_eq_ok_iff.mpr hget

theorem resolve_of_lookup {corpus : Corpus} {id : String} {c : Case}
    (hlookup : corpus.lookup id = .ok c) (variant parameters : Value) :
    corpus.resolve id variant parameters = Template.resolve c.value variant parameters := by
  have hitem : corpus.item id = .ok c := item_of_get?_eq_some (lookup_eq_ok_iff.mp hlookup)
  rw [resolve, hitem]
  rfl

/-- The id of a row leads to a case of the corpus, and resolving the row renders the template of
that case.  With one parameter for each marker, the placeholder variant holds no marker text, and
the literal variant fails exactly for a template with a marker and a stray percent sign, where it
reports that there were as many parameters as markers. -/
theorem resolve_row_of_matrix {files : Files.Tree} {source : Source} {category : Value}
    {strict : Bool} {corpus : Corpus} {registry : Registry} {suite : List String}
    {rows : List MatrixRow} {row : MatrixRow}
    (hbuild : (build files source category strict).result = .ok corpus)
    (hrows : corpus.matrix registry suite = .ok rows) (hrow : row ∈ rows) :
    ∃ c, corpus.lookup row.caseId = .ok c ∧ c.id = row.caseId ∧
      (∀ variant parameters, corpus.resolve row.caseId variant parameters =
        Template.resolve c.value variant parameters) ∧
      ∀ parameters values, parameters.elements = .ok values →
        values.length = countMarkers c.value →
        (∃ sql, Template.resolve c.value Variant.placeholder.toValue parameters = .ok sql ∧
          ¬ markerText <:+: sql.toList) ∧
        ((∃ sql, Template.resolve c.value Variant.literal.toValue parameters = .ok sql) ↔
          Token.marker ∉ tokens c.value.toList ∨ Token.stray ∉ tokens c.value.toList) ∧
        (Token.marker ∉ tokens c.value.toList →
          Template.resolve c.value Variant.literal.toValue parameters = .ok c.value) ∧
        (Token.marker ∈ tokens c.value.toList → Token.stray ∈ tokens c.value.toList →
          Template.resolve c.value Variant.literal.toValue parameters =
            .error (.mismatch .strayPercent c.value (.int (countMarkers c.value))
              (.int (countMarkers c.value)))) := by
  obtain ⟨c, hc, hid⟩ := Matrix.exists_case_of_mem_rows hrows hrow
  have hlookup : corpus.lookup row.caseId = .ok c := hid ▸ lookup_of_mem_cases hbuild hc
  refine ⟨c, hlookup, hid, resolve_of_lookup hlookup, ?_⟩
  intro parameters values hgiven hcount
  rw [Template.resolve_placeholder, Template.resolve_literal,
    Template.literalOf_eq_literal hgiven]
  refine ⟨⟨_, rfl, Template.not_markerText_infix_placeholder _⟩, ?_, ?_, ?_⟩
  · by_cases hmarker : Token.marker ∈ tokens c.value.toList
    · rw [Template.exists_literal_iff_of_marker hmarker hcount]
      simp [hmarker]
    · rw [Template.literal_of_no_marker hmarker hcount]
      simp [hmarker]
  · exact fun hmarker => Template.literal_of_no_marker hmarker hcount
  · exact fun hmarker hstray => Template.literal_of_stray hmarker hstray hcount

namespace Discount

def offer : Case := ⟨"a", "100% %%%s", none⟩

def bytes : List UInt8 := Document.writeCases [offer]

def source : Source := .memory [("sql", [("a.xml", bytes)])]

def corpus : Corpus := ⟨"sql", [("a", offer)]⟩

theorem result_build_source : (build .empty source (.text "sql") false).result = .ok corpus := by
  have hread : Definition.ofResources [⟨"a.xml", .ok bytes⟩] = .ok [⟨offer, "a.xml"⟩] := by
    rw [← Results.toOption_eq_some_iff]
    decide +kernel
  have hlist : source.list .empty (.text "sql") = ⟨[], .ok [⟨"a.xml", .ok bytes⟩]⟩ := rfl
  rw [build, hlist, Logged.ok_bind, buildFrom_lax hread]
  rfl

end Discount

/-- A stray percent sign is no obstacle to the placeholder variant. -/
theorem resolve_row_of_matrix_with_stray_percent :
    Template.resolve "100% %%%s" Variant.literal.toValue (.list [.int 5]) =
        .error (.mismatch .strayPercent "100% %%%s" (.int 1) (.int 1)) ∧
      ∃ sql, Template.resolve "100% %%%s" Variant.placeholder.toValue (.list [.int 5]) =
        .ok sql ∧ ¬ markerText <:+: sql.toList := by
  have hrows : Discount.corpus.matrix .standard ["H2"] =
      .ok [⟨"a", "H2", .literal⟩, ⟨"a", "H2", .placeholder⟩] := rfl
  obtain ⟨c, hlookup, -, -, hresolve⟩ := resolve_row_of_matrix Discount.result_build_source hrows
    (List.mem_cons_self ..)
  have hoffer : c = Discount.offer := (Except.ok.inj hlookup).symm
  subst c
  obtain ⟨hplaceholder, -, -, hstray⟩ := hresolve (.list [.int 5]) [.int 5] rfl (by decide)
  exact ⟨hstray (by decide) (by decide), hplaceholder⟩

end Corpus

end SqlFixtures
