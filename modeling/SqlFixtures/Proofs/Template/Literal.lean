import SqlFixtures.Proofs.Template.Layout

/-!
# The literal variant and layouts

With parameters, the literal variant of a template is its layout with the texts of the parameters in
the slots.  It follows that escaping texts, putting markers between them and rendering the result
gives the texts back with the parameters between them, whatever characters the texts and the
parameters hold; and that every template which can be rendered was written in this way, from texts
that are determined by it.
-/

namespace SqlFixtures.Template

def parameterTexts (values : List Value) : List (List Char) :=
  values.map fun value => value.toText.toList

@[simp] theorem length_parameterTexts (values : List Value) :
    (parameterTexts values).length = values.length := by
  simp [parameterTexts]

theorem literal_eq_ok_iff_fill
    {template sql : String} {values : List Value} (hvalues : values ≠ []) :
    literal template values = .ok sql ↔
      countMarkers template = values.length ∧
        ∃ filled, fill (tokens template.toList) (parameterTexts values) = some filled ∧
          String.ofList filled = sql := by
  have hnonempty : values.isEmpty = false := by simpa using hvalues
  unfold literal parameterTexts
  simp only [hnonempty, Bool.false_eq_true, if_false]
  by_cases hcount : countMarkers template = values.length
  · cases hfill : fill (tokens template.toList) (values.map fun v => v.toText.toList) with
    | none => simp [hcount]
    | some filled => simp [hcount]
  · simp [hcount]

theorem literal_eq_ok_iff
    {template sql : String} {values : List Value} (hvalues : values ≠ []) :
    literal template values = .ok sql ↔
      ∃ layout : Layout, template.toList = layout.source ∧
        layout.others.length = values.length ∧
        String.ofList (layout.filled (parameterTexts values)) = sql := by
  rw [literal_eq_ok_iff_fill hvalues]
  constructor
  · rintro ⟨-, filled, hfill, rfl⟩
    obtain ⟨layout, hlayout, hlength, rfl⟩ := fill_eq_some_iff.mp hfill
    exact ⟨layout, layout?_tokens_eq_some_iff.mp hlayout, by simpa using hlength, rfl⟩
  · rintro ⟨layout, hsource, hlength, rfl⟩
    have hlayout := layout?_tokens_eq_some_iff.mpr hsource
    refine ⟨?_, _, fill_eq_some_iff.mpr ⟨layout, hlayout, by simpa using hlength, rfl⟩, rfl⟩
    rw [countMarkers, count_marker_of_layout? hlayout, hlength]

theorem literalOf_eq_literal
    {parameters : Value} {values : List Value} (hgiven : parameters.elements = .ok values)
    (template : String) : literalOf template parameters = literal template values := by
  rw [literalOf, hgiven]

theorem Layout.source_injective {layout other : Layout} (hsource : layout.source = other.source) :
    layout = other := by
  have hlayout := layout?_tokens_source layout
  rw [hsource, layout?_tokens_source] at hlayout
  exact (Option.some.inj hlayout).symm

theorem Layout.template_inj {layout other : Layout} :
    layout.template = other.template ↔ layout = other := by
  constructor
  · intro htemplate
    apply Layout.source_injective
    simpa using congrArg String.toList htemplate
  · rintro rfl
    rfl

/-- Rendering undoes escaping: a template that is written from texts renders as these texts with
the parameters between them, and a template that renders at all is written from exactly one
sequence of texts, with a slot for every parameter. -/
theorem literalOf_inverts_escape
    {parameters : Value} {values : List Value}
    (hgiven : parameters.elements = .ok values) (hvalues : values ≠ []) :
    (∀ layout : Layout, layout.others.length = values.length →
      literalOf layout.template parameters =
        .ok (String.ofList (layout.filled (parameterTexts values)))) ∧
    (∀ template sql, literalOf template parameters = .ok sql →
      ∃ layout : Layout, layout.others.length = values.length ∧
        ∀ other : Layout, template = other.template ↔ other = layout) := by
  constructor
  · intro layout hlength
    rw [literalOf_eq_literal hgiven, literal_eq_ok_iff hvalues]
    exact ⟨layout, layout.toList_template, hlength, rfl⟩
  · intro template sql hliteral
    rw [literalOf_eq_literal hgiven, literal_eq_ok_iff hvalues] at hliteral
    obtain ⟨layout, hsource, hlength, -⟩ := hliteral
    have htemplate : template = layout.template := by
      rw [Layout.template, ← hsource, String.ofList_toList]
    refine ⟨layout, hlength, fun other => ?_⟩
    rw [htemplate, Layout.template_inj, eq_comm]

/-- A value that looks like template text is put in as it is. -/
theorem literalOf_inverts_escape_at_marker_text :
    literalOf "100%%%s%%s?" (.list [.text "%s%%"]) = .ok "100%%s%%%s?" ∧
      ∃ layout : Layout, layout.others.length = 1 ∧
        ∀ other : Layout, "100%%%s%%s?" = other.template ↔ other = layout := by
  have hgiven : (Value.list [.text "%s%%"]).elements = .ok [.text "%s%%"] := rfl
  have hinverts := literalOf_inverts_escape hgiven (List.cons_ne_nil _ _)
  have hrendered : literalOf "100%%%s%%s?" (.list [.text "%s%%"]) = .ok "100%%s%%%s?" :=
    hinverts.1 ⟨"100%".toList, ["%s?".toList]⟩ rfl
  exact ⟨hrendered, hinverts.2 _ _ hrendered⟩

end SqlFixtures.Template
