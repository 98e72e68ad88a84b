import SqlFixtures.Proofs.Template.Literal

/-!
# Templates with as many parameters as markers

The placeholder variant holds no marker text.  Writing `?` for every `%s` leaves none behind, and
halving the pairs of percent signs afterwards makes none: a character keeps its neighbour on the
right, and the percent sign in front of an `s` was in front of it before.  The literal variant with
one parameter for each marker is the template itself if there is no marker; otherwise it succeeds
exactly if no percent sign is stray.
-/

namespace SqlFixtures.Template

/-! ## The placeholder variant -/

def markerText : List Char := ['%', 's']

theorem markerText_infix_cons_iff {c : Char} {cs : List Char} :
    markerText <:+: c :: cs ↔ (c = '%' ∧ cs.head? = some 's') ∨ markerText <:+: cs := by
  rw [List.infix_cons_iff]
  cases cs with
  | nil => simp [markerText]
  | cons d cs => simp [markerText, List.cons_prefix_cons, eq_comm]

theorem bindMarkers_cons_of_ne {c : Char} {rest : List Char}
    (hmarker : ¬ (c = '%' ∧ rest.head? = some 's')) :
    bindMarkers (c :: rest) = c :: bindMarkers rest := by
  rw [bindMarkers.eq_def]
  split <;> simp_all

theorem unescape_cons_of_ne {c : Char} {rest : List Char}
    (hescape : ¬ (c = '%' ∧ rest.head? = some '%')) :
    unescape (c :: rest) = c :: unescape rest := by
  rw [unescape.eq_def]
  split <;> simp_all

theorem head?_of_head?_bindMarkers {cs : List Char}
    (hhead : (bindMarkers cs).head? = some 's') : cs.head? = some 's' := by
  cases cs with
  | nil => cases hhead
  | cons c rest =>
      by_cases hmarker : c = '%' ∧ rest.head? = some 's'
      · obtain ⟨rfl, hrest⟩ := hmarker
        obtain ⟨rest, rfl⟩ := List.head?_eq_some_iff.mp hrest
        simp [bindMarkers] at hhead
      · rwa [bindMarkers_cons_of_ne hmarker] at hhead

theorem head?_unescape (cs : List Char) : (unescape cs).head? = cs.head? := by
  cases cs with
  | nil => rfl
  | cons c rest =>
      by_cases hescape : c = '%' ∧ rest.head? = some '%'
      · obtain ⟨rfl, hrest⟩ := hescape
        obtain ⟨rest, rfl⟩ := List.head?_eq_some_iff.mp hrest
        rfl
      · rw [unescape_cons_of_ne hescape]
        rfl

theorem not_markerText_infix_bindMarkers (cs : List Char) : ¬ markerText <:+: bindMarkers cs := by
  induction cs using bindMarkers.induct with
  | case1 rest ih =>
      rw [bindMarkers, markerText_infix_cons_iff]
      simpa using ih
  | case2 c rest hmarker ih =>
      have hfree : ¬ (c = '%' ∧ rest.head? = some 's') := by
        rintro ⟨rfl, hrest⟩
        obtain ⟨rest, rfl⟩ := List.head?_eq_some_iff.mp hrest
        exact hmarker rest rfl rfl
      rw [bindMarkers_cons_of_ne hfree, markerText_infix_cons_iff]
      rintro (⟨hc, hhead⟩ | hrest)
      · exact hfree ⟨hc, head?_of_head?_bindMarkers hhead⟩
      · exact ih hrest
  | case3 => simp [bindMarkers, markerText]

theorem markerText_infix_of_unescape {cs : List Char} (hmarker : markerText <:+: unescape cs) :
    markerText <:+: cs := by
  induction cs using unescape.induct with
  | case1 rest ih =>
      rw [unescape, markerText_infix_cons_iff, head?_unescape] at hmarker
      rw [markerText_infix_cons_iff, markerText_infix_cons_iff]
      rcases hmarker with hhead | hrest
      · exact Or.inr (Or.inl hhead)
      · exact Or.inr (Or.inr (ih hrest))
  | case2 c rest hescape ih =>
      have hfree : ¬ (c = '%' ∧ rest.head? = some '%') := by
        rintro ⟨rfl, hrest⟩
        obtain ⟨rest, rfl⟩ := List.head?_eq_some_iff.mp hrest
        exact hescape rest rfl rfl
      rw [unescape_cons_of_ne hfree, markerText_infix_cons_iff, head?_unescape] at hmarker
      rw [markerText_infix_cons_iff]
      exact hmarker.imp_right ih
  | case3 => exact hmarker

theorem not_markerText_infix_placeholder (template : String) :
    ¬ markerText <:+: (placeholder template).toList := by
  rw [placeholder, String.toList_ofList]
  intro hmarker
  exact not_markerText_infix_bindMarkers _ (markerText_infix_of_unescape hmarker)

/-! ## The literal variant -/

theorem exists_layout?_iff {ts : List Token} :
    (∃ layout, layout? ts = some layout) ↔ Token.stray ∉ ts := by
  induction ts with
  | nil => simp [layout?]
  | cons token ts ih =>
      cases token with
      | text s => simpa [layout?] using ih
      | marker => simpa [layout?] using ih
      | escape => simpa [layout?] using ih
      | stray => simp [layout?]

variable {template : String} {values : List Value}

theorem countMarkers_eq_zero_iff :
    countMarkers template = 0 ↔ Token.marker ∉ tokens template.toList :=
  List.count_eq_zero

theorem literal_of_no_marker (hmarker : Token.marker ∉ tokens template.toList)
    (hcount : values.length = countMarkers template) : literal template values = .ok template := by
  rw [countMarkers_eq_zero_iff.mpr hmarker, List.length_eq_zero_iff] at hcount
  rw [hcount]
  rfl

theorem exists_literal_iff_of_marker (hmarker : Token.marker ∈ tokens template.toList)
    (hcount : values.length = countMarkers template) :
    (∃ sql, literal template values = .ok sql) ↔ Token.stray ∉ tokens template.toList := by
  have hvalues : values ≠ [] := by
    rintro rfl
    exact countMarkers_eq_zero_iff.mp hcount.symm hmarker
  rw [← exists_layout?_iff]
  simp only [literal_eq_ok_iff_fill hvalues, fill_eq_some_iff]
  constructor
  · rintro ⟨sql, -, filled, ⟨layout, hlayout, -⟩, -⟩
    exact ⟨layout, hlayout⟩
  · rintro ⟨layout, hlayout⟩
    have hlength : layout.others.length = (parameterTexts values).length := by
      rw [← count_marker_of_layout? hlayout, length_parameterTexts, hcount]
      rfl
    exact ⟨_, hcount.symm, _, ⟨layout, hlayout, hlength, rfl⟩, rfl⟩

theorem literal_of_stray (hmarker : Token.marker ∈ tokens template.toList)
    (hstray : Token.stray ∈ tokens template.toList)
    (hcount : values.length = countMarkers template) :
    literal template values =
      .error (.mismatch .strayPercent template (.int (countMarkers template))
        (.int (countMarkers template))) := by
  have hnone : fill (tokens template.toList) (values.map fun p => p.toText.toList) = none := by
    rw [fill_eq_bind_fill?, Option.bind_eq_none_iff]
    intro layout hlayout
    exact absurd hstray (exists_layout?_iff.mp ⟨layout, hlayout⟩)
  have hnonempty : values.isEmpty = false := by
    rw [Bool.eq_false_iff, ne_eq, List.isEmpty_iff]
    rintro rfl
    exact countMarkers_eq_zero_iff.mp hcount.symm hmarker
  unfold literal
  simp only [hnonempty, hcount, hnone, Bool.false_eq_true, if_false, if_true]

end SqlFixtures.Template
