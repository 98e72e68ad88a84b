import SqlFixtures.Template.Render
import Mathlib.Tactic

/-!
# Layouts of templates

A template without stray percent signs is a sequence of texts with a marker between any two
neighbours, where each percent sign of a text is written twice.  Such a sequence is a layout.  The
tokens of a template give the layout back, so that a template has at most one, and the literal
variant succeeds exactly if there is one with a slot for every parameter.  Parameters are put into
the layout and never into the template, which is why they are not read again.
-/

namespace SqlFixtures.Template

/-- A text as it is written in a template. -/
def escape (text : List Char) : List Char :=
  text.flatMap fun c => if c = '%' then ['%', '%'] else [c]

/-- The texts of a template, with a marker in front of each but the first. -/
structure Layout where
  first : List Char
  others : List (List Char)
  deriving Repr, DecidableEq

namespace Layout

def empty : Layout := ⟨[], []⟩

def prepend (text : List Char) (layout : Layout) : Layout :=
  { layout with first := text ++ layout.first }

def mark (layout : Layout) : Layout := ⟨[], layout.first :: layout.others⟩

/-- The characters of the template that has the layout. -/
def source (layout : Layout) : List Char :=
  escape layout.first ++ layout.others.flatMap fun text => '%' :: 's' :: escape text

def template (layout : Layout) : String := String.ofList layout.source

/-- The texts with one value in the place of each marker. -/
def filled (layout : Layout) (values : List (List Char)) : List Char :=
  layout.first ++ (List.zipWith (· ++ ·) values layout.others).flatten

def fill? (layout : Layout) (values : List (List Char)) : Option (List Char) :=
  if layout.others.length = values.length then some (layout.filled values) else none

@[simp] theorem others_prepend (text : List Char) (layout : Layout) :
    (layout.prepend text).others = layout.others := rfl

@[simp] theorem filled_prepend
    (text : List Char) (layout : Layout) (values : List (List Char)) :
    (layout.prepend text).filled values = text ++ layout.filled values := by
  simp [prepend, filled]

@[simp] theorem filled_mark
    (layout : Layout) (value : List Char) (values : List (List Char)) :
    layout.mark.filled (value :: values) = value ++ layout.filled values := by
  simp [mark, filled]

theorem source_prepend_cons
    {c : Char} (hc : c ≠ '%') (layout : Layout) :
    (layout.prepend [c]).source = c :: layout.source := by
  simp [prepend, source, escape, hc]

theorem source_prepend_percent (layout : Layout) :
    (layout.prepend ['%']).source = '%' :: '%' :: layout.source := by
  simp [prepend, source, escape]

theorem source_mark (layout : Layout) :
    layout.mark.source = '%' :: 's' :: layout.source := by
  simp [mark, source, escape]

@[simp] theorem toList_template (layout : Layout) :
    layout.template.toList = layout.source := by
  simp [template]

end Layout

/-- The layout that tokens make up, if none of them is stray. -/
def layout? : List Token → Option Layout
  | [] => some .empty
  | .text s :: tokens => (layout? tokens).map (·.prepend s)
  | .escape :: tokens => (layout? tokens).map (·.prepend ['%'])
  | .marker :: tokens => (layout? tokens).map (·.mark)
  | .stray :: _ => none

/-! ## Reading a layout back -/

theorem tokens_cons_of_ne {c : Char} (hc : c ≠ '%') (rest : List Char) :
    tokens (c :: rest) = pushText c (tokens rest) := by
  rw [tokens.eq_def]
  split <;> simp_all

@[simp] theorem layout?_pushText (c : Char) (ts : List Token) :
    layout? (pushText c ts) = (layout? ts).map (·.prepend [c]) := by
  unfold pushText
  split
  · simp [layout?, Layout.prepend, Function.comp_def]
  · simp [layout?]

theorem layout?_tokens_escape_append (text rest : List Char) :
    layout? (tokens (escape text ++ rest)) =
      (layout? (tokens rest)).map (·.prepend text) := by
  induction text with
  | nil => simp [escape, Layout.prepend]
  | cons c text ih =>
      unfold escape at ih ⊢
      by_cases hc : c = '%'
      · subst c
        simp [tokens, layout?, ih, Layout.prepend, Function.comp_def]
      · simp [hc, tokens_cons_of_ne, ih, Layout.prepend, Function.comp_def]

theorem layout?_tokens_others (others : List (List Char)) :
    layout? (tokens (others.flatMap fun text => '%' :: 's' :: escape text)) =
      some ⟨[], others⟩ := by
  induction others with
  | nil => rfl
  | cons text others ih =>
      rw [List.flatMap_cons, List.cons_append, List.cons_append, tokens, layout?,
        layout?_tokens_escape_append, ih]
      simp [Layout.prepend, Layout.mark]

theorem layout?_tokens_source (layout : Layout) :
    layout? (tokens layout.source) = some layout := by
  rw [Layout.source, layout?_tokens_escape_append, layout?_tokens_others]
  simp [Layout.prepend]

/-- What has a layout is written as that layout is. -/
theorem eq_source_of_layout?_tokens
    {cs : List Char} {layout : Layout} (hlayout : layout? (tokens cs) = some layout) :
    cs = layout.source := by
  induction cs using tokens.induct generalizing layout with
  | case1 =>
      cases hlayout
      rfl
  | case2 rest ih =>
      rw [tokens, layout?] at hlayout
      obtain ⟨inner, hinner, rfl⟩ := Option.map_eq_some_iff.mp hlayout
      rw [Layout.source_mark, ← ih hinner]
  | case3 rest ih =>
      rw [tokens, layout?] at hlayout
      obtain ⟨inner, hinner, rfl⟩ := Option.map_eq_some_iff.mp hlayout
      rw [Layout.source_prepend_percent, ← ih hinner]
  | case4 rest hmarker hescape ih =>
      rw [tokens.eq_4 rest hmarker hescape] at hlayout
      cases hlayout
  | case5 c rest hmarker hescape hc ih =>
      rw [tokens_cons_of_ne hc, layout?_pushText] at hlayout
      obtain ⟨inner, hinner, rfl⟩ := Option.map_eq_some_iff.mp hlayout
      rw [Layout.source_prepend_cons hc, ← ih hinner]

theorem layout?_tokens_eq_some_iff {cs : List Char} {layout : Layout} :
    layout? (tokens cs) = some layout ↔ cs = layout.source := by
  constructor
  · exact eq_source_of_layout?_tokens
  · rintro rfl
    exact layout?_tokens_source layout

/-! ## Filling a layout -/

theorem count_marker_of_layout?
    {ts : List Token} {layout : Layout} (hlayout : layout? ts = some layout) :
    ts.count .marker = layout.others.length := by
  induction ts generalizing layout with
  | nil =>
      cases hlayout
      rfl
  | cons token ts ih =>
      cases token with
      | text s =>
          obtain ⟨inner, hinner, rfl⟩ := Option.map_eq_some_iff.mp hlayout
          simp [ih hinner]
      | marker =>
          obtain ⟨inner, hinner, rfl⟩ := Option.map_eq_some_iff.mp hlayout
          simp [ih hinner, Layout.mark]
      | escape =>
          obtain ⟨inner, hinner, rfl⟩ := Option.map_eq_some_iff.mp hlayout
          simp [ih hinner]
      | stray => cases hlayout

theorem Layout.fill?_prepend
    (text : List Char) (layout : Layout) (values : List (List Char)) :
    (layout.prepend text).fill? values = (layout.fill? values).map (text ++ ·) := by
  unfold Layout.fill?
  by_cases hlength : layout.others.length = values.length
  · simp [hlength]
  · simp [hlength]

theorem Layout.fill?_mark_nil (layout : Layout) : layout.mark.fill? [] = none := by
  simp [Layout.fill?, Layout.mark]

theorem Layout.fill?_mark_cons
    (layout : Layout) (value : List Char) (values : List (List Char)) :
    layout.mark.fill? (value :: values) = (layout.fill? values).map (value ++ ·) := by
  have hlength : layout.mark.others.length = layout.others.length + 1 := rfl
  unfold Layout.fill?
  rw [hlength, List.length_cons, Layout.filled_mark]
  by_cases heq : layout.others.length = values.length
  · simp [heq]
  · simp [heq]

/-- Tokens are filled exactly as their layout is. -/
theorem fill_eq_bind_fill? (ts : List Token) (values : List (List Char)) :
    fill ts values = (layout? ts).bind (·.fill? values) := by
  induction ts generalizing values with
  | nil =>
      cases values with
      | nil => rfl
      | cons value values => rfl
  | cons token ts ih =>
      cases token with
      | text s =>
          rw [fill, layout?, ih]
          cases layout? ts with
          | none => rfl
          | some layout => exact (layout.fill?_prepend s values).symm
      | marker =>
          rw [layout?]
          cases values with
          | nil =>
              rw [fill.eq_def]
              cases layout? ts with
              | none => rfl
              | some layout => exact layout.fill?_mark_nil.symm
          | cons value values =>
              rw [fill, ih]
              cases layout? ts with
              | none => rfl
              | some layout => exact (layout.fill?_mark_cons value values).symm
      | escape =>
          rw [fill, layout?, ih]
          cases layout? ts with
          | none => rfl
          | some layout => exact (layout.fill?_prepend ['%'] values).symm
      | stray => simp [fill, layout?]

theorem fill_eq_some_iff
    {ts : List Token} {values : List (List Char)} {sql : List Char} :
    fill ts values = some sql ↔
      ∃ layout, layout? ts = some layout ∧ layout.others.length = values.length ∧
        layout.filled values = sql := by
  rw [fill_eq_bind_fill?, Option.bind_eq_some_iff]
  simp [Layout.fill?]

end SqlFixtures.Template
