import SqlFixtures.Text.Affix
import SqlFixtures.Text.Fields
import Mathlib.Tactic

/-!
# Laws of fields

Cutting a text at a separator is additive at each separator, so that fields which are joined by a
separator that none of them holds are cut apart again.  For the same reason an ending without the
separator is an ending of the last field.
-/

namespace SqlFixtures.Text

variable {separator : Char}

theorem fields_ne_nil (s : List Char) : fields separator s ≠ [] := by
  cases s with
  | nil => simp [fields]
  | cons c rest =>
      rw [fields]
      split
      · simp
      · split <;> simp

theorem fields_separator_cons (s : List Char) :
    fields separator (separator :: s) = [] :: fields separator s := by
  rw [fields]
  split
  next hnil => exact absurd hnil (fields_ne_nil s)
  next field others hfields => rw [if_pos rfl, hfields]

theorem fields_cons_of_ne {c : Char} {s field : List Char} {others : List (List Char)}
    (hne : c ≠ separator) (hfields : fields separator s = field :: others) :
    fields separator (c :: s) = (c :: field) :: others := by
  rw [fields, hfields]
  exact if_neg hne

theorem fields_of_not_mem {field : List Char} (hfree : separator ∉ field) :
    fields separator field = [field] := by
  induction field with
  | nil => rfl
  | cons c field ih =>
      rw [List.mem_cons, not_or] at hfree
      exact fields_cons_of_ne (Ne.symm hfree.1) (ih hfree.2)

theorem fields_append_separator (s t : List Char) :
    fields separator (s ++ separator :: t) = fields separator s ++ fields separator t := by
  induction s with
  | nil => exact fields_separator_cons t
  | cons c s ih =>
      by_cases hsep : c = separator
      · subst c
        rw [List.cons_append, fields_separator_cons, ih, fields_separator_cons,
          List.cons_append]
      · obtain ⟨field, others, hfields⟩ := List.exists_cons_of_ne_nil (fields_ne_nil s)
        rw [hfields, List.cons_append] at ih
        rw [List.cons_append, fields_cons_of_ne hsep ih, fields_cons_of_ne hsep hfields,
          List.cons_append]

/-- Fields that are joined by a separator which none of them holds are cut apart again. -/
theorem fields_intercalate {parts : List (List Char)} (hparts : parts ≠ [])
    (hfree : ∀ part ∈ parts, separator ∉ part) :
    fields separator ([separator].intercalate parts) = parts := by
  induction parts with
  | nil => exact absurd rfl hparts
  | cons part parts ih =>
      have hpart := fields_of_not_mem (hfree part (List.mem_cons_self ..))
      cases parts with
      | nil => rw [List.intercalate_singleton, hpart]
      | cons other parts =>
          have hrest := ih (List.cons_ne_nil _ _) fun p hp => hfree p (List.mem_cons_of_mem _ hp)
          rw [List.intercalate_cons_cons, List.append_assoc, List.singleton_append,
            fields_append_separator, hpart, hrest, List.singleton_append]

/-- Every character of a text is the separator or stands in one of its fields. -/
theorem forall_mem_fields_iff {p : Char → Prop} (s : List Char) :
    (∀ field ∈ fields separator s, ∀ c ∈ field, p c) ↔ ∀ c ∈ s, c = separator ∨ p c := by
  induction s with
  | nil => simp [fields]
  | cons c s ih =>
      by_cases hsep : c = separator
      · subst c
        rw [fields_separator_cons]
        simpa using ih
      · obtain ⟨field, others, hfields⟩ := List.exists_cons_of_ne_nil (fields_ne_nil s)
        rw [hfields] at ih
        rw [fields_cons_of_ne hsep hfields]
        simp only [List.forall_mem_cons, or_iff_right hsep, and_assoc] at ih ⊢
        rw [ih]

theorem not_mem_of_mem_fields {s field : List Char} (hfield : field ∈ fields separator s) :
    separator ∉ field := by
  have hother : ∀ c ∈ s, c = separator ∨ c ≠ separator := fun c _ => em (c = separator)
  intro hmem
  exact (forall_mem_fields_iff s).mpr hother field hfield separator hmem rfl

/-- A last field without the separator can be read off the end of a text, whatever is before. -/
theorem append_separator_inj {s t field other : List Char} (hfield : separator ∉ field)
    (hother : separator ∉ other) :
    s ++ separator :: field = t ++ separator :: other ↔ s = t ∧ field = other := by
  constructor
  · intro heq
    have hfields := congrArg (fields separator) heq
    rw [fields_append_separator, fields_append_separator, fields_of_not_mem hfield,
      fields_of_not_mem hother] at hfields
    have hlast : field = other := (List.append_inj' hfields rfl).2 |> List.head_eq_of_cons_eq
    subst other
    exact ⟨List.append_cancel_right heq, rfl⟩
  · rintro ⟨rfl, rfl⟩
    rfl

/-- An ending without the separator ends the text exactly if it ends the last field. -/
theorem isSuffix_append_separator_iff {ending s field : List Char}
    (hending : separator ∉ ending) :
    ending <:+ s ++ separator :: field ↔ ending <:+ field := by
  constructor
  · intro hsuffix
    have hfield : separator :: field <:+ s ++ separator :: field := List.suffix_append _ _
    rcases List.suffix_or_suffix_of_suffix hsuffix hfield with hshort | hlong
    · rcases List.suffix_cons_iff.mp hshort with rfl | hshort
      · exact absurd (List.mem_cons_self ..) hending
      · exact hshort
    · exact absurd (hlong.subset (List.mem_cons_self ..)) hending
  · intro hsuffix
    exact hsuffix.trans ((List.suffix_cons _ _).trans (List.suffix_append _ _))

end SqlFixtures.Text
