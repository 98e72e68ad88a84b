import SqlFixtures.Proofs.Template.Variants
import Mathlib.Tactic

/-!
# Canonical token lists

The tokens of a template hold every character of it, in order.  They are also the only list of
tokens that is written as the template and obeys three rules: a run of text is not empty and holds
no percent sign, two runs of text are never neighbours, and a stray percent sign stands at the end
or before text that does not begin with an `s`.  The rules say that no token could have taken more
of what follows it.  So reading a template and writing tokens undo each other, and templates and
lists that obey the rules correspond one to one.
-/

namespace SqlFixtures.Template

/-- The template that is written as the tokens. -/
def ofTokens (ts : List Token) : String := String.ofList (ts.flatMap Token.source)

/-- A run of text is not empty and holds no percent sign. -/
def Token.IsSound : Token → Prop
  | text s => s ≠ [] ∧ '%' ∉ s
  | marker | escape | stray => True

/-- The token may stand right before `next`. -/
def Token.Admits : Token → Token → Prop
  | text _, text _ => False
  | stray, text s => s.head? ≠ some 's'
  | stray, _ => False
  | _, _ => True

/-- The rules that the tokens of every template obey. -/
structure Canonical (ts : List Token) : Prop where
  sound : ∀ token ∈ ts, token.IsSound
  neighbours : ts.IsChain Token.Admits

instance : (token : Token) → Decidable token.IsSound
  | .text s => inferInstanceAs (Decidable (s ≠ [] ∧ '%' ∉ s))
  | .marker | .escape | .stray => inferInstanceAs (Decidable True)

instance : (token next : Token) → Decidable (token.Admits next)
  | .text _, .text _ => inferInstanceAs (Decidable False)
  | .text _, .marker | .text _, .escape | .text _, .stray => inferInstanceAs (Decidable True)
  | .stray, .text s => inferInstanceAs (Decidable (s.head? ≠ some 's'))
  | .stray, .marker | .stray, .escape | .stray, .stray => inferInstanceAs (Decidable False)
  | .marker, _ | .escape, _ => inferInstanceAs (Decidable True)

theorem Token.text_admits_iff {s : List Char} {next : Token} :
    (text s).Admits next ↔ ∀ t, next ≠ text t := by
  cases next with
  | text t => simp [Admits]
  | marker => simp [Admits]
  | escape => simp [Admits]
  | stray => simp [Admits]

theorem Token.stray_admits_iff {next : Token} :
    stray.Admits next ↔ ∃ s, next = text s ∧ s.head? ≠ some 's' := by
  cases next with
  | text s => simp [Admits]
  | marker => simp [Admits]
  | escape => simp [Admits]
  | stray => simp [Admits]

theorem canonical_nil : Canonical [] := ⟨by simp, List.isChain_nil⟩

theorem canonical_cons_iff {token : Token} {ts : List Token} :
    Canonical (token :: ts) ↔
      token.IsSound ∧ (∀ next ∈ ts.head?, token.Admits next) ∧ Canonical ts := by
  constructor
  · rintro ⟨hsound, hchain⟩
    obtain ⟨htoken, hrest⟩ := List.forall_mem_cons.mp hsound
    obtain ⟨hnext, hneighbours⟩ := List.isChain_cons.mp hchain
    exact ⟨htoken, hnext, hrest, hneighbours⟩
  · rintro ⟨htoken, hnext, hrest, hneighbours⟩
    exact ⟨List.forall_mem_cons.mpr ⟨htoken, hrest⟩, List.isChain_cons.mpr ⟨hnext, hneighbours⟩⟩

/-! ## The tokens of a template -/

theorem exists_pushText_eq_cons (c : Char) (ts : List Token) :
    ∃ s rest, pushText c ts = .text (c :: s) :: rest := by
  rcases pushText_cases c ts with ⟨s, rest, -, hpush⟩ | hpush
  · exact ⟨s, rest, hpush⟩
  · exact ⟨[], ts, hpush⟩

theorem pushText_of_no_text {c : Char} {ts : List Token}
    (htext : ∀ next ∈ ts.head?, ∀ s, next ≠ .text s) : pushText c ts = .text [c] :: ts := by
  rcases pushText_cases c ts with ⟨s, rest, rfl, -⟩ | hpush
  · exact absurd rfl (htext (.text s) rfl s)
  · exact hpush

theorem canonical_pushText {c : Char} (hc : c ≠ '%') {ts : List Token} (hts : Canonical ts) :
    Canonical (pushText c ts) := by
  by_cases htext : ∀ next ∈ ts.head?, ∀ s, next ≠ .text s
  · rw [pushText_of_no_text htext, canonical_cons_iff]
    refine ⟨⟨by simp, by simpa using hc.symm⟩, ?_, hts⟩
    intro next hnext
    exact Token.text_admits_iff.mpr (htext next hnext)
  · push Not at htext
    obtain ⟨next, hnext, s, rfl⟩ := htext
    obtain ⟨rest, rfl⟩ := List.head?_eq_some_iff.mp hnext
    obtain ⟨⟨-, hpercent⟩, hneighbour, hrest⟩ := canonical_cons_iff.mp hts
    rw [pushText, canonical_cons_iff]
    refine ⟨⟨by simp, by simpa using ⟨hc.symm, hpercent⟩⟩, ?_, hrest⟩
    intro next hnext
    exact Token.text_admits_iff.mpr (Token.text_admits_iff.mp (hneighbour next hnext))

theorem canonical_tokens (cs : List Char) : Canonical (tokens cs) := by
  induction cs using tokens.induct with
  | case1 => exact canonical_nil
  | case2 rest ih => exact canonical_cons_iff.mpr ⟨trivial, fun _ _ => trivial, ih⟩
  | case3 rest ih => exact canonical_cons_iff.mpr ⟨trivial, fun _ _ => trivial, ih⟩
  | case4 rest hmarker hescape ih =>
      rw [tokens_stray hmarker hescape, canonical_cons_iff]
      refine ⟨trivial, ?_, ih⟩
      -- What comes next is not the end of a marker or of an escape, so it is text.
      cases rest with
      | nil => simp [tokens]
      | cons c rest =>
          have hs : c ≠ 's' := fun heq => hmarker rest (by rw [heq])
          have hc : c ≠ '%' := fun heq => hescape rest (by rw [heq])
          obtain ⟨s, others, hpush⟩ := exists_pushText_eq_cons c (tokens rest)
          rw [tokens_cons_of_ne hc, hpush]
          intro next hnext
          cases hnext
          exact Token.stray_admits_iff.mpr ⟨c :: s, rfl, by simpa using hs⟩
  | case5 c rest hmarker hescape hstray ih =>
      have hc : c ≠ '%' := fun heq => hstray heq
      rw [tokens_cons_of_ne hc]
      exact canonical_pushText hc ih

/-! ## Reading canonical tokens back -/

theorem tokens_text_append {s rest : List Char} (hs : s ≠ []) (hpercent : '%' ∉ s)
    (htext : ∀ next ∈ (tokens rest).head?, ∀ t, next ≠ .text t) :
    tokens (s ++ rest) = .text s :: tokens rest := by
  induction s with
  | nil => exact absurd rfl hs
  | cons c s ih =>
      rw [List.mem_cons, not_or] at hpercent
      rw [List.cons_append, tokens_cons_of_ne (Ne.symm hpercent.1)]
      cases s with
      | nil => exact pushText_of_no_text htext
      | cons d s =>
          rw [ih (List.cons_ne_nil d s) hpercent.2]
          rfl

theorem tokens_stray_append {ts : List Token} (hts : Canonical (.stray :: ts)) :
    tokens ('%' :: ts.flatMap Token.source) = .stray :: tokens (ts.flatMap Token.source) := by
  obtain ⟨-, hnext, hrest⟩ := canonical_cons_iff.mp hts
  cases ts with
  | nil => rfl
  | cons next ts =>
      obtain ⟨s, rfl, hs⟩ := Token.stray_admits_iff.mp (hnext next rfl)
      obtain ⟨⟨hne, hpercent⟩, -, -⟩ := canonical_cons_iff.mp hrest
      obtain ⟨c, s, rfl⟩ := List.exists_cons_of_ne_nil hne
      apply tokens_stray
      · intro others heq
        have hc : c = 's' := (List.cons.inj heq).1
        exact hs (by rw [hc, List.head?_cons])
      · intro others heq
        have hc : c = '%' := (List.cons.inj heq).1
        exact hpercent (by rw [hc]; exact List.mem_cons_self)

theorem tokens_flatMap_source {ts : List Token} (hts : Canonical ts) :
    tokens (ts.flatMap Token.source) = ts := by
  induction ts with
  | nil => rfl
  | cons token ts ih =>
      obtain ⟨hsound, hnext, hrest⟩ := canonical_cons_iff.mp hts
      have hread := ih hrest
      cases token with
      | text s =>
          rw [List.flatMap_cons, Token.source, tokens_text_append hsound.1 hsound.2, hread]
          intro next hmem
          rw [hread] at hmem
          exact Token.text_admits_iff.mp (hnext next hmem)
      | marker => exact congrArg (Token.marker :: ·) hread
      | escape => exact congrArg (Token.escape :: ·) hread
      | stray =>
          have hstray := tokens_stray_append hts
          rw [hread] at hstray
          exact hstray

theorem ofTokens_tokens (template : String) : ofTokens (tokens template.toList) = template := by
  rw [ofTokens, flatMap_source_tokens, String.ofList_toList]

theorem tokens_ofTokens {ts : List Token} (hts : Canonical ts) :
    tokens (ofTokens ts).toList = ts := by
  rw [ofTokens, String.toList_ofList, tokens_flatMap_source hts]

/-- Nothing of a template is lost in its tokens, which are canonical.  Canonical tokens are read
back from what they are written as, so that templates and canonical lists correspond one to one. -/
theorem templates_correspond_to_canonical_tokens :
    (∀ template : String,
      ofTokens (tokens template.toList) = template ∧ Canonical (tokens template.toList)) ∧
    (∀ ts, Canonical ts → tokens (ofTokens ts).toList = ts) ∧
    Set.BijOn (fun template : String => tokens template.toList) Set.univ
      {ts | Canonical ts} := by
  have hinverse : Set.InvOn ofTokens (fun template : String => tokens template.toList) Set.univ
      {ts | Canonical ts} :=
    ⟨fun template _ => ofTokens_tokens template, fun _ hts => tokens_ofTokens hts⟩
  refine ⟨fun template => ⟨ofTokens_tokens template, canonical_tokens _⟩,
    fun _ hts => tokens_ofTokens hts, hinverse.bijOn ?_ ?_⟩
  · exact fun template _ => canonical_tokens template.toList
  · exact fun _ _ => Set.mem_univ _

/-- Text that begins with an `s` is put after a marker and after an escape, and a stray percent sign
before other text and at the end. -/
theorem templates_correspond_to_canonical_tokens_around_signs :
    let ts : List Token :=
      [.marker, .text ['s'], .escape, .text ['s', '?'], .stray, .text [' '], .escape, .stray]
    Canonical ts ∧ ofTokens ts = "%ss%%s?% %%%" ∧ tokens "%ss%%s?% %%%".toList = ts := by
  intro ts
  have hts : Canonical ts := ⟨by decide, by decide⟩
  have htemplate : ofTokens ts = "%ss%%s?% %%%" := by decide
  have hread := templates_correspond_to_canonical_tokens.2.1 ts hts
  rw [htemplate] at hread
  exact ⟨hts, htemplate, hread⟩

end SqlFixtures.Template
