import SqlFixtures.Proofs.Template.Matching
import Mathlib.Tactic

/-!
# The two variants side by side

The literal variant is written from the tokens of a template.  The placeholder variant is written
by two replacements that know nothing of tokens, but it can be written from them as well: it is what
the literal variant would be with a question mark for every parameter, except that an `s` right
after an escape is taken for the end of a marker.  The percent sign in front of that `s` belongs to
the escape when a template is read from the left; the replacements give it to the `s`, and the
percent sign before it is left without a partner and stands for the escape.
-/

namespace SqlFixtures.Template

/-! ## Tokens and characters -/

/-- A character goes into the leading run of text or makes a run of its own. -/
theorem pushText_cases (c : Char) (ts : List Token) :
    (∃ s rest, ts = .text s :: rest ∧ pushText c ts = .text (c :: s) :: rest) ∨
      pushText c ts = .text [c] :: ts := by
  unfold pushText
  split
  next s rest => exact Or.inl ⟨s, rest, rfl, rfl⟩
  next => exact Or.inr rfl

theorem tokens_stray {rest : List Char} (hmarker : ∀ others, rest ≠ 's' :: others)
    (hescape : ∀ others, rest ≠ '%' :: others) :
    tokens ('%' :: rest) = .stray :: tokens rest := by
  rw [tokens]
  · exact hmarker
  · exact hescape

/-- Nothing of a template is lost in its tokens. -/
theorem flatMap_source_tokens (cs : List Char) : (tokens cs).flatMap Token.source = cs := by
  induction cs using tokens.induct with
  | case1 => rfl
  | case2 rest ih => simp [tokens, Token.source, ih]
  | case3 rest ih => simp [tokens, Token.source, ih]
  | case4 rest hmarker hescape ih =>
      rw [tokens_stray hmarker hescape, List.flatMap_cons, ih]
      rfl
  | case5 c rest hmarker hescape hstray ih =>
      have hc : c ≠ '%' := fun heq => hstray heq
      rw [tokens_cons_of_ne hc]
      rcases pushText_cases c (tokens rest) with ⟨s, others, htokens, hpush⟩ | hpush
      · rw [htokens] at ih
        rw [hpush, List.flatMap_cons, Token.source, List.cons_append]
        exact congrArg (c :: ·) ih
      · rw [hpush, List.flatMap_cons, ih]
        rfl

/-- The tokens go on with an `s`. -/
def startsWithS : List Token → Bool
  | .text ('s' :: _) :: _ => true
  | _ => false

theorem startsWithS_iff {ts : List Token} :
    startsWithS ts ↔ ∃ s rest, ts = .text ('s' :: s) :: rest := by
  unfold startsWithS
  split
  next s rest => simp
  next hother =>
    simp only [Bool.false_eq_true, false_iff]
    rintro ⟨s, rest, rfl⟩
    exact hother s rest rfl

theorem startsWithS_pushText_iff {c : Char} {ts : List Token} :
    startsWithS (pushText c ts) ↔ c = 's' := by
  rw [startsWithS_iff]
  rcases pushText_cases c ts with ⟨s, rest, -, hpush⟩ | hpush
  · simp [hpush]
  · simp [hpush]

theorem startsWithS_tokens_iff {cs : List Char} :
    startsWithS (tokens cs) ↔ cs.head? = some 's' := by
  cases cs with
  | nil => simp [tokens, startsWithS]
  | cons c rest =>
      by_cases hc : c = '%'
      · subst c
        have hfalse : startsWithS (tokens ('%' :: rest)) = false := by
          rw [tokens.eq_def]
          split
          next => rfl
          next => rfl
          next => rfl
          next => rfl
          next hstray heq => exact absurd (List.cons.inj heq).1.symm hstray
        simp [hfalse]
      · rw [tokens_cons_of_ne hc, startsWithS_pushText_iff, List.head?_cons, Option.some_inj]

/-! ## What the variants write for a token -/

/-- What the literal variant writes if every parameter is a question mark. -/
def Token.written : Token → List Char
  | text s => s
  | marker => ['?']
  | escape | stray => ['%']

def written (ts : List Token) : List Char := ts.flatMap Token.written

/-- What the placeholder variant writes: a question mark also for an `s` right after an escape. -/
def bound : List Token → List Char
  | [] => []
  | .escape :: ts => '%' :: if startsWithS ts then (bound ts).set 0 '?' else bound ts
  | token :: ts => token.written ++ bound ts

theorem written_cons (token : Token) (ts : List Token) :
    written (token :: ts) = token.written ++ written ts := List.flatMap_cons

theorem bound_cons_of_ne {token : Token} (hescape : token ≠ .escape) (ts : List Token) :
    bound (token :: ts) = token.written ++ bound ts := by
  rw [bound]
  exact hescape

theorem bound_pushText (c : Char) (ts : List Token) : bound (pushText c ts) = c :: bound ts := by
  rcases pushText_cases c ts with ⟨s, rest, rfl, hpush⟩ | hpush
  · rw [hpush]
    rfl
  · rw [hpush]
    rfl

theorem length_bound (ts : List Token) : (bound ts).length = (written ts).length := by
  induction ts using bound.induct with
  | case1 => rfl
  | case2 ts ih =>
      rw [bound, written_cons, Token.written, List.length_cons, List.length_append,
        List.length_singleton, ← ih]
      split
      · rw [List.length_set, Nat.add_comm]
      · rw [Nat.add_comm]
  | case3 token ts hescape ih =>
      rw [bound_cons_of_ne hescape, written_cons, List.length_append, List.length_append, ih]

/-- The placeholder variant is written from the tokens. -/
theorem unescape_bindMarkers (cs : List Char) : unescape (bindMarkers cs) = bound (tokens cs) := by
  induction cs using tokens.induct with
  | case1 => rfl
  | case2 rest ih =>
      rw [bindMarkers, tokens, bound_cons_of_ne (by simp), ← ih]
      exact unescape_cons_of_ne (by simp)
  | case3 rest ih =>
      have hfirst : bindMarkers ('%' :: '%' :: rest) = '%' :: bindMarkers ('%' :: rest) :=
        bindMarkers_cons_of_ne (by simp)
      rw [hfirst, tokens, bound, ← ih]
      by_cases hs : rest.head? = some 's'
      · obtain ⟨rest, rfl⟩ := List.head?_eq_some_iff.mp hs
        have hkept : bindMarkers ('s' :: rest) = 's' :: bindMarkers rest :=
          bindMarkers_cons_of_ne (by simp)
        rw [if_pos (startsWithS_tokens_iff.mpr hs), hkept, bindMarkers,
          unescape_cons_of_ne (by simp), unescape_cons_of_ne (by simp),
          unescape_cons_of_ne (by simp)]
        rfl
      · rw [if_neg (fun h => hs (startsWithS_tokens_iff.mp h)),
          bindMarkers_cons_of_ne (by simpa using hs), unescape]
  | case4 rest hmarker hescape ih =>
      have hstray : bindMarkers ('%' :: rest) = '%' :: bindMarkers rest := by
        apply bindMarkers_cons_of_ne
        rintro ⟨-, hhead⟩
        obtain ⟨rest, rfl⟩ := List.head?_eq_some_iff.mp hhead
        exact hmarker rest rfl
      have halone : ¬ ('%' = '%' ∧ (bindMarkers rest).head? = some '%') := by
        cases rest with
        | nil => simp [bindMarkers]
        | cons c rest =>
            have hc : c ≠ '%' := by
              rintro rfl
              exact hescape rest rfl
            simp [bindMarkers_cons_of_ne, hc]
      rw [hstray, unescape_cons_of_ne halone, ih, tokens_stray hmarker hescape]
      rfl
  | case5 c rest hmarker hescape hstray ih =>
      have hc : c ≠ '%' := fun heq => hstray heq
      rw [bindMarkers_cons_of_ne (by simp [hc]), unescape_cons_of_ne (by simp [hc]),
        tokens_cons_of_ne hc, bound_pushText, ih]

theorem toList_placeholder (template : String) :
    (placeholder template).toList = bound (tokens template.toList) := by
  rw [placeholder, String.toList_ofList, unescape_bindMarkers]

/-! ## Question marks for all parameters -/

def questionMarks (n : Nat) : Value := .list (List.replicate n (.text "?"))

theorem fill_questionMarks {ts : List Token} (hstray : Token.stray ∉ ts) :
    fill ts (List.replicate (ts.count .marker) ['?']) = some (written ts) := by
  induction ts with
  | nil => rfl
  | cons token ts ih =>
      rw [List.mem_cons, not_or] at hstray
      have hrest := ih hstray.2
      cases token with
      | text s => simp [fill, hrest, written_cons, Token.written]
      | marker => simp [fill, hrest, written_cons, Token.written, List.replicate_succ]
      | escape => simp [fill, hrest, written_cons, Token.written]
      | stray => exact absurd rfl hstray.1

theorem literalOf_questionMarks {template : String} (hmarker : 1 ≤ countMarkers template)
    (hstray : Token.stray ∉ tokens template.toList) :
    literalOf template (questionMarks (countMarkers template)) =
      .ok (String.ofList (written (tokens template.toList))) := by
  have hgiven : (questionMarks (countMarkers template)).elements =
      .ok (List.replicate (countMarkers template) (.text "?")) := rfl
  have hvalues : List.replicate (countMarkers template) (Value.text "?") ≠ [] := by
    rw [ne_eq, List.replicate_eq_nil_iff]
    omega
  have htexts : parameterTexts (List.replicate (countMarkers template) (.text "?")) =
      List.replicate (countMarkers template) ['?'] := List.map_replicate
  rw [literalOf_eq_literal hgiven, literal_eq_ok_iff_fill hvalues, htexts]
  exact ⟨List.length_replicate.symm, _, fill_questionMarks hstray, rfl⟩

/-! ## Where the variants differ -/

/-- The character at place `i` of what is written for the tokens is an `s` right after an escape. -/
def FollowsEscape (ts : List Token) (i : Nat) : Prop :=
  ∃ before s after, ts = before ++ .escape :: .text ('s' :: s) :: after ∧
    i = (written before).length + 1

theorem followsEscape_cons_iff {token : Token} {ts : List Token} {i : Nat} :
    FollowsEscape (token :: ts) i ↔
      (token = .escape ∧ startsWithS ts ∧ i = 1) ∨
        ∃ j, FollowsEscape ts j ∧ i = token.written.length + j := by
  constructor
  · rintro ⟨before, s, after, hsplit, rfl⟩
    cases before with
    | nil =>
        obtain ⟨rfl, rfl⟩ := List.cons.inj hsplit
        exact Or.inl ⟨rfl, rfl, rfl⟩
    | cons first before =>
        obtain ⟨rfl, rfl⟩ := List.cons.inj hsplit
        refine Or.inr ⟨_, ⟨before, s, after, rfl, rfl⟩, ?_⟩
        rw [written_cons, List.length_append, Nat.add_assoc]
  · rintro (⟨rfl, hs, rfl⟩ | ⟨j, ⟨before, s, after, rfl, rfl⟩, rfl⟩)
    · obtain ⟨s, rest, rfl⟩ := startsWithS_iff.mp hs
      exact ⟨[], s, rest, rfl, rfl⟩
    · refine ⟨token :: before, s, after, rfl, ?_⟩
      rw [written_cons, List.length_append, Nat.add_assoc]

theorem getElem?_written_of_followsEscape {ts : List Token} {i : Nat}
    (hfollows : FollowsEscape ts i) : (written ts)[i]? = some 's' := by
  obtain ⟨before, s, after, rfl, rfl⟩ := hfollows
  have hsplit : written (before ++ .escape :: .text ('s' :: s) :: after) =
      written before ++ '%' :: 's' :: (s ++ written after) := by
    simp [written, Token.written]
  rw [hsplit, List.getElem?_append_right (Nat.le_add_right _ _), Nat.add_sub_cancel_left]
  rfl

theorem not_followsEscape_nil (i : Nat) : ¬ FollowsEscape [] i := by
  rintro ⟨before, s, after, hsplit, -⟩
  simp at hsplit

theorem followsEscape_cons_of_ne_iff {token : Token} (hescape : token ≠ .escape) {ts : List Token}
    {j : Nat} : FollowsEscape (token :: ts) (token.written.length + j) ↔ FollowsEscape ts j := by
  rw [followsEscape_cons_iff]
  constructor
  · rintro (⟨heq, -⟩ | ⟨k, hfollows, hk⟩)
    · exact absurd heq hescape
    · rwa [Nat.add_left_cancel hk]
  · intro hfollows
    exact Or.inr ⟨j, hfollows, rfl⟩

theorem followsEscape_escape_succ_iff {ts : List Token} {j : Nat} :
    FollowsEscape (.escape :: ts) (j + 1) ↔ (startsWithS ts ∧ j = 0) ∨ FollowsEscape ts j := by
  have hlength : Token.escape.written.length = 1 := rfl
  rw [followsEscape_cons_iff, hlength]
  constructor
  · rintro (⟨-, hs, hj⟩ | ⟨k, hfollows, hk⟩)
    · exact Or.inl ⟨hs, by omega⟩
    · obtain rfl : j = k := by omega
      exact Or.inr hfollows
  · rintro (⟨hs, rfl⟩ | hfollows)
    · exact Or.inl ⟨rfl, hs, rfl⟩
    · exact Or.inr ⟨j, hfollows, Nat.add_comm j 1⟩

theorem not_followsEscape_of_lt {token : Token} {ts : List Token} {i : Nat}
    (hlt : i < token.written.length) : ¬ FollowsEscape (token :: ts) i := by
  rw [followsEscape_cons_iff]
  rintro (⟨rfl, -, rfl⟩ | ⟨j, -, rfl⟩)
  · exact absurd hlt (by decide)
  · omega

theorem exists_bound_eq_cons {ts : List Token} (hs : startsWithS ts) :
    ∃ rest, bound ts = 's' :: rest := by
  obtain ⟨s, rest, rfl⟩ := startsWithS_iff.mp hs
  exact ⟨s ++ bound rest, rfl⟩

/-- The placeholder variant has a question mark where an `s` follows an escape, and elsewhere what
the literal variant has. -/
theorem getElem?_bound (ts : List Token) (i : Nat) :
    (FollowsEscape ts i → (bound ts)[i]? = some '?') ∧
      (¬ FollowsEscape ts i → (bound ts)[i]? = (written ts)[i]?) := by
  induction ts using bound.induct generalizing i with
  | case1 => exact ⟨fun hfollows => absurd hfollows (not_followsEscape_nil i), fun _ => rfl⟩
  | case2 ts ih =>
      rw [bound, written_cons]
      cases i with
      | zero =>
          have hnot : ¬ FollowsEscape (.escape :: ts) 0 := not_followsEscape_of_lt (by decide)
          exact ⟨fun hfollows => absurd hfollows hnot, fun _ => rfl⟩
      | succ j =>
          change (_ → ('%' :: _)[j + 1]? = _) ∧ (_ → ('%' :: _)[j + 1]? = ('%' :: _)[j + 1]?)
          rw [followsEscape_escape_succ_iff, List.getElem?_cons_succ, List.getElem?_cons_succ]
          by_cases hs : startsWithS ts
          · obtain ⟨rest, hbound⟩ := exists_bound_eq_cons hs
            rw [if_pos hs]
            cases j with
            | zero => simp [hs, hbound]
            | succ j =>
                rw [List.getElem?_set_ne (by simp)]
                simpa using ih (j + 1)
          · rw [if_neg hs]
            simpa [hs] using ih j
  | case3 token ts hescape ih =>
      rw [bound_cons_of_ne hescape, written_cons]
      by_cases hlt : i < token.written.length
      · have hnot : ¬ FollowsEscape (token :: ts) i := not_followsEscape_of_lt hlt
        rw [List.getElem?_append_left hlt, List.getElem?_append_left hlt]
        exact ⟨fun hfollows => absurd hfollows hnot, fun _ => rfl⟩
      · obtain ⟨j, rfl⟩ := Nat.exists_eq_add_of_le (Nat.le_of_not_lt hlt)
        rw [followsEscape_cons_of_ne_iff hescape, List.getElem?_append_right (Nat.le_add_right _ _),
          List.getElem?_append_right (Nat.le_add_right _ _), Nat.add_sub_cancel_left]
        exact ih j

/-! ## Counting question marks -/

/-- The number of escapes that are directly followed by an `s`. -/
def escapesBeforeS : List Token → Nat
  | [] => 0
  | .escape :: ts => (if startsWithS ts then 1 else 0) + escapesBeforeS ts
  | _ :: ts => escapesBeforeS ts

theorem count_bound (ts : List Token) :
    (bound ts).count '?' =
      (ts.flatMap Token.source).count '?' + ts.count .marker + escapesBeforeS ts := by
  induction ts using bound.induct with
  | case1 => rfl
  | case2 ts ih =>
      by_cases hs : startsWithS ts
      · obtain ⟨rest, hbound⟩ := exists_bound_eq_cons hs
        rw [hbound] at ih
        simp [bound, hs, hbound, escapesBeforeS, Token.source] at ih ⊢
        omega
      · simp [bound, hs, escapesBeforeS, Token.source, ih]
  | case3 token ts hescape ih =>
      rw [bound_cons_of_ne hescape, List.count_append, ih]
      cases token with
      | text s => simp [Token.written, Token.source, escapesBeforeS]; omega
      | marker => simp [Token.written, Token.source, escapesBeforeS]; omega
      | escape => exact absurd rfl hescape
      | stray => simp [Token.written, Token.source, escapesBeforeS]

theorem escapesBeforeS_eq_zero_iff {ts : List Token} :
    escapesBeforeS ts = 0 ↔ ∀ i, ¬ FollowsEscape ts i := by
  induction ts using escapesBeforeS.induct with
  | case1 => exact ⟨fun _ => not_followsEscape_nil, fun _ => rfl⟩
  | case2 ts ih =>
      have hplaces : (∀ i, ¬ FollowsEscape (.escape :: ts) i) ↔
          ¬ startsWithS ts ∧ ∀ j, ¬ FollowsEscape ts j := by
        constructor
        · intro hnone
          have hsucc (j : Nat) := mt followsEscape_escape_succ_iff.mpr (hnone (j + 1))
          exact ⟨fun hs => hsucc 0 (Or.inl ⟨hs, rfl⟩), fun j hfollows => hsucc j (Or.inr hfollows)⟩
        · rintro ⟨hs, hnone⟩ i hfollows
          rcases followsEscape_cons_iff.mp hfollows with ⟨-, hstarts, -⟩ | ⟨j, hfollows, -⟩
          · exact hs hstarts
          · exact hnone j hfollows
      rw [hplaces, ← ih, escapesBeforeS]
      by_cases hs : startsWithS ts
      · simp [hs]
      · simp [hs]
  | case3 token ts hescape ih =>
      have hskip : escapesBeforeS (token :: ts) = escapesBeforeS ts := by
        rw [escapesBeforeS]
        exact hescape
      rw [hskip, ih]
      constructor
      · intro hnone i hfollows
        rcases followsEscape_cons_iff.mp hfollows with ⟨heq, -⟩ | ⟨j, hfollows, -⟩
        · exact hescape heq
        · exact hnone j hfollows
      · intro hnone j hfollows
        exact hnone _ ((followsEscape_cons_of_ne_iff hescape).mpr hfollows)

/-- With a question mark for every parameter, the two variants of a template without stray percent
signs are equally long and differ at every `s` right after an escape and nowhere else: the literal
variant keeps the `s`, the placeholder variant has a question mark there.  In any template the
question marks of the placeholder variant are those of the template, one for each marker and one
for each escape right before an `s`. -/
theorem variants_differ_after_escapes (template : String) :
    (1 ≤ countMarkers template → Token.stray ∉ tokens template.toList →
      ∃ sql, literalOf template (questionMarks (countMarkers template)) = .ok sql ∧
        sql.toList = written (tokens template.toList) ∧
        sql.length = (placeholder template).length ∧
        (∀ i, sql.toList[i]? ≠ (placeholder template).toList[i]? ↔
          FollowsEscape (tokens template.toList) i) ∧
        (∀ i, FollowsEscape (tokens template.toList) i →
          sql.toList[i]? = some 's' ∧ (placeholder template).toList[i]? = some '?') ∧
        (sql = placeholder template ↔ escapesBeforeS (tokens template.toList) = 0)) ∧
    (placeholder template).toList.count '?' =
      template.toList.count '?' + countMarkers template +
        escapesBeforeS (tokens template.toList) := by
  have hplaceholder := toList_placeholder template
  constructor
  · intro hmarker hstray
    have hboth (i : Nat) (hfollows : FollowsEscape (tokens template.toList) i) :
        (written (tokens template.toList))[i]? = some 's' ∧
          (bound (tokens template.toList))[i]? = some '?' :=
      ⟨getElem?_written_of_followsEscape hfollows, (getElem?_bound _ i).1 hfollows⟩
    have hdiffer (i : Nat) : (written (tokens template.toList))[i]? ≠
        (bound (tokens template.toList))[i]? ↔ FollowsEscape (tokens template.toList) i := by
      constructor
      · intro hne
        by_contra hnot
        exact hne ((getElem?_bound _ i).2 hnot).symm
      · intro hfollows
        obtain ⟨hliteral, hquestion⟩ := hboth i hfollows
        rw [hliteral, hquestion]
        decide
    refine ⟨_, literalOf_questionMarks hmarker hstray, String.toList_ofList, ?_, ?_, ?_, ?_⟩
    · rw [← String.length_toList, ← String.length_toList, hplaceholder, String.toList_ofList,
        length_bound]
    · simpa only [hplaceholder, String.toList_ofList] using hdiffer
    · simpa only [hplaceholder, String.toList_ofList] using hboth
    · rw [escapesBeforeS_eq_zero_iff, ← String.toList_inj, hplaceholder, String.toList_ofList,
        List.ext_getElem?_iff]
      simp only [← hdiffer, ne_eq, not_not]
  · rw [hplaceholder, count_bound, flatMap_source_tokens]
    rfl

/-- A question mark of the template, a marker, an escape before an `s` and one before a marker. -/
theorem variants_differ_after_escapes_of_three_percent_signs :
    let template := "?%s%%s%%%s"
    1 ≤ countMarkers template ∧ Token.stray ∉ tokens template.toList ∧
      (∃ sql, literalOf template (questionMarks 2) = .ok sql ∧
        sql.toList[3]? = some 's' ∧ (placeholder template).toList[3]? = some '?' ∧
        sql ≠ placeholder template) ∧
      (placeholder template).toList.count '?' = 4 := by
  intro template
  have hmarkers : countMarkers template = 2 := by decide
  have hmarker : 1 ≤ countMarkers template := by decide
  have hstray : Token.stray ∉ tokens template.toList := by decide
  have hescapes : escapesBeforeS (tokens template.toList) = 1 := by decide
  have hasked : template.toList.count '?' = 1 := by decide
  obtain ⟨hvariants, hcount⟩ := variants_differ_after_escapes template
  obtain ⟨sql, hliteral, -, -, -, hboth, hequal⟩ := hvariants hmarker hstray
  rw [hmarkers] at hliteral
  rw [hmarkers, hescapes, hasked] at hcount
  have hfollows : FollowsEscape (tokens template.toList) 3 :=
    ⟨[.text ['?'], .marker], [], [.escape, .marker], by decide, by decide⟩
  have hdiffer : sql ≠ placeholder template := by
    rw [ne_eq, hequal, hescapes]
    decide
  exact ⟨hmarker, hstray, ⟨sql, hliteral, (hboth 3 hfollows).1, (hboth 3 hfollows).2, hdiffer⟩,
    hcount⟩

end SqlFixtures.Template
