import SqlFixtures.Xml.Markup
import SqlFixtures.Xml.Tag
import Mathlib.Tactic

/-!
# Tags that were written

An attribute is written as a blank, its name, an equals sign and its raw value between double
quotes.  A greater-than sign in the value does not end the tag, so the markup of a tag whose
attributes are written like this is cut where it was meant to end, and its name and attributes are
found again.
-/

namespace SqlFixtures.Xml

def quotedPair (pair : List Char × List Char) : List Char :=
  ' ' :: pair.1 ++ ['=', '"'] ++ pair.2 ++ ['"']

/-- Nothing in the name or in the raw value is taken for the end of either. -/
structure IsQuotable (pair : List Char × List Char) : Prop where
  name_ne_nil : pair.1 ≠ []
  name_plain : ∀ c ∈ pair.1, c ∉ ['=', '>', '"', '\''] ∧ isSpace c = false
  value_plain : '"' ∉ pair.2

namespace Markup

variable {alphabet : Alphabet}

/-- Inside a tag the characters are read without coming to its end. -/
def StaysInTag (alphabet : Alphabet) (s : List Char) : Prop :=
  ∀ rest, tag alphabet none (s ++ rest) =
    (tag alphabet none rest).map fun reading => (s ++ reading.1, reading.2)

theorem staysInTag_append {s t : List Char} (hs : StaysInTag alphabet s)
    (ht : StaysInTag alphabet t) : StaysInTag alphabet (s ++ t) := by
  intro rest
  rw [List.append_assoc, hs, ht, Option.map_map]
  simp [Function.comp_def]

theorem staysInTag_of_unquoted {s : List Char} (hs : ∀ c ∈ s, c ∉ ['>', '"', '\'']) :
    StaysInTag alphabet s := by
  intro rest
  induction s with
  | nil => simp
  | cons c s ih =>
      obtain ⟨hc, hs⟩ := List.forall_mem_cons.mp hs
      have hends : c ≠ '>' := fun heq => hc (by simp [heq])
      have hquotes : ¬ (c = '"' ∨ c = '\'') := fun heq => hc (by simp [heq])
      rw [List.cons_append, tag, if_neg hends, if_neg hquotes, ih hs, Option.map_map]
      rfl

theorem tag_quoted {s : List Char} (hs : '"' ∉ s) (rest : List Char) :
    tag alphabet (some '"') (s ++ '"' :: rest) =
      (tag alphabet none rest).map fun reading => (s ++ '"' :: reading.1, reading.2) := by
  induction s with
  | nil => rw [List.nil_append, tag, if_pos rfl]; rfl
  | cons c s ih =>
      have hc : c ≠ '"' := (List.ne_of_not_mem_cons hs).symm
      rw [List.cons_append, tag, if_neg hc, ih (List.not_mem_of_not_mem_cons hs), Option.map_map]
      rfl

theorem staysInTag_quoted {s : List Char} (hs : '"' ∉ s) :
    StaysInTag alphabet ('"' :: s ++ ['"']) := by
  intro rest
  have happend : '"' :: s ++ ['"'] ++ rest = '"' :: (s ++ '"' :: rest) := by simp
  rw [happend, tag, if_neg (by decide), if_pos (by decide), tag_quoted hs, Option.map_map]
  simp [Function.comp_def]

theorem staysInTag_quotedPair {pair : List Char × List Char} (hpair : IsQuotable pair) :
    StaysInTag alphabet (quotedPair pair) := by
  have hname : StaysInTag alphabet (' ' :: pair.1 ++ ['=']) := by
    apply staysInTag_of_unquoted
    intro c hc
    have hcases : c = ' ' ∨ c ∈ pair.1 ∨ c = '=' := by simpa [or_assoc] using hc
    rcases hcases with rfl | hmem | rfl
    · decide
    · exact fun hin => (hpair.name_plain c hmem).1 (List.mem_cons_of_mem _ hin)
    · decide
  have hpair := staysInTag_append hname (staysInTag_quoted hpair.value_plain)
  have hsplit : quotedPair pair = ' ' :: pair.1 ++ ['='] ++ ('"' :: pair.2 ++ ['"']) := by
    simp [quotedPair]
  rw [hsplit]
  exact hpair

theorem staysInTag_quotedPairs {pairs : List (List Char × List Char)}
    (hpairs : ∀ pair ∈ pairs, IsQuotable pair) :
    StaysInTag alphabet (pairs.flatMap quotedPair) := by
  induction pairs with
  | nil => exact staysInTag_of_unquoted (by simp)
  | cons pair pairs ih =>
      obtain ⟨hpair, hpairs⟩ := List.forall_mem_cons.mp hpairs
      exact staysInTag_append (staysInTag_quotedPair hpair) (ih hpairs)

/-- At the beginning of a tag the character opens no other markup, and nowhere does it end one. -/
def isPlain (c : Char) : Bool := c ∉ ['!', '?', '>', '"', '\'']

theorem content_tag {name attributes : List Char} (hne : name ≠ []) (hname : name.all isPlain)
    (hattributes : StaysInTag alphabet attributes) (rest : List Char) :
    content alphabet ('<' :: (name ++ attributes) ++ '>' :: rest) =
      (content alphabet rest).map (.tag (name ++ attributes) :: ·) := by
  obtain ⟨c, name, rfl⟩ := List.exists_cons_of_ne_nil hne
  rw [List.all_cons, Bool.and_eq_true, List.all_eq_true] at hname
  have hc : c ∉ ['!', '?', '>', '"', '\''] := of_decide_eq_true hname.1
  have hplain : ∀ d ∈ name, d ∉ ['>', '"', '\''] := by
    intro d hd hin
    exact of_decide_eq_true (hname.2 d hd) (List.mem_cons_of_mem _ (List.mem_cons_of_mem _ hin))
  have hstays : StaysInTag alphabet (name ++ attributes) :=
    staysInTag_append (staysInTag_of_unquoted hplain) hattributes
  have htag : tag alphabet none (name ++ attributes ++ '>' :: rest) =
      (content alphabet rest).map fun pieces => (name ++ attributes, pieces) := by
    rw [hstays, tag, if_pos rfl, Option.map_map]
    simp [Function.comp_def]
  rw [List.cons_append, List.cons_append, List.cons_append, content, markup, htag, Option.map_map]
  · rfl
  · exact List.ne_of_not_mem_cons hc
  · exact List.ne_of_not_mem_cons (List.not_mem_of_not_mem_cons hc)

theorem content_text {c : Char} (hc : c ∉ ['<', '&', ']']) (rest : List Char) :
    content alphabet (c :: rest) = (content alphabet rest).map (.text c :: ·) := by
  have hrest := List.not_mem_of_not_mem_cons hc
  rw [content]
  · exact List.ne_of_not_mem_cons hc
  · exact List.ne_of_not_mem_cons hrest
  · intro _ heq
    exact absurd heq (List.ne_of_not_mem_cons (List.not_mem_of_not_mem_cons hrest))

end Markup

namespace Pairs

theorem value_quoted {raw : List Char} (hraw : '"' ∉ raw) (rest : List Char) :
    value '"' (raw ++ '"' :: rest) = (afterValue rest).map fun pairs => (raw, pairs) := by
  induction raw with
  | nil => rw [List.nil_append, value, if_pos rfl]
  | cons c raw ih =>
      have hc : c ≠ '"' := (List.ne_of_not_mem_cons hraw).symm
      rw [List.cons_append, value, if_neg hc, ih (List.not_mem_of_not_mem_cons hraw),
        Option.map_map]
      rfl

theorem name_quoted {n raw : List Char} (hname : ∀ c ∈ n, c ≠ '=' ∧ isSpace c = false)
    (hraw : '"' ∉ raw) (rest : List Char) :
    name (n ++ '=' :: '"' :: (raw ++ '"' :: rest)) =
      (afterValue rest).map fun pairs => (n, raw, pairs) := by
  induction n with
  | nil =>
      rw [List.nil_append, name, if_pos rfl, beforeValue, if_pos (Or.inl rfl), value_quoted hraw,
        Option.map_map]
      rfl
  | cons c n ih =>
      obtain ⟨hc, hname⟩ := List.forall_mem_cons.mp hname
      rw [List.cons_append, name, if_neg hc.1, hc.2, if_neg Bool.false_ne_true, ih hname,
        Option.map_map]
      rfl

theorem afterValue_quotedPair {pair : List Char × List Char} (hpair : IsQuotable pair)
    (rest : List Char) :
    afterValue (quotedPair pair ++ rest) = (afterValue rest).map (pair :: ·) := by
  have hname : ∀ c ∈ pair.1, c ≠ '=' ∧ isSpace c = false := by
    intro c hc
    obtain ⟨hplain, hspace⟩ := hpair.name_plain c hc
    exact ⟨List.ne_of_not_mem_cons hplain, hspace⟩
  obtain ⟨c, n, hcons⟩ := List.exists_cons_of_ne_nil hpair.name_ne_nil
  rw [hcons] at hname
  obtain ⟨hc, hn⟩ := List.forall_mem_cons.mp hname
  have hquoted : quotedPair pair ++ rest =
      ' ' :: c :: (n ++ '=' :: '"' :: (pair.2 ++ '"' :: rest)) := by
    simp [quotedPair, hcons]
  rw [hquoted, afterValue, if_pos (by decide), gap, hc.2, if_neg Bool.false_ne_true,
    name_quoted hn hpair.value_plain, Option.map_map]
  simp [Function.comp_def, ← hcons]

theorem read_quotedPairs {pairs : List (List Char × List Char)}
    (hpairs : ∀ pair ∈ pairs, IsQuotable pair) :
    read (pairs.flatMap quotedPair ++ [' ']) = some pairs := by
  induction pairs with
  | nil => rfl
  | cons pair pairs ih =>
      obtain ⟨hpair, hpairs⟩ := List.forall_mem_cons.mp hpairs
      have hrest : afterValue (pairs.flatMap quotedPair ++ [' ']) = some pairs := ih hpairs
      rw [read, List.flatMap_cons, List.append_assoc, afterValue_quotedPair hpair, hrest,
        Option.map_some]

end Pairs

namespace Tag

variable {alphabet : Alphabet}

/-- The raw text of a tag that opens an element and ends it at once. -/
def selfClosing (name : List Char) (pairs : List (List Char × List Char)) : List Char :=
  name ++ pairs.flatMap quotedPair ++ [' ', '/']

theorem exists_quotedPairs_eq_cons (pairs : List (List Char × List Char)) :
    ∃ rest, pairs.flatMap quotedPair ++ [' '] = ' ' :: rest := by
  cases pairs with
  | nil => exact ⟨[], rfl⟩
  | cons pair pairs => exact ⟨_, by rw [List.flatMap_cons, quotedPair]; rfl⟩

theorem ofRaw_selfClosing {name : List Char} {pairs : List (List Char × List Char)}
    (hname : name.all fun c => c ≠ '/' && !isSpace c) (hqualified : alphabet.isQualifiedName name)
    (hpairs : ∀ pair ∈ pairs, IsQuotable pair)
    (hnames : (pairs.map (·.1)).all alphabet.isQualifiedName) (hnodup : (pairs.map (·.1)).Nodup) :
    ofRaw alphabet (selfClosing name pairs) = some (.opening ⟨name, pairs, true⟩) := by
  obtain ⟨rest, hrest⟩ := exists_quotedPairs_eq_cons pairs
  have hraw : selfClosing name pairs = name ++ ' ' :: rest ++ ['/'] := by
    simp [selfClosing, ← hrest]
  have hplain : ∀ c ∈ name, c ≠ '/' ∧ isSpace c = false := by simpa using hname
  have hwords : ∀ c ∈ name, (!isSpace c) = true := by
    intro c hc
    simp [hplain c hc]
  have htake : (name ++ ' ' :: rest).takeWhile (!isSpace ·) = name := by
    rw [List.takeWhile_append_of_pos hwords]
    simp [isSpace]
  have hdrop : (name ++ ' ' :: rest).dropWhile (!isSpace ·) = ' ' :: rest := by
    rw [List.dropWhile_append_of_pos hwords]
    simp [isSpace]
  have hopening : openingOf alphabet (name ++ ' ' :: rest) true =
      some (.opening ⟨name, pairs, true⟩) := by
    have hread := Pairs.read_quotedPairs hpairs
    rw [openingOf, htake, hdrop, ← hrest, hread]
    simp [hqualified, hnames, hnodup]
  have hnotClosing : ∀ rest', name ++ ' ' :: rest ++ ['/'] ≠ '/' :: rest' := by
    intro rest' heq
    cases name with
    | nil => exact absurd (List.cons.inj heq).1 (by decide)
    | cons c name => exact (hplain c (List.mem_cons_self ..)).1 (List.cons.inj heq).1
  rw [hraw, ofRaw, if_pos (List.getLast?_concat ..), List.dropLast_concat, hopening]
  exact hnotClosing

end Tag

theorem Markup.content_selfClosing {alphabet : Alphabet} {name : List Char}
    {pairs : List (List Char × List Char)} (hne : name ≠ [])
    (hname : name.all isPlain) (hpairs : ∀ pair ∈ pairs, IsQuotable pair) (rest : List Char) :
    content alphabet ('<' :: Tag.selfClosing name pairs ++ '>' :: rest) =
      (content alphabet rest).map (.tag (Tag.selfClosing name pairs) :: ·) := by
  have hend : StaysInTag alphabet [' ', '/'] := staysInTag_of_unquoted (by simp)
  have hcontent := content_tag hne hname
    (staysInTag_append (staysInTag_quotedPairs hpairs) hend) rest
  rwa [← List.append_assoc] at hcontent

end SqlFixtures.Xml
