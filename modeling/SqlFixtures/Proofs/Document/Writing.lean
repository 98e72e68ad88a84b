import SqlFixtures.Document.Write
import SqlFixtures.Xml.Content
import SqlFixtures.Proofs.Results
import SqlFixtures.Proofs.Xml.Tags
import Mathlib.Tactic

/-!
# Reading written values

A written value holds a character as it is, or a reference to it where the character would be taken
for markup or for a blank.  Read one character at a time, it gives back the text that was written,
and no character of it ends the value.
-/

namespace SqlFixtures.Xml

variable {alphabet : Alphabet} {insert : List Char → Option (List Char)}

/-- The text that a raw value stands for, if `insert` gives the text of an entity. -/
def valueText (alphabet : Alphabet) (insert : List Char → Option (List Char)) (raw : List Char) :
    Option (List Char) :=
  (ValuePart.split raw).bind (Entities.spliceParts alphabet insert)

theorem splitBody_append {body : List Char} (hbody : ';' ∉ body) (rest : List Char) :
    ValuePart.splitBody (body ++ ';' :: rest) =
      (ValuePart.split rest).map fun parts => (body, parts) := by
  induction body with
  | nil => rw [List.nil_append, ValuePart.splitBody, if_pos rfl]
  | cons c body ih =>
      have hc : c ≠ ';' := (List.ne_of_not_mem_cons hbody).symm
      rw [List.cons_append, ValuePart.splitBody, if_neg hc,
        ih (List.not_mem_of_not_mem_cons hbody), Option.map_map]
      rfl

theorem valueText_reference {body : List Char} {c : Char} (hbody : ';' ∉ body)
    (hc : Reference.ofBody alphabet body = some (.char c)) (rest : List Char) :
    valueText alphabet insert ('&' :: body ++ [';'] ++ rest) =
      (valueText alphabet insert rest).map (c :: ·) := by
  have happend : '&' :: body ++ [';'] ++ rest = '&' :: (body ++ ';' :: rest) := by simp
  rw [valueText, happend, ValuePart.split, if_pos rfl, splitBody_append hbody, valueText]
  cases ValuePart.split rest with
  | none => rfl
  | some parts => simp [Entities.spliceParts, hc]

theorem valueText_literal {c : Char} (hmarkup : c ≠ '&' ∧ c ≠ '<')
    (hblank : isSpace c = true → c = ' ') (rest : List Char) :
    valueText alphabet insert (c :: rest) = (valueText alphabet insert rest).map (c :: ·) := by
  rw [valueText, ValuePart.split, if_neg hmarkup.1, valueText]
  cases ValuePart.split rest with
  | none => rfl
  | some parts =>
      have hkept : (if isSpace c then ' ' else c) = c := by
        split
        next h => exact (hblank h).symm
        next => rfl
      simp [Entities.spliceParts, hmarkup.2, hkept]

theorem value_empty_eq_valueText (dropUnknown : Bool) (raw : List Char) :
    ∃ insert, Dtd.empty.entities.value dropUnknown alphabet raw =
      valueText alphabet insert raw :=
  ⟨_, rfl⟩

end SqlFixtures.Xml

namespace SqlFixtures.Document

open Record (Case)
open Xml

variable {alphabet : Alphabet} {insert : List Char → Option (List Char)}

/-! ## Characters of a value -/

/-- A character is written as it is, or as a reference to it in plain letters. -/
theorem attributeChar_cases (alphabet : Alphabet) (c : Char) :
    (attributeChar c = [c] ∧ c ∉ ['&', '<', '"', '\r'] ∧ (isSpace c = true → c = ' ')) ∨
      ∃ body, attributeChar c = '&' :: body ++ [';'] ∧
        (∀ d ∈ body, d ∉ [';', '"', '\r'] ∧ isLegal d = true) ∧
        Reference.ofBody alphabet body = some (.char c) := by
  by_cases hspecial : c ∈ ['&', '<', '>', '"', '\t', '\n', '\r']
  · right
    simp only [List.mem_cons, List.not_mem_nil, or_false] at hspecial
    rcases hspecial with rfl | rfl | rfl | rfl | rfl | rfl | rfl
    · exact ⟨['a', 'm', 'p'], rfl, by simp [isLegal], by cases alphabet <;> decide⟩
    · exact ⟨['l', 't'], rfl, by simp [isLegal], by cases alphabet <;> decide⟩
    · exact ⟨['g', 't'], rfl, by simp [isLegal], by cases alphabet <;> decide⟩
    · exact ⟨['q', 'u', 'o', 't'], rfl, by simp [isLegal], by cases alphabet <;> decide⟩
    · exact ⟨['#', '9'], rfl, by simp [isLegal], rfl⟩
    · exact ⟨['#', '1', '0'], rfl, by simp [isLegal], rfl⟩
    · exact ⟨['#', '1', '3'], rfl, by simp [isLegal], rfl⟩
  · left
    simp only [List.mem_cons, List.not_mem_nil, or_false, not_or] at hspecial
    refine ⟨by simp [attributeChar, hspecial], by simp [hspecial], ?_⟩
    intro hspace
    simpa [isSpace, hspecial] using hspace

theorem valueText_attributeChar (c : Char) (rest : List Char) :
    valueText alphabet insert (attributeChar c ++ rest) =
      (valueText alphabet insert rest).map (c :: ·) := by
  rcases attributeChar_cases alphabet c with ⟨hself, hplain, hblank⟩ | ⟨body, href, hbody, hc⟩
  · have hmarkup : c ≠ '&' ∧ c ≠ '<' :=
      ⟨List.ne_of_not_mem_cons hplain,
        List.ne_of_not_mem_cons (List.not_mem_of_not_mem_cons hplain)⟩
    rw [hself, List.singleton_append]
    exact valueText_literal hmarkup hblank rest
  · have hend : ';' ∉ body := by
      intro hmem
      exact (hbody ';' hmem).1 (List.mem_cons_self ..)
    rw [href]
    exact valueText_reference hend hc rest

theorem valueText_attributeChars (s : List Char) :
    valueText alphabet insert (s.flatMap attributeChar) = some s := by
  induction s with
  | nil => rfl
  | cons c s ih => rw [List.flatMap_cons, valueText_attributeChar, ih, Option.map_some]

/-- What is written in a value does not end it, and is no line end that would be rewritten. -/
theorem mem_attributeChar {c d : Char} (hd : d ∈ attributeChar c) :
    d ≠ '"' ∧ d ≠ '\r' ∧ (isLegal c = true → isLegal d = true) := by
  rcases attributeChar_cases .standard c with ⟨hself, hplain, -⟩ | ⟨body, href, hbody, -⟩
  · rw [hself, List.mem_singleton] at hd
    subst hd
    exact ⟨fun heq => hplain (by simp [heq]), fun heq => hplain (by simp [heq]), id⟩
  · have hcases : d = '&' ∨ d ∈ body ∨ d = ';' := by simpa [href, or_assoc] using hd
    rcases hcases with rfl | hmem | rfl
    · exact ⟨by decide, by decide, fun _ => by decide⟩
    · obtain ⟨hplain, hlegal⟩ := hbody d hmem
      exact ⟨fun heq => hplain (by simp [heq]), fun heq => hplain (by simp [heq]), fun _ => hlegal⟩
    · exact ⟨by decide, by decide, fun _ => by decide⟩

/-! ## Attributes -/

/-- Attributes as they are written, each with its raw value. -/
def writtenPairs (attributes : List (String × String)) : List (List Char × List Char) :=
  attributes.map fun a => (a.1.toList, a.2.toList.flatMap attributeChar)

theorem flatMap_attributeChars (attributes : List (String × String)) :
    attributes.flatMap (fun a => attributeChars a.1 a.2) =
      (writtenPairs attributes).flatMap quotedPair := by
  rw [writtenPairs, List.flatMap_map]
  rfl

theorem readValue_attributeChars (setting : Setting) (s : List Char) :
    Dtd.empty.readValue setting false (s.flatMap attributeChar) = some s := by
  obtain ⟨insert, hvalue⟩ := value_empty_eq_valueText (Dtd.empty.dropsUnknown setting)
    (s.flatMap attributeChar)
  rw [Dtd.readValue, hvalue, valueText_attributeChars, Option.map_some]
  rfl

/-- Where nothing is declared, no value is tokenised and none is added. -/
theorem attributesOf_empty (setting : Setting) (tag : OpeningTag) :
    Dtd.empty.attributesOf setting tag =
      tag.attributes.mapM fun pair =>
        (Dtd.empty.readValue setting false pair.2).bind fun value => some (pair.1, value) := by
  have hadd : ∀ given : Option (List (List Char × List Char)),
      given.bind (fun given => some (given ++ [])) = given := by
    intro given
    cases given with
    | none => rfl
    | some given => simp
  exact hadd _

theorem attributesOf_writtenPairs (setting : Setting) (name : List Char)
    (attributes : List (String × String)) (selfClosing : Bool) :
    Dtd.empty.attributesOf setting ⟨name, writtenPairs attributes, selfClosing⟩ =
      some (attributes.map fun a => (a.1.toList, a.2.toList)) := by
  rw [attributesOf_empty, writtenPairs, List.mapM_map]
  apply Results.mapM_eq_some_map
  intro a _
  simp [readValue_attributeChars]

end SqlFixtures.Document
