import SqlFixtures.Xml.Charset

/-!
# References

A reference stands between an ampersand and a semicolon.  It gives a character by its number, or
names an entity; five entities stand for the characters that markup is made of.
-/

namespace SqlFixtures.Xml

inductive Reference where
  | char (c : Char)
  | entity (name : List Char)
  deriving Repr, DecidableEq

namespace Reference

def digitValue (base : Nat) (c : Char) : Option Nat :=
  let n :=
    if c.isDigit then c.toNat - 48
    else if 'a' ≤ c ∧ c ≤ 'f' then c.toNat - 87
    else if 'A' ≤ c ∧ c ≤ 'F' then c.toNat - 55
    else base
  if n < base then some n else none

/-- The number that digits stand for; there is at least one digit. -/
def numeral (base : Nat) (digits : List Char) : Option Nat :=
  if digits.isEmpty then none
  else digits.foldlM (fun n c => (digitValue base c).map (n * base + ·)) 0

def charOf (n : Nat) : Option Char :=
  if n.isValidChar then (some (Char.ofNat n)).filter isLegal else none

def predefined : List (List Char × Char) :=
  [("lt".toList, '<'), ("gt".toList, '>'), ("amp".toList, '&'), ("quot".toList, '"'),
   ("apos".toList, '\'')]

/-- A reference to a character by its number, without the leading sign. -/
def ofNumber : List Char → Option Char
  | 'x' :: digits => (numeral 16 digits).bind charOf
  | digits => (numeral 10 digits).bind charOf

def ofBody (alphabet : Alphabet) : List Char → Option Reference
  | '#' :: number => (ofNumber number).map char
  | name =>
    if alphabet.isName name then
      match predefined.lookup name with
      | some c => some (char c)
      | none => some (entity name)
    else none

end Reference

/-- A piece of a quoted value: a character, or what stands between ampersand and semicolon. -/
inductive ValuePart where
  | literal (c : Char)
  | reference (body : List Char)
  deriving Repr, DecidableEq

namespace ValuePart

mutual

def split : List Char → Option (List ValuePart)
  | [] => some []
  | c :: rest =>
    if c = '&' then (splitBody rest).map fun (body, parts) => reference body :: parts
    else (split rest).map (literal c :: ·)

def splitBody : List Char → Option (List Char × List ValuePart)
  | [] => none
  | c :: rest =>
    if c = ';' then (split rest).map fun parts => ([], parts)
    else (splitBody rest).map fun (body, parts) => (c :: body, parts)

end

end ValuePart

end SqlFixtures.Xml
