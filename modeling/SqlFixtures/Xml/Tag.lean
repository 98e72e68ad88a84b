import SqlFixtures.Xml.Pairs

/-!
# Tags

A tag opens an element, closes one, or does both at once.  An opening tag carries attributes with
distinct names, each with the raw text between its quotes.
-/

namespace SqlFixtures.Xml

structure OpeningTag where
  name : List Char
  attributes : List (List Char × List Char)
  /-- The element ends with its opening tag. -/
  selfClosing : Bool
  deriving Repr, DecidableEq

inductive Tag where
  | opening (tag : OpeningTag)
  | closing (name : List Char)
  deriving Repr, DecidableEq

namespace Tag

def openingOf (alphabet : Alphabet) (body : List Char) (selfClosing : Bool) : Option Tag := do
  let name := body.takeWhile (!isSpace ·)
  let attributes ← Pairs.read (body.dropWhile (!isSpace ·))
  let names := attributes.map (·.1)
  if alphabet.isQualifiedName name && names.all alphabet.isQualifiedName && decide names.Nodup then
    some (opening ⟨name, attributes, selfClosing⟩)
  else none

def ofRaw (alphabet : Alphabet) : List Char → Option Tag
  | '/' :: rest =>
    if (rest.dropWhile (!isSpace ·)).all isSpace then some (closing (rest.takeWhile (!isSpace ·)))
    else none
  | raw =>
    if raw.getLast? = some '/' then openingOf alphabet raw.dropLast true
    else openingOf alphabet raw false

end Tag

end SqlFixtures.Xml
