import SqlFixtures.Xml.Reference

/-!
# Entities

An entity stands for a replacement text, which is read where a reference to it stands.  References
in that text are followed in turn; an entity that contains itself has no text.  A line end in a
replacement text was given by number and is kept as it is.
-/

namespace SqlFixtures.Xml

/-- The replacement text of each entity; one that is kept elsewhere has none. -/
abbrev Entities := List (List Char × Option (List Char))

namespace Entities

def spliceParts (alphabet : Alphabet) (insert : List Char → Option (List Char)) :
    List ValuePart → Option (List Char)
  | [] => some []
  | .literal c :: parts =>
    if c = '<' then none
    else (spliceParts alphabet insert parts).map ((if isSpace c then ' ' else c) :: ·)
  | .reference body :: parts =>
    match Reference.ofBody alphabet body with
    | none => none
    | some (.char c) => (spliceParts alphabet insert parts).map (c :: ·)
    | some (.entity name) => do
      let inserted ← insert name
      (spliceParts alphabet insert parts).map (inserted ++ ·)

/-- The text that a raw attribute value stands for, if entities nest at most `depth` deep. -/
def valueUpTo (entities : Entities) (dropUnknown : Bool) :
    Nat → Alphabet → List Char → Option (List Char)
  | 0, alphabet, raw => (ValuePart.split raw).bind (spliceParts alphabet fun _ => none)
  | depth + 1, alphabet, raw => (ValuePart.split raw).bind <| spliceParts alphabet fun name =>
    match entities.lookup name with
    | some (some text) => valueUpTo entities dropUnknown depth .standard text
    | some none => none
    | none => if dropUnknown then some [] else none

/-- The text that a raw attribute value stands for.  Entities that nest deeper than there are
entities contain themselves, and have no text. -/
def value (entities : Entities) (dropUnknown : Bool) (alphabet : Alphabet) (raw : List Char) :
    Option (List Char) :=
  valueUpTo entities dropUnknown (entities.length + 1) alphabet raw

/-- The replacement text that a declared value stands for: characters given by number are put in,
references to entities are kept for later. -/
def replacementParts (alphabet : Alphabet) : List ValuePart → Option (List Char)
  | [] => some []
  | .literal c :: parts => (replacementParts alphabet parts).map (c :: ·)
  | .reference ('#' :: number) :: parts => do
    let c ← Reference.ofNumber number
    (replacementParts alphabet parts).map (c :: ·)
  | .reference name :: parts =>
    if alphabet.isName name then
      (replacementParts alphabet parts).map (('&' :: name ++ [';']) ++ ·)
    else none

/-- A declared value holds no percent sign, since parameters are not put in there. -/
def replacement (alphabet : Alphabet) (declared : List Char) : Option (List Char) :=
  if declared.contains '%' then none
  else (ValuePart.split declared).bind (replacementParts alphabet)

end Entities

end SqlFixtures.Xml
