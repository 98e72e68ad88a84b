import SqlFixtures.Xml.Encoding
import SqlFixtures.Xml.Pairs

/-!
# The declaration of a document

A document may open with a declaration of its version, then of its encoding, then of whether it
stands alone.  The declaration is read before the encoding is known, from the plain view of the code
units.
-/

namespace SqlFixtures.Xml

structure Declaration where
  encoding : Option String
  standalone : Bool

namespace Declaration

def absent : Declaration := ⟨none, false⟩

def isLetter (c : Char) : Bool := c.isLower || c.isUpper

def isValueChar (c : Char) : Bool := c.isAlphanum || c = '.' || c = '-' || c = '_'

def isEncodingName (s : List Char) : Bool := (s.take 1).any isLetter

def readStandalone (s : List Char) : Option Bool :=
  if s = "yes".toList then some true else if s = "no".toList then some false else none

/-- The text between a mark of two characters and the start; the rest follows the mark. -/
def splitAtMark (a b : Char) : List Char → Option (List Char)
  | [] => none
  | [_] => none
  | c :: d :: rest =>
    if c = a ∧ d = b then some [] else (splitAtMark a b (d :: rest)).map (c :: ·)

def ofPairs : List (String × List Char) → Option Declaration
  | [("version", _)] => some absent
  | [("version", _), ("standalone", s)] => (readStandalone s).map fun b => ⟨none, b⟩
  | [("version", _), ("encoding", e)] =>
    if isEncodingName e then some ⟨some (String.ofList e), false⟩ else none
  | [("version", _), ("encoding", e), ("standalone", s)] =>
    if isEncodingName e then (readStandalone s).map fun b => ⟨some (String.ofList e), b⟩ else none
  | _ => none

def ofInside (inside : List Char) : Option Declaration := do
  let pairs ← Pairs.read inside
  if pairs.all fun pair => pair.2.all isValueChar then
    ofPairs (pairs.map fun pair => (String.ofList pair.1, pair.2))
  else none

/-- The declaration at the start of a text, and the number of characters that it takes. -/
def read : List Char → Option (Declaration × Nat)
  | '<' :: '?' :: 'x' :: 'm' :: 'l' :: c :: rest =>
    if isSpace c || c = '?' then do
      let inside ← splitAtMark '?' '>' (c :: rest)
      (ofInside inside).map fun declaration => (declaration, inside.length + 7)
    else some (absent, 0)
  | _ => some (absent, 0)

end Declaration

/-- Every line ends with one line feed. -/
def unifyLines : List Char → List Char
  | '\r' :: '\n' :: rest => '\n' :: unifyLines rest
  | '\r' :: rest => '\n' :: unifyLines rest
  | c :: rest => c :: unifyLines rest
  | [] => []

/-- A document as text: what its declaration says, how it was encoded, and what follows the
declaration, with its line ends as they are. -/
structure Script where
  standalone : Bool
  encoding : Encoding
  text : List Char

/-- Reads the bytes of a document.  What is wrong with the declaration, or with the encoding that it
names, is found before anything that is wrong with the rest.  A document that was `given` as text
has the encoding of its bytes, whatever it declares. -/
def Script.ofBytes (given : Bool) (bytes : List UInt8) : Except Fault Script := do
  let (width, units) := Width.detect bytes
  match Declaration.read (width.view units) with
  | none => .error .malformed
  | some (declaration, taken) =>
    let encoding ← Encoding.choose width (if given then none else declaration.encoding)
    match encoding.decode (units.drop (taken * width.size)) with
    | some text =>
      if text.all isLegal then .ok ⟨declaration.standalone, encoding, text⟩
      else .error .malformed
    | none => .error .malformed

end SqlFixtures.Xml
