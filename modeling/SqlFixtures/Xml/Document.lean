import SqlFixtures.Xml.Content
import SqlFixtures.Xml.Namespace

/-!
# Documents

A document is a sequence of bytes, or a text.  It is decoded, cut into markup, put together into
one element and given its namespaces; whatever goes wrong after the encoding is known makes it
malformed.
-/

namespace SqlFixtures.Xml

/-- A document of so many bytes never grows beyond bounds while it is read.  Its line ends count as
they were written. -/
def Script.isBounded (script : Script) (bytes : Nat) (dtd : Dtd) : Bool :=
  let size := script.encoding.size
  (Markup.content script.encoding.alphabet script.text).any fun pieces =>
    Growth.staysBounded (bytes - Growth.bytesOf size script.text) 0
      (Growth.stepsOf size (Growth.weightsOf dtd.entities) script.encoding.alphabet
        script.standalone dtd.grown pieces)

def Script.root (script : Script) (bytes : Nat) : Option Element := do
  let alphabet := script.encoding.alphabet
  let pieces ← Markup.content alphabet (unifyLines script.text)
  let root ← Content.ofPieces ⟨script.standalone, alphabet⟩ (script.isBounded bytes) pieces
  Namespace.resolve root

def parseAs (given : Bool) (bytes : List UInt8) : Except Fault Element := do
  let script ← Script.ofBytes given bytes
  match script.root bytes.length with
  | some root => .ok root
  | none => .error .malformed

def parse (bytes : List UInt8) : Except Fault Element := parseAs false bytes

def parseText (text : String) : Except Fault Element := parseAs true text.toUTF8.toList

end SqlFixtures.Xml
