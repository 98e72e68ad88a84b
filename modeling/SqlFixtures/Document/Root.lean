import SqlFixtures.Failure
import SqlFixtures.Xml.Document

/-!
# The root of a fixture document

A fixture document is an XML document whose root has a fixed tag.  Every failure of reading one
shows what the resource was called that the document came from.
-/

namespace SqlFixtures.Document

open Xml (Element)

def fail {α : Type} (resource : Value) (fault : DocumentFault) : Except Failure α :=
  .error (.document fault resource)

/-- A document that is no XML is malformed; an encoding that cannot be used is a failure of its
own. -/
def failureOf (resource : Value) : Xml.Fault → Failure
  | .malformed => .document .malformed resource
  | .encoding fault => .encoding fault

def rootOf (resource : Value) (bytes : List UInt8) : Except Failure Element :=
  (Xml.parse bytes).mapError (failureOf resource)

def rootOfText (resource : Value) (text : String) : Except Failure Element :=
  (Xml.parseText text).mapError (failureOf resource)

def expectRoot (resource : Value) (tag : String) (root : Element) : Except Failure Unit :=
  if root.tag = tag then .ok () else fail resource (.wrongRoot tag root.tag)

def expectTag (resource : Value) (tag : String) (e : Element) : Except Failure Unit :=
  if e.tag = tag then .ok () else fail resource (.wrongElement tag e.tag)

/-- A record made from an element, or the failure of its document. -/
def accept {α : Type} (resource : Value) (kind : String) (checked : Record.Checked α) :
    Except Failure α :=
  match checked with
  | .valid a => .ok a
  | .invalid problems => fail resource (.invalidRecord kind problems)

end SqlFixtures.Document
