import SqlFixtures.Document.Root
import SqlFixtures.Record.Case

/-!
# Documents of cases

The root `sql-cases` holds `sql-case` elements without children.  The attributes of such an element
are the fields of one case; text and the attributes of the root do not matter.
-/

namespace SqlFixtures.Document

open Record (Case)
open Xml (Element)

def fieldsOf (e : Element) : Record.Fields := e.attributes.map fun a => (a.1, .text a.2)

def caseOfElement (resource : Value) (e : Element) : Except Failure Case := do
  expectTag resource "sql-case" e
  if e.children.isEmpty then accept resource Case.kind (Case.ofFields (fieldsOf e))
  else fail resource (.nestedElement "sql-case")

def casesOfElement (resource : Value) (root : Element) : Except Failure (List Case) := do
  expectRoot resource "sql-cases" root
  root.children.mapM (caseOfElement resource)

def readCases (resource : Value) (bytes : List UInt8) : Except Failure (List Case) := do
  casesOfElement resource (← rootOf resource bytes)

end SqlFixtures.Document
