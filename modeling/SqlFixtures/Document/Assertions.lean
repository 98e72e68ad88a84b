import SqlFixtures.Dialect.Registry
import SqlFixtures.Document.Cases
import SqlFixtures.Record.AssertCase

/-!
# Documents of assertions

The root `sql-asserts` holds `sql-assert` elements with at most one child, which says what is
expected and is kept whole, however deep its elements are nested: a limit that an interpreter sets
to recursion is left out.  The database types of an assertion are looked up when it is read, so that
an unknown one makes its document unusable.
-/

namespace SqlFixtures.Record.Node

open Xml (Element)

/-- Text that is blank is no text. -/
def textOf (s : String) : Option String :=
  let stripped := Text.strip s
  if stripped.isEmpty then none else some stripped

mutual

def ofElement : Element → Node
  | ⟨tag, attributes, text, children⟩ => ⟨tag, attributes, textOf text, ofElements children⟩

def ofElements : List Element → List Node
  | [] => []
  | e :: es => ofElement e :: ofElements es

end

end SqlFixtures.Record.Node

namespace SqlFixtures.Document

open Record (AssertCase Fields Node)
open Xml (Element)

def expectedTag : String := "sharding-rule-assertions"

def addExpected (resource : Value) : Fields → List Element → Except Failure Fields
  | fields, [] => .ok fields
  | fields, e :: es => do
    expectTag resource expectedTag e
    if (fields.lookup expectedTag).isSome then fail resource (.repeatedElement expectedTag)
    else addExpected resource (fields ++ [(expectedTag, .node (Node.ofElement e))]) es

def assertOfElement (registry : Registry) (resource : Value) (e : Element) :
    Except Failure AssertCase := do
  expectTag resource "sql-assert" e
  let fields ← addExpected resource (fieldsOf e) e.children
  let a ← accept resource AssertCase.kind (AssertCase.ofFields fields)
  let _ ← registry.resolveAll a.id a.dialectNames
  pure a

def assertsOfElement (registry : Registry) (resource : Value) (root : Element) :
    Except Failure (List AssertCase) := do
  expectRoot resource "sql-asserts" root
  root.children.mapM (assertOfElement registry resource)

def readAsserts (registry : Registry) (resource : Value) (bytes : List UInt8) :
    Except Failure (List AssertCase) := do
  assertsOfElement registry resource (← rootOf resource bytes)

end SqlFixtures.Document
