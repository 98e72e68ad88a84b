import SqlFixtures.Document.Assertions
import SqlFixtures.Source.Probe

/-!
# Assertions of a category

Assertions are not indexed: each becomes one row for a test, in the order in which the documents are
listed and then in document order.  One document that cannot be read leaves no rows at all.
-/

namespace SqlFixtures

open Record (AssertCase)

structure AssertRow where
  id : String
  sql : String
  /-- The members that the assertion is meant for, none if it is meant for all. -/
  databaseTypes : List String
  expected : Option Record.Node

namespace AssertRow

/-- The row of an assertion; members are a set, kept in the order of their names. -/
def ofAssertion (registry : Registry) (a : AssertCase) : Except Failure AssertRow := do
  let members ← registry.resolveAll a.id a.dialectNames
  pure ⟨a.id, a.sql, Keyed.sortedDistinct members, a.expected⟩

def ofResource (registry : Registry) (resource : Resource) : Except Failure (List AssertRow) := do
  let assertions ← Document.readAsserts registry resource.name (← resource.content)
  assertions.mapM (ofAssertion registry)

def ofResources (registry : Registry) (resources : List Resource) :
    Except Failure (List AssertRow) := do
  let blocks ← resources.mapM (ofResource registry)
  pure blocks.flatten

def load (files : Files.Tree) (location : Files.Path) (category : Value) (registry : Registry)
    (ending : Value) : Logged (List AssertRow) := do
  let source ← Source.probe files location .none ending
  let resources ← source.list files category
  let rows ← Logged.ofExcept (ofResources registry resources)
  Logged.note .debug s!"Loaded {rows.length} assertion(s) from '{category.toText}'"
  pure rows

end AssertRow

end SqlFixtures
