import SqlFixtures.Dialect.Names
import SqlFixtures.Record.Data

/-!
# Assertions

An assertion is a fixture with a non-empty id, the SQL text under test, optionally the database
types it is meant for, and optionally one element that says what is expected.  That element is kept
as it is.
-/

namespace SqlFixtures.Record

namespace Node

def kind : String := "XmlNode"

def readAttributes : Data → Checked (List (String × String))
  | .record fields => readEntries fields
  | _ => .fail .notMapping
where
  readEntries : Fields → Checked (List (String × String))
    | [] => .valid []
    | (name, data) :: rest =>
      .apply (((readText data).under (.field name)).map fun s others => (name, s) :: others)
        (readEntries rest)

mutual

def ofData : Data → Checked Node
  | .node node => .valid node
  | .record fields =>
    mk <$> required fields (.only "tag") readText
      <*> optional fields (.only "attributes") [] readAttributes
      <*> optional fields (.only "text") none (orNull readText)
      <*> childrenOf fields
      <* noOthers fields [.only "tag", .only "attributes", .only "text", .only "children"]
  | _ => .fail .notRecord

/-- The children field; it is read entry by entry because children hold children. -/
def childrenOf : List (String × Data) → Checked (List Node)
  | [] => .valid []
  | (name, data) :: rest =>
    if name = "children" then (childList data).under (.field "children") else childrenOf rest

def childList : Data → Checked (List Node)
  | .list items => childItems 0 items
  | _ => .fail .notList

def childItems : Nat → List Data → Checked (List Node)
  | _, [] => .valid []
  | i, item :: items =>
    .apply (((ofData item).under (.index i)).map List.cons) (childItems (i + 1) items)

end

end Node

structure AssertCase where
  id : String
  sql : String
  types : Option String
  expected : Option Node

namespace AssertCase

def kind : String := "SQLAssertCase"

def expectedKey : Key := ⟨"sharding-rule-assertions", some "sharding_rule_assertions"⟩

/-- The database types that the assertion names, none if it is meant for all. -/
def dialectNames (a : AssertCase) : List String := Dialect.names a.types

def ofFields (fields : Fields) : Checked AssertCase :=
  mk <$> required fields (.only "id") readNonemptyText
    <*> required fields (.only "sql") readText
    <*> optional fields (.only "types") none (orNull readText)
    <*> optional fields expectedKey none (orNull Node.ofData)
    <* noOthers fields [.only "id", .only "sql", .only "types", expectedKey]

def ofData : Data → Checked AssertCase := readRecord ofFields

end AssertCase

def assertsOfData : Data → Checked (List AssertCase) :=
  readRecord fun fields =>
    optional fields (.only "sql_asserts") [] (readList AssertCase.ofData)
      <* noOthers fields [.only "sql_asserts"]

def assertsKind : String := "SQLAsserts"

end SqlFixtures.Record
