import SqlFixtures.Dialect.Names
import SqlFixtures.Record.Data

/-!
# Cases

A case is one SQL template fixture: a non-empty id, the template and, if the case is meant for
some database types only, the list that names them.
-/

namespace SqlFixtures.Record

structure Case where
  id : String
  value : String
  databaseTypes : Option String
  deriving Repr, DecidableEq

namespace Case

def kind : String := "SQLCase"

def databaseTypesKey : Key := ⟨"database-types", some "database_types"⟩

/-- The database types that the case names, none if it is meant for all. -/
def dialectNames (c : Case) : List String := Dialect.names c.databaseTypes

def ofFields (fields : Fields) : Checked Case :=
  mk <$> required fields (.only "id") readNonemptyText
    <*> required fields (.only "value") readText
    <*> optional fields databaseTypesKey none (orNull readText)
    <* noOthers fields [.only "id", .only "value", databaseTypesKey]

def ofData : Data → Checked Case := readRecord ofFields

end Case

def casesOfData : Data → Checked (List Case) :=
  readRecord fun fields =>
    optional fields (.only "sql_cases") [] (readList Case.ofData)
      <* noOthers fields [.only "sql_cases"]

def casesKind : String := "SQLCases"

end SqlFixtures.Record
