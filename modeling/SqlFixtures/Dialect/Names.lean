import SqlFixtures.Text.Blank
import SqlFixtures.Text.Fields

/-!
# Lists of database type names

A case names the database types it is meant for in one text, separated by commas.  Blanks around a
name do not count, an empty name is no name, and a repeated name counts once, where it first
stands.
-/

namespace SqlFixtures.Dialect

def splitNames (raw : String) : List String :=
  ((((Text.fields ',' raw.toList).map Text.stripChars).filter (!·.isEmpty)).eraseDups).map
    String.ofList

def names : Option String → List String
  | none => []
  | some raw => splitNames raw

end SqlFixtures.Dialect
