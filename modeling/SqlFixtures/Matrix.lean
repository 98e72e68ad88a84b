import SqlFixtures.Dialect.Registry
import SqlFixtures.Record.Case
import SqlFixtures.Template.Render

/-!
# Test matrices

A matrix has one row for each case, variant and database type of the case.  A case that names
database types is tested against exactly those; any other case is tested against all that the
suite asks for, in the order in which it asks.  If any case names an unknown type there is no
matrix at all.
-/

namespace SqlFixtures

open Record (Case)

structure MatrixRow where
  caseId : String
  dialect : String
  variant : Variant
  deriving Repr, DecidableEq

namespace MatrixRow

/-- A readable id for the test that runs the row. -/
def testId (row : MatrixRow) : String :=
  row.caseId ++ "-" ++ row.dialect ++ "-" ++ row.variant.name

/-- What the test that runs the row is given. -/
def arguments (row : MatrixRow) : String × String × Variant :=
  (row.caseId, row.dialect, row.variant)

end MatrixRow

/-- How a test that runs once for each row of a matrix is declared: what its arguments are called,
their values in each run, and the id of each run. -/
structure Parametrization where
  argumentNames : List String
  arguments : List (String × String × Variant)
  ids : List String
  deriving Repr, DecidableEq

namespace Matrix

def dialectsOf (registry : Registry) (suite : List String) (c : Case) :
    Except Failure (List String) :=
  match c.dialectNames with
  | [] => .ok suite
  | names => registry.resolveAll c.id names

/-- The rows of one case: its variants in order, each with every database type in order. -/
def rowsOf (c : Case) (dialects : List String) : List MatrixRow :=
  Variant.all.flatMap fun variant => dialects.map fun dialect => ⟨c.id, dialect, variant⟩

def expand (registry : Registry) (suite : List String) (cases : List Case) :
    Except Failure (List MatrixRow) := do
  let blocks ← cases.mapM fun c => (dialectsOf registry suite c).map (rowsOf c)
  pure blocks.flatten

def parametrize (rows : List MatrixRow) : Parametrization where
  argumentNames := ["case_id", "database_type", "case_type"]
  arguments := rows.map (·.arguments)
  ids := rows.map (·.testId)

end Matrix

end SqlFixtures
