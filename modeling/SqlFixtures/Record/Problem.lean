/-!
# Problems of a record

Validation of a record reports every problem it finds, each with the place where it was found.  A
place is the path of field names and list positions that leads to the offending datum.
-/

namespace SqlFixtures.Record

inductive Step where
  | field (name : String)
  | index (position : Nat)
  deriving Repr, DecidableEq

inductive Defect where
  | missing
  | notText
  | emptyText
  | unknownField
  | notRecord
  | notList
  | notMapping
  | notPath
  | notFlag
  | unreadableFlag
  deriving Repr, DecidableEq

structure Problem where
  defect : Defect
  place : List Step
  deriving Repr, DecidableEq

/-- A validated value, or the problems that stand in its way. -/
inductive Checked (α : Type) where
  | valid (a : α)
  | invalid (problems : List Problem)

namespace Checked

variable {α β : Type}

def fail (defect : Defect) : Checked α := invalid [⟨defect, []⟩]

def map (f : α → β) : Checked α → Checked β
  | valid a => valid (f a)
  | invalid problems => invalid problems

/-- Both parts are examined, and the problems of the first come first. -/
def apply : Checked (α → β) → Checked α → Checked β
  | valid f, valid a => valid (f a)
  | valid _, invalid problems => invalid problems
  | invalid problems, valid _ => invalid problems
  | invalid first, invalid second => invalid (first ++ second)

instance : Applicative Checked where
  pure := valid
  seq f a := apply f (a ())

/-- Reports a part's problems as problems of the whole. -/
def under (step : Step) : Checked α → Checked α
  | valid a => valid a
  | invalid problems => invalid (problems.map fun p => ⟨p.defect, step :: p.place⟩)

def toExcept : Checked α → Except (List Problem) α
  | valid a => .ok a
  | invalid problems => .error problems

end Checked

end SqlFixtures.Record
