import SqlFixtures.Logging.Logged

/-!
# Sinks

Log entries go to sinks, each with a threshold: entries of a lower level are not written.  The
fixtures own at most one sink; any other belongs to the application that uses them.  Until their
sink is set up, the entries of the fixtures are silenced.  A sink is known by its number, and no
number is given twice.
-/

namespace SqlFixtures

inductive Owner where
  | fixtures
  | application
  deriving Repr, DecidableEq

structure Sink where
  id : Nat
  owner : Owner
  threshold : Nat
  deriving Repr, DecidableEq

/-- A sink of the fixtures takes nothing but their own entries. -/
def Sink.accepts (sink : Sink) (origin : Owner) (entry : LogEntry) : Bool :=
  (sink.owner = .application ∨ origin = .fixtures) ∧ sink.threshold ≤ entry.level.number

structure LogState where
  sinks : List Sink
  /-- The number for the next sink. -/
  nextId : Nat
  /-- The number of the sink that was last set up for the fixtures, until it is reset. -/
  stored : Option Nat
  /-- The entries of the fixtures are not silenced. -/
  enabled : Bool
  deriving Repr, DecidableEq

namespace LogState

def initial : LogState := ⟨[], 0, none, false⟩

/-- The threshold that a level stands for: the number of a named level, or a number itself. -/
def thresholdOf : Value → Except Failure Nat
  | .text name =>
    match Level.ofName? name with
    | some level => .ok level.number
    | none => .error (.unknownLevel name)
  | .int number => if number < 0 then .error (.negativeLevel number) else .ok number.toNat
  | .bool b => .ok b.toNat
  | .member set name => .error (.unknownLevel (Value.member set name).toText)
  | other => .error (.notALevel other.kind)

def standardLevel : Value := .text Level.info.name

def dropStored (state : LogState) : Except Failure LogState :=
  match state.stored with
  | none => .ok state
  | some id =>
    if state.sinks.any fun sink => sink.id = id then
      .ok { state with sinks := state.sinks.filter fun sink => sink.id ≠ id }
    else .error (.missingSink id)

/-- Adds a sink of the fixtures and stores its number.  The number is used up even if the level is
refused. -/
def addSink (state : LogState) (level : Value) : LogState × Except Failure Unit :=
  let used := { state with nextId := state.nextId + 1 }
  match thresholdOf level with
  | .error failure => (used, .error failure)
  | .ok threshold =>
    ({ used with
        sinks := used.sinks ++ [⟨state.nextId, .fixtures, threshold⟩]
        stored := some state.nextId
        enabled := true },
      .ok ())

/-- Sets up the sink of the fixtures in the place of an earlier one.  If the level is refused, the
earlier sink is gone but its number is still stored. -/
def setUp (state : LogState) (level : Value) : LogState × Except Failure Unit :=
  match state.dropStored with
  | .error failure => (state, .error failure)
  | .ok dropped => dropped.addSink level

/-- Removes the sink of the fixtures and silences their entries. -/
def reset (state : LogState) : LogState × Except Failure Unit :=
  match state.dropStored with
  | .error failure => (state, .error failure)
  | .ok dropped => ({ dropped with stored := none, enabled := false }, .ok ())

def writers (state : LogState) (origin : Owner) (entry : LogEntry) : List Sink :=
  if origin = .fixtures ∧ ¬ state.enabled then []
  else state.sinks.filter fun sink => sink.accepts origin entry

end LogState

end SqlFixtures
