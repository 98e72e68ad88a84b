import SqlFixtures.Dialect.Registry
import SqlFixtures.Text.Blank
import SqlFixtures.Text.Fields

/-!
# Declaring a registry

A test suite declares the members of its own registry as names with values, each name once.  Names
between single underscores are set aside, and a few of them have a meaning: one gives the order in
which the members have to stand, another the names that are to be passed over.  Names between
double underscores declare no members either; a few of them say what the registry is called, what
is to be kept free, and how its members are made.
-/

namespace SqlFixtures.Registry

/-- The text begins and ends with `count` underscores, no more, and holds something in between. -/
def isBetweenUnderscores (count : Nat) (name : String) : Bool :=
  let runs (s : List Char) := (s.takeWhile (· = '_')).length = count
  runs name.toList && runs name.toList.reverse && 2 * count < name.length

/-- Names that are set aside and mean something, but not for the members. -/
def idleNames : List String :=
  ["_generate_next_value_", "_numeric_repr_", "_missing_", "_iter_member_",
   "_iter_member_by_value_", "_iter_member_by_def_"]

/-- Names of what the making of a member calls, in the order of the calls. -/
def calledNames : List String :=
  ["__new__", "__getattribute__", "__getattr__", "__setattr__", "__init__"]

def words (s : String) : List String :=
  let separated := s.toList.map fun c => if c = ',' ∨ Text.isBlank c then ' ' else c
  ((Text.fields ' ' separated).filter (!·.isEmpty)).map String.ofList

def namesIn : Value → Except Failure (List Value)
  | .text s | .member _ s => .ok ((words s).map Value.text)
  | other => other.contents.mapError fun kind => .misuse (.contents kind)

structure Draft where
  members : List (String × Value)
  passedOver : List Value
  /-- The order that is asked for; what counts as nothing asks for none. -/
  order : Value
  /-- What was given for the names between double underscores, the latest first. -/
  manner : List (String × Value)

namespace Draft

def empty : Draft := ⟨[], [], .none, []⟩

def isPassedOver (draft : Draft) (name : String) : Bool :=
  draft.passedOver.any fun other => other.same name

def passOver (draft : Draft) (value : Value) : Except Failure Draft := do
  let next := { draft with passedOver := ← namesIn value }
  let clashes := (draft.members.map (·.1)).filter next.isPassedOver
  if clashes = [] then pure next else throw (.registry (.alreadyDeclared clashes))

def add (draft : Draft) (declared : String × Value) : Except Failure Draft :=
  let (name, value) := declared
  if name = "_order_" ∨ name = "__order__" then .ok { draft with order := value }
  else if name = "_ignore_" then draft.passOver value
  else if isBetweenUnderscores 1 name then
    if idleNames.contains name then .ok draft else .error (.registry (.reserved name))
  else if isBetweenUnderscores 2 name then .ok { draft with manner := declared :: draft.manner }
  else
    match draft.members.lookup name with
    | some earlier => .error (.registry (.repeated name earlier))
    | none =>
      if draft.isPassedOver name then .ok draft
      else .ok { draft with members := draft.members ++ [declared] }

def checkFree (draft : Draft) : Except Failure Unit := do
  let free ← match (draft.manner.lookup "__slots__").getD (.list []) with
    | .text s | .member _ s => pure [Value.text s]
    | other => other.contents.mapError fun kind => Failure.misuse (.contents kind)
  let declared := draft.members.map (·.1) ++ draft.manner.map (·.1)
  match declared.find? fun name : String => free.any fun other => other.same name with
  | some name => throw (.registry (.notFree name))
  | none => pure ()

def checkTitle (draft : Draft) : Except Failure Unit :=
  match draft.manner.lookup "__qualname__" with
  | none | some (.text _) | some (.member ..) => .ok ()
  | some other => .error (.registry (.title other.kind))

/-- Sees to it that what makes the members, if there are any, can be called; no value can. -/
def checkCalled (draft : Draft) : Except Failure Unit :=
  let given := calledNames.filterMap fun name => (draft.manner.lookup name).map (name, ·)
  match given.find? fun (name, value) => !(name = "__new__" && value.same .none) with
  | some (_, value) =>
    if draft.members.isEmpty then .ok () else .error (.misuse (.call value.kind))
  | none => .ok ()

/-- Sees to it that the members stand in the order that is asked for; aliases do not count. -/
def checkOrder (draft : Draft) (registry : Registry) : Except Failure Unit :=
  if draft.order.isEmpty then .ok ()
  else do
    let isAlias (v : Value) := registry.entries.any fun e => e.1 ≠ e.2 && v.same e.1
    let order := (← namesIn draft.order).filter (!isAlias ·)
    let members := registry.members
    if order.length = members.length ∧
        (order.zip members).all fun pair => pair.1.same pair.2 then
      pure ()
    else throw (.registry (.misordered members order))

def finish (draft : Draft) : Except Failure Registry := do
  let unusable := (draft.members.map (·.1)).filter fun name => name = "" ∨ name = "mro"
  if unusable ≠ [] then throw (.registry (.unusable unusable))
  draft.checkFree
  draft.checkTitle
  draft.checkCalled
  let registry := ofDeclarations draft.members
  draft.checkOrder registry
  pure registry

end Draft

def declare (declared : List (String × Value)) : Except Failure Registry := do
  let draft ← declared.foldlM Draft.add Draft.empty
  draft.finish

end SqlFixtures.Registry
