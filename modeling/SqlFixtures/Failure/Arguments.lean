import SqlFixtures.Value

/-!
# Arguments of a failure

A test suite may raise a failure of the fixtures itself.  It gives the fields by their places or by
their names; a field that it leaves out has to be an optional one, and nothing may be given that is
no field.
-/

namespace SqlFixtures

inductive Arguments where
  | placed (values : List Value)
  | named (entries : List (String × Value))

structure Signature where
  kind : String
  required : List String
  optional : List String

inductive ArgumentFault where
  | unexpected (kind name : String)
  /-- The name that stands for the failure itself is no field. -/
  | repeated (kind name : String)
  | missing (kind : String) (names : List String)
  /-- How many arguments may be given, the failure itself counted. -/
  | tooMany (kind : String) (least most given : Nat)
  /-- The kind of failure has fields without names only. -/
  | unnamed (kind : String)
  deriving Repr, DecidableEq

namespace ArgumentFault

def enumeration : List String → String
  | [] => ""
  | [a] => s!"'{a}'"
  | [a, b] => s!"'{a}' and '{b}'"
  | a :: rest => s!"'{a}', " ++ enumeration rest

def message : ArgumentFault → String
  | unexpected kind name => s!"{kind}.__init__() got an unexpected keyword argument '{name}'"
  | repeated kind name => s!"{kind}.__init__() got multiple values for argument '{name}'"
  | missing kind names =>
    let noun := if names.length = 1 then "argument" else "arguments"
    s!"{kind}.__init__() missing {names.length} required positional {noun}: " ++ enumeration names
  | tooMany kind least most given =>
    let allowed := if least = most then s!"{most}" else s!"from {least} to {most}"
    s!"{kind}.__init__() takes {allowed} positional arguments but {given} were given"
  | unnamed kind => s!"{kind}() takes no keyword arguments"

end ArgumentFault

namespace Signature

/-- What the failure itself is called among its arguments. -/
def selfName : String := "self"

def fields (signature : Signature) : List String := signature.required ++ signature.optional

def faultOfName (signature : Signature) (name : String) : Option ArgumentFault :=
  if name = selfName then some (.repeated signature.kind name)
  else if signature.fields.contains name then none
  else some (.unexpected signature.kind name)

def name (signature : Signature) : Arguments → Except ArgumentFault (List (String × Value))
  | .named entries =>
    match entries.findSome? fun entry => signature.faultOfName entry.1 with
    | some fault => .error fault
    | none => .ok entries
  | .placed values =>
    if signature.fields.length < values.length then
      .error (.tooMany signature.kind (signature.required.length + 1)
        (signature.fields.length + 1) (values.length + 1))
    else .ok (signature.fields.zip values)

/-- The value of every field, nothing for an optional one that is not given. -/
def bind (signature : Signature) (arguments : Arguments) : Except ArgumentFault (List Value) := do
  let entries ← signature.name arguments
  let missing := signature.required.filter fun field => (entries.lookup field).isNone
  if missing ≠ [] then throw (.missing signature.kind missing)
  pure (signature.fields.map fun field => (entries.lookup field).getD .none)

end Signature

end SqlFixtures
