import SqlFixtures.Dialect.Names
import SqlFixtures.Failure

/-!
# Registries of database types

A registry is a closed set of database types that a test suite knows.  It is declared as names with
values; a name whose value was declared before is an alias of the earlier member.  A name is looked
up exactly as it is written, and an alias stands for its member.
-/

namespace SqlFixtures

namespace Value

def floatIsInt (x : Float) (i : Int) : Bool :=
  if x.isNaN || x.isInf then false
  else
    let size := Decimal.Binary.ofBits x.toBits
    (x < 0 || 0 ≤ i) && (!(x < 0) || i < 0) &&
      size.mantissa * Nat.pow 2 size.exponent.toNat ==
        i.natAbs * Nat.pow 2 (-size.exponent).toNat

mutual

/-- Two values are the same constant.  Numbers are compared by their amount, whatever their kind. -/
def same : Value → Value → Bool
  | none, none => true
  | bool a, bool b => a == b
  | bool a, int j => j == a.toInt
  | int i, bool b => i == b.toInt
  | int i, int j => i == j
  | float x, float y => x == y
  | float x, int j => floatIsInt x j
  | int i, float y => floatIsInt y i
  | float x, bool b => floatIsInt x b.toInt
  | bool a, float y => floatIsInt y a.toInt
  | text s, text t => s == t
  | text s, member _ name => s == name
  | member _ name, text t => name == t
  | member set name, member set' name' => set == set' && name == name'
  | bytes bs, bytes cs => bs == cs
  | list xs, list ys => sameAll xs ys
  | tuple xs, tuple ys => sameAll xs ys
  | mapping es, mapping fs => sameEntries es fs
  | _, _ => false

def sameAll : List Value → List Value → Bool
  | [], [] => true
  | x :: xs, y :: ys => same x y && sameAll xs ys
  | _, _ => false

def sameEntries : List (String × Value) → List (String × Value) → Bool
  | [], [] => true
  | (key, x) :: es, (key', y) :: fs => key == key' && same x y && sameEntries es fs
  | _, _ => false

end

end Value

/-- The names in a list that is given as a value.  What counts as nothing names nothing. -/
def Dialect.namesOf (list : Value) : Except Failure (List String) :=
  match list with
  | .text s => .ok (splitNames s)
  | other =>
    if other.isEmpty then .ok [] else .error (.misuse (.operation other.kind "split"))

/-- Every declared name with the member that it stands for, in order of declaration. -/
structure Registry where
  entries : List (String × String)

namespace Registry

def memberWith (declared : List (String × Value)) (value : Value) : Option String :=
  (declared.find? fun d => d.2.same value).map (·.1)

def entriesAfter (earlier : List (String × Value)) : List (String × Value) → List (String × String)
  | [] => []
  | (name, value) :: rest =>
    (name, (memberWith earlier value).getD name) :: entriesAfter (earlier ++ [(name, value)]) rest

def ofDeclarations (declared : List (String × Value)) : Registry := ⟨entriesAfter [] declared⟩

def ofNames (names : List String) : Registry := ofDeclarations (names.map fun n => (n, .text n))

/-- The database types that are known when a test suite declares none. -/
def standard : Registry := ofNames ["H2", "MySQL", "PostgreSQL", "Oracle", "SQLServer"]

/-- The members, without their aliases. -/
def members (registry : Registry) : List String :=
  (registry.entries.filter fun e => e.1 = e.2).map (·.1)

def member? (registry : Registry) (name : String) : Option String := registry.entries.lookup name

def unknown (registry : Registry) (owner literal : Value) : Failure :=
  .unknownDialect literal owner (.list (registry.members.map Value.text))

def resolve (registry : Registry) (owner : Value) (name : String) : Except Failure String :=
  match registry.member? name with
  | some member => .ok member
  | none => .error (registry.unknown owner name)

/-- The members that names stand for; the first unknown name is reported. -/
def resolveAll (registry : Registry) (owner : Value) (names : List String) :
    Except Failure (List String) :=
  names.mapM (registry.resolve owner)

/-- The member that a value names.  Only text can name one. -/
def resolveValue (registry : Registry) (owner : Value) : Value → Except Failure String
  | .text name => registry.resolve owner name
  | other =>
    if other.isKey then .error (registry.unknown owner other)
    else .error (.misuse (.key other.kind))

def resolveContents (registry : Registry) (owner names : Value) : Except Failure (List String) := do
  match names.contents with
  | .ok values => values.mapM (registry.resolveValue owner)
  | .error kind => .error (.misuse (.contents kind))

/-- The member that a name stands for, where nobody declares the name. -/
def select (registry : Registry) : Value → Except Failure String
  | .text name =>
    match registry.member? name with
    | some member => .ok member
    | none => .error (.unknownMember name)
  | other =>
    if other.isKey then .error (.unknownMember other) else .error (.misuse (.key other.kind))

end Registry

end SqlFixtures
