import SqlFixtures.Text.Quoted
import SqlFixtures.Decimal.Shortest

/-!
# Values

A value is what a test hands over as a parameter of a template.  Its text is what is put into the
SQL: plain text stands for itself, everything else is written in one fixed notation.  Inside a list,
a tuple or a mapping an element is written in a form that shows its kind, so text is quoted there.
Limits that an interpreter sets are left out: every integer has a text here, however many digits it
takes, and values may be nested as deep as they come.
-/

namespace SqlFixtures

inductive Value where
  | none
  | bool (b : Bool)
  | int (i : Int)
  | float (x : Float)
  | text (s : String)
  | bytes (bytes : List UInt8)
  | list (elements : List Value)
  | tuple (elements : List Value)
  | mapping (entries : List (String × Value))
  /-- A member of a named set of constants, such as a database type; it counts as its own name. -/
  | member (set name : String)
  deriving Inhabited

namespace Value

/-- A tuple of one element has a comma after it. -/
def tupleText : List String → String
  | [only] => "(" ++ only ++ ",)"
  | parts => "(" ++ String.intercalate ", " parts ++ ")"

mutual

def shown : Value → String
  | none => "None"
  | bool true => "True"
  | bool false => "False"
  | int i => toString i
  | float x => Decimal.write x
  | text s => Text.quote s
  | bytes bs => Text.quoteBytes bs
  | list xs => "[" ++ String.intercalate ", " (shownAll xs) ++ "]"
  | tuple xs => tupleText (shownAll xs)
  | mapping es => "\x7b" ++ String.intercalate ", " (shownEntries es) ++ "\x7d"
  | member set name => "<" ++ set ++ "." ++ name ++ ": " ++ Text.quote name ++ ">"

def shownAll : List Value → List String
  | [] => []
  | x :: xs => shown x :: shownAll xs

def shownEntries : List (String × Value) → List String
  | [] => []
  | (key, x) :: es => (Text.quote key ++ ": " ++ shown x) :: shownEntries es

end

def toText : Value → String
  | text s => s
  | member set name => set ++ "." ++ name
  | other => other.shown

def kind : Value → String
  | none => "NoneType"
  | bool _ => "bool"
  | int _ => "int"
  | float _ => "float"
  | text _ => "str"
  | bytes _ => "bytes"
  | list _ => "list"
  | tuple _ => "tuple"
  | mapping _ => "dict"
  | member set _ => set

/-- A value that counts as "nothing given". -/
def isEmpty : Value → Bool
  | none => true
  | bool b => !b
  | int i => i == 0
  | float x => x == 0
  | text s => s.isEmpty
  | bytes bs => bs.isEmpty
  | list xs => xs.isEmpty
  | tuple xs => xs.isEmpty
  | mapping es => es.isEmpty
  | member _ name => name.isEmpty

mutual

/-- The value can be a key.  What can be changed is none, nor is a tuple that holds such a thing. -/
def isKey : Value → Bool
  | list _ | mapping _ => false
  | tuple xs => areKeys xs
  | none | bool _ | int _ | float _ | text _ | bytes _ | member _ _ => true

def areKeys : List Value → Bool
  | [] => true
  | x :: xs => isKey x && areKeys xs

end

def ofChars (s : String) : List Value := s.toList.map fun c => text (String.singleton c)

/-- The values that a parameter list supplies, in order.  Text supplies its characters, a byte
string its bytes, a mapping its keys; nothing given supplies no values.  A single number supplies
no sequence: the answer is then the name of its kind. -/
def elements : Value → Except String (List Value)
  | none => .ok []
  | bool b => if b then .error "bool" else .ok []
  | int i => if i == 0 then .ok [] else .error "int"
  | float x => if x == 0 then .ok [] else .error "float"
  | text s => .ok (ofChars s)
  | bytes bs => .ok (bs.map fun b => int b.toNat)
  | list xs => .ok xs
  | tuple xs => .ok xs
  | mapping es => .ok (es.map fun e => text e.1)
  | member _ name => .ok (ofChars name)

/-- The values that a value holds, or the name of its kind if it cannot hold any. -/
def contents (v : Value) : Except String (List Value) :=
  match v with
  | none | bool _ | int _ | float _ => .error v.kind
  | text _ | bytes _ | list _ | tuple _ | mapping _ | member _ _ => v.elements

/-- A value or, if it counts as nothing, another one. -/
def orElse (v other : Value) : Value := if v.isEmpty then other else v

instance : Coe String Value := ⟨text⟩

def ofOption : Option String → Value
  | some s => text s
  | _ => none

end Value

end SqlFixtures
