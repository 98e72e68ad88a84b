import SqlFixtures.Value

/-!
# Faults of a registry

Why names cannot be declared as the members of a registry.
-/

namespace SqlFixtures.Dialect

inductive Fault where
  /-- The name was declared before, with a value. -/
  | repeated (name : String) (earlier : Value)
  /-- Names between single underscores are set aside. -/
  | reserved (name : String)
  /-- No member can have one of these names. -/
  | unusable (names : List String)
  /-- The names are to be passed over, but are members already. -/
  | alreadyDeclared (names : List String)
  /-- The name is declared, but is to be kept free. -/
  | notFree (name : String)
  /-- A registry is called by a text, not by a value of this kind. -/
  | title (kind : String)
  /-- The members are not declared in the order that is asked for. -/
  | misordered (members : List String) (order : List Value)

def Fault.message : Fault → String
  | repeated name earlier => Text.quote name ++ " already defined as " ++ earlier.shown
  | reserved name =>
    "_sunder_ names, such as " ++ Text.quote name ++ ", are reserved for future Enum use"
  | unusable names =>
    "invalid enum member name(s) " ++ String.intercalate "," (names.map Text.quote)
  | alreadyDeclared names =>
    "_ignore_ cannot specify already set names: \x7b" ++
      String.intercalate ", " (names.map Text.quote) ++ "\x7d"
  | notFree name => Text.quote name ++ " in __slots__ conflicts with class variable"
  | title kind => "type __qualname__ must be a str, not " ++ kind
  | misordered members order =>
    "member order does not match _order_:\n  " ++ (Value.list (members.map Value.text)).shown ++
      "\n  " ++ (Value.list order).shown

end SqlFixtures.Dialect
