/-!
# Misused values

An operation may be given a value of a kind that it cannot take, such as a number where a text is
needed.  What is told is the kind of the value and what was asked of it.
-/

namespace SqlFixtures

inductive Misuse where
  /-- The value has no length. -/
  | length (kind : String)
  /-- The value holds no others. -/
  | contents (kind : String)
  /-- The value can be no key. -/
  | key (kind : String)
  /-- The value can be no ending of a name. -/
  | ending (kind : String)
  /-- The value can be no part of a path. -/
  | pathPart (kind : String)
  /-- The value cannot be called. -/
  | call (kind : String)
  /-- The value has no operation of this name. -/
  | operation (kind name : String)
  deriving Repr, DecidableEq

def Misuse.message : Misuse → String
  | length kind => s!"object of type '{kind}' has no len()"
  | contents kind => s!"'{kind}' object is not iterable"
  | key kind => s!"unhashable type: '{kind}'"
  | ending kind => s!"endswith first arg must be str or a tuple of str, not {kind}"
  | pathPart kind => s!"unsupported operand type(s) for /: 'PosixPath' and '{kind}'"
  | call kind => s!"'{kind}' object is not callable"
  | operation kind name => s!"'{kind}' object has no attribute '{name}'"

end SqlFixtures
