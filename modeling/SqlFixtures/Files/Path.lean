import SqlFixtures.Text.Fields

/-!
# Paths

A path is an anchor and the names of its components.  Repeated slashes and components that are a
single dot say nothing and are dropped; a component of two dots is kept, since what it means
depends on the files.  Exactly two leading slashes are an anchor of their own.
-/

namespace SqlFixtures.Files

inductive Anchor where
  | relative
  | root
  | doubleRoot
  deriving Repr, DecidableEq

structure Path where
  anchor : Anchor
  parts : List String
  deriving Repr, DecidableEq

namespace Path

def anchorOf : List Char → Anchor
  | '/' :: '/' :: '/' :: _ => .root
  | '/' :: '/' :: _ => .doubleRoot
  | '/' :: _ => .root
  | _ => .relative

def partsOf (s : List Char) : List String :=
  ((Text.fields '/' s).filter fun part => part ≠ [] ∧ part ≠ ['.']).map String.ofList

def ofString (s : String) : Path := ⟨anchorOf s.toList, partsOf s.toList⟩

def anchorText : Anchor → String
  | .relative => ""
  | .root => "/"
  | .doubleRoot => "//"

/-- The empty relative path is written as a dot. -/
def text (path : Path) : String :=
  match path.anchor, path.parts with
  | .relative, [] => "."
  | anchor, parts => anchorText anchor ++ String.intercalate "/" parts

/-- A path below `path`; one with an anchor of its own stands alone. -/
def join (path other : Path) : Path :=
  if other.anchor = .relative then ⟨path.anchor, path.parts ++ other.parts⟩ else other

def child (path : Path) (name : String) : Path := ⟨path.anchor, path.parts ++ [name]⟩

def parent (path : Path) : Path := ⟨path.anchor, path.parts.dropLast⟩

def descent (path : Path) : List Path :=
  (List.range path.parts.length).map fun n => ⟨path.anchor, path.parts.take (n + 1)⟩

/-- Where the components lead to if all that they go through are directories: two dots take the
component before them away. -/
def place (path : Path) : List String :=
  path.parts.foldl (fun above name => if name = ".." then above.dropLast else above ++ [name]) []

/-- The path and everything above it, nearest first, each with the components that lead from it
back to the path. -/
def ascent (path : Path) : List (Path × List String) :=
  (List.range (path.parts.length + 1)).reverse.map fun n =>
    (⟨path.anchor, path.parts.take n⟩, path.parts.drop n)

end Path

end SqlFixtures.Files
