import SqlFixtures.Files.Fault
import SqlFixtures.Files.Path
import SqlFixtures.Keyed

/-!
# File trees

A tree is a file or a directory of named trees.  A path is followed from the root of a tree one
component at a time; two dots lead back to the directory that was gone through, and nothing leads
on from a file.  Paths with an anchor lead out of the tree, to a root that is empty and stays so:
nothing is found there, and nothing can be made or deleted there.  Names and paths may not be too
long, and a path with a zero in it leads nowhere.
-/

namespace SqlFixtures.Files

inductive Tree where
  | file (content : List UInt8)
  | directory (entries : List (String × Tree))
  deriving Inhabited

inductive Absence where
  | missing
  | throughFile
  | tooLong
  | zeroInside
  deriving Repr, DecidableEq

def Absence.fault (path : Path) : Absence → Fault
  | missing => .missing path.text
  | throughFile => .notDirectory path.text
  | tooLong => .nameTooLong path.text
  | zeroInside => .zeroInPath

def longestName : Nat := 255

def longestPath : Nat := 4095

namespace Tree

def empty : Tree := directory []

def entries : Tree → List (String × Tree)
  | file _ => []
  | directory entries => entries

def sortedEntries (tree : Tree) : List (String × Tree) := Keyed.ofList tree.entries.reverse

/-- Follows components from `here`, which was reached through the directories `above`, nearest
first. -/
def follow : List Tree → Tree → List String → Except Absence Tree
  | _, here, [] => .ok here
  | _, file _, _ :: _ => .error .throughFile
  | above, directory entries, name :: rest =>
    if name = ".." then
      match above with
      | [] => follow [] (directory entries) rest
      | parent :: higher => follow higher parent rest
    else
      if longestName < name.utf8ByteSize then .error .tooLong
      else
        match entries.lookup name with
        | some next => follow (directory entries :: above) next rest
        | none => .error .missing

def find (tree : Tree) (path : Path) : Except Absence Tree :=
  if path.text.toList.contains '\x00' then .error .zeroInside
  else if longestPath < path.text.utf8ByteSize then .error .tooLong
  else follow [] (if path.anchor = .relative then tree else empty) path.parts

/-- What is at a path, if anything is.  Only a path that is too long is a fault. -/
def look (tree : Tree) (path : Path) : Except Fault (Option Tree) :=
  match tree.find path with
  | .ok found => .ok (some found)
  | .error .tooLong => .error (.nameTooLong path.text)
  | .error _ => .ok none

def directoryAt (tree : Tree) (path : Path) : Except Fault (Option (List (String × Tree))) := do
  match ← tree.look path with
  | some (directory entries) => pure (some (directory entries).sortedEntries)
  | _ => pure none

/-- What an entry of the directory at `place` is.  It is asked for by its path, which may be too
long; nothing else can be in the way of an entry that was just listed. -/
def entryAt (tree : Tree) (place : Path) (entry : String × Tree) : Except Fault Tree :=
  (tree.look (place.child entry.1)).map fun _ => entry.2

def read (tree : Tree) (path : Path) : Except Fault (List UInt8) :=
  match tree.find path with
  | .ok (file content) => .ok content
  | .ok (directory _) => .error (.isDirectory path.text)
  | .error absence => .error (absence.fault path)

def setEntry (name : String) (tree : Tree) : List (String × Tree) → List (String × Tree)
  | [] => [(name, tree)]
  | (other, t) :: rest =>
    if other = name then (name, tree) :: rest else (other, t) :: setEntry name tree rest

/-- Puts a tree at a place, making the directories on the way to it. -/
def put (tree : Tree) : List String → Tree → Tree
  | [], _ => tree
  | name :: rest, here =>
    let next := (here.entries.lookup name).getD empty
    directory (setEntry name (tree.put rest next) here.entries)

/-- A change of the tree at a path.  Outside of the tree there is nothing to be changed. -/
def change (tree : Tree) (path : Path) (changed : Tree) : Tree × Option Fault :=
  if path.anchor = .relative then (changed, none) else (tree, some (.missing path.text))

/-- Makes those of the directories that are not there, one after the other, up to the first one
that cannot be made. -/
def makeEach (tree : Tree) : List Path → Tree × Option Fault
  | [] => (tree, none)
  | path :: rest =>
    match tree.find path with
    | .ok (directory _) => makeEach tree rest
    | .ok (file _) => (tree, some (.taken path.text))
    | .error .missing =>
      match tree.change path (empty.put path.place tree) with
      | (tree, some fault) => (tree, some fault)
      | (tree, none) => makeEach tree rest
    | .error absence => (tree, some (absence.fault path))

def makeDirectory (path : Path) (tree : Tree) : Tree × Option Fault :=
  match tree.find path with
  | .ok (directory _) => (tree, none)
  | .ok (file _) => (tree, some (.taken path.text))
  | .error .missing => tree.makeEach path.descent
  | .error absence => (tree, some (absence.fault path))

/-- Puts a file at a path, in a directory that is made if it is not there. -/
def write (content : List UInt8) (path : Path) (tree : Tree) : Tree × Option Fault :=
  match tree.makeDirectory path.parent with
  | (tree, some fault) => (tree, some fault)
  | (tree, none) =>
    match tree.find path with
    | .ok (directory _) => (tree, some (.isDirectory path.text))
    | .ok (file _) | .error .missing => tree.change path ((file content).put path.place tree)
    | .error absence => (tree, some (absence.fault path))

def remove : List String → Tree → Tree
  | [], _ => empty
  | _, file content => file content
  | [name], directory entries => directory (entries.filter fun entry => entry.1 ≠ name)
  | name :: rest, directory entries =>
    match entries.lookup name with
    | some next => directory (setEntry name (remove rest next) entries)
    | none => directory entries

def delete (path : Path) (tree : Tree) : Tree × Option Fault :=
  match tree.find path with
  | .ok _ => tree.change path (tree.remove path.place)
  | .error absence => (tree, some (absence.fault path))

end Tree

end SqlFixtures.Files
