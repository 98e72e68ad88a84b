import SqlFixtures.Source.Listing

/-!
# Probing a location

A location is taken to be inside an archive if the location itself or anything above it is one; the
nearest one counts.  The rest of the location is then the base of the source, unless a base is
given.  Any other location is taken to be a directory, whether it is there or not.
-/

namespace SqlFixtures.Source

open Files (Path Tree)

def isArchiveAt (files : Tree) (path : Path) : Except Failure Bool := do
  match ← (files.look path).mapError Failure.file with
  | some (.file content) => (Archive.isArchive content).mapError .archive
  | _ => pure false

/-- The first of the candidates that is an archive, with what belongs to it. -/
def firstArchive (files : Tree) :
    List (Path × List String) → Except Failure (Option (Path × List String))
  | [] => .ok none
  | candidate :: rest => do
    if ← isArchiveAt files candidate.1 then pure (some candidate) else firstArchive files rest

/-- The nearest archive at or above a location, with the components that lead on from it. -/
def archiveAbove (files : Tree) (location : Path) :
    Except Failure (Option (Path × List String)) :=
  firstArchive files location.ascent

/-- The base that is given, or the one that the components from the archive on make up. -/
def baseFrom (components : List String) : Value → Value
  | .none => .text (String.intercalate "/" components)
  | given => given

def probe (files : Tree) (location : Path) (archiveBase ending : Value) : Logged Source := do
  match ← Logged.ofExcept (archiveAbove files location) with
  | some (path, rest) =>
    let base := baseFrom rest archiveBase
    Logged.note .debug s!"Reading cases from archive {path.text} (base '{base.toText}')"
    Logged.ofExcept (inArchive path base ending)
  | none =>
    Logged.note .debug s!"Reading cases from directory {location.text}"
    pure (directory location ending)

end SqlFixtures.Source
