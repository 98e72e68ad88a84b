import SqlFixtures.Failure
import SqlFixtures.Files.Path
import SqlFixtures.Text.Affix
import SqlFixtures.Text.Blank

/-!
# Sources of documents

A source is a place where documents are filed under category names: a directory, a place inside an
archive, or memory.  Only documents whose names have the right ending count.  An ending that is no
text is noticed when it is first compared with a name.
-/

namespace SqlFixtures

/-- A document that a source lists: its name, and its bytes if they can be had. -/
structure Resource where
  name : String
  content : Except Failure (List UInt8)

inductive Source where
  | directory (root : Files.Path) (ending : Value)
  | archive (path : Files.Path) (base : String) (ending : Value)
  /-- Documents given with their names, by category. -/
  | memory (documents : List (String × List (String × List UInt8)))

namespace Source

/-- A place inside an archive; slashes around the base say nothing. -/
def inArchive (path : Files.Path) (base ending : Value) : Except Failure Source :=
  match base with
  | .text base => .ok (archive path (String.ofList (Text.trim (· = '/') base.toList)) ending)
  | other => .error (.misuse (.operation other.kind "strip"))

def withEnding {α : Type} (ending : Value) (named : List (String × α)) :
    Except Failure (List α) :=
  match ending with
  | .text ending => .ok ((named.filter fun entry => Text.endsWith ending entry.1).map (·.2))
  | other => if named.isEmpty then .ok [] else .error (.misuse (.ending other.kind))

def placeInArchive (path : Files.Path) (place : String) : String := path.text ++ "!/" ++ place

def location : Source → String
  | directory root _ => root.text
  | archive path base _ => placeInArchive path base
  | memory _ => "memory"

end Source

end SqlFixtures
