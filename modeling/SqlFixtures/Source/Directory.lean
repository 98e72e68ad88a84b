import SqlFixtures.Files.Tree
import SqlFixtures.Source.Basic

/-!
# Documents in a directory

A category is a directory below the root.  Its documents are the files in it and the files in its
immediate subdirectories; nothing deeper counts, and a directory is never a document.  Entries are
taken in the order of their names, so that the documents of a subdirectory stand where its own name
stands.  Each of them is asked for by its path, and the first one whose path is too long fails the
listing.
-/

namespace SqlFixtures.Source

open Files (Path Tree)

/-- The document that an entry of the directory at `place` is, if it is a file with the ending. -/
def fileOf (files : Tree) (place : Path) (ending : Value) (entry : String × Tree) :
    Except Failure (List Resource) := do
  match ← (files.entryAt place entry).mapError Failure.file with
  | .file content =>
    withEnding ending [(entry.1, ⟨(place.child entry.1).text, .ok content⟩)]
  | .directory _ => pure []

def filesOf (files : Tree) (place : Path) (ending : Value) (entry : String × Tree) :
    Except Failure (List Resource) := do
  match ← (files.entryAt place entry).mapError Failure.file with
  | .file _ => fileOf files place ending entry
  | .directory inner =>
    let found ← (Tree.directory inner).sortedEntries.mapM
      (fileOf files (place.child entry.1) ending)
    pure found.flatten

def directoryDocuments (files : Tree) (place : Path) (ending : Value)
    (entries : List (String × Tree)) : Except Failure (List Resource) :=
  (entries.mapM (filesOf files place ending)).map List.flatten

end SqlFixtures.Source
