import SqlFixtures.Logging.Logged
import SqlFixtures.Source.Archive
import SqlFixtures.Source.Directory

/-!
# Listing a category

A category that is not there has no documents, which is logged but is no failure.  An archive that
cannot be read is one, and so is a path in a directory that is too long to be asked for.
-/

namespace SqlFixtures.Source

open Files (Path Tree)

/-- The documents of a category below `root`.  The name of the category is a part of a path. -/
def listDirectory (files : Tree) (root : Path) (ending category : Value) :
    Logged (List Resource) :=
  match category with
  | .text name => do
    let place := root.join (.ofString name)
    match ← Logged.ofExcept ((files.directoryAt place).mapError Failure.file) with
    | some entries => Logged.ofExcept (directoryDocuments files place ending entries)
    | none =>
      Logged.note .debug s!"No case directory at {place.text}; skipping category '{name}'"
      pure []
  | other => Logged.fail (.misuse (.pathPart other.kind))

def openArchive (files : Tree) (path : Path) : Except Failure (List Archive.Entry) := do
  let bytes ← (files.read path).mapError Failure.file
  (Archive.readEntries bytes).mapError Failure.archive

def listArchive (files : Tree) (path : Path) (base : String) (ending category : Value) :
    Logged (List Resource) := do
  let beginning := entryBeginning base category.toText
  let entries ← Logged.ofExcept (openArchive files path)
  let documents ← Logged.ofExcept (archiveDocuments path beginning ending entries)
  if documents.isEmpty then
    Logged.note .debug s!"No entries under {beginning} in {path.text}"
  pure documents

def documentsInMemory (documents : List (String × List (String × List UInt8)))
    (category : Value) : Except Failure (List Resource) :=
  match category with
  | .text name =>
    .ok (((documents.lookup name).getD []).map fun document => ⟨document.1, .ok document.2⟩)
  | other => if other.isKey then .ok [] else .error (.misuse (.key other.kind))

def list (files : Tree) (source : Source) (category : Value) : Logged (List Resource) :=
  match source with
  | directory root ending => listDirectory files root ending category
  | archive path base ending => listArchive files path base ending category
  | memory documents => Logged.ofExcept (documentsInMemory documents category)

end SqlFixtures.Source
