import SqlFixtures.Archive.Entry
import SqlFixtures.Source.Basic

/-!
# Documents in an archive

A category is a beginning of entry names: the base, if there is one, and the category, each with a
slash after it.  All entries with that beginning and the right ending are documents, however deep
they are.  They are taken in the order of their names, as often as a name occurs, and each has the
bytes of the last entry of its name.
-/

namespace SqlFixtures.Source

open Archive (Entry)

def entryBeginning (base category : String) : String :=
  if base.isEmpty then category ++ "/" else base ++ "/" ++ category ++ "/"

def namesUnder (beginning : String) (entries : List Entry) : List String :=
  (entries.map (·.name)).filter (Text.beginsWith beginning)

def documentNames (beginning : String) (ending : Value) (entries : List Entry) :
    Except Failure (List String) :=
  (withEnding ending ((namesUnder beginning entries).map fun name => (name, name))).map
    fun names => names.mergeSort

def entryContent (entries : List Entry) (name : String) : Except Failure (List UInt8) :=
  match Archive.lookup name entries with
  | some content => content.mapError .archive
  | none => .error (.file (.missing name))

def archiveDocuments (path : Files.Path) (beginning : String) (ending : Value)
    (entries : List Entry) : Except Failure (List Resource) := do
  let names ← documentNames beginning ending entries
  pure (names.map fun name => ⟨placeInArchive path name, entryContent entries name⟩)

end SqlFixtures.Source
