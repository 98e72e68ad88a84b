import SqlFixtures.Decimal.Shortest
import SqlFixtures.Files.Path
import SqlFixtures.Record.Data

/-!
# Discovery settings

Settings say where the two case categories are looked for: a root, which may be a directory, an
archive or a place inside an archive; the place of the root inside the archive, if it is not to be
derived; the ending of document names; and whether a repeated id is an error.
-/

namespace SqlFixtures.Record

def documentEnding : String := ".xml"

structure Config where
  root : Option Files.Path
  archiveBase : Option String
  ending : String
  strictDuplicates : Bool

def readPath : Data → Checked Files.Path
  | .text s => .valid (.ofString s)
  | _ => .fail .notPath

def trueWords : List String := ["1", "t", "y", "yes", "on", "true"]

def falseWords : List String := ["0", "f", "n", "no", "off", "false"]

/-- Numbers from here on, and from its opposite down, are not looked at. -/
def numberLimit : Int := Int.pow 2 63

/-- A switch is given as a truth value, as one of the numbers zero and one, or as a word whose
letters may be of either case.  Another whole number is an unreadable switch unless it is too
great. -/
def readFlag : Data → Checked Bool
  | .bool b => .valid b
  | .int i =>
    if i = 0 then .valid false
    else if i = 1 then .valid true
    else if i < -numberLimit ∨ numberLimit ≤ i then .fail .notFlag
    else .fail .unreadableFlag
  | .float x =>
    if x == 0 then .valid false
    else if x == 1 then .valid true
    else if x == x.floor && x.abs < 9223372036854775808 then .fail .unreadableFlag
    else .fail .notFlag
  | .text s =>
    if trueWords.contains s.toLower then .valid true
    else if falseWords.contains s.toLower then .valid false
    else .fail .unreadableFlag
  | _ => .fail .notFlag

namespace Config

def kind : String := "CorpusConfig"

def standard : Config := ⟨none, none, documentEnding, false⟩

def ofFields (fields : Fields) : Checked Config :=
  mk <$> optional fields (.only "root") none (orNull readPath)
    <*> optional fields (.only "archive_base") none (orNull readText)
    <*> optional fields (.only "extension") documentEnding readText
    <*> optional fields (.only "strict_duplicates") false readFlag
    <* noOthers fields [.only "root", .only "archive_base", .only "extension",
      .only "strict_duplicates"]

def ofData : Data → Checked Config := readRecord ofFields

end Config

end SqlFixtures.Record
