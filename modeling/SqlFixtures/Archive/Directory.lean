import SqlFixtures.Archive.Extra
import SqlFixtures.Archive.Tail
import SqlFixtures.Text.Codepages
import SqlFixtures.Text.Utf8

/-!
# The directory of an archive

The records of a directory name the entries, in order and possibly repeatedly, and tell where each
entry is and how it is packed.  An entry must not reach into the entry that is placed after it, nor
into the directory.
-/

namespace SqlFixtures.Archive

def directoryMark : List UInt8 := [0x50, 0x4B, 1, 2]

def directoryRecordSize : Nat := 46

structure Listed where
  name : String
  /-- The name before it is cut at its first zero. -/
  fullName : String
  flags : Nat
  method : Nat
  sum : Nat
  packedSize : Nat
  size : Nat
  /-- Where the header of the entry begins. -/
  position : Int
  /-- Where the entry has to end. -/
  limit : Int
  deriving DecidableEq

/-- The newest version of the format that is understood, in tenths. -/
def newestVersion : Nat := 63

/-- The code page in which names are written unless they are marked as UTF-8. -/
def nameCodepage : Text.Codepage := (Text.Codepage.ofName? "437").getD .latin

def nameOf (flags : Nat) (bytes : List UInt8) : Except Fault String :=
  if flags.testBit 11 then
    match Text.Utf8.decode bytes with
    | .ok name => .ok (String.ofList name)
    | .error fault => .error (.undecodableName fault)
  else .ok (String.ofList (bytes.filterMap nameCodepage.charOf))

def cutName (name : String) : String :=
  String.ofList (name.toList.takeWhile (· ≠ '\x00'))

/-- Reads the record of the directory that `bytes` begin with, where the directory begins at
`start`. -/
def readRecord (shift start : Int) (bytes : List UInt8) : Except Fault Listed := do
  let flags := numberAt bytes 8 2
  let version := numberAt bytes 6 1
  let afterFixed := bytes.drop directoryRecordSize
  let extra := (afterFixed.drop (numberAt bytes 28 2)).take (numberAt bytes 30 2)
  if bytes.length < directoryRecordSize then throw .shortDirectory
  if ¬ directoryMark.isPrefixOf bytes then throw .badDirectoryMark
  let fullName ← nameOf flags (afterFixed.take (numberAt bytes 28 2))
  if newestVersion < version then throw (.unsupported (.version version))
  let extent : Extent := ⟨numberAt bytes 24 4, numberAt bytes 20 4, numberAt bytes 42 4⟩
  let extent ← extent.readExtra extra
  pure
    { name := cutName fullName
      fullName
      flags
      method := numberAt bytes 10 2
      sum := numberAt bytes 16 4
      packedSize := extent.packedSize
      size := extent.size
      position := extent.position + shift
      limit := start }

/-- The size of the record that `bytes` begin with: its fixed part, name, extra field and
comment. -/
def recordSize (bytes : List UInt8) : Nat :=
  directoryRecordSize + numberAt bytes 28 2 + numberAt bytes 30 2 + numberAt bytes 32 2

def readRecords (shift start : Int) : Nat → List UInt8 → Except Fault (List Listed)
  | _, [] => .ok []
  | 0, _ => .error .shortDirectory
  | fuel + 1, bytes => do
    let listed ← readRecord shift start bytes
    let others ← readRecords shift start fuel (bytes.drop (recordSize bytes))
    pure (listed :: others)

/-- Where an entry has to end: at the nearest position after its own, or at its own if an entry
before it in the directory has the same one. -/
def limitAmong (earlier all : List Listed) (listed : Listed) : Int :=
  if earlier.any fun other => other.position = listed.position then listed.position
  else
    let after := (all.map (·.position)).filter (listed.position < ·)
    match after.min? with
    | some position => position
    | none => listed.limit

/-- Sets the limits of entries, of which `earlier` ones stand before the others in `all`. -/
def limited (earlier all : List Listed) : List Listed → List Listed
  | [] => []
  | listed :: rest =>
    { listed with limit := limitAmong earlier all listed } ::
      limited (earlier ++ [listed]) all rest

def readDirectory (bytes : List UInt8) : Except Fault (List Listed) := do
  let tail ← Tail.ofBytes bytes
  let start : Int := tail.place - tail.size
  if start < 0 then throw .misplacedDirectory
  let directory := (bytes.drop start.toNat).take tail.size
  let listed ← readRecords (start - tail.intended) start directory.length directory
  pure (limited [] listed listed)

end SqlFixtures.Archive
