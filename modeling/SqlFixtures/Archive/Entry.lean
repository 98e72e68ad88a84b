import SqlFixtures.Archive.Bzip2.Stream
import SqlFixtures.Archive.Checksum
import SqlFixtures.Archive.Directory

/-!
# The entries of an archive

An entry has a header of its own, which repeats its name, and then its bytes, plain or compressed.
What is unpacked must have the checksum that the directory tells.
-/

namespace SqlFixtures.Archive

structure Entry where
  name : String
  content : Except Fault (List UInt8)

def headerMark : List UInt8 := [0x50, 0x4B, 3, 4]

def headerSize : Nat := 30

def positionRange : Int := Int.pow 2 63

def farthestPosition : Int := Int.pow 2 44 - 4096

inductive Method where
  | plain
  | deflated
  | sortedBlocks
  | rangeCoded

def Method.ofNumber? (number : Nat) : Option Method :=
  match number with
  | 0 => some .plain
  | 8 => some .deflated
  | 12 => some .sortedBlocks
  | 14 => some .rangeCoded
  | _ => none

/-- Unpacks the bytes of an entry.  The answer tells whether their end was marked. -/
def unpack (method : Method) (packed : List UInt8) : Except Fault (List UInt8 × Bool) :=
  match method with
  | .plain => .ok (packed, false)
  | .deflated => (inflate packed).mapError .compression
  | .sortedBlocks =>
    match Bzip2.unpack packed with
    | some unpacked => .ok unpacked
    | none => .error .blocks
  | .rangeCoded => (Lzma.unpack packed).mapError .range

def contentOf (listed : Listed) (method : Method) (bytes : List UInt8) :
    Except Fault (List UInt8) := do
  let packed := bytes.take listed.packedSize
  if packed = [] ∧ 0 < listed.packedSize then throw .cutShort
  let (unpacked, ended) ← unpack method packed
  if packed.length < listed.packedSize ∧ unpacked.length < listed.size ∧ ¬ ended then
    throw .cutShort
  let content := unpacked.take listed.size
  if (checksum content).toNat = listed.sum then pure content
  else throw (.damagedEntry listed.name)

/-- Reads the entry whose header `bytes` begin with; `place` is where they stand in the archive. -/
def readAt (place : Nat) (listed : Listed) (bytes : List UInt8) : Except Fault (List UInt8) := do
  let nameSize := numberAt bytes 26 2
  let nameBytes := (bytes.drop headerSize).take nameSize
  let data := bytes.drop (headerSize + nameSize + numberAt bytes 28 2)
  if bytes.length < headerSize then throw .shortHeader
  if ¬ headerMark.isPrefixOf bytes then throw .badHeaderMark
  if listed.flags.testBit 5 then throw (.unsupported .patch)
  if listed.flags.testBit 6 then throw (.unsupported .strongEncryption)
  let name ← nameOf (numberAt bytes 6 2) nameBytes
  if name ≠ listed.fullName then throw (.otherName listed.fullName nameBytes)
  let dataPlace := place + (bytes.length - data.length)
  if listed.limit < dataPlace + listed.packedSize then throw (.overlapping listed.fullName)
  if listed.flags.testBit 0 then throw (.encrypted listed.name)
  match Method.ofNumber? listed.method with
  | some method => contentOf listed method data
  | none => throw (.unsupported .method)

def readListed (bytes : List UInt8) (listed : Listed) : Except Fault (List UInt8) :=
  if listed.position < -positionRange ∨ positionRange ≤ listed.position then .error .immense
  else if listed.position < 0 ∨ farthestPosition < listed.position then .error .unreachable
  else readAt listed.position.toNat listed (bytes.drop listed.position.toNat)

def readEntries (bytes : List UInt8) : Except Fault (List Entry) :=
  (readDirectory bytes).map fun directory =>
    directory.map fun listed => ⟨listed.name, readListed bytes listed⟩

/-- Of several entries of one name the last one is read. -/
def lookup (name : String) (entries : List Entry) : Option (Except Fault (List UInt8)) :=
  (entries.reverse.find? fun entry => entry.name = name).map (·.content)

end SqlFixtures.Archive
