import SqlFixtures.Archive.Bytes
import SqlFixtures.Archive.Fault

/-!
# The end of an archive

An archive ends with a record that tells how long its directory is and where it was meant to begin;
only a comment may follow.  If the numbers do not fit into that record, a longer record stands
before it, and a locator between the two tells that there is one.  The directory stands right before these
records, so that bytes put in front of an archive move the directory and all entries by the same
amount.
-/

namespace SqlFixtures.Archive

def endMark : List UInt8 := [0x50, 0x4B, 5, 6]

def locatorMark : List UInt8 := [0x50, 0x4B, 6, 7]

def longEndMark : List UInt8 := [0x50, 0x4B, 6, 6]

def endSize : Nat := 22

def locatorSize : Nat := 20

def longEndSize : Nat := 56

/-- The suffix of `bytes` that begins with the last occurrence of a mark. -/
def lastFrom (mark : List UInt8) : List UInt8 → Option (List UInt8)
  | [] => none
  | b :: rest =>
    match lastFrom mark rest with
    | some suffix => some suffix
    | none => if mark.isPrefixOf (b :: rest) then some (b :: rest) else none

/-- The archive's last record with all that follows it.  Without a comment the record is the end
of the file; otherwise it is looked for as far back as the longest comment allows. -/
def endRecord? (bytes : List UInt8) : Option (List UInt8) :=
  let tail := bytes.drop (bytes.length - endSize)
  if bytes.length < endSize then none
  else if endMark.isPrefixOf tail && tail.drop 20 == [0, 0] then some tail
  else
    (lastFrom endMark (bytes.drop (bytes.length - (endSize + 65536)))).filter fun record =>
      endSize ≤ record.length

structure Tail where
  /-- Where the records at the end begin, right after the directory. -/
  place : Nat
  size : Nat
  /-- Where the directory was meant to begin. -/
  intended : Nat
  deriving Repr, DecidableEq

namespace Tail

def ofRecord (place : Nat) (record : List UInt8) : Tail :=
  ⟨place, numberAt record 12 4, numberAt record 16 4⟩

def ofLongRecord (place : Nat) (record : List UInt8) : Tail :=
  ⟨place, numberAt record 40 8, numberAt record 48 8⟩

def ofBytes (bytes : List UInt8) : Except Fault Tail :=
  match endRecord? bytes with
  | none => .error .notArchive
  | some record =>
    let place := bytes.length - record.length
    let locator := bytes.drop (place - locatorSize)
    if place < locatorSize ∨ ¬ locatorMark.isPrefixOf locator then .ok (ofRecord place record)
    else if numberAt locator 4 4 ≠ 0 ∨ 1 < numberAt locator 16 4 then .error .severalDisks
    else if place < locatorSize + longEndSize then .error .notArchive
    else
      let longPlace := place - locatorSize - longEndSize
      let longRecord := bytes.drop longPlace
      if longEndMark.isPrefixOf longRecord then .ok (ofLongRecord longPlace longRecord)
      else .ok (ofRecord place record)

end Tail

/-- A file is an archive if it has a last record, whatever else is in it. -/
def isArchive (bytes : List UInt8) : Except Fault Bool :=
  match Tail.ofBytes bytes with
  | .ok _ => .ok true
  | .error .notArchive => .ok false
  | .error fault => .error fault

end SqlFixtures.Archive
