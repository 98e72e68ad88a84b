import SqlFixtures.Archive.Bytes
import SqlFixtures.Archive.Fault

/-!
# Extra fields

A directory record may have an extra field, made of parts that each begin with their kind and size.
One kind of part holds those of the record's numbers that do not fit into four bytes: a number that
has all bits set is taken from there.
-/

namespace SqlFixtures.Archive

/-- The numbers of an entry that may be long. -/
structure Extent where
  size : Nat
  packedSize : Nat
  position : Nat
  deriving Repr, DecidableEq

def longKind : Nat := 1

/-- The next number of eight bytes, which is there for `number`. -/
def takeLong (number : LongNumber) (data : List UInt8) : Except Fault (Nat × List UInt8) :=
  if data.length < 8 then .error (.missingNumber number)
  else .ok (numberAt data 0 8, data.drop 8)

def allSet (width : Nat) : Nat := Nat.pow 256 width - 1

def Extent.lengthen (extent : Extent) (data : List UInt8) : Except Fault Extent := do
  let (size, data) ←
    if extent.size = allSet 8 ∨ extent.size = allSet 4 then takeLong .size data
    else pure (extent.size, data)
  let (packedSize, data) ←
    if extent.packedSize = allSet 4 then takeLong .packedSize data
    else pure (extent.packedSize, data)
  let (position, _) ←
    if extent.position = allSet 4 then takeLong .position data else pure (extent.position, data)
  pure ⟨size, packedSize, position⟩

/-- Reads the parts of an extra field.  Fewer than four bytes are no part. -/
def Extent.readExtra (extent : Extent) : List UInt8 → Except Fault Extent
  | a :: b :: c :: d :: rest => do
    let kind := numberOf [a, b]
    let size := numberOf [c, d]
    if rest.length < size then throw (.longExtra kind size)
    let extent ← if kind = longKind then extent.lengthen (rest.take size) else pure extent
    extent.readExtra (rest.drop size)
  | _ => .ok extent
termination_by bytes => bytes.length
decreasing_by simp only [List.length_cons, List.length_drop]; omega

end SqlFixtures.Archive
