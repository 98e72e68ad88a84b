/-!
# Numbers in bytes

The records of an archive hold numbers of two or four bytes, least significant byte first.
-/

namespace SqlFixtures.Archive

def numberOf : List UInt8 → Nat
  | [] => 0
  | b :: rest => b.toNat + 256 * numberOf rest

def bytesOf : Nat → Nat → List UInt8
  | 0, _ => []
  | width + 1, n => UInt8.ofNat n :: bytesOf width (n / 256)

/-- The number of `width` bytes that stands `offset` bytes into a record. -/
def numberAt (record : List UInt8) (offset width : Nat) : Nat :=
  numberOf ((record.drop offset).take width)

end SqlFixtures.Archive
