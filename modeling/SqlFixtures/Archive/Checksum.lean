/-!
# Checksums of entries

The checksum of an entry is the remainder of its bits, read as a polynomial over the field of two
elements, by the polynomial 0xEDB88320, whose lowest bit stands for the highest power.  The
remainder starts with all bits set and is complemented at the end.
-/

namespace SqlFixtures.Archive

def checksumBit (remainder : UInt32) : UInt32 :=
  if remainder &&& 1 = 1 then (remainder >>> 1) ^^^ 0xEDB88320 else remainder >>> 1

def checksumByte (remainder : UInt32) (b : UInt8) : UInt32 :=
  (List.range 8).foldl (fun r _ => checksumBit r) (remainder ^^^ b.toUInt32)

def checksum (bytes : List UInt8) : UInt32 :=
  bytes.foldl checksumByte 0xFFFFFFFF ^^^ 0xFFFFFFFF

end SqlFixtures.Archive
