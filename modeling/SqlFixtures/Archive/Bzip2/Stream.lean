import SqlFixtures.Archive.Bzip2.Block

/-!
# Streams of blocks

A stream of blocks begins with a mark that tells how long its blocks may be and ends with a checksum
of the checksums of all blocks.  The bytes of a block are put back into their order before the
sorting; in what comes out, four equal bytes are followed by a byte that tells how often they are
repeated.  A stream that ends too early gives its complete blocks.
-/

namespace SqlFixtures.Archive.Bzip2

/-- For each place among sorted bytes the place of the byte that stood after it: equal bytes keep
their order. -/
def successors (sorted : Array UInt8) : Array Nat :=
  let counts := sorted.foldl (fun counts b => counts.modify b.toNat (· + 1))
    (Array.replicate 256 0)
  let starts := (counts.foldl (fun (acc : Array Nat × Nat) n => (acc.1.push acc.2, acc.2 + n))
    (#[], 0)).1
  (sorted.foldl
    (fun (acc : Array Nat × Array Nat × Nat) b =>
      let (next, starts, place) := acc
      (next.setIfInBounds (starts.getD b.toNat 0) place, starts.modify b.toNat (· + 1), place + 1))
    (Array.replicate sorted.size 0, starts, 0)).1

/-- Follows `next` for a number of steps and collects the bytes at the places it leads to. -/
def follow (sorted : Array UInt8) (next : Array Nat) : Nat → Nat → Array UInt8 → Array UInt8
  | 0, _, bytes => bytes
  | steps + 1, place, bytes =>
    follow sorted next steps (next.getD place 0) (bytes.push (sorted.getD place 0))

def Block.unsorted (block : Block) : Array UInt8 :=
  let next := successors block.sorted
  let bytes := follow block.sorted next block.sorted.size (next.getD block.origin 0) #[]
  if block.masked then mask bytes else bytes

/-- Output, with the equal bytes at its end that do not yet have a number of repetitions. -/
structure Expansion where
  output : Array UInt8
  last : UInt8
  equal : Nat

def Expansion.add : Expansion → UInt8 → Expansion
  | ⟨output, last, equal⟩, b =>
    if equal = 4 then ⟨pushTimes last b.toNat output, last, 0⟩
    else if 0 < equal ∧ b = last then ⟨output.push b, last, equal + 1⟩
    else ⟨output.push b, b, 1⟩

/-- Repeats bytes as they ask for.  There is no result if the last number of repetitions is
missing. -/
def expand (bytes : Array UInt8) : Option (Array UInt8) :=
  let expansion := bytes.foldl Expansion.add ⟨#[], 0, 0⟩
  if expansion.equal = 4 then none else some expansion.output

def checksumBit (remainder : UInt32) : UInt32 :=
  if remainder &&& 0x80000000 = 0 then remainder <<< 1 else (remainder <<< 1) ^^^ 0x04C11DB7

def checksumByte (remainder : UInt32) (b : UInt8) : UInt32 :=
  (List.range 8).foldl (fun r _ => checksumBit r) (remainder ^^^ (b.toUInt32 <<< 24))

/-- The remainder of the bits by the polynomial 0x04C11DB7, highest power first, which starts with
all bits set and is complemented at the end. -/
def checksum (bytes : Array UInt8) : UInt32 :=
  bytes.foldl checksumByte 0xFFFFFFFF ^^^ 0xFFFFFFFF

def Block.content (block : Block) : Option (Array UInt8) :=
  (expand block.unsorted).filter fun bytes => Bzip2.checksum bytes = block.checksum

inductive Section where
  | block (block : Block)
  | finish (checksum : UInt32)

def takeSection (limit : Nat) : Reader Section := do
  let first ← BitReader.number 8
  if first = 0x17 then
    expect [0x72, 0x45, 0x38, 0x50, 0x90]
    pure (.finish (.ofNat (← BitReader.number 32)))
  else if first = 0x31 then
    expect [0x41, 0x59, 0x26, 0x53, 0x59]
    pure (.block (← takeBlock limit))
  else BitReader.broken ()

/-- The mark at the beginning of a stream, which tells the greatest size of a block. -/
def takeLimit : Reader Nat := do
  expect ("BZh".toList.map Char.toNat)
  let digit ← BitReader.number 8
  if digit < '1'.toNat ∨ '9'.toNat < digit then BitReader.broken ()
  pure ((digit - '0'.toNat) * 100000)

def combine (combined checksum : UInt32) : UInt32 :=
  ((combined <<< 1) ||| (combined >>> 31)) ^^^ checksum

def sections (limit : Nat) :
    Nat → Array UInt8 → UInt32 → Bits → Option (Array UInt8 × Bool)
  | 0, output, _, _ => some (output, false)
  | fuel + 1, output, combined, bits =>
    match takeSection limit bits with
    | .error .ended => some (output, false)
    | .error (.broken _) => none
    | .ok (.finish checksum, _) => if checksum = combined then some (output, true) else none
    | .ok (.block block, after) =>
      match block.content with
      | none => none
      | some bytes =>
        sections limit fuel (output ++ bytes) (combine combined block.checksum) after

/-- What the stream at the beginning of `bytes` holds, and whether it is all there.  There is no
result if the stream breaks the format. -/
def unpack (bytes : List UInt8) : Option (List UInt8 × Bool) :=
  let bits := bitsHighFirst bytes
  match takeLimit bits with
  | .error .ended => some ([], false)
  | .error (.broken _) => none
  | .ok (limit, after) =>
    (sections limit (after.length + 1) #[] 0 after).map fun (output, ended) =>
      (output.toList, ended)

end SqlFixtures.Archive.Bzip2
