import SqlFixtures.Archive.Huffman

/-!
# Compressed entries

Compressed data are a sequence of blocks.  A block holds plain bytes, or symbols of two prefix
codes: a symbol is a byte, the end of the block, or the length of a run that repeats earlier
output, and a length is followed by the distance back to that output.  The codes are fixed, or they
are described at the head of the block by lengths that are themselves coded.  Bits are taken from
each byte lowest first.

Data that end too early give what could be read; data that break the format give nothing.
-/

namespace SqlFixtures.Archive

inductive CompressionFault where
  | blockKind
  | plainLength
  | tooManyLengths
  | lengthCode
  | repeatedLength
  | noBlockEnd
  | symbolCode
  | distanceCode
  | symbol
  | distance
  | tooFarBack
  deriving Repr, DecidableEq

/-- A part of a block, or what stopped the reading of it. -/
abbrev Inflating (α : Type) := Except (Halt CompressionFault) α

/-- The shortest length of a run for each length symbol, and how many bits are added to it. -/
def lengthTable : List (Nat × Nat) :=
  [(3, 0), (4, 0), (5, 0), (6, 0), (7, 0), (8, 0), (9, 0), (10, 0), (11, 1), (13, 1), (15, 1),
   (17, 1), (19, 2), (23, 2), (27, 2), (31, 2), (35, 3), (43, 3), (51, 3), (59, 3), (67, 4),
   (83, 4), (99, 4), (115, 4), (131, 5), (163, 5), (195, 5), (227, 5), (258, 0)]

/-- The shortest distance for each distance symbol, and how many bits are added to it. -/
def distanceTable : List (Nat × Nat) :=
  [(1, 0), (2, 0), (3, 0), (4, 0), (5, 1), (7, 1), (9, 2), (13, 2), (17, 3), (25, 3), (33, 4),
   (49, 4), (65, 5), (97, 5), (129, 6), (193, 6), (257, 7), (385, 7), (513, 8), (769, 8),
   (1025, 9), (1537, 9), (2049, 10), (3073, 10), (4097, 11), (6145, 11), (8193, 12), (12289, 12),
   (16385, 13), (24577, 13)]

/-- The amount that a symbol stands for, with the bits that are added to it. -/
def takeAmount (table : List (Nat × Nat)) (symbol : Nat) (fault : CompressionFault) (bits : Bits) :
    Inflating (Nat × Bits) :=
  match table[symbol]? with
  | none => .error (.broken fault)
  | some (least, width) => do
    let (n, after) ← takeLow width bits
    pure (least + n, after)

def copyBack (distance : Nat) : Nat → Array UInt8 → Array UInt8
  | 0, output => output
  | length + 1, output =>
    copyBack distance length (output.push (output.getD (output.size - distance) 0))

structure BlockCodes where
  symbols : PrefixCode
  distances : PrefixCode

inductive BlockStep where
  | byte (b : UInt8)
  | copy (length distance : Nat)
  | finish

def takeStep (codes : BlockCodes) (size : Nat) (bits : Bits) : Inflating (BlockStep × Bits) := do
  let (symbol, bits) ← codes.symbols.next .symbol 0 bits
  if symbol < 256 then pure (.byte (UInt8.ofNat symbol), bits)
  else if symbol = 256 then pure (.finish, bits)
  else
    let (length, bits) ← takeAmount lengthTable (symbol - 257) .symbol bits
    let (symbol, bits) ← codes.distances.next .distance 0 bits
    let (distance, bits) ← takeAmount distanceTable symbol .distance bits
    if size < distance then throw (Halt.broken .tooFarBack)
    pure (.copy length distance, bits)

/-- Output so far, with the bits that remain and what stopped the reading if something did. -/
structure Progress where
  output : Array UInt8
  bits : Bits
  halt : Option (Halt CompressionFault)

def takeSymbols (codes : BlockCodes) : Nat → Array UInt8 → Bits → Progress
  | 0, output, bits => ⟨output, bits, some .ended⟩
  | fuel + 1, output, bits =>
    match takeStep codes output.size bits with
    | .error halt => ⟨output, bits, some halt⟩
    | .ok (.byte b, after) => takeSymbols codes fuel (output.push b) after
    | .ok (.copy length distance, after) =>
      takeSymbols codes fuel (copyBack distance length output) after
    | .ok (.finish, after) => ⟨output, after, none⟩

def fixedCodes : BlockCodes where
  symbols := .ofLengths (List.replicate 144 8 ++ List.replicate 112 9 ++ List.replicate 24 7 ++
    List.replicate 8 8)
  distances := .ofLengths (List.replicate 32 5)

def lengthOrder : List Nat :=
  [16, 17, 18, 0, 8, 7, 9, 6, 10, 5, 11, 4, 12, 3, 13, 2, 14, 1, 15]

def takeNumbers (width : Nat) : Nat → Bits → Inflating (List Nat × Bits)
  | 0, bits => .ok ([], bits)
  | count + 1, bits => do
    let (n, bits) ← takeLow width bits
    let (others, bits) ← takeNumbers width count bits
    pure (n :: others, bits)

/-- For a symbol that repeats a length: the least number of times, and how many bits are added. -/
def repetition (symbol : Nat) : Nat × Nat :=
  if symbol = 16 then (3, 2) else if symbol = 17 then (3, 3) else (11, 7)

/-- The length that a symbol repeats: the last one, or zero. -/
def repeatedLength (symbol : Nat) (lengths : List Nat) : Option Nat :=
  if symbol = 16 then lengths.head? else some 0

/-- Reads coded lengths until there are `count`, at most one symbol for each unit of fuel.  The
lengths are held latest first. -/
def takeLengths (code : PrefixCode) (count : Nat) :
    Nat → List Nat → Bits → Inflating (List Nat × Bits)
  | 0, _, _ => .error .ended
  | fuel + 1, lengths, bits =>
    if lengths.length = count then .ok (lengths, bits)
    else do
      let (symbol, bits) ← code.next .lengthCode 0 bits
      if symbol < 16 then takeLengths code count fuel (symbol :: lengths) bits
      else
        let (n, bits) ← takeLow (repetition symbol).2 bits
        let times := (repetition symbol).1 + n
        match repeatedLength symbol lengths with
        | none => throw (Halt.broken .repeatedLength)
        | some length =>
          if count < lengths.length + times then throw (Halt.broken .repeatedLength)
          takeLengths code count fuel (List.replicate times length ++ lengths) bits

/-- The code for lengths.  If none of its symbols is in use, all lengths are zero. -/
def codeOfLengths (lengths : List Nat) : Inflating PrefixCode :=
  if PrefixCode.used lengths = [] then .ok .idle
  else if PrefixCode.isComplete lengths then .ok (.ofLengths lengths)
  else .error (.broken .lengthCode)

def takeCodes (bits : Bits) : Inflating (BlockCodes × Bits) := do
  let (n, bits) ← takeLow 5 bits
  let (m, bits) ← takeLow 5 bits
  let (k, bits) ← takeLow 4 bits
  let symbolCount := n + 257
  let distanceCount := m + 1
  if 286 < symbolCount ∨ 30 < distanceCount then throw (Halt.broken .tooManyLengths)
  let (given, bits) ← takeNumbers 3 (k + 4) bits
  let lengths := (List.range 19).map fun symbol =>
    (given[lengthOrder.idxOf symbol]?).getD 0
  let code ← codeOfLengths lengths
  let (lengths, bits) ← takeLengths code (symbolCount + distanceCount)
    (symbolCount + distanceCount + 1) [] bits
  let symbolLengths := lengths.reverse.take symbolCount
  let distanceLengths := lengths.reverse.drop symbolCount
  if symbolLengths[256]? = some 0 then throw (Halt.broken .noBlockEnd)
  if ¬ (PrefixCode.isComplete symbolLengths || PrefixCode.isTrivial symbolLengths) then
    throw (Halt.broken .symbolCode)
  if ¬ (PrefixCode.isComplete distanceLengths || PrefixCode.isTrivial distanceLengths) then
    throw (Halt.broken .distanceCode)
  pure (⟨.ofLengths symbolLengths, .ofLengths distanceLengths⟩, bits)

def takePlain : Nat → Array UInt8 → Bits → Progress
  | 0, output, bits => ⟨output, bits, none⟩
  | count + 1, output, bits =>
    match takeLow 8 bits with
    | .error halt => ⟨output, bits, some halt⟩
    | .ok (n, after) => takePlain count (output.push (UInt8.ofNat n)) after

/-- Reads the rest of a block of plain bytes, which begins with the next whole byte. -/
def plainBlock (output : Array UInt8) (bits : Bits) : Progress :=
  let bits := bits.drop (bits.length % 8)
  let lengths : Inflating (Nat × Bits) := do
    let (length, after) ← takeLow 16 bits
    let (complement, after) ← takeLow 16 after
    if length + complement = 65535 then pure (length, after)
    else throw (Halt.broken .plainLength)
  match lengths with
  | .error halt => ⟨output, bits, some halt⟩
  | .ok (length, after) => takePlain length output after

def block (kind : Nat) (output : Array UInt8) (bits : Bits) : Progress :=
  match kind with
  | 0 => plainBlock output bits
  | 1 => takeSymbols fixedCodes (bits.length + 1) output bits
  | 2 =>
    match takeCodes bits with
    | .error halt => ⟨output, bits, some halt⟩
    | .ok (codes, after) => takeSymbols codes (after.length + 1) output after
  | _ => ⟨output, bits, some (.broken .blockKind)⟩

def blocks : Nat → Array UInt8 → Bits → Progress
  | 0, output, bits => ⟨output, bits, some .ended⟩
  | fuel + 1, output, bits =>
    match takeLow 3 bits with
    | .error halt => ⟨output, bits, some halt⟩
    | .ok (head, after) =>
      let progress := block (head / 2) output after
      if progress.halt.isSome || head % 2 = 1 then progress
      else blocks fuel progress.output progress.bits

/-- What compressed data hold, and whether they are all there. -/
def inflate (bytes : List UInt8) : Except CompressionFault (List UInt8 × Bool) :=
  let bits := bitsLowFirst bytes
  let progress := blocks (bits.length + 1) #[] bits
  match progress.halt with
  | some (.broken fault) => .error fault
  | some .ended => .ok (progress.output.toList, false)
  | none => .ok (progress.output.toList, true)

end SqlFixtures.Archive
