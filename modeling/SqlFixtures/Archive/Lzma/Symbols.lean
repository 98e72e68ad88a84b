import SqlFixtures.Archive.Lzma.Range

/-!
# Symbols in range code

Output is made of bytes and of runs that repeat earlier output, from a distance that is new or one
of the last four.  What the next symbol is likely to be depends on the kinds of the symbols before
it and on the lowest bits of the place, and a byte on the byte before it as well.
-/

namespace SqlFixtures.Archive.Lzma

/-- How many bits of what is around a byte make up its context. -/
structure Shape where
  /-- Bits of the byte before. -/
  byteBits : Nat
  /-- Bits of the place, for a byte. -/
  placeBits : Nat
  /-- Bits of the place, for the kind of a symbol and for lengths. -/
  kindBits : Nat
  deriving Repr, DecidableEq

/-! The contexts stand one after the other. -/

def isRun : Nat := 0
def isRepeated : Nat := isRun + 12 * 16
def isOlder : Nat := isRepeated + 12
def isThird : Nat := isOlder + 12
def isFourth : Nat := isThird + 12
def isLong : Nat := isFourth + 12
def distanceSlots : Nat := isLong + 12 * 16
def distanceMiddle : Nat := distanceSlots + 4 * 64
def distanceLow : Nat := distanceMiddle + 115
def newLength : Nat := distanceLow + 16
def repeatedLength : Nat := newLength + 514
def bytes : Nat := repeatedLength + 514

def contextCount (shape : Shape) : Nat :=
  bytes + 768 * Nat.pow 2 (shape.byteBits + shape.placeBits)

/-- What the kinds of the last symbols were, and the last four distances, each less by one. -/
structure Past where
  kinds : Nat
  first : Nat
  second : Nat
  third : Nat
  fourth : Nat

def Past.initial : Past := ⟨0, 0, 0, 0, 0⟩

def Past.isAfterByte (past : Past) : Bool := past.kinds < 7

def afterByte (kinds : Nat) : Nat :=
  if kinds < 4 then 0 else if kinds < 10 then kinds - 3 else kinds - 6

/-- The number of bits of a byte before it becomes a whole number of 256 or more. -/
def byteAfter (base : Nat) : Nat → Nat → Reader Nat
  | 0, node => pure node
  | fuel + 1, node => do
    if 256 ≤ node then pure node
    else
      let b ← Reader.bit (base + node)
      byteAfter base fuel (2 * node + b.toNat)

/-- Reads a byte that is likely to begin like `expected`, as long as it does. -/
def byteLike (base : Nat) : Nat → Nat → Nat → Reader Nat
  | 0, _, node => pure node
  | fuel + 1, expected, node => do
    let guess := (expected / 128) % 2
    let b ← Reader.bit (base + (1 + guess) * 256 + node)
    let node := 2 * node + b.toNat
    if b.toNat = guess then byteLike base fuel (2 * expected) node
    else byteAfter base 8 node

inductive Symbol where
  | byte (b : UInt8)
  | run (length distance : Nat)
  | finish

def takeLength (base place : Nat) : Reader Nat := do
  if ← Reader.bit base then
    if ← Reader.bit (base + 1) then
      let n ← Reader.tree (base + 258) 8
      pure (n + 18)
    else
      let n ← Reader.tree (base + 130 + 8 * place) 3
      pure (n + 10)
  else
    let n ← Reader.tree (base + 2 + 8 * place) 3
    pure (n + 2)

/-- Reads a distance, less by one, for a run of a length. -/
def takeDistance (length : Nat) : Reader Nat := do
  let slot ← Reader.tree (distanceSlots + 64 * min (length - 2) 3) 6
  if slot < 4 then pure slot
  else
    let width := slot / 2 - 1
    let least := (2 + slot % 2) * Nat.pow 2 width
    if slot < 14 then
      let n ← Reader.treeLow (distanceMiddle + least - slot) width
      pure (least + n)
    else
      let n ← Reader.evenAfter 0 (width - 4)
      let low ← Reader.treeLow distanceLow 4
      pure (least + 16 * n + low)

def endDistance : Nat := 0xFFFFFFFF

/-- Reads the byte at a place, where `previous` is the byte before and `expected` the one at the
last distance. -/
def takeByte (shape : Shape) (past : Past) (place : Nat) (previous expected : UInt8) :
    Reader (Symbol × Past) := do
  let around := (place % Nat.pow 2 shape.placeBits) * Nat.pow 2 shape.byteBits +
    previous.toNat / Nat.pow 2 (8 - shape.byteBits)
  let base := bytes + 768 * around
  let node ←
    if past.isAfterByte then byteAfter base 8 1 else byteLike base 8 expected.toNat 1
  pure (.byte (UInt8.ofNat node), { past with kinds := afterByte past.kinds })

/-- Reads a run with a new distance.  Only the last `reach` bytes can be repeated. -/
def takeNewRun (past : Past) (place reach : Nat) : Reader (Symbol × Past) := do
  let length ← takeLength newLength place
  let distance ← takeDistance length
  if distance = endDistance then
    Reader.widen
    if (← get).code = 0 then pure (.finish, past) else Reader.broken
  else if reach ≤ distance then Reader.broken
  else
    let kinds := if past.isAfterByte then 7 else 10
    pure (.run length (distance + 1), ⟨kinds, distance, past.first, past.second, past.third⟩)

/-- Puts the distance that is used again in front of the others. -/
def takeOlder (past : Past) : Reader Past := do
  if ← Reader.bit (isThird + past.kinds) then
    if ← Reader.bit (isFourth + past.kinds) then
      pure { past with
        first := past.fourth, second := past.first, third := past.second, fourth := past.third }
    else pure { past with first := past.third, second := past.first, third := past.second }
  else pure { past with first := past.second, second := past.first }

def takeRepeatedRun (past : Past) (place reach : Nat) : Reader (Symbol × Past) := do
  if reach = 0 then Reader.broken
  let isOlder ← Reader.bit (isOlder + past.kinds)
  let isLong ← if isOlder then pure true else Reader.bit (isLong + 16 * past.kinds + place)
  if isLong then
    let past ← if isOlder then takeOlder past else pure past
    let length ← takeLength repeatedLength place
    pure (.run length (past.first + 1), { past with kinds := if past.isAfterByte then 8 else 11 })
  else
    pure (.run 1 (past.first + 1), { past with kinds := if past.isAfterByte then 9 else 11 })

def takeSymbol (shape : Shape) (past : Past) (place reach : Nat) (previous expected : UInt8) :
    Reader (Symbol × Past) := do
  let kindPlace := place % Nat.pow 2 shape.kindBits
  if ← Reader.bit (isRun + 16 * past.kinds + kindPlace) then
    if ← Reader.bit (isRepeated + past.kinds) then takeRepeatedRun past kindPlace reach
    else takeNewRun past kindPlace reach
  else takeByte shape past place previous expected

end SqlFixtures.Archive.Lzma
