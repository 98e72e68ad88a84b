import SqlFixtures.Archive.Bits

/-!
# Range coding

A range is narrowed bit by bit: a bit that is likely takes most of the range, and each context keeps
count of how likely the next bit is to be zero, in parts of 2048.  The code tells on which side of
the cut each bit is.  When the range gets small, another byte of the code is read.
-/

namespace SqlFixtures.Archive.Lzma

/-- A range, the code in it, the bytes that are still to come, and how likely zero is in each
context. -/
structure Coder where
  range : UInt32
  code : UInt32
  input : List UInt8
  odds : Array UInt32

/-- Reads from a coder.  The format is broken in one way only. -/
abbrev Reader := StateT Coder (Except (Halt Unit))

namespace Reader

def broken {α : Type} : Reader α := fun _ => .error (.broken ())

/-- Sees to it that the range is not too small to be cut. -/
def widen : Reader Unit
  | ⟨range, code, input, odds⟩ =>
    if range < 0x1000000 then
      match input with
      | [] => .error .ended
      | b :: rest => .ok ((), ⟨range <<< 8, (code <<< 8) ||| b.toUInt32, rest, odds⟩)
    else .ok ((), ⟨range, code, input, odds⟩)

/-- Cuts the range, and makes the odds of the context fit the bit. -/
def cut (context : Nat) : Reader Bool
  | ⟨range, code, input, odds⟩ =>
    let likely := odds.getD context 1024
    let bound := (range >>> 11) * likely
    if code < bound then
      let odds := odds.setIfInBounds context (likely + ((2048 - likely) >>> 5))
      .ok (false, ⟨bound, code, input, odds⟩)
    else
      let odds := odds.setIfInBounds context (likely - (likely >>> 5))
      .ok (true, ⟨range - bound, code - bound, input, odds⟩)

def bit (context : Nat) : Reader Bool := do
  widen
  cut context

def halve : Reader Bool
  | ⟨range, code, input, odds⟩ =>
    let half := range >>> 1
    let code := code - half
    if code &&& 0x80000000 = 0 then .ok (true, ⟨half, code, input, odds⟩)
    else .ok (false, ⟨half, code + half, input, odds⟩)

/-- The number in the next `width` bits, highest first and all as likely as not, after the bits that
make up `n`. -/
def evenAfter (n : Nat) : Nat → Reader Nat
  | 0 => pure n
  | width + 1 => do
    widen
    evenAfter (2 * n + (← halve).toNat) width

/-- Reads `width` bits, highest first, each in a context of its own for every beginning of bits
before it.  The answer begins with a one. -/
def treeAfter (base node : Nat) : Nat → Reader Nat
  | 0 => pure node
  | width + 1 => do
    let b ← bit (base + node)
    treeAfter base (2 * node + b.toNat) width

def tree (base width : Nat) : Reader Nat := do
  let node ← treeAfter base 1 width
  pure (node - Nat.pow 2 width)

/-- The number in the next `width` bits, lowest first, where `weight` is what the first of them is
worth. -/
def treeLowAfter (base node weight : Nat) : Nat → Reader Nat
  | 0 => pure 0
  | width + 1 => do
    let b ← bit (base + node)
    let n ← treeLowAfter base (2 * node + b.toNat) (2 * weight) width
    pure (b.toNat * weight + n)

def treeLow (base width : Nat) : Reader Nat := treeLowAfter base 1 1 width

end Reader

end SqlFixtures.Archive.Lzma
