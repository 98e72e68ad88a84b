import SqlFixtures.Archive.Bits

/-!
# Prefix codes

A prefix code gives a word of bits to each symbol in use.  It is described by the lengths of the
words alone: shorter words come before longer ones, words of one length are in the order of their
symbols, and each word follows the one before it as a binary number does.  A length of zero marks a
symbol that is not in use.

The words of one length are numbered without gaps, so it is enough to keep, for each length, the
number of the first word and the symbols in order.
-/

namespace SqlFixtures.Archive

structure CodeLevel where
  first : Nat
  symbols : Array Nat
  deriving Repr, DecidableEq

/-- The levels of a code, for words of one bit, of two bits, and so on. -/
abbrev PrefixCode := List CodeLevel

namespace PrefixCode

def symbolsOf (lengths : List Nat) (length : Nat) : List Nat :=
  (lengths.zipIdx.filter fun entry => entry.1 = length).map (·.2)

/-- Numbers the words of every level, where those of the first one begin with `first`. -/
def numbered : Nat → List (List Nat) → PrefixCode
  | _, [] => []
  | first, symbols :: rest =>
    ⟨first, symbols.toArray⟩ :: numbered (2 * (first + symbols.length)) rest

/-- The code with these lengths, which none of the words exceeds `depth` in. -/
def ofLengthsUpTo (depth : Nat) (lengths : List Nat) : PrefixCode :=
  numbered 0 ((List.range depth).map fun n => symbolsOf lengths (n + 1))

/-- The code with these lengths.  There is at least one level, so that a bit is looked at even if
no symbol is in use. -/
def ofLengths (lengths : List Nat) : PrefixCode := ofLengthsUpTo (lengths.foldl max 1) lengths

/-- Both words of one bit stand for the symbol zero. -/
def idle : PrefixCode := [⟨0, #[0, 0]⟩]

def longest : Nat := 15

def used (lengths : List Nat) : List Nat := lengths.filter (· ≠ 0)

/-- The share of all words of the greatest length that begin with a word in use. -/
def share (lengths : List Nat) : Nat :=
  ((used lengths).map fun n => Nat.pow 2 (longest - n)).foldr (· + ·) 0

/-- The words leave nothing over and do not overlap. -/
def isComplete (lengths : List Nat) : Bool := share lengths == Nat.pow 2 longest

/-- No symbol is in use, or a single one with a word of one bit. -/
def isTrivial (lengths : List Nat) : Bool := used lengths == [] || used lengths == [1]

variable {ε : Type}

/-- The symbol whose word comes first, where the bits read so far make up a number, and the bits
after that word.  Bits that lead past all levels have no meaning, which is the given fault. -/
def next (fault : ε) : PrefixCode → Nat → Bits → Except (Halt ε) (Nat × Bits)
  | [], _, _ => .error (.broken fault)
  | _ :: _, _, [] => .error .ended
  | level :: deeper, read, bit :: rest =>
    let number := 2 * read + bit.toNat
    if level.first ≤ number then
      match level.symbols[number - level.first]? with
      | some symbol => .ok (symbol, rest)
      | none => next fault deeper number rest
    else next fault deeper number rest

def take (fault : ε) (code : PrefixCode) : BitReader ε Nat := fun bits => code.next fault 0 bits

end PrefixCode

end SqlFixtures.Archive
