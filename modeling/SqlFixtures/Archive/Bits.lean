/-!
# Bits of compressed data

Compressed data are read bit by bit.  Some formats take the lowest bit of each byte first, others
the highest.  Reading halts where the data end, or where they break the format.
-/

namespace SqlFixtures.Archive

abbrev Bits := List Bool

def bitsOfByte (b : UInt8) : Bits := (List.range 8).map fun i => b.toNat.testBit i

def bitsLowFirst (bytes : List UInt8) : Bits := bytes.flatMap bitsOfByte

def bitsHighFirst (bytes : List UInt8) : Bits := bytes.flatMap fun b => (bitsOfByte b).reverse

/-- What stops the reading of data: they end, or they break the format. -/
inductive Halt (ε : Type) where
  | ended
  | broken (fault : ε)

variable {ε : Type}

/-- The number in the next `width` bits, lowest first. -/
def takeLow : Nat → Bits → Except (Halt ε) (Nat × Bits)
  | 0, bits => .ok (0, bits)
  | _ + 1, [] => .error .ended
  | width + 1, bit :: rest => do
    let (n, after) ← takeLow width rest
    pure (bit.toNat + 2 * n, after)

abbrev BitReader (ε : Type) := StateT Bits (Except (Halt ε))

namespace BitReader

def broken {α : Type} (fault : ε) : BitReader ε α := fun _ => .error (.broken fault)

def bit : BitReader ε Bool
  | [] => .error .ended
  | b :: rest => .ok (b, rest)

/-- The number in the next `width` bits, highest first, after the bits that make up `n`. -/
def numberAfter (n : Nat) : Nat → BitReader ε Nat
  | 0 => pure n
  | width + 1 => do numberAfter (2 * n + (← bit).toNat) width

def number (width : Nat) : BitReader ε Nat := numberAfter 0 width

def repeated {α : Type} (read : BitReader ε α) (count : Nat) : BitReader ε (List α) :=
  (List.range count).mapM fun _ => read

end BitReader

end SqlFixtures.Archive
