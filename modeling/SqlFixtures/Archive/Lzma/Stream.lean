import SqlFixtures.Archive.Bytes
import SqlFixtures.Archive.Lzma.Symbols

/-!
# Streams in range code

A stream is preceded by a version, which does not matter, and by its properties: the shape of its
contexts in one byte and how far back a run may reach.  What ends too early gives the symbols that
could be read.
-/

namespace SqlFixtures.Archive.Lzma

inductive Fault where
  | properties
  | data
  deriving Repr, DecidableEq

def Shape.ofByte? (b : UInt8) : Option Shape :=
  let n := b.toNat
  let shape : Shape := ⟨n % 9, n / 9 % 5, n / 45⟩
  if 224 < n ∨ 4 < shape.byteBits + shape.placeBits then none else some shape

def reachOf (asked : Nat) : Nat := (max asked 4096 + 15) / 16 * 16

def copyBack (distance : Nat) : Nat → Array UInt8 → Array UInt8
  | 0, output => output
  | length + 1, output =>
    copyBack distance length (output.push (output.getD (output.size - distance) 0))

/-- Reads symbols, at most one for each unit of fuel.  The answer tells whether the end was
marked.  A symbol cuts the range four times or more, and a cut takes one part in seventy or more, so
that a byte of the code makes fewer than 256 symbols. -/
def takeSymbols (shape : Shape) (reach : Nat) :
    Nat → Past → Array UInt8 → Coder → Except Fault (List UInt8 × Bool)
  | 0, _, output, _ => .ok (output.toList, false)
  | fuel + 1, past, output, coder =>
    let place := output.size
    let previous := output.getD (place - 1) 0
    let expected := output.getD (place - 1 - past.first) 0
    match takeSymbol shape past place (min place reach) previous expected coder with
    | .error .ended => .ok (output.toList, false)
    | .error (.broken _) => .error .data
    | .ok ((.byte b, past), coder) => takeSymbols shape reach fuel past (output.push b) coder
    | .ok ((.run length distance, past), coder) =>
      takeSymbols shape reach fuel past (copyBack distance length output) coder
    | .ok ((.finish, _), _) => .ok (output.toList, true)

/-- The code begins with a zero, and four bytes follow before the first symbol. -/
def takeStream (shape : Shape) (reach : Nat) : List UInt8 → Except Fault (List UInt8 × Bool)
  | [] => .ok ([], false)
  | first :: rest =>
    if first ≠ 0 then .error .data
    else
      match rest with
      | a :: b :: c :: d :: input =>
        let code := UInt32.ofNat (Archive.numberOf [d, c, b, a])
        let odds := Array.replicate (contextCount shape) 1024
        takeSymbols shape reach (256 * (rest.length + 1)) .initial #[]
          ⟨0xFFFFFFFF, code, input, odds⟩
      | _ => .ok ([], false)

def unpack (data : List UInt8) : Except Fault (List UInt8 × Bool) :=
  let width := Archive.numberAt data 2 2
  let properties := (data.drop 4).take width
  if data.length ≤ 4 + width then .ok ([], false)
  else
    match properties with
    | [shape, a, b, c, d] =>
      match Shape.ofByte? shape with
      | some shape => takeStream shape (reachOf (Archive.numberOf [a, b, c, d])) (data.drop 9)
      | none => .error .properties
    | _ => .error .properties

end SqlFixtures.Archive.Lzma
