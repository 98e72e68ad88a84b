/-!
# Shortest decimals

A floating-point value is written with the fewest significant digits that still read back to it,
and of those decimals with the nearest one.  A value is first decoded into
`mantissa · 2 ^ exponent`; the reals that round to it form an interval whose ends belong to it
exactly when the mantissa is even.  On the decimal grids of one, two, … seventeen digits only the
two neighbours of the value can be the nearest decimal of the interval, and the first grid with a
hit wins.
-/

namespace SqlFixtures

structure Decimal where
  digits : Nat
  exponent : Int

namespace Decimal

structure Binary where
  mantissa : Nat
  exponent : Int
  /-- The gap to the next value below is half the gap to the next value above. -/
  narrowBelow : Bool

def Binary.ofBits (bits : UInt64) : Binary :=
  let field := ((bits >>> 52) &&& 0x7FF).toNat
  let fraction := (bits &&& 0xFFFFFFFFFFFFF).toNat
  if field = 0 then ⟨fraction, -1074, false⟩
  else ⟨Nat.pow 2 52 + fraction, (field : Int) - 1075, fraction = 0 ∧ 1 < field⟩

/-- Compares `d` with `n · 2 ^ j`, both exactly. -/
def compareBinary (d : Decimal) (n : Nat) (j : Int) : Ordering :=
  compare (d.digits * Nat.pow 10 d.exponent.toNat * Nat.pow 2 (-j).toNat)
    (n * Nat.pow 2 j.toNat * Nat.pow 10 (-d.exponent).toNat)

/-- The decimal lies among the reals that round to the value.  The ends are measured in quarters
of the gap, so that halves of the narrow gap stay whole. -/
def Binary.readsBack (x : Binary) (d : Decimal) : Bool :=
  let low := if x.narrowBelow then 4 * x.mantissa - 1 else 4 * x.mantissa - 2
  let high := 4 * x.mantissa + 2
  let closed := x.mantissa % 2 == 0
  let below := d.compareBinary low (x.exponent - 2)
  let above := d.compareBinary high (x.exponent - 2)
  (below == .gt || closed && below == .eq) && (above == .lt || closed && above == .eq)

def Binary.wholeSteps (x : Binary) (grid : Int) : Nat :=
  x.mantissa * Nat.pow 2 x.exponent.toNat * Nat.pow 10 (-grid).toNat /
    (Nat.pow 2 (-x.exponent).toNat * Nat.pow 10 grid.toNat)

/-- The least `k` with `x < 10 ^ k`, for a positive value.  Scaled by `10 ^ 400` every positive
value is at least one, so the length of its whole part tells its size. -/
def Binary.magnitude (x : Binary) : Int :=
  (Nat.toDigits 10 (x.wholeSteps (-400))).length - 400

/-- The nearer of two neighbouring decimals on one grid; on a tie the one whose last digit is
even. -/
def Binary.nearer (x : Binary) (grid : Int) (low : Nat) : Decimal :=
  let high : Decimal := ⟨low + 1, grid⟩
  match (Decimal.mk (2 * low + 1) grid).compareBinary (2 * x.mantissa) x.exponent with
  | .lt => high
  | .gt => ⟨low, grid⟩
  | .eq => if low % 2 = 0 then ⟨low, grid⟩ else high

/-- The decimal of `count` digits that reads back and is nearest, if there is one. -/
def Binary.onGrid (x : Binary) (count : Nat) : Option Decimal :=
  let grid := x.magnitude - count
  let low := x.wholeSteps grid
  match x.readsBack ⟨low, grid⟩, x.readsBack ⟨low + 1, grid⟩ with
  | true, true => some (x.nearer grid low)
  | true, false => some ⟨low, grid⟩
  | false, true => some ⟨low + 1, grid⟩
  | false, false => none

/-- The shortest decimal that reads back; the exact value if seventeen digits should not do. -/
def Binary.shortest (x : Binary) : Decimal :=
  match (List.range' 1 17).findSome? x.onGrid with
  | some d => d
  | none => ⟨x.wholeSteps (-1074), -1074⟩

def significant (d : Decimal) : List Char :=
  ((Nat.toDigits 10 d.digits).reverse.dropWhile (· = '0')).reverse

def leading (d : Decimal) : Int := d.exponent + (Nat.toDigits 10 d.digits).length - 1

/-- Scientific notation: one digit before the point, a signed exponent of at least two digits. -/
def scientific (digits : List Char) (leading : Int) : List Char :=
  let fraction := if digits.length ≤ 1 then [] else '.' :: digits.drop 1
  let size := Nat.toDigits 10 leading.natAbs
  digits.take 1 ++ fraction ++ 'e' :: (if leading < 0 then '-' else '+') ::
    List.replicate (2 - size.length) '0' ++ size

/-- Positional notation with at least one digit on either side of the point. -/
def positional (digits : List Char) (leading : Int) : List Char :=
  if leading < 0 then
    '0' :: '.' :: List.replicate (-leading - 1).toNat '0' ++ digits
  else
    let whole := leading.toNat + 1
    let fraction := digits.drop whole
    digits.take whole ++ List.replicate (whole - digits.length) '0' ++
      '.' :: (if fraction.isEmpty then ['0'] else fraction)

/-- Values from `10 ^ -4` up to, but not including, `10 ^ 16` are written positionally. -/
def written (d : Decimal) : List Char :=
  if -4 ≤ d.leading ∧ d.leading < 16 then positional d.significant d.leading
  else scientific d.significant d.leading

/-- The text of a floating-point value.  The sign of zero is kept. -/
def write (x : Float) : String :=
  if x.isNaN then "nan"
  else
    let bits := x.toBits
    let sign := if bits >>> 63 = 1 then ['-'] else []
    let size :=
      if x.isInf then ['i', 'n', 'f']
      else if (Binary.ofBits bits).mantissa = 0 then ['0', '.', '0']
      else (Binary.ofBits bits).shortest.written
    String.ofList (sign ++ size)

end Decimal

end SqlFixtures
