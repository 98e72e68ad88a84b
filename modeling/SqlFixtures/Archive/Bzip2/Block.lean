import SqlFixtures.Archive.Bzip2.Mask
import SqlFixtures.Archive.Huffman

/-!
# Blocks of sorted bytes

A block holds bytes that were sorted by what follows them, which leaves long runs of equal bytes.
They are written as places in a list of the bytes in use, in which the byte that was written last is
moved to the front, so that most places are the first one; how often that one is repeated is written
in two digits, worth one and two.  All this is put into symbols of up to six prefix codes, of which
one is selected for every fifty symbols.
-/

namespace SqlFixtures.Archive.Bzip2

/-- A block breaks the format in one way only, as nothing is told about the place. -/
abbrev Reader := BitReader Unit

structure Block where
  checksum : UInt32
  masked : Bool
  origin : Nat
  sorted : Array UInt8

def expect (bytes : List Nat) : Reader Unit :=
  bytes.forM fun b => do
    if (← BitReader.number 8) ≠ b then BitReader.broken ()

/-- Moves the elements at the given places to the front, one after the other, and lists them. -/
def toFront {α : Type} : List α → List Nat → List α
  | _, [] => []
  | order, place :: places =>
    match order[place]? with
    | some a => a :: toFront (a :: order.eraseIdx place) places
    | none => []

/-- The bytes in use: one bit tells for each group of sixteen whether any of them is, and then one
bit for each of them. -/
def bytesInUse : Reader (List UInt8) := do
  let groups ← BitReader.repeated .bit 16
  let rows ← groups.mapM fun anyUsed =>
    if anyUsed then BitReader.repeated .bit 16 else pure (List.replicate 16 false)
  pure ((rows.flatten.zipIdx.filter (·.1)).map fun entry => UInt8.ofNat entry.2)

def takePlace : Nat → Reader Nat
  | 0 => BitReader.broken ()
  | limit + 1 => do
    if ← BitReader.bit then
      let n ← takePlace limit
      pure (n + 1)
    else pure 0

/-- The number of selectors beyond which they are passed over. -/
def mostSelectors : Nat := 18002

/-- Which of the codes is used for each fifty symbols. -/
def selectors (codeCount : Nat) : Reader (List Nat) := do
  let count ← BitReader.number 15
  if count < 1 then BitReader.broken ()
  let places ← BitReader.repeated (takePlace codeCount) count
  pure (toFront (List.range codeCount) (places.take mostSelectors))

/-- The length of a word, told by steps up and down from `length`; at most one for each unit of
fuel. -/
def takeWordLength : Nat → Nat → Reader Nat
  | 0, _ => fun _ => .error .ended
  | fuel + 1, length => do
    if length < 1 ∨ 20 < length then BitReader.broken ()
    if ← BitReader.bit then
      if ← BitReader.bit then takeWordLength fuel (length - 1) else takeWordLength fuel (length + 1)
    else pure length

def takeWordLengths : Nat → Nat → Reader (List Nat)
  | 0, _ => pure []
  | count + 1, length => do
    let length ← takeWordLength ((← get).length + 1) length
    let others ← takeWordLengths count length
    pure (length :: others)

/-- A code for symbols.  A word is looked for up to one bit beyond the longest that there can
be. -/
def takeCode (symbolCount : Nat) : Reader PrefixCode := do
  let start ← BitReader.number 5
  let lengths ← takeWordLengths symbolCount start
  pure (.ofLengthsUpTo 21 lengths)

/-- The codes for the symbols to come: the one in use, how many symbols it is still used for, and
the ones after it. -/
structure Selected where
  code : PrefixCode
  left : Nat
  later : List PrefixCode

def Selected.take (selected : Selected) : Reader (Nat × Selected) := do
  match selected.left, selected.later with
  | left + 1, _ => pure (← selected.code.take (), { selected with left })
  | 0, code :: later => pure (← code.take (), ⟨code, 49, later⟩)
  | 0, [] => BitReader.broken ()

/-- A run of the byte at the front of the list, as far as it is told. -/
structure Run where
  length : Nat
  worth : Nat

def Run.empty : Run := ⟨0, 1⟩

def greatestWorth : Nat := 1048576

def pushTimes (b : UInt8) : Nat → Array UInt8 → Array UInt8
  | 0, bytes => bytes
  | times + 1, bytes => pushTimes b times (bytes.push b)

/-- Reads the sorted bytes up to the symbol `last`, at most one symbol for each unit of fuel, where
`order` is the list of the bytes in use. -/
def takeSorted (last limit : Nat) :
    Nat → Selected → List UInt8 → Run → Array UInt8 → Reader (Array UInt8)
  | 0, _, _, _, _ => fun _ => .error .ended
  | fuel + 1, selected, order, run, sorted => do
    let (symbol, selected) ← selected.take
    if symbol < 2 then
      if greatestWorth < run.worth then BitReader.broken ()
      let run : Run := ⟨run.length + (symbol + 1) * run.worth, 2 * run.worth⟩
      takeSorted last limit fuel selected order run sorted
    else if limit < sorted.size + run.length then BitReader.broken ()
    else
      let sorted := pushTimes (order.headD 0) run.length sorted
      if symbol = last then pure sorted
      else if limit ≤ sorted.size then BitReader.broken ()
      else
        let b := order.getD (symbol - 1) 0
        takeSorted last limit fuel selected (b :: order.eraseIdx (symbol - 1)) .empty
          (sorted.push b)

def takeBlock (limit : Nat) : Reader Block := do
  let checksum ← BitReader.number 32
  let masked ← BitReader.bit
  let origin ← BitReader.number 24
  if 10 + limit < origin then BitReader.broken ()
  let order ← bytesInUse
  if order.isEmpty then BitReader.broken ()
  let codeCount ← BitReader.number 3
  if codeCount < 2 ∨ 6 < codeCount then BitReader.broken ()
  let selected ← selectors codeCount
  let codes ← BitReader.repeated (takeCode (order.length + 2)) codeCount
  let later := selected.filterMap (codes[·]?)
  let sorted ← takeSorted (order.length + 1) limit ((← get).length + 1) ⟨[], 0, later⟩ order
    .empty #[]
  if sorted.size ≤ origin then BitReader.broken ()
  pure ⟨.ofNat checksum, masked, origin, sorted⟩

end SqlFixtures.Archive.Bzip2
