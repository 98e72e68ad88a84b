/-!
# Blank characters

The blank characters are those with the Unicode property White_Space together with the four
information separators U+001C to U+001F.  Stripping removes them from both ends of a text and
leaves the inside alone.
-/

namespace SqlFixtures.Text

def inRanges (ranges : List (Nat × Nat)) (n : Nat) : Bool :=
  ranges.any fun range => range.1 ≤ n && n ≤ range.2

def blankRanges : List (Nat × Nat) :=
  [(0x09, 0x0D), (0x1C, 0x20), (0x85, 0x85), (0xA0, 0xA0), (0x1680, 0x1680), (0x2000, 0x200A),
   (0x2028, 0x2029), (0x202F, 0x202F), (0x205F, 0x205F), (0x3000, 0x3000)]

def isBlank (c : Char) : Bool := inRanges blankRanges c.toNat

/-- Drops characters of a class from both ends. -/
def trim (drops : Char → Bool) (s : List Char) : List Char :=
  ((s.dropWhile drops).reverse.dropWhile drops).reverse

def stripChars (s : List Char) : List Char := trim isBlank s

def strip (s : String) : String := String.ofList (stripChars s.toList)

end SqlFixtures.Text
