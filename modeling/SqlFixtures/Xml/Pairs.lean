import SqlFixtures.Xml.Charset

/-!
# Name and value pairs

A tag and a declaration hold pairs `name="value"`.  Blanks stand in front of every pair and may
stand around the equals sign; the value is quoted with either quote.  Which names and which values
are good is for the reader of the pairs to say.
-/

namespace SqlFixtures.Xml.Pairs

/-- A name, its value, and the pairs after it. -/
abbrev Reading := List Char × List Char × List (List Char × List Char)

mutual

/-- Blanks, then a pair or the end. -/
def gap : List Char → Option (List (List Char × List Char))
  | [] => some []
  | c :: rest =>
    if isSpace c then gap rest
    else (name rest).map fun (n, value, pairs) => (c :: n, value) :: pairs

def name : List Char → Option Reading
  | [] => none
  | c :: rest =>
    if c = '=' then (beforeValue rest).map fun (value, pairs) => ([], value, pairs)
    else if isSpace c then (afterName rest).map fun (value, pairs) => ([], value, pairs)
    else (name rest).map fun (n, value, pairs) => (c :: n, value, pairs)

def afterName : List Char → Option (List Char × List (List Char × List Char))
  | [] => none
  | c :: rest =>
    if c = '=' then beforeValue rest else if isSpace c then afterName rest else none

def beforeValue : List Char → Option (List Char × List (List Char × List Char))
  | [] => none
  | c :: rest =>
    if c = '"' ∨ c = '\'' then value c rest
    else if isSpace c then beforeValue rest
    else none

def value (quote : Char) : List Char → Option (List Char × List (List Char × List Char))
  | [] => none
  | c :: rest =>
    if c = quote then (afterValue rest).map fun pairs => ([], pairs)
    else (value quote rest).map fun (v, pairs) => (c :: v, pairs)

def afterValue : List Char → Option (List (List Char × List Char))
  | [] => some []
  | c :: rest => if isSpace c then gap rest else none

end

/-- The pairs in a text that starts after the name of a tag. -/
def read : List Char → Option (List (List Char × List Char)) := afterValue

end SqlFixtures.Xml.Pairs
