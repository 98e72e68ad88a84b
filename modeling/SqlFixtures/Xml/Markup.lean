import SqlFixtures.Xml.Charset

/-!
# Markup

The text of a document is cut into characters of text, references, tags, sections of plain text, and
the document type.  Comments and processing instructions say nothing, so text on either side of them
is joined; they are kept because they count towards the length of the document.  Inside the document
type only quoted literals, comments and references to parameters are told apart here; the rest is
passed on character by character.
-/

namespace SqlFixtures.Xml

inductive Lexeme where
  | plain (c : Char)
  | literal (s : List Char)
  | opening
  /-- A comment or a processing instruction, with its marks. -/
  | comment (s : List Char)
  | parameter (name : List Char)
  deriving Repr, DecidableEq

inductive Piece where
  | text (c : Char)
  | section (s : List Char)
  /-- A comment or a processing instruction, with its marks. -/
  | skipped (s : List Char)
  | reference (body : List Char)
  | tag (raw : List Char)
  | doctype (lexemes : List Lexeme)
  deriving Repr, DecidableEq

namespace Markup

/-- The name of the program that a processing instruction is for.  The name of the format itself is
reserved, in either case. -/
def isTarget (alphabet : Alphabet) (s : List Char) : Bool :=
  alphabet.isName s && s.map Char.toLower ≠ ['x', 'm', 'l']

def openingOfComment : List Char := ['<', '!', '-', '-']

variable (alphabet : Alphabet)

mutual

def content : List Char → Option (List Piece)
  | [] => some []
  | '<' :: rest => markup rest
  | '&' :: rest => (reference rest).map fun (body, pieces) => .reference body :: pieces
  | ']' :: ']' :: '>' :: _ => none
  | c :: rest => (content rest).map (.text c :: ·)

def reference : List Char → Option (List Char × List Piece)
  | [] => none
  | ';' :: rest => (content rest).map fun pieces => ([], pieces)
  | c :: rest => (reference rest).map fun (body, pieces) => (c :: body, pieces)

def markup : List Char → Option (List Piece)
  | [] => none
  | '!' :: rest => declaration rest
  | '?' :: rest =>
    (target rest).bind fun (name, inside, pieces) =>
      if isTarget alphabet name then some (.skipped ('<' :: '?' :: name ++ inside) :: pieces)
      else none
  | c :: rest => (tag none rest).map fun (raw, pieces) => .tag (c :: raw) :: pieces

/-- The rest of a tag, in which a quoted greater-than sign is not the end. -/
def tag : Option Char → List Char → Option (List Char × List Piece)
  | _, [] => none
  | none, c :: rest =>
    if c = '>' then (content rest).map fun pieces => ([], pieces)
    else
      (tag (if c = '"' ∨ c = '\'' then some c else none) rest).map fun (raw, pieces) =>
        (c :: raw, pieces)
  | some quote, c :: rest =>
    (tag (if c = quote then none else some quote) rest).map fun (raw, pieces) =>
      (c :: raw, pieces)

def declaration : List Char → Option (List Piece)
  | '-' :: '-' :: rest =>
    (comment rest).map fun (s, pieces) => .skipped (openingOfComment ++ s) :: pieces
  | '[' :: 'C' :: 'D' :: 'A' :: 'T' :: 'A' :: '[' :: rest =>
    (plainSection rest).map fun (s, pieces) => .section s :: pieces
  | 'D' :: 'O' :: 'C' :: 'T' :: 'Y' :: 'P' :: 'E' :: rest =>
    (doctype false rest).map fun (lexemes, pieces) => .doctype lexemes :: pieces
  | _ => none

/-- The rest of a comment up to its end.  Two hyphens end a comment, and may stand nowhere else in
it. -/
def comment : List Char → Option (List Char × List Piece)
  | [] => none
  | '-' :: '-' :: '>' :: rest => (content rest).map fun pieces => (['-', '-', '>'], pieces)
  | '-' :: '-' :: _ => none
  | c :: rest => (comment rest).map fun (s, pieces) => (c :: s, pieces)

/-- The name of a target, and the rest of its instruction. -/
def target : List Char → Option (List Char × List Char × List Piece)
  | [] => none
  | '?' :: '>' :: rest => (content rest).map fun pieces => ([], ['?', '>'], pieces)
  | c :: rest =>
    if isSpace c then (instruction rest).map fun (s, pieces) => ([], c :: s, pieces)
    else (target rest).map fun (name, inside, pieces) => (c :: name, inside, pieces)

def instruction : List Char → Option (List Char × List Piece)
  | [] => none
  | '?' :: '>' :: rest => (content rest).map fun pieces => (['?', '>'], pieces)
  | c :: rest => (instruction rest).map fun (s, pieces) => (c :: s, pieces)

def plainSection : List Char → Option (List Char × List Piece)
  | [] => none
  | ']' :: ']' :: '>' :: rest => (content rest).map fun pieces => ([], pieces)
  | c :: rest => (plainSection rest).map fun (s, pieces) => (c :: s, pieces)

def doctype (inBrackets : Bool) : List Char → Option (List Lexeme × List Piece)
  | [] => none
  | '<' :: '!' :: '-' :: '-' :: rest =>
    (doctypeComment inBrackets rest).map fun (s, lexemes, pieces) =>
      (.comment (openingOfComment ++ s) :: lexemes, pieces)
  | '<' :: '!' :: rest =>
    (doctype inBrackets rest).map fun (lexemes, pieces) => (.opening :: lexemes, pieces)
  | '<' :: '?' :: rest =>
    (doctypeTarget inBrackets rest).bind fun (name, inside, lexemes, pieces) =>
      if isTarget alphabet name then
        some (.comment ('<' :: '?' :: name ++ inside) :: lexemes, pieces)
      else none
  | '%' :: c :: rest =>
    if isSpace c then
      (doctype inBrackets rest).map fun (lexemes, pieces) =>
        (.plain '%' :: .plain c :: lexemes, pieces)
    else
      (parameter inBrackets rest).map fun (name, lexemes, pieces) =>
        (.parameter (c :: name) :: lexemes, pieces)
  | c :: rest =>
    if c = '"' ∨ c = '\'' then
      (literal inBrackets c rest).map fun (s, lexemes, pieces) => (.literal s :: lexemes, pieces)
    else if c = '>' && !inBrackets then (content rest).map fun pieces => ([.plain c], pieces)
    else
      (doctype (if c = '[' then true else if c = ']' then false else inBrackets) rest).map
        fun (lexemes, pieces) => (.plain c :: lexemes, pieces)

def literal (inBrackets : Bool) (quote : Char) :
    List Char → Option (List Char × List Lexeme × List Piece)
  | [] => none
  | c :: rest =>
    if c = quote then (doctype inBrackets rest).map fun reading => ([], reading)
    else (literal inBrackets quote rest).map fun (s, reading) => (c :: s, reading)

def parameter (inBrackets : Bool) : List Char → Option (List Char × List Lexeme × List Piece)
  | [] => none
  | ';' :: rest => (doctype inBrackets rest).map fun reading => ([], reading)
  | c :: rest => (parameter inBrackets rest).map fun (name, reading) => (c :: name, reading)

def doctypeComment (inBrackets : Bool) :
    List Char → Option (List Char × List Lexeme × List Piece)
  | [] => none
  | '-' :: '-' :: '>' :: rest =>
    (doctype inBrackets rest).map fun reading => (['-', '-', '>'], reading)
  | '-' :: '-' :: _ => none
  | c :: rest => (doctypeComment inBrackets rest).map fun (s, reading) => (c :: s, reading)

def doctypeTarget (inBrackets : Bool) :
    List Char → Option (List Char × List Char × List Lexeme × List Piece)
  | [] => none
  | '?' :: '>' :: rest => (doctype inBrackets rest).map fun reading => ([], ['?', '>'], reading)
  | c :: rest =>
    if isSpace c then
      (doctypeInstruction inBrackets rest).map fun (s, reading) => ([], c :: s, reading)
    else
      (doctypeTarget inBrackets rest).map fun (name, inside, reading) =>
        (c :: name, inside, reading)

def doctypeInstruction (inBrackets : Bool) :
    List Char → Option (List Char × List Lexeme × List Piece)
  | [] => none
  | '?' :: '>' :: rest => (doctype inBrackets rest).map fun reading => (['?', '>'], reading)
  | c :: rest => (doctypeInstruction inBrackets rest).map fun (s, reading) => (c :: s, reading)

end

end Markup

end SqlFixtures.Xml
