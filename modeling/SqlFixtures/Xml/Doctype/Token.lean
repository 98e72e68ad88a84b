import SqlFixtures.Xml.Markup

/-!
# Tokens of a document type

The characters of a document type form words, bracketing marks and separators.  Some tokens must not
touch the next one: a word has to be followed by a blank or a mark, a literal by a blank, the end of
the declaration or the opening bracket.
-/

namespace SqlFixtures.Xml.Doctype

inductive Token where
  /-- A word, with the sign of repetition that may be attached to it. -/
  | word (s : List Char) (repetition : Option Char)
  | literal (s : List Char)
  | mark (c : Char)
  | rightParenthesis (repetition : Option Char)
  | opening
  | comment
  | parameter (name : List Char)
  /-- A sign of repetition that is attached to nothing. -/
  | repetition (c : Char)
  deriving Repr, DecidableEq

def isWordChar (alphabet : Alphabet) (c : Char) : Bool :=
  alphabet.isNameChar c || c = ':' || c = '#'

def isRepetition (c : Char) : Bool := c = '*' || c = '+' || c = '?'

def mayFollowWord (c : Char) : Bool :=
  isSpace c || c = '>' || c = ')' || c = ',' || c = '|' || c = '['

def mayFollowParenthesis (c : Char) : Bool :=
  isSpace c || c = '>' || c = ')' || c = ',' || c = '|'

def mayFollowLiteral (c : Char) : Bool := isSpace c || c = '>' || c = '['

def isMark (c : Char) : Bool :=
  c = '>' || c = '(' || c = '[' || c = ']' || c = ',' || c = '|' || c = '%'

namespace Token

def extendWord (c : Char) : List Token → Option (List Token)
  | word s attached :: tokens => some (word (c :: s) attached :: tokens)
  | _ => none

def attach (make : Option Char → Token) : List Token → Option (List Token)
  | repetition c :: tokens => some (make (some c) :: tokens)
  | _ => none

def nextIs (p : Char → Bool) : List Lexeme → Bool
  | .plain c :: _ => p c
  | _ => false

def ofLexemes (alphabet : Alphabet) : List Lexeme → Option (List Token)
  | [] => some []
  | .literal s :: rest =>
    if nextIs mayFollowLiteral rest then (ofLexemes alphabet rest).map (literal s :: ·) else none
  | .opening :: rest =>
    if nextIs (isWordChar alphabet) rest then (ofLexemes alphabet rest).map (opening :: ·) else none
  | .comment _ :: rest => (ofLexemes alphabet rest).map (comment :: ·)
  | .parameter name :: rest => (ofLexemes alphabet rest).map (parameter name :: ·)
  | .plain c :: rest =>
    if isSpace c then ofLexemes alphabet rest
    else if isWordChar alphabet c then
      if nextIs (isWordChar alphabet) rest then (ofLexemes alphabet rest).bind (extendWord c)
      else if nextIs isRepetition rest then (ofLexemes alphabet rest).bind (attach (word [c]))
      else if nextIs mayFollowWord rest then (ofLexemes alphabet rest).map (word [c] none :: ·)
      else none
    else if c = ')' then
      if nextIs isRepetition rest then (ofLexemes alphabet rest).bind (attach rightParenthesis)
      else if nextIs mayFollowParenthesis rest then
        (ofLexemes alphabet rest).map (rightParenthesis none :: ·)
      else none
    else if isRepetition c then (ofLexemes alphabet rest).map (repetition c :: ·)
    else if isMark c then (ofLexemes alphabet rest).map (mark c :: ·)
    else none

end Token

end SqlFixtures.Xml.Doctype
