/-!
# Template tokens

A template is read from left to right.  `%s` is a marker, a place for one parameter; `%%` is an
escape, a percent sign of the text; any other percent sign is stray.  Everything between them is
text, in runs that are as long as possible.
-/

namespace SqlFixtures.Template

inductive Token where
  | text (s : List Char)
  | marker
  | escape
  | stray
  deriving Repr, DecidableEq

def Token.source : Token → List Char
  | text s => s
  | marker => ['%', 's']
  | escape => ['%', '%']
  | stray => ['%']

/-- Puts a character of text in front of tokens, into the leading run if there is one. -/
def pushText (c : Char) : List Token → List Token
  | .text s :: tokens => .text (c :: s) :: tokens
  | tokens => .text [c] :: tokens

def tokens : List Char → List Token
  | [] => []
  | '%' :: 's' :: rest => .marker :: tokens rest
  | '%' :: '%' :: rest => .escape :: tokens rest
  | '%' :: rest => .stray :: tokens rest
  | c :: rest => pushText c (tokens rest)

def countMarkers (template : String) : Nat := (tokens template.toList).count .marker

end SqlFixtures.Template
