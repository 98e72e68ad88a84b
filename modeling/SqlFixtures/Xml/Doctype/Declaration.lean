import SqlFixtures.Xml.Doctype.Token

/-!
# Declarations of a document type

A document type names an external part, if it has one, and holds declarations between brackets:
entities, the attributes of elements, the content of elements and notations.  Only entities and
attributes bear on how a document reads; the others just have to be well formed.
-/

namespace SqlFixtures.Xml.Doctype

/-- One attribute of one element: whether its value is a list of tokens, in which the blanks do not
count, and the raw value that it has when the element does not give one. -/
structure AttributeRule where
  name : List Char
  tokenised : Bool
  standard : Option (List Char)
  deriving Repr, DecidableEq

inductive Declaration where
  | entity (name value : List Char)
  | externalEntity (name : List Char)
  | parameterEntity (value : List Char)
  | attributes (element : List Char) (rules : List AttributeRule)
  /-- A declaration that says nothing about how the document reads. -/
  | inert
  /-- A reference to declarations kept elsewhere. -/
  | parameterReference
  deriving Repr, DecidableEq

/-- A document type names its elements and attributes with at most one colon, after which any
character of a name may stand. -/
def isDeclaredName (alphabet : Alphabet) (s : List Char) : Bool :=
  match Text.fields ':' s with
  | [name] => alphabet.isName name
  | [before, rest] => alphabet.isName before && !rest.isEmpty && rest.all alphabet.isNameChar
  | _ => false

def isNameToken (alphabet : Alphabet) (s : List Char) : Bool :=
  !s.isEmpty && s.all fun c => alphabet.isNameChar c || c = ':'

def isPublicIdChar (c : Char) : Bool :=
  c.isAlphanum || c = '\n' || " -'()+,./:=?;!*#@$_%".toList.contains c

def isPublicId (s : List Char) : Bool := s.all isPublicIdChar

def isExternalId : List Token → Bool
  | [.word w none, .literal _] => w = "SYSTEM".toList
  | [.word w none, .literal id, .literal _] => w = "PUBLIC".toList && isPublicId id
  | _ => false

def isEntityPlace (alphabet : Alphabet) : List Token → Bool
  | [a, b, .word w none, .word notation' none] =>
    isExternalId [a, b] && w = "NDATA".toList && alphabet.isName notation'
  | [a, b, c, .word w none, .word notation' none] =>
    isExternalId [a, b, c] && w = "NDATA".toList && alphabet.isName notation'
  | tokens => isExternalId tokens

def entityOf (alphabet : Alphabet) : List Token → Option Declaration
  | [.mark '%', .word name none, .literal value] =>
    if alphabet.isName name then some (.parameterEntity value) else none
  | .mark '%' :: .word name none :: place =>
    if alphabet.isName name && isExternalId place then some .inert else none
  | [.word name none, .literal value] =>
    if alphabet.isName name then some (.entity name value) else none
  | .word name none :: place =>
    if alphabet.isName name && isEntityPlace alphabet place then some (.externalEntity name)
    else none
  | _ => none

def notationOf (alphabet : Alphabet) : List Token → Option Declaration
  | [.word name none, .word w none, .literal id] =>
    if alphabet.isName name && (w = "SYSTEM".toList || w = "PUBLIC".toList && isPublicId id) then
      some .inert
    else none
  | .word name none :: place =>
    if alphabet.isName name && isExternalId place then some .inert else none
  | _ => none

/-- The rest of a mixed content model, after its first item or after an item. -/
def isMixedRest (alphabet : Alphabet) : List Token → Bool
  | [.rightParenthesis (some '*')] => true
  | .mark '|' :: .word name none :: rest =>
    isDeclaredName alphabet name && isMixedRest alphabet rest
  | _ => false

/-- A content model in brackets.  Each open bracket remembers its separator, once one was seen. -/
def isChildren (alphabet : Alphabet) : List (Option Char) → (wantsItem : Bool) → List Token → Bool
  | [], _, rest => rest.isEmpty
  | groups, true, .mark '(' :: rest => isChildren alphabet (none :: groups) true rest
  | groups, true, .word name _ :: rest =>
    isDeclaredName alphabet name && isChildren alphabet groups false rest
  | group :: groups, false, .mark c :: rest =>
    (c = ',' || c = '|') && (group = none || group = some c) &&
      isChildren alphabet (some c :: groups) true rest
  | _ :: groups, false, .rightParenthesis _ :: rest => isChildren alphabet groups false rest
  | _, _, _ => false

def isContentModel (alphabet : Alphabet) : List Token → Bool
  | [.word w none] => w = "EMPTY".toList || w = "ANY".toList
  | .mark '(' :: .word w none :: rest =>
    if w = "#PCDATA".toList then rest = [.rightParenthesis none] || isMixedRest alphabet rest
    else isChildren alphabet [none] true (.word w none :: rest)
  | .mark '(' :: rest => isChildren alphabet [none] true rest
  | _ => false

def elementOf (alphabet : Alphabet) : List Token → Option Declaration
  | .word name none :: rest =>
    if isDeclaredName alphabet name && isContentModel alphabet rest then some .inert else none
  | _ => none

inductive RulePosition where
  | name
  | type (name : List Char)
  | notationGroup (name : List Char)
  | groupItem (name : List Char) (ofNames : Bool)
  | groupRest (name : List Char) (ofNames : Bool)
  | standard (name : List Char) (tokenised : Bool)
  | fixed (name : List Char) (tokenised : Bool)

def tokenTypes : List (List Char) :=
  ["ID", "IDREF", "IDREFS", "ENTITY", "ENTITIES", "NMTOKEN", "NMTOKENS"].map String.toList

def rulesOf (alphabet : Alphabet) : RulePosition → List Token → Option (List AttributeRule)
  | .name, [] => some []
  | .name, .word name none :: rest =>
    if isDeclaredName alphabet name then rulesOf alphabet (.type name) rest else none
  | .type name, .word w none :: rest =>
    if w = "CDATA".toList then rulesOf alphabet (.standard name false) rest
    else if w = "NOTATION".toList then rulesOf alphabet (.notationGroup name) rest
    else if tokenTypes.contains w then rulesOf alphabet (.standard name true) rest
    else none
  | .type name, .mark '(' :: rest => rulesOf alphabet (.groupItem name false) rest
  | .notationGroup name, .mark '(' :: rest => rulesOf alphabet (.groupItem name true) rest
  | .groupItem name ofNames, .word w none :: rest =>
    if if ofNames then alphabet.isName w else isNameToken alphabet w then
      rulesOf alphabet (.groupRest name ofNames) rest
    else none
  | .groupRest name ofNames, .mark '|' :: rest => rulesOf alphabet (.groupItem name ofNames) rest
  | .groupRest name _, .rightParenthesis none :: rest => rulesOf alphabet (.standard name true) rest
  | .standard name tokenised, .word w none :: rest =>
    if w = "#IMPLIED".toList ∨ w = "#REQUIRED".toList then
      (rulesOf alphabet .name rest).map (⟨name, tokenised, none⟩ :: ·)
    else if w = "#FIXED".toList then rulesOf alphabet (.fixed name tokenised) rest
    else none
  | .standard name tokenised, .literal value :: rest =>
    (rulesOf alphabet .name rest).map (⟨name, tokenised, some value⟩ :: ·)
  | .fixed name tokenised, .literal value :: rest =>
    (rulesOf alphabet .name rest).map (⟨name, tokenised, some value⟩ :: ·)
  | _, _ => none

def attributesOf (alphabet : Alphabet) : List Token → Option Declaration
  | .word element none :: rest =>
    if isDeclaredName alphabet element then (rulesOf alphabet .name rest).map (.attributes element)
    else none
  | _ => none

namespace Declaration

def ofTokens (alphabet : Alphabet) : List Token → Option Declaration
  | .word w none :: rest =>
    if w = "ENTITY".toList then entityOf alphabet rest
    else if w = "ATTLIST".toList then attributesOf alphabet rest
    else if w = "ELEMENT".toList then elementOf alphabet rest
    else if w = "NOTATION".toList then notationOf alphabet rest
    else none
  | _ => none

/-- Reads declarations up to the closing bracket, after which the document type ends.  Inside a
declaration its tokens so far are kept, the last one first. -/
def listOf (alphabet : Alphabet) : Option (List Token) → List Token → Option (List Declaration)
  | none, [.mark ']', .mark '>'] => some []
  | none, .comment :: rest => listOf alphabet none rest
  | none, .parameter name :: rest =>
    if alphabet.isName name then (listOf alphabet none rest).map (parameterReference :: ·) else none
  | none, .opening :: rest => listOf alphabet (some []) rest
  | some before, .mark '>' :: rest => do
    let declaration ← ofTokens alphabet before.reverse
    (listOf alphabet none rest).map (declaration :: ·)
  | some before, token :: rest => listOf alphabet (some (token :: before)) rest
  | _, _ => none

end Declaration

/-- The document type as it is written: whether it has an external part, and its declarations. -/
structure Source where
  external : Bool
  declarations : List Declaration

namespace Source

def ofBrackets (alphabet : Alphabet) (external : Bool) : List Token → Option Source
  | [.mark '>'] => some ⟨external, []⟩
  | .mark '[' :: rest => (Declaration.listOf alphabet none rest).map fun ds => ⟨external, ds⟩
  | _ => none

def ofTokens (alphabet : Alphabet) : List Token → Option Source
  | .word name none :: .word w none :: .literal place :: rest =>
    match rest with
    | .literal place' :: rest' =>
      if isDeclaredName alphabet name &&
          isExternalId [.word w none, .literal place, .literal place'] then
        ofBrackets alphabet true rest'
      else none
    | _ =>
      if isDeclaredName alphabet name && isExternalId [.word w none, .literal place] then
        ofBrackets alphabet true rest
      else none
  | .word name none :: rest =>
    if isDeclaredName alphabet name then ofBrackets alphabet false rest else none
  | _ => none

/-- A blank has to stand between the keyword and the name. -/
def ofLexemes (alphabet : Alphabet) (lexemes : List Lexeme) : Option Source :=
  match lexemes with
  | .plain c :: rest =>
    if isSpace c then (Token.ofLexemes alphabet rest).bind (ofTokens alphabet) else none
  | _ => none

end Source

end SqlFixtures.Xml.Doctype
