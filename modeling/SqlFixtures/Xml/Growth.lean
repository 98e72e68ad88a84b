import SqlFixtures.Xml.Entities
import SqlFixtures.Xml.Markup
import SqlFixtures.Xml.Tag

/-!
# Growth of a document

Entities can make a short document very long.  What is read is counted in bytes, token by token:
those of the document itself, as far as it has been read, and those of every text that stands in for
a reference.  Attribute values that are rewritten before an element starts count once more.  As soon
as both shares come to eight mebibytes, the document is refused if they are more than a hundred
times its own share at that point.
-/

namespace SqlFixtures.Xml

/-- The text that a lexeme was cut from; which quotes a literal had does not matter. -/
def Lexeme.written : Lexeme → List Char
  | .plain c => [c]
  | .literal s => '"' :: s ++ ['"']
  | .opening => ['<', '!']
  | .comment s => s
  | .parameter name => '%' :: name ++ [';']

namespace Growth

/-- What it takes to read a text: its own bytes, and what its references stand for. -/
structure Load where
  bytes : Nat
  references : List (List Char)
  deriving Repr, DecidableEq

def bytesOf (size : Char → Nat) (s : List Char) : Nat := (s.map size).foldr (· + ·) 0

def partsOf (raw : List Char) : List ValuePart := (ValuePart.split raw).getD []

def referencesIn (raw : List Char) : List (List Char) :=
  (partsOf raw).filterMap fun
    | .reference body => some body
    | .literal _ => none

/-- A raw value that is kept as it is: it has no references, and no blanks but single spaces
between words. -/
def isPlain (raw : List Char) : Bool :=
  !raw.contains '&' && !(raw.any fun c => isSpace c && c ≠ ' ') &&
    (raw.isEmpty || !(Text.fields ' ' raw).contains [])

/-- The raw values in a tag, and whether they are rewritten; none are if the element ends at
once. -/
def valuesIn (alphabet : Alphabet) (raw : List Char) : List (List Char × Bool) :=
  match Tag.ofRaw alphabet raw with
  | some (.opening tag) =>
    tag.attributes.map fun (_, value) => (value, !tag.selfClosing && !isPlain value)
  | _ => []

/-- What a piece takes beyond the text that it was cut from. -/
def loadOf (alphabet : Alphabet) : Piece → Load
  | .reference body => ⟨0, [body]⟩
  | .tag raw =>
    let values := valuesIn alphabet raw
    ⟨bytesOf Char.utf8Size ((values.filter (·.2)).flatMap (·.1)),
      values.flatMap fun value => referencesIn value.1⟩
  | _ => ⟨0, []⟩

/-- What the replacement text of an entity takes; text that is no content is text of a value. -/
def loadOfText (text : List Char) : Load :=
  let bytes := bytesOf Char.utf8Size text
  match Markup.content .standard text with
  | some pieces =>
    let loads := pieces.map (loadOf .standard)
    ⟨bytes + (loads.map (·.bytes)).foldr (· + ·) 0, loads.flatMap (·.references)⟩
  | none => ⟨bytes, referencesIn text⟩

abbrev Weights := List (List Char × Nat)

/-- The bytes that stand in for a reference: one for a character of markup. -/
def weightOf (weights : Weights) (body : List Char) : Nat :=
  if (Reference.predefined.lookup body).isSome then 1 else (weights.lookup body).getD 0

def weigh (weights : Weights) (load : Load) : Nat :=
  load.bytes + (load.references.map (weightOf weights)).foldr (· + ·) 0

def setWeight (name : List Char) (weight : Nat) : Weights → Weights
  | [] => []
  | entry :: rest =>
    if entry.1 = name then (name, weight) :: rest else entry :: setWeight name weight rest

/-- Weighs entities by the weights of those that they contain, one after the other, until nothing
changes; every other round begins at the other end. -/
def settle (loads : List (List Char × Load)) : Nat → Weights → Weights
  | 0, weights => weights
  | rounds + 1, weights =>
    let next := loads.foldl
      (fun weights entry => setWeight entry.1 (weigh weights entry.2) weights) weights
    if next = weights then weights else settle loads.reverse rounds next

/-- Entities that do not contain themselves nest at most as deep as there are entities. -/
def weightsOf (entities : Entities) : Weights :=
  let loads := entities.map fun entry => (entry.1, loadOfText (entry.2.getD []))
  settle loads (entities.length + 1) (loads.map fun entry => (entry.1, 0))

/-! ## A document step by step -/

/-- A step in reading a document: bytes of its own, and then bytes that stand in for what it refers
to.  The step may leave its token unfinished. -/
structure Step where
  own : Nat
  more : Nat
  unfinished : Bool
  deriving Repr, DecidableEq

def isLineEnd (c : Char) : Bool := c = '\n' || c = '\r'

/-- The token of a character goes on with the next one.  Two characters may make one line end; any
other break is a token of its own. -/
def goesOn (isBreak : Char → Bool) (c : Char) : Option Char → Bool
  | some d => if c = '\r' then d = '\n' else !isBreak c && !isBreak d
  | none => false

variable (size : Char → Nat) (weights : Weights)

def stepOf (s : List Char) : Step := ⟨bytesOf size s, 0, false⟩

def referenceStep (body : List Char) : Step :=
  ⟨bytesOf size ('&' :: body ++ [';']), weightOf weights body, false⟩

def stepsOfParts (isBreak : Char → Bool) : List ValuePart → List Step
  | [] => []
  | .reference body :: rest => referenceStep size weights body :: stepsOfParts isBreak rest
  | .literal c :: rest =>
    let next := match rest with
      | .literal d :: _ => some d
      | _ => none
    ⟨size c, 0, goesOn isBreak c next⟩ :: stepsOfParts isBreak rest

/-- The own bytes of a value count only if it is rewritten. -/
def stepsOfValue (value : List Char × Bool) : List Step :=
  let steps := stepsOfParts size weights isSpace (partsOf value.1)
  if value.2 then steps else steps.map fun step => { step with own := 0 }

/-- The steps of a document type.  Literals in a declaration of attributes are standard values,
which are read as long as declarations still are `counting`; what stood in for the references in
each of them is given by `grown`. -/
def stepsOfDoctype (standalone : Bool) :
    (counting inRules : Bool) → (grown : List Nat) → List Lexeme → List Step
  | _, _, _, [] => []
  | counting, inRules, grown, lexeme :: rest =>
    let own := bytesOf size lexeme.written
    match lexeme with
    | .plain c =>
      let goesOn := match rest with
        | .plain d :: _ => isSpace c = isSpace d
        | _ => false
      ⟨own, 0, goesOn⟩ :: stepsOfDoctype standalone counting inRules grown rest
    | .opening =>
      -- Of the keywords of declarations only the one for attributes begins like this.
      ⟨own, 0, true⟩ ::
        stepsOfDoctype standalone counting (rest.head? = some (.plain 'A')) grown rest
    | .literal _ =>
      if counting && inRules then
        ⟨own, grown.headD 0, false⟩ :: stepsOfDoctype standalone counting inRules grown.tail rest
      else ⟨own, 0, false⟩ :: stepsOfDoctype standalone counting inRules grown rest
    | .parameter _ => ⟨own, 0, false⟩ :: stepsOfDoctype standalone standalone inRules grown rest
    | .comment _ => ⟨own, 0, false⟩ :: stepsOfDoctype standalone counting inRules grown rest

def stepsOf (alphabet : Alphabet) (standalone : Bool) (grown : List Nat) : List Piece → List Step
  | [] => []
  | .text c :: rest =>
    let next := match rest with
      | .text d :: _ => some d
      | _ => none
    ⟨size c, 0, goesOn isLineEnd c next⟩ :: stepsOf alphabet standalone grown rest
  | .section s :: rest =>
    stepOf size "<![CDATA[".toList :: stepsOfParts size weights isLineEnd (s.map .literal) ++
      stepOf size "]]>".toList :: stepsOf alphabet standalone grown rest
  | .skipped s :: rest => stepOf size s :: stepsOf alphabet standalone grown rest
  | .reference body :: rest =>
    referenceStep size weights body :: stepsOf alphabet standalone grown rest
  | .tag raw :: rest =>
    stepOf size ('<' :: raw ++ ['>']) ::
      (valuesIn alphabet raw).flatMap (stepsOfValue size weights) ++
        stepsOf alphabet standalone grown rest
  | .doctype lexemes :: rest =>
    stepOf size "<!DOCTYPE".toList :: stepsOfDoctype size standalone true false grown lexemes ++
      stepsOf alphabet standalone grown rest

def threshold : Nat := 8388608

def factor : Nat := 100

/-- A document of which `own` bytes were read may not have grown by so many more. -/
def isExcessive (own more : Nat) : Bool := threshold ≤ own + more && factor * own < own + more

/-- Reading on in steps from where `own` bytes were read and `more` had stood in for references, the
document is not excessive at the end of any token. -/
def staysBounded : (own more : Nat) → List Step → Bool
  | _, _, [] => true
  | own, more, step :: steps =>
    let own := own + step.own
    let more := more + step.more
    (step.unfinished || !isExcessive own more) && staysBounded own more steps

end Growth

end SqlFixtures.Xml
