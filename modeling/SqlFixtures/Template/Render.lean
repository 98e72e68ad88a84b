import SqlFixtures.Failure
import SqlFixtures.Template.Token

/-!
# Rendering templates

A template is rendered in one of two variants.  The placeholder variant writes `?` for every `%s`,
also for one right after another percent sign, and then one percent sign for every pair.  The
literal variant puts the text of one parameter in the place of each marker, in order, and the
percent sign in the place of each escape; parameters are never read as template text.  Without
parameters the literal variant is the template itself, escapes included.
-/

namespace SqlFixtures.Template

/-- Writes `?` for every `%s`. -/
def bindMarkers : List Char → List Char
  | '%' :: 's' :: rest => '?' :: bindMarkers rest
  | c :: rest => c :: bindMarkers rest
  | [] => []

/-- Writes one percent sign for every pair, from the left. -/
def unescape : List Char → List Char
  | '%' :: '%' :: rest => '%' :: unescape rest
  | c :: rest => c :: unescape rest
  | [] => []

def placeholder (template : String) : String :=
  String.ofList (unescape (bindMarkers template.toList))

/-- Puts one text in the place of each marker.  There is no result if a percent sign is stray, or
if there are more or fewer texts than markers. -/
def fill : List Token → List (List Char) → Option (List Char)
  | [], [] => some []
  | .text s :: tokens, values => (fill tokens values).map (s ++ ·)
  | .escape :: tokens, values => (fill tokens values).map ('%' :: ·)
  | .marker :: tokens, value :: values => (fill tokens values).map (value ++ ·)
  | _, _ => none

/-- The literal variant.  A wrong number of parameters is reported before a stray percent sign. -/
def literal (template : String) (parameters : List Value) : Except Failure String :=
  if parameters.isEmpty then .ok template
  else
    let expected := countMarkers template
    let actual := parameters.length
    let mismatch fault := Failure.mismatch fault template (.int expected) (.int actual)
    if expected = actual then
      match fill (tokens template.toList) (parameters.map fun p => p.toText.toList) with
      | some sql => .ok (String.ofList sql)
      | none => .error (mismatch .strayPercent)
    else .error (mismatch .count)

def literalOf (template : String) (parameters : Value) : Except Failure String :=
  match parameters.elements with
  | .ok values => literal template values
  | .error kind => .error (.misuse (.length kind))

/-- A template that is given as a value has to be text as soon as `operation` is asked of it. -/
def ofValue (operation : String) : Value → Except Failure String
  | .text template => .ok template
  | other => .error (.misuse (.operation other.kind operation))

def countMarkersOf (template : Value) : Except Failure Nat :=
  (ofValue "find" template).map countMarkers

def placeholderOf (template : Value) : Except Failure Value :=
  (ofValue "replace" template).map fun template => placeholder template

/-- Without parameters any value is its own literal variant. -/
def literalOfValue (template parameters : Value) : Except Failure Value :=
  if parameters.isEmpty then .ok template
  else do
    let sql ← literalOf (← ofValue "find" template) parameters
    pure sql

end SqlFixtures.Template

namespace SqlFixtures

inductive Variant where
  | literal
  | placeholder
  deriving Repr, DecidableEq

namespace Variant

def name : Variant → String
  | literal => "Literal"
  | placeholder => "Placeholder"

def setName : String := "SQLCaseType"

/-- In the order in which a test matrix lists them. -/
def all : List Variant := [literal, placeholder]

def toValue (v : Variant) : Value := .member setName v.name

/-- A variant is given by its name or as a member of the set of variants. -/
def ofValue? : Value → Option Variant
  | .text s => all.find? fun v => v.name = s
  | .member set s => if set = setName then all.find? fun v => v.name = s else none
  | _ => none

end Variant

/-- Renders a template in the variant that `variant` names.  The placeholder variant does not look
at the parameters. -/
def Template.resolve (template : String) (variant parameters : Value) : Except Failure String :=
  match Variant.ofValue? variant with
  | some .placeholder => .ok (placeholder template)
  | some .literal => literalOf template parameters
  | none => .error (.unknownVariant variant)

def Template.resolveValue (template variant parameters : Value) : Except Failure Value :=
  match Variant.ofValue? variant with
  | some .placeholder => placeholderOf template
  | some .literal => literalOfValue template parameters
  | none => .error (.unknownVariant variant)

end SqlFixtures
