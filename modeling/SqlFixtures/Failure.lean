import SqlFixtures.Archive.Fault
import SqlFixtures.Dialect.Fault
import SqlFixtures.Failure.Arguments
import SqlFixtures.Failure.Misuse
import SqlFixtures.Files.Fault
import SqlFixtures.Record.Problem
import SqlFixtures.Text.EncodingFault

/-!
# Failures

Every way in which a request can fail, as data.  A failure of the fixtures themselves signals a
broken corpus or a mistake in a test; the others come from the values, documents and files that a
request was given.  A failure shows the values that led to it as they were given, whatever their
kinds.  `Failure.message` words each of them.
-/

namespace SqlFixtures

inductive DocumentFault where
  | malformed
  | wrongRoot (expected found : String)
  | wrongElement (expected found : String)
  | nestedElement (tag : String)
  | repeatedElement (tag : String)
  | invalidRecord (kind : String) (problems : List Record.Problem)
  /-- A fault that is only known by its wording. -/
  | worded (message : Value)

inductive MismatchFault where
  | count
  | strayPercent
  | worded (message : Value)

inductive Failure where
  /-- A failure that says nothing but what it was given. -/
  | general (arguments : List Value)
  | document (fault : DocumentFault) (resource : Value)
  | caseNotFound (id : Value)
  | duplicateCase (id resource : Value)
  | mismatch (fault : MismatchFault) (template expected actual : Value)
  | unknownDialect (literal owner known : Value)
  | invalidRecord (kind : String) (problems : List Record.Problem)
  | unknownVariant (given : Value)
  | misuse (fault : Misuse)
  | registry (fault : Dialect.Fault)
  | unknownMember (name : Value)
  | arguments (fault : ArgumentFault)
  | encoding (fault : Text.EncodingFault)
  | file (fault : Files.Fault)
  | archive (fault : Archive.Fault)
  | unknownLevel (name : String)
  | negativeLevel (number : Int)
  | notALevel (kind : String)
  | missingSink (id : Nat)

def DocumentFault.message (fault : DocumentFault) (resource : String) : String :=
  match fault with
  | malformed => s!"Malformed case document '{resource}'"
  | wrongRoot expected found =>
    s!"Expected root element <{expected}> in '{resource}', found <{found}>."
  | wrongElement expected found =>
    s!"Unexpected element <{found}> in '{resource}'; expected <{expected}>."
  | nestedElement tag => s!"<{tag}> must not have child elements in '{resource}'."
  | repeatedElement tag => s!"Duplicate <{tag}> in '{resource}'."
  | invalidRecord kind _ => s!"Invalid {kind} in '{resource}'"
  | worded message => message.toText

def MismatchFault.message (fault : MismatchFault) (template expected actual : String) : String :=
  match fault with
  | count =>
    s!"SQL template has {expected} parameter marker(s) but {actual} parameter(s) were given: " ++
      template
  | strayPercent => s!"Unsupported '%' conversion in SQL template: {template}"
  | worded message => message.toText

/-- An owner that counts as nothing is not mentioned. -/
def ownerClause (owner : Value) : String :=
  if owner.isEmpty then "" else s!" declared by case '{owner.toText}'"

/-- A resource that counts as nothing is not mentioned. -/
def resourceClause (resource : Value) : String :=
  if resource.isEmpty then "." else s!" in '{resource.toText}'."

def argumentsText : List Value → String
  | [] => ""
  | [only] => only.toText
  | arguments => (Value.tuple arguments).shown

def Failure.message : Failure → String
  | general given => argumentsText given
  | document fault resource => fault.message resource.toText
  | caseNotFound id => s!"Can't find SQL of id: {id.toText}"
  | duplicateCase id resource =>
    s!"Duplicate SQL case id '{id.toText}'" ++ resourceClause resource
  | mismatch fault template expected actual =>
    fault.message template.toText expected.toText actual.toText
  | unknownDialect literal owner known =>
    s!"Unknown database type '{literal.toText}'" ++ ownerClause owner ++ ". Known types: " ++
      known.toText ++ "."
  | invalidRecord kind _ => s!"Invalid {kind}"
  | unknownVariant given => given.shown ++ " is not a valid SQLCaseType"
  | misuse fault => fault.message
  | registry fault => fault.message
  | unknownMember name => name.shown
  | arguments fault => fault.message
  | encoding fault => fault.message
  | file fault => fault.message
  | archive fault => fault.message
  | unknownLevel name => s!"Level '{name}' does not exist"
  | negativeLevel number =>
    s!"Invalid level value, it should be a positive integer, not: {number}"
  | notALevel kind => s!"Invalid level, it should be an integer or a string, not: '{kind}'"
  | missingSink id => s!"There is no existing handler with id {id}"

namespace Failure

/-- Nothing is kept under the key that was asked for. -/
def isMissingKey : Failure → Bool
  | caseNotFound _ | unknownMember _ => true
  | _ => false

def generalKind : String := "SQLCasesError"

def kinds : List Signature :=
  [⟨"CorpusParseError", ["message"], ["resource"]⟩,
   ⟨"CaseNotFoundError", ["case_id"], []⟩,
   ⟨"DuplicateCaseError", ["case_id"], ["resource"]⟩,
   ⟨"FormatMismatchError", ["message", "template"], ["expected", "actual"]⟩,
   ⟨"UnknownDialectError", ["literal"], ["case_id", "known"]⟩]

def ofFields (kind : String) (values : List Value) : Failure :=
  match kind, values with
  | "CorpusParseError", [message, resource] => document (.worded message) resource
  | "CaseNotFoundError", [id] => caseNotFound id
  | "DuplicateCaseError", [id, resource] => duplicateCase id resource
  | "FormatMismatchError", [message, template, expected, actual] =>
    mismatch (.worded message) template expected actual
  | "UnknownDialectError", [literal, owner, known] =>
    unknownDialect literal owner (known.orElse (.list []))
  | _, values => general values

def raised (kind : String) (given : Arguments) : Except Failure Failure :=
  match kinds.find? fun signature => signature.kind = kind with
  | some signature =>
    match signature.bind given with
    | .ok values => .ok (ofFields kind values)
    | .error fault => .error (arguments fault)
  | none =>
    match given with
    | .placed values => .ok (general values)
    | .named [] => .ok (general [])
    | .named _ => .error (arguments (.unnamed generalKind))

end Failure

end SqlFixtures
