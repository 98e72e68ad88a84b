import SqlFixtures.Corpus.Basic
import SqlFixtures.Document.Cases
import SqlFixtures.Source.Listing

/-!
# Building a corpus

A corpus is built from all documents of a category, in the order in which they are listed, or not at
all.  A document is read as a whole before its cases are looked at.  A case whose id was defined
before replaces the earlier definition, which is logged; in strict mode it is a failure instead.
-/

namespace SqlFixtures

open Record (Case)

structure Definition where
  definedCase : Case
  resource : String
  deriving DecidableEq

/-- The definitions made so far, latest first. -/
abbrev History := List Definition

namespace History

def latest? (history : History) (id : String) : Option Definition :=
  history.find? fun d => d.definedCase.id = id

/-- What comes of it that a case is defined after an earlier definition of its id, if there is
one. -/
def replace (strict : Bool) (resource : String) (c : Case) : Option Definition → Logged Unit
  | none => pure ()
  | some earlier =>
    if strict then Logged.fail (.duplicateCase c.id resource)
    else
      Logged.note .warning
        s!"SQL case '{c.id}' in {resource} replaces the one in {earlier.resource}"

def define (strict : Bool) (resource : String) : History → List Case → Logged History
  | history, [] => pure history
  | history, c :: cases => do
    replace strict resource c (history.latest? c.id)
    define strict resource (⟨c, resource⟩ :: history) cases

def casesOf (resource : Resource) : Except Failure (List Case) := do
  Document.readCases resource.name (← resource.content)

def defineAll (strict : Bool) : History → List Resource → Logged History
  | history, [] => pure history
  | history, resource :: resources => do
    let cases ← Logged.ofExcept (casesOf resource)
    let history ← define strict resource.name history cases
    defineAll strict history resources

/-- The corpus in which each id has its latest definition. -/
def corpus (history : History) (name : Value) : Corpus :=
  Corpus.ofEntries name (history.reverse.map fun d => (d.definedCase.id, d.definedCase))

end History

namespace Corpus

def buildFrom (strict : Bool) (location : String) (category : Value)
    (resources : List Resource) : Logged Corpus := do
  let history ← History.defineAll strict [] resources
  let corpus := History.corpus history category
  Logged.note .debug
    (s!"Built corpus '{category.toText}' from {resources.length} file(s) at {location}: " ++
      s!"{corpus.size} case(s)")
  pure corpus

def build (files : Files.Tree) (source : Source) (category : Value) (strict : Bool) :
    Logged Corpus := do
  let resources ← source.list files category
  buildFrom strict source.location category resources

end Corpus

end SqlFixtures
