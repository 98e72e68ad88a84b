import SqlFixtures.Failure
import SqlFixtures.Keyed
import SqlFixtures.Record.Case

/-!
# Corpora

A corpus holds the cases of one category, each under its key, in increasing order of the keys by
code point.  Putting a case under a key that is taken replaces the case there.
-/

namespace SqlFixtures

open Record (Case)

structure Corpus where
  /-- The category, or whatever else the corpus is called. -/
  name : Value
  entries : List (String × Case)

namespace Corpus

def ofEntries (name : Value) (entries : List (String × Case)) : Corpus :=
  ⟨name, Keyed.ofList entries⟩

def keys (corpus : Corpus) : List String := corpus.entries.map (·.1)

def cases (corpus : Corpus) : List Case := corpus.entries.map (·.2)

def size (corpus : Corpus) : Nat := corpus.entries.length

def get? (corpus : Corpus) (id : String) : Option Case := corpus.entries.lookup id

def lookup (corpus : Corpus) (id : String) : Except Failure Case :=
  match corpus.get? id with
  | some c => .ok c
  | none => .error (.caseNotFound id)

/-- The case that a value is the id of, if there is one.  Only text can be an id of a case, and a
constant that counts as its own name. -/
def find (corpus : Corpus) : Value → Except Failure (Option Case)
  | .text id | .member _ id => .ok (corpus.get? id)
  | other => if other.isKey then .ok none else .error (.misuse (.key other.kind))

def item (corpus : Corpus) (id : Value) : Except Failure Case := do
  match ← corpus.find id with
  | some c => pure c
  | none => throw (.caseNotFound id)

/-- The case with an id, or nothing instead of the failure that there is none. -/
def item? (corpus : Corpus) (id : Value) : Except Failure (Option Case) :=
  match corpus.item id with
  | .ok c => .ok (some c)
  | .error failure => if failure.isMissingKey then .ok none else .error failure

/-- Is there a case with an id?  Only the failure that there is none means that there is not. -/
def contains (corpus : Corpus) (id : Value) : Except Failure Bool :=
  match corpus.item id with
  | .ok _ => .ok true
  | .error failure => if failure.isMissingKey then .ok false else .error failure

def sql (corpus : Corpus) (id : Value) : Except Failure String :=
  (corpus.item id).map (·.value)

def databaseTypes (corpus : Corpus) (id : Value) : Except Failure (Option String) :=
  (corpus.item id).map (·.databaseTypes)

def summary (corpus : Corpus) : String :=
  "SQLCaseCorpus(name=" ++ corpus.name.shown ++ s!", cases={corpus.size})"

end Corpus

end SqlFixtures
