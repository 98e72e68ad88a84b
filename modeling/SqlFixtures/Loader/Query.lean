import SqlFixtures.Corpus.Query
import SqlFixtures.Loader.Basic

/-!
# Queries on a loader

A query puts a question to the corpus of a category, which may have to be built first.  Other
queries look at the supported corpus twice, or at nothing but the source.
-/

namespace SqlFixtures

/-- What is asked of a corpus. -/
inductive Question where
  | sql (id variant parameters : Value)
  | literal (id parameters : Value)
  | placeholder (id : Value)
  | databaseTypes (id : Value)
  | matrix (registry : Registry) (suite : List String)
  | corpus

inductive Query where
  | ask (category : Category) (question : Question)
  /-- Is the supported corpus the one that a further look gives? -/
  | same
  | source

inductive Reply where
  | text (s : String)
  | optionalText (s : Option String)
  | rows (rows : List MatrixRow)
  | corpus (corpus : Corpus)
  | truth (b : Bool)
  | source (source : Source)
  /-- There is nothing to reply to a change of the files. -/
  | done

def Question.replyOf (found : Corpus) : Question → Except Failure Reply
  | sql id variant parameters => (found.resolve id variant parameters).map .text
  | literal id parameters => (found.literal id parameters).map .text
  | placeholder id => (found.placeholder id).map .text
  | databaseTypes id => (found.databaseTypes id).map .optionalText
  | matrix registry suite => (found.matrix registry suite).map .rows
  | corpus => .ok (.corpus found)

namespace Query

def sql (category : Category) (id variant parameters : Value) : Query :=
  ask category (.sql id variant parameters)

def literal (id parameters : Value) : Query := ask .supported (.literal id parameters)

def placeholder (id : Value) : Query := ask .supported (.placeholder id)

def databaseTypes (id : Value) : Query := ask .supported (.databaseTypes id)

def matrix (category : Category) (registry : Registry) (suite : List String) : Query :=
  ask category (.matrix registry suite)

def corpus (category : Category) : Query := ask category .corpus

end Query

namespace Loader

def answer (files : Files.Tree) (loader : Loader) : Query → Loader × Logged Reply
  | .ask category question =>
    let (next, found) := loader.corpus files category
    (next, found.bind fun corpus => Logged.ofExcept (question.replyOf corpus))
  | .same =>
    let (next, found) := loader.corpus files .supported
    let (last, again) := next.corpus files .supported
    -- Without a first corpus there is no second look, and nothing is logged for one.
    (last, found.bind fun first => again.map fun second => .truth (first.entries = second.entries))
  | .source => (loader, pure (.source loader.source))

end Loader

end SqlFixtures
