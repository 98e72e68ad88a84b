import SqlFixtures.Corpus.Basic
import SqlFixtures.Matrix

/-!
# Queries on a corpus

A query looks a case up first and renders its template then, so an unknown id is reported before
anything that is wrong with the variant or the parameters.
-/

namespace SqlFixtures.Corpus

def resolve (corpus : Corpus) (id variant parameters : Value) :
    Except Failure String := do
  let c ← corpus.item id
  Template.resolve c.value variant parameters

def literal (corpus : Corpus) (id parameters : Value) : Except Failure String := do
  let template ← corpus.sql id
  Template.literalOf template parameters

def placeholder (corpus : Corpus) (id : Value) : Except Failure String :=
  (corpus.sql id).map Template.placeholder

/-- The matrix of all cases; a row carries the id of its case, which need not be its key. -/
def matrix (corpus : Corpus) (registry : Registry) (suite : List String) :
    Except Failure (List MatrixRow) :=
  Matrix.expand registry suite corpus.cases

end SqlFixtures.Corpus
