/-!
# Lists kept by key

A list of pairs is kept in strictly increasing order of its keys, which are compared by code point.
Putting a value under a key that is taken replaces the value there.
-/

namespace SqlFixtures.Keyed

variable {α : Type}

def insert (key : String) (value : α) : List (String × α) → List (String × α)
  | [] => [(key, value)]
  | (other, a) :: rest =>
    if key < other then (key, value) :: (other, a) :: rest
    else if key = other then (key, value) :: rest
    else (other, a) :: insert key value rest

def ofList (pairs : List (String × α)) : List (String × α) :=
  pairs.foldl (fun kept pair => insert pair.1 pair.2 kept) []

/-- Texts in increasing order, each once. -/
def sortedDistinct (texts : List String) : List String :=
  (ofList (texts.map fun s => (s, ()))).map (·.1)

end SqlFixtures.Keyed
