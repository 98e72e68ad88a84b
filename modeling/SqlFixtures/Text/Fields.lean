/-!
# Fields between separators

A text is cut at every occurrence of a separator.  There is always one field more than there are
separators, so a text without separators is one field, and empty fields are kept.
-/

namespace SqlFixtures.Text

def fields (separator : Char) : List Char → List (List Char)
  | [] => [[]]
  | c :: rest =>
    match fields separator rest with
    | [] => [[c]]
    | field :: others =>
      if c = separator then [] :: field :: others else (c :: field) :: others

end SqlFixtures.Text
