import SqlFixtures.Record.Case

/-!
# Writing documents of cases

A document of cases has one element on each line.  In an attribute, the characters of markup are
written as entities, and tabs and line ends as character references, so that reading the document
gives back what was written.
-/

namespace SqlFixtures.Document

open Record (Case)

def attributeChar (c : Char) : List Char :=
  if c = '&' then "&amp;".toList
  else if c = '<' then "&lt;".toList
  else if c = '>' then "&gt;".toList
  else if c = '"' then "&quot;".toList
  else if c = '\t' then "&#9;".toList
  else if c = '\n' then "&#10;".toList
  else if c = '\r' then "&#13;".toList
  else [c]

def attributeChars (name value : String) : List Char :=
  ' ' :: name.toList ++ ['=', '"'] ++ value.toList.flatMap attributeChar ++ ['"']

def caseChars (c : Case) : List Char :=
  "    <sql-case".toList ++ attributeChars "id" c.id ++ attributeChars "value" c.value ++
    (match c.databaseTypes with
      | some types => attributeChars "database-types" types
      | none => []) ++ " />\n".toList

def writeChars (cases : List Case) : List Char :=
  "<sql-cases>\n".toList ++ cases.flatMap caseChars ++ "</sql-cases>".toList

def writeCases (cases : List Case) : List UInt8 := (String.ofList (writeChars cases)).toUTF8.toList

end SqlFixtures.Document
