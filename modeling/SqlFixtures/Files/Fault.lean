import SqlFixtures.Text.Quoted

/-!
# Faults of files

Why a file cannot be read or made at a path.
-/

namespace SqlFixtures.Files

inductive Fault where
  | missing (path : String)
  | isDirectory (path : String)
  | notDirectory (path : String)
  | nameTooLong (path : String)
  /-- There is something else already. -/
  | taken (path : String)
  /-- A path with a zero in it cannot be asked for. -/
  | zeroInPath
  deriving DecidableEq

def Fault.message : Fault → String
  | missing path => "[Errno 2] No such file or directory: " ++ Text.quote path
  | isDirectory path => "[Errno 21] Is a directory: " ++ Text.quote path
  | notDirectory path => "[Errno 20] Not a directory: " ++ Text.quote path
  | nameTooLong path => "[Errno 36] File name too long: " ++ Text.quote path
  | taken path => "[Errno 17] File exists: " ++ Text.quote path
  | zeroInPath => "embedded null byte"

end SqlFixtures.Files
