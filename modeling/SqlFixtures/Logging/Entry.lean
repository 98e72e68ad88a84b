/-!
# Log entries

What happens while fixtures are found and read is told in log entries.  An entry has a level, and
the levels are ordered by their numbers.
-/

namespace SqlFixtures

inductive Level where
  | trace
  | debug
  | info
  | success
  | warning
  | error
  | critical
  deriving Repr, DecidableEq

namespace Level

def all : List Level := [trace, debug, info, success, warning, error, critical]

def name : Level → String
  | trace => "TRACE"
  | debug => "DEBUG"
  | info => "INFO"
  | success => "SUCCESS"
  | warning => "WARNING"
  | error => "ERROR"
  | critical => "CRITICAL"

def number : Level → Nat
  | trace => 5
  | debug => 10
  | info => 20
  | success => 25
  | warning => 30
  | error => 40
  | critical => 50

def ofName? (name : String) : Option Level := all.find? fun level => level.name = name

end Level

structure LogEntry where
  level : Level
  message : String
  deriving Repr, DecidableEq

end SqlFixtures
