import SqlFixtures.Failure
import SqlFixtures.Logging.Entry

/-!
# Logged results

A logged result is a result together with the entries that were logged on the way to it.  A failure
keeps the entries that were logged before it.
-/

namespace SqlFixtures

structure Logged (α : Type) where
  log : List LogEntry
  result : Except Failure α

namespace Logged

variable {α β : Type}

def ofExcept (result : Except Failure α) : Logged α := ⟨[], result⟩

def fail (failure : Failure) : Logged α := ofExcept (.error failure)

def note (level : Level) (message : String) : Logged Unit := ⟨[⟨level, message⟩], .ok ()⟩

def bind (first : Logged α) (next : α → Logged β) : Logged β :=
  match first.result with
  | .ok a =>
    let rest := next a
    ⟨first.log ++ rest.log, rest.result⟩
  | .error failure => ⟨first.log, .error failure⟩

def map (f : α → β) (logged : Logged α) : Logged β := ⟨logged.log, logged.result.map f⟩

instance : Monad Logged where
  pure a := ofExcept (.ok a)
  bind := bind
  map := map

end Logged

end SqlFixtures
