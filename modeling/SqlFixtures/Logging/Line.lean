import SqlFixtures.Logging.Sink

/-!
# Written entries

The sink of the fixtures writes an entry as one line: the time, the level in a column of eight
characters, the place in the program where the entry was logged, and the message as it is.
-/

namespace SqlFixtures

def padded (width : Nat) (s : String) : String :=
  String.ofList (s.toList ++ List.replicate (width - s.length) ' ')

def Corpus.buildPlace : String := "sqlcases.load.corpus:build_corpus"

def LogEntry.line (entry : LogEntry) (time place : String) : String :=
  time ++ " | " ++ padded 8 entry.level.name ++ " | " ++ place ++ " - " ++ entry.message ++ "\n"

/-- What the sinks of the fixtures write of entries that `origin` logged. -/
def LogState.written (state : LogState) (time place : String) (origin : Owner)
    (log : List LogEntry) : String :=
  String.join <| log.flatMap fun entry =>
    ((state.writers origin entry).filter fun sink => sink.owner = .fixtures).map fun _ =>
      entry.line time place

end SqlFixtures
