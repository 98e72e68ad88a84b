import SqlFixtures.Loader.Query

/-!
# Runs of a loader

In a run, queries on a loader take turns with changes of the files that it reads.
-/

namespace SqlFixtures

inductive Action where
  | query (query : Query)
  | write (path : Files.Path) (content : List UInt8)
  | makeDirectory (path : Files.Path)
  | delete (path : Files.Path)

structure Session where
  files : Files.Tree
  loader : Loader

namespace Session

def changed (session : Session) : Files.Tree × Option Files.Fault → Session × Logged Reply
  | (files, none) => ({ session with files }, pure .done)
  | (files, some fault) => ({ session with files }, Logged.fail (.file fault))

def step (session : Session) : Action → Session × Logged Reply
  | .query query =>
    let (loader, reply) := session.loader.answer session.files query
    ({ session with loader }, reply)
  | .write path content => session.changed (session.files.write content path)
  | .makeDirectory path => session.changed (session.files.makeDirectory path)
  | .delete path => session.changed (session.files.delete path)

def run : Session → List Action → List (Logged Reply)
  | _, [] => []
  | session, action :: actions =>
    let (next, reply) := session.step action
    reply :: run next actions

def after : Session → List Action → Session
  | session, [] => session
  | session, action :: actions => after (session.step action).1 actions

end Session

end SqlFixtures
