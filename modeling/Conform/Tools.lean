import Conform.Session.Job

/-! # Tools

What a session offers to someone who asks from outside, path by path: validating a file, the
diagnostics of a file, the files under a schema, and news of a removal.
-/

namespace Conform.Session

/-- Validates a file, or the files under a schema, and gives the diagnostics of the file. -/
def validateTool (w : Workspace) (setup : Setup) (path : FilePath) (s : Session) :
    Outcome (List Diagnostic) :=
  let file := w.absolute path
  (s.perform w setup (.changed file)).andThen fun _ s => s.done (s.store.diagnosticsFor file)

/-- The diagnostics of a file. -/
def diagnosticsTool (w : Workspace) (path : FilePath) (s : Session) : List Diagnostic :=
  s.store.diagnosticsFor (w.absolute path)

/-- The files under a schema, by their written forms. -/
def dependentsTool (w : Workspace) (schema : FilePath) (s : Session) : List FilePath :=
  FilePath.sortByText (s.index.dependentsOf (w.absolute schema))

/-- Deals with a removal and gives the files that depended on the file, by their written forms. -/
def removedTool (w : Workspace) (setup : Setup) (path : FilePath) (s : Session) :
    Outcome (List FilePath) :=
  let file := w.absolute path
  let affected := s.dependentsTool w file
  (s.perform w setup (.removed file)).andThen fun _ s => s.done affected

end Conform.Session
