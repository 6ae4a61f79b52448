import Conform.Session.Pass
import Conform.Session.Resolve

/-! # Jobs

A file changed or was removed, or is to be checked. A job does the first part of its work at once;
the rest are jobs of their own, on which it waits. A removal waits for the changes of the files that
depended on the file, and a change of a schema for the checks of those that depend on it.

Jobs that wait for others are started together: all of them in order, then all those they wait for
in order, and so on. What breaks down among the jobs that another one waits for is entered in the
log and keeps none of them from being started.
-/

namespace Conform

/-- A job. -/
inductive Job
  /-- Check a file. -/
  | check (file : FilePath) (target : Target)
  /-- A file was made or has changed. -/
  | changed (file : FilePath)
  /-- A file was removed. -/
  | removed (file : FilePath)

namespace Session

/-- Starts the work on a change of a file that has no provider: it is checked against its schema, or
it is a schema and the files under it are to be checked, or only its form is checked. -/
def startByConvention (w : Workspace) (setup : Setup) (file : FilePath) (s : Session) :
    Outcome (List Job) :=
  (s.resolve w file).andThen fun schema s =>
    match schema with
    | some schema => (s.check w setup file (.ofFile schema)).andThen fun _ s => s.done []
    | none =>
      let s := { s with index := s.index.dissociate file }
      match FilePath.sort (s.index.dependentsOf file) with
      | [] => (s.check w setup file .nothing).andThen fun _ s => s.done []
      | dependents => s.done (dependents.map fun d => .check d (.ofFile file))

/-- Starts the work on a change of a file that is there. -/
def startPresent (w : Workspace) (setup : Setup) (file : FilePath) (s : Session) :
    Outcome (List Job) :=
  match Provider.first? setup.providers file with
  | some text => (s.check w setup file (.ofText text)).andThen fun _ s => s.done []
  | none =>
    if Convention.isDocumentName file.name then s.startByConvention w setup file else s.done []

/-- Whether a path leads to a file. -/
def leadsToFile (w : Workspace) (file : FilePath) : Except AccessFault Bool := do
  if ← w.present file then w.isFile file else return false

/-- Starts the work on a change. What is not a file is passed over. -/
def startChanged (w : Workspace) (setup : Setup) (file : FilePath) (s : Session) :
    Outcome (List Job) :=
  let file := w.absolute file
  match leadsToFile w file with
  | .error fault => s.broken (.access fault)
  | .ok false => s.done []
  | .ok true => s.startPresent w setup file

/-- Starts the work on a removal: the file is forgotten, and the files under it have changed. -/
def startRemoved (w : Workspace) (file : FilePath) (s : Session) : Outcome (List Job) :=
  let (former, index) := s.index.remove (w.absolute file)
  { s with index }.done ((FilePath.sort former).map .changed)

/-- Starts a job; the result are the jobs it waits for. -/
def start (w : Workspace) (setup : Setup) : Job → Session → Outcome (List Job)
  | .check file target, s => (s.check w setup file target).andThen fun _ s => s.done []
  | .changed file, s => s.startChanged w setup file
  | .removed file, s => s.startRemoved w file

/-- What a job waits for once it was started. One that broke down waits for nothing and is
logged. -/
def awaited (result : Except Breakdown (List Job)) (s : Session) : Act (List Job) :=
  match result with
  | .ok jobs => s.stay jobs
  | .error reason => (s.stay []).logging (.passFailed reason)

/-- Starts jobs in order; the value are the jobs they wait for. -/
def startAll (w : Workspace) (setup : Setup) : List Job → Session → Act (List Job)
  | [], s => s.stay []
  | job :: rest, s =>
    ((s.start w setup job).bind awaited).bind fun jobs s =>
      (startAll w setup rest s).map fun more => jobs ++ more

/-- Starts jobs, and then those they wait for, so many times. -/
def settle (w : Workspace) (setup : Setup) : Nat → List Job → Session → Act Unit
  | 0, _, s => s.stay ()
  | n + 1, jobs, s => (s.startAll w setup jobs).bind (settle w setup n)

/-- A removal waits for changes, which wait for checks, which wait for nothing. -/
def generations : Nat := 2

/-- Does a job to its end. -/
def perform (w : Workspace) (setup : Setup) (job : Job) (s : Session) : Outcome Unit :=
  (s.start w setup job).andThen fun jobs s => (s.settle w setup generations jobs).map .ok

/-- Starts acts together. Each has a result of its own beside the jobs it waits for. -/
def startEach {α : Type} :
    List (Session → Outcome (α × List Job)) → Session → Act (List (Except Breakdown α) × List Job)
  | [], s => s.stay ([], [])
  | act :: rest, s =>
    (act s).bind fun result s =>
      (startEach rest s).map fun (results, more) =>
        match result with
        | .ok (a, jobs) => (.ok a :: results, jobs ++ more)
        | .error reason => (.error reason :: results, more)

/-- Does acts together. -/
def together {α : Type} (w : Workspace) (setup : Setup)
    (acts : List (Session → Outcome (α × List Job))) (s : Session) :
    Act (List (Except Breakdown α)) :=
  (startEach acts s).bind fun (results, jobs) s =>
    (s.settle w setup generations jobs).map fun _ => results

/-- Ends the visit of a file. One that broke down is logged. -/
def endVisit (file : FilePath) (result : Except Breakdown Unit) (s : Session) : Act Unit :=
  match result with
  | .ok _ => s.stay ()
  | .error reason => (s.stay ()).logging (.visitFailed file reason)

/-- Visits files one after the other. -/
def visit (w : Workspace) (setup : Setup) : List FilePath → Session → Act Unit
  | [], s => s.stay ()
  | file :: rest, s =>
    ((s.perform w setup (.changed file)).bind (endVisit file)).bind fun _ s => visit w setup rest s

end Session

end Conform
