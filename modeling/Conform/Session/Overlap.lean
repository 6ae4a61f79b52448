import Conform.Session.Pass

/-! # Overlapping passes

Passes over different files may be under way at the same time. Passes over one file go in one after
the other, in the order in which they were started: a pass that comes while another one is there
waits. What makes them wait is a lock that the first of them makes for the file. The passes over a
file are counted, and the last one to leave drops the lock.

A pass moves in steps: it is started, goes in, ends its evaluation, clears the diagnostics of its
file and adds those it found one at a time. Between any two steps of one pass other passes may move,
and a pass may be cancelled, be it in or waiting. One that waits may be told so some time before it
leaves; until then it is counted, but a pass that comes does not wait for it.
-/

namespace Conform.Overlap

/-- How far a pass has come. -/
inductive Stage
  /-- It waits until it may go in. -/
  | waiting
  /-- It waited and was told to give up, but has not left yet. -/
  | withdrawn
  /-- It is in, and what it read is being evaluated. -/
  | evaluating
  /-- It is in, and its file is about to be cleared. -/
  | clearing (found : List Diagnostic)
  /-- It is in, and some diagnostics are left to add. -/
  | adding (rest : List Diagnostic)
  deriving DecidableEq, Repr

/-- A pass that is under way. -/
structure Pass where
  /-- The number of the pass, in the order of starting. -/
  number : Nat
  /-- The file. -/
  file : FilePath
  /-- The lock it holds or waits for, by the number of the pass that made it. -/
  lock : Nat
  /-- What the evaluation of the texts that were read at the start comes to. -/
  evaluated : Except Breakdown Evaluation
  /-- How far it has come. -/
  stage : Stage

/-- Whether a pass that has come so far is in. -/
def Stage.isInside : Stage → Bool
  | waiting => false
  | withdrawn => false
  | _ => true

/-- Whether a pass is in. -/
def Pass.isInside (p : Pass) : Bool := p.stage.isInside

/-- Whether a pass waits and has not been told to give up. -/
def Pass.isWaiting (p : Pass) : Bool := p.stage == .waiting

/-- A session with the passes that are under way. -/
structure State where
  /-- The session. -/
  session : Session
  /-- The notes that were left behind. -/
  notes : List Note
  /-- The locks by file. -/
  locks : List (FilePath × Nat)
  /-- The numbers of passes that have the lock of a file or wait for it. -/
  users : List (FilePath × Nat)
  /-- The passes under way, in the order in which they were started. -/
  passes : List Pass
  /-- The number of the next pass. -/
  next : Nat

/-- What may happen next. -/
inductive Move
  /-- A pass is started among the files there are then. -/
  | start (w : Workspace) (file : FilePath) (target : Target)
  /-- A pass takes its next step. -/
  | advance (number : Nat)
  /-- A pass that waits is told to give up. -/
  | withdraw (number : Nat)
  /-- A pass is cancelled. -/
  | cancel (number : Nat)

namespace State

/-- A session with no pass under way. -/
def idle (session : Session) : State := ⟨session, [], [], [], [], 0⟩

/-- The pass with a number. -/
def find? (s : State) (number : Nat) : Option Pass := s.passes.find? (·.number == number)

/-- The pass that is in by a lock. -/
def holder? (s : State) (lock : Nat) : Option Pass :=
  s.passes.find? fun p => p.lock == lock && p.isInside

/-- The first pass that waits for a lock. -/
def firstWaiting? (s : State) (lock : Nat) : Option Pass :=
  s.passes.find? fun p => p.lock == lock && p.isWaiting

/-- Whether a pass that waits may go in: no pass is in by the lock, and it is the first to wait. -/
def admits (s : State) (p : Pass) : Bool :=
  (s.holder? p.lock).isNone && (s.firstWaiting? p.lock).any (·.number == p.number)

/-- Moves a pass on to a stage. -/
def atStage (s : State) (p : Pass) (stage : Stage) : State :=
  { s with passes := s.passes.map fun q => if q.number = p.number then { q with stage } else q }

/-- Leaves notes behind. -/
def noting (s : State) (notes : List Note) : State := { s with notes := s.notes ++ notes }

/-- A pass is over. The lock goes with the last one that had it or waited for it. -/
def leave (s : State) (p : Pass) : State :=
  let s := { s with passes := s.passes.filter (·.number != p.number) }
  match (s.users.lookup p.file).getD 0 - 1 with
  | 0 => { s with locks := Entries.erase p.file s.locks, users := Entries.erase p.file s.users }
  | n + 1 => { s with users := Entries.put p.file (n + 1) s.users }

/-- A pass begins, unless it waits, with what its texts come to. -/
def arrive (s : State) (file : FilePath) (evaluated : Except Breakdown Evaluation) : State :=
  let lock := (s.locks.lookup file).getD s.next
  let isFree := (s.holder? lock).isNone && (s.firstWaiting? lock).isNone
  let stage : Stage := if isFree then .evaluating else .waiting
  { s with
    locks := Entries.put file lock s.locks
    users := Entries.put file ((s.users.lookup file).getD 0 + 1) s.users
    passes := s.passes ++ [⟨s.next, file, lock, evaluated, stage⟩]
    next := s.next + 1 }

/-- A pass is started. One whose texts are not read is over at once. -/
def start (setup : Setup) (s : State) (w : Workspace) (file : FilePath) (target : Target) : State :=
  match Session.readTexts w file target with
  | .error .nullCharacter => s
  | .error fault => s.noting [.logged (.unread file fault)]
  | .ok (text, schemaText) =>
    s.arrive file (Evaluation.ofText setup file text target.label schemaText)

/-- A pass does something to the session and moves on to a stage, or is over if that breaks down. -/
def act (s : State) (p : Pass) (stage : Stage) (step : Session → Outcome Unit) : State :=
  let o := step s.session
  let s := { s with session := o.session }.noting o.notes
  match o.value with
  | .ok _ => s.atStage p stage
  | .error _ => s.leave p

/-- The evaluation of a pass has ended. -/
def evaluated (s : State) (p : Pass) : State :=
  match p.evaluated with
  | .error (.fault .tooDeep) => (s.noting [.logged (.tooDeep p.file)]).leave p
  | .error _ => s.leave p
  | .ok evaluation =>
    (s.noting (evaluation.entries.map .logged)).atStage p
      (.clearing (evaluation.diagnostics p.file))

/-- A pass takes its next step, unless it has to wait or was told to give up. -/
def advance (setup : Setup) (s : State) (p : Pass) : Option State :=
  match p.stage with
  | .waiting => if s.admits p then some (s.atStage p .evaluating) else none
  | .withdrawn => none
  | .evaluating => some (s.evaluated p)
  | .clearing found => some (s.act p (.adding found) (·.clear setup.display p.file))
  | .adding [] => some (s.leave p)
  | .adding (d :: rest) => some (s.act p (.adding rest) (·.add setup.display d))

/-- A pass that waits is told to give up. -/
def withdraw (s : State) (p : Pass) : Option State :=
  if p.isWaiting then some (s.atStage p .withdrawn) else none

/-- The state after a move, if the move is possible. -/
def move (setup : Setup) (s : State) : Move → Option State
  | .start w file target => some (s.start setup w file target)
  | .advance number => (s.find? number).bind (s.advance setup)
  | .withdraw number => (s.find? number).bind s.withdraw
  | .cancel number => (s.find? number).map s.leave

/-- The state after some moves, if all of them are possible. -/
def run (setup : Setup) : List Move → State → Option State
  | [], s => some s
  | m :: rest, s => (s.move setup m).bind (run setup rest)

end State

end Conform.Overlap
