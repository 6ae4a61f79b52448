import Conform.Session.Job

/-! # Watching

A source of events says what happened to files, in batches. The events of a batch that matter give
the files that changed and those that were deleted, and whoever wants to know is told of them once a
batch. Telling may break down; that is logged, and the next batch is told of all the same.
-/

namespace Conform.Watch

/-- What happened to a file. -/
inductive Change
  | added
  | modified
  | deleted
  deriving DecidableEq, Repr

/-- An event. -/
structure Event where
  /-- What happened. -/
  change : Change
  /-- The file. -/
  file : FilePath
  deriving DecidableEq, Repr

/-- What is told of a batch. Each file stands once in each list. -/
structure Batch where
  /-- The files that were made or have changed. -/
  changed : List FilePath
  /-- The files that were deleted. -/
  deleted : List FilePath
  deriving DecidableEq, Repr

namespace Batch

/-- The files of events of some sort. -/
def filesOf (wanted : Event → Bool) (events : List Event) : List FilePath :=
  ((events.filter wanted).map Event.file).eraseDups

/-- The batch of the events that matter. -/
def ofEvents (isRelevant : FilePath → Bool) (events : List Event) : Batch :=
  { changed := filesOf (fun e => isRelevant e.file && e.change != .deleted) events
    deleted := filesOf (fun e => isRelevant e.file && e.change == .deleted) events }

/-- Whether there is nothing to tell. -/
def isEmpty (batch : Batch) : Bool := batch.changed.isEmpty && batch.deleted.isEmpty

end Batch

/-- Whether a file matters by its suffix. -/
def hasSuffix (suffixes : List String) (file : FilePath) : Bool :=
  suffixes.contains (Text.lower file.suffix)

/-- Whoever is told of batches: a state of its own, what telling does to it and how it keeps entries
of the log. -/
structure Listener (σ : Type) where
  /-- Tells of a batch. -/
  tell : Batch → σ → Except Breakdown Unit × σ
  /-- Makes an entry. -/
  log : Entry → σ → σ

namespace Listener

variable {σ : Type}

/-- Hands over the events that came together. -/
def deliver (listener : Listener σ) (isRelevant : FilePath → Bool) (events : List Event) (s : σ) :
    σ :=
  let batch := Batch.ofEvents isRelevant events
  if batch.isEmpty then s
  else
    match listener.tell batch
      (listener.log (.detected batch.changed.length batch.deleted.length) s) with
    | (.ok _, s) => s
    | (.error reason, s) => listener.log (.tellingFailed reason) s

end Listener

/-- Hands over batch after batch to the listener that each of them comes with. -/
def run {σ : Type} (isRelevant : FilePath → Bool) :
    List (Listener σ × List Event) → σ → σ
  | [], s => s
  | (listener, events) :: rest, s => run isRelevant rest (listener.deliver isRelevant events s)

end Conform.Watch

namespace Conform.Session

/-- Does jobs in order up to the first one that breaks down. -/
def performAll (w : Workspace) (setup : Setup) : List Job → Session → Outcome Unit
  | [], s => s.done ()
  | job :: rest, s => (s.perform w setup job).andThen fun _ s => performAll w setup rest s

/-- Deals with a batch: first with the files that were deleted and then with those that changed,
each in order. -/
def handle (w : Workspace) (setup : Setup) (batch : Watch.Batch) (s : Session) : Outcome Unit :=
  s.performAll w setup
    ((FilePath.sort batch.deleted).map .removed ++ (FilePath.sort batch.changed).map .changed)

/-- A session as a listener that deals with batches among the files there are and keeps the
notes. -/
def listener (w : Workspace) (setup : Setup) : Watch.Listener (Session × List Note) where
  tell batch := fun (s, notes) =>
    let o := s.handle w setup batch
    (o.value, o.session, notes ++ o.notes)
  log entry := fun (s, notes) => (s, notes ++ [.logged entry])

end Conform.Session
