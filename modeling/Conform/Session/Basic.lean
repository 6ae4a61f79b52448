import Conform.Diagnostic
import Conform.Index
import Conform.Provider
import Conform.Schema.Validator
import Conform.Session.Note

/-! # Sessions

A session knows which files depend on which schemas and what there is to say about each file. An act
leads from one session to the next and leaves notes behind. Some acts may break down instead of
having a result; what they did until then stays done.
-/

namespace Conform

/-- Where changes of the store are shown. -/
inductive Display
  /-- Nowhere. -/
  | silent
  /-- On a console, to someone who looks from a directory. -/
  | console (root : Option FilePath)
  deriving DecidableEq, Repr

/-- What a session works with. -/
structure Setup where
  /-- The providers of schemas, the first ones counting first. -/
  providers : List Provider
  /-- The host. -/
  host : Host
  /-- Where changes of the store are shown. -/
  display : Display
  /-- How a value is validated against a schema. -/
  validate : Json → Json → Except Refusal (List Failure)

/-- The state of a session. -/
structure Session where
  /-- The files by schema. -/
  index : Index
  /-- The diagnostics by file. -/
  store : Store
  deriving DecidableEq, Repr

/-- The session in which nothing happened. -/
def Session.empty : Session := ⟨.empty, .empty⟩

/-- The end of an act: a value, the session then and the notes that were left behind. -/
structure Act (α : Type) where
  /-- The value. -/
  value : α
  /-- The session. -/
  session : Session
  /-- The notes, in order. -/
  notes : List Note

/-- The end of an act that may break down: a result, or the reason why there is none. -/
abbrev Outcome (α : Type) := Act (Except Breakdown α)

namespace Session

/-- The act that changes nothing. -/
def stay {α : Type} (s : Session) (a : α) : Act α := ⟨a, s, []⟩

/-- Ends an act with a result. -/
def done {α : Type} (s : Session) (a : α) : Outcome α := s.stay (.ok a)

/-- Ends an act that broke down. -/
def broken {α : Type} (s : Session) (reason : Breakdown) : Outcome α := s.stay (.error reason)

end Session

namespace Act

variable {α β : Type}

/-- Changes the value. -/
def map (f : α → β) (act : Act α) : Act β := ⟨f act.value, act.session, act.notes⟩

/-- Goes on from an act. -/
def bind (act : Act α) (next : α → Session → Act β) : Act β :=
  let more := next act.value act.session
  ⟨more.value, more.session, act.notes ++ more.notes⟩

/-- Goes on from an act that did not break down. -/
def andThen (act : Outcome α) (next : α → Session → Outcome β) : Outcome β :=
  act.bind fun result s =>
    match result with
    | .ok a => next a s
    | .error reason => s.broken reason

/-- An act with notes that come first. -/
def after (notes : List Note) (act : Act α) : Act α := { act with notes := notes ++ act.notes }

/-- An act with an entry that comes first. -/
def logging (entry : Entry) (act : Act α) : Act α := act.after [.logged entry]

theorem andThen_ok {act : Outcome α} {a : α} (h : act.value = .ok a)
    (next : α → Session → Outcome β) :
    act.andThen next = ⟨(next a act.session).value, (next a act.session).session,
      act.notes ++ (next a act.session).notes⟩ := by
  simp [Act.andThen, Act.bind, h]

theorem andThen_error {act : Outcome α} {reason : Breakdown}
    (h : act.value = .error reason) (next : α → Session → Outcome β) :
    act.andThen next = ⟨.error reason, act.session, act.notes⟩ := by
  simp [Act.andThen, Act.bind, h, Session.broken, Session.stay]

end Act

end Conform
