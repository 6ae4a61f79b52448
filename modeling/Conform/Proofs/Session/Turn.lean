import Conform.Session.Overlap

/-! # The turn of a pass

A pass that is in, or that may go in, comes to its end by its own moves alone,
whatever other passes are under way. It leads the session to where concluding
its evaluation leads it, and takes from the tables of locks its own share.
-/

namespace Conform.Overlap.State

variable {setup : Setup} {s : State} {p : Pass}

/-- The state after an act on its session. -/
def afterAct (s : State) (o : Outcome Unit) : State :=
  { s with session := o.session, notes := s.notes ++ o.notes }

theorem afterAct_done (s : State) : s.afterAct (s.session.done ()) = s := by
  simp [afterAct, Session.done, Session.stay]

@[simp] theorem leave_session (s : State) (p : Pass) : (s.leave p).session = s.session := by
  unfold leave
  dsimp only
  split <;> rfl

@[simp] theorem leave_passes (s : State) (p : Pass) :
    (s.leave p).passes = s.passes.filter (·.number != p.number) := by
  unfold leave
  dsimp only
  split <;> rfl

@[simp] theorem leave_next (s : State) (p : Pass) : (s.leave p).next = s.next := by
  unfold leave
  dsimp only
  split <;> rfl

/-- What is started does nothing to the session yet. -/
@[simp] theorem start_session (setup : Setup) (s : State) (w : Workspace) (file : FilePath)
    (target : Target) : (s.start setup w file target).session = s.session := by
  unfold start
  split <;> rfl

/-- What the session and the notes are makes no difference to the tables. -/
theorem leave_congr (s : State) (p : Pass) (session : Session) (notes : List Note) :
    ({ s with session, notes } : State).leave p = { s.leave p with session, notes } := by
  unfold leave
  dsimp only
  split <;> rfl

/-! ## Stages -/

theorem find?_atStage (h : s.find? p.number = some p) (stage : Stage) :
    (s.atStage p stage).find? p.number = some { p with stage } := by
  unfold find? at h
  have hnumber : ((fun q : Pass => q.number == p.number) ∘ fun q =>
      if q.number = p.number then { q with stage } else q) = fun q => q.number == p.number := by
    funext q
    dsimp only [Function.comp_apply]
    split <;> rfl
  rw [find?, atStage, List.find?_map, hnumber, h, Option.map_some, if_pos rfl]

/-- It makes no difference at which stage a pass leaves. -/
theorem leave_atStage (s : State) (p : Pass) (stage : Stage) :
    (s.atStage p stage).leave { p with stage } = s.leave p := by
  have hpasses : (s.passes.map fun q => if q.number = p.number then { q with stage } else q).filter
      (·.number != p.number) = s.passes.filter (·.number != p.number) := by
    induction s.passes with
    | nil => rfl
    | cons q rest ih =>
        rw [List.map_cons]
        by_cases hq : q.number = p.number
        · simp [hq, ih]
        · simp [hq, ih]
  unfold leave atStage
  dsimp only
  rw [hpasses]

theorem act_of_ok {stage : Stage} {step : Session → Outcome Unit} {value : Unit}
    (h : (step s.session).value = .ok value) :
    s.act p stage step = (s.afterAct (step s.session)).atStage p stage := by
  unfold act
  dsimp only
  rw [h]
  rfl

theorem act_of_error {stage : Stage} {step : Session → Outcome Unit} {reason : Breakdown}
    (h : (step s.session).value = .error reason) :
    s.act p stage step = (s.afterAct (step s.session)).leave p := by
  unfold act
  dsimp only
  rw [h]
  rfl

/-! ## Moves of one pass -/

theorem run_advance {after : State} (rest : List Move) (h : s.find? p.number = some p)
    (hadvance : s.advance setup p = some after) :
    run setup (.advance p.number :: rest) s = run setup rest after := by
  rw [run, move, h, Option.bind_some, hadvance, Option.bind_some]

/-- Moves on to a stage go before the moves from that stage. -/
theorem run_atStage {stage : Stage} {first : Outcome Unit} (second : Outcome Unit)
    (h : s.find? p.number = some p)
    (hadvance : s.advance setup p = some ((s.afterAct first).atStage p stage))
    (hrest : ∃ count, run setup (List.replicate count (.advance p.number))
        ((s.afterAct first).atStage p stage) =
      some ((((s.afterAct first).atStage p stage).afterAct second).leave { p with stage })) :
    ∃ count, run setup (List.replicate count (.advance p.number)) s =
      some ((s.afterAct (second.after first.notes)).leave p) := by
  obtain ⟨count, hcount⟩ := hrest
  refine ⟨count + 1, ?_⟩
  have hleave : (((s.afterAct first).atStage p stage).afterAct second).leave { p with stage } =
      ((s.afterAct first).afterAct second).leave p :=
    leave_atStage ((s.afterAct first).afterAct second) p stage
  rw [List.replicate_succ, run_advance _ h hadvance, hcount, hleave]
  simp [afterAct, Act.after, List.append_assoc]

/-- A pass that has come to adding adds what is left and leaves. -/
theorem run_adding (setup : Setup) {ds : List Diagnostic} (h : s.find? p.number = some p)
    (hstage : p.stage = .adding ds) :
    ∃ count, run setup (List.replicate count (.advance p.number)) s =
      some ((s.afterAct (s.session.addAll setup.display ds)).leave p) := by
  induction ds generalizing s p with
  | nil =>
      have hadvance : s.advance setup p = some (s.leave p) := by rw [advance, hstage]
      refine ⟨1, ?_⟩
      rw [List.replicate_one, run_advance [] h hadvance, run, Session.addAll, afterAct_done]
  | cons d rest ih =>
      have hadvance : s.advance setup p =
          some (s.act p (.adding rest) (·.add setup.display d)) := by rw [advance, hstage]
      cases hvalue : (s.session.add setup.display d).value with
      | error reason =>
          refine ⟨1, ?_⟩
          rw [List.replicate_one, run_advance [] h hadvance, run, act_of_error hvalue,
            Session.addAll, Act.andThen_error hvalue]
          rfl
      | ok value =>
          rw [act_of_ok hvalue] at hadvance
          rw [Session.addAll, Act.andThen_ok hvalue]
          have hmoved : ((s.afterAct (s.session.add setup.display d)).atStage p
              (.adding rest)).find? p.number = some { p with stage := .adding rest } :=
            find?_atStage h (.adding rest)
          exact run_atStage _ h hadvance (ih (p := { p with stage := .adding rest }) hmoved rfl)

/-- A pass that is about to clear its file puts what it found in the place of what there was, and
leaves. -/
theorem run_clearing (setup : Setup) {found : List Diagnostic} (h : s.find? p.number = some p)
    (hstage : p.stage = .clearing found) :
    ∃ count, run setup (List.replicate count (.advance p.number)) s =
      some ((s.afterAct (s.session.replace setup.display p.file found)).leave p) := by
  have hadvance : s.advance setup p =
      some (s.act p (.adding found) (·.clear setup.display p.file)) := by rw [advance, hstage]
  cases hvalue : (s.session.clear setup.display p.file).value with
  | error reason =>
      refine ⟨1, ?_⟩
      rw [List.replicate_one, run_advance [] h hadvance, run, act_of_error hvalue,
        Session.replace, Act.andThen_error hvalue]
      rfl
  | ok value =>
      rw [act_of_ok hvalue] at hadvance
      rw [Session.replace, Act.andThen_ok hvalue]
      have hmoved : ((s.afterAct (s.session.clear setup.display p.file)).atStage p
          (.adding found)).find? p.number = some { p with stage := .adding found } :=
        find?_atStage h (.adding found)
      exact run_atStage _ h hadvance
        (run_adding setup (p := { p with stage := .adding found }) hmoved rfl)

/-- A pass that is in ends as its evaluation is concluded. -/
theorem run_evaluating (setup : Setup) (h : s.find? p.number = some p)
    (hstage : p.stage = .evaluating) :
    ∃ count, run setup (List.replicate count (.advance p.number)) s =
      some ((s.afterAct (s.session.conclude setup p.file p.evaluated)).leave p) := by
  have hadvance : s.advance setup p = some (s.evaluated p) := by rw [advance, hstage]
  cases heval : p.evaluated with
  | error reason =>
      refine ⟨1, ?_⟩
      rw [List.replicate_one, run_advance [] h hadvance, run, evaluated, heval]
      by_cases hdeep : reason = .fault .tooDeep
      · subst hdeep
        simp [Session.conclude, afterAct, noting, Act.logging, Act.after, Session.done,
          Session.stay]
      · simp [Session.conclude, afterAct, Session.broken, Session.stay]
  | ok evaluation =>
      have hnoted : s.evaluated p =
          (s.afterAct ((s.session.done ()).after (evaluation.entries.map .logged))).atStage p
            (.clearing (evaluation.diagnostics p.file)) := by
        simp [evaluated, heval, afterAct, noting, Act.after, Session.done, Session.stay]
      have hmoved : (s.evaluated p).find? p.number =
          some { p with stage := .clearing (evaluation.diagnostics p.file) } := by
        rw [hnoted]
        exact find?_atStage h (.clearing (evaluation.diagnostics p.file))
      have hrest := run_clearing setup
        (p := { p with stage := .clearing (evaluation.diagnostics p.file) }) hmoved rfl
      rw [hnoted] at hadvance hrest
      have hturn := run_atStage
        (s.session.replace setup.display p.file (evaluation.diagnostics p.file)) h hadvance hrest
      simpa [Session.conclude, Act.after, Session.done, Session.stay] using hturn

/-- A pass is in, or it waits and may go in. -/
def HasTurn (s : State) (p : Pass) : Prop :=
  p.stage = .evaluating ∨ p.stage = .waiting ∧ s.admits p = true

/-- A pass that has its turn comes to its end by its own moves. -/
theorem run_turn (setup : Setup) (h : s.find? p.number = some p) (hturn : s.HasTurn p) :
    ∃ count, run setup (List.replicate count (.advance p.number)) s =
      some ((s.afterAct (s.session.conclude setup p.file p.evaluated)).leave p) := by
  rcases hturn with hstage | ⟨hstage, hadmits⟩
  · exact run_evaluating setup h hstage
  · have hadvance : s.advance setup p =
        some ((s.afterAct (s.session.done ())).atStage p .evaluating) := by
      rw [advance, hstage, afterAct_done]
      exact if_pos hadmits
    have hmoved : (s.atStage p .evaluating).find? p.number =
        some { p with stage := .evaluating } := find?_atStage h .evaluating
    have hrest := run_evaluating setup (p := { p with stage := .evaluating }) hmoved rfl
    rw [← afterAct_done s] at hrest
    exact run_atStage (s.session.conclude setup p.file p.evaluated) h hadvance hrest

end Conform.Overlap.State
