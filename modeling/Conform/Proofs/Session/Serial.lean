import Conform.Proofs.Session.Exclusion
import Conform.Proofs.Session.Said

/-! # Overlapping passes over a file

However the moves of passes over a file alternate, what they do to its diagnostics
is done by one pass after the other, in the order in which they were started. At
every moment what is said of the file is the beginning of what one of them found,
or what was said before any of them was started. Once all have come to their end
it is what the last of those with a result found, whichever of them were the
slowest and whichever had none.
-/

namespace Conform

/-- Whether it can be shown that a file is cleared and that diagnostics are added. -/
def Display.Shows (display : Display) (file : FilePath) (ds : List Diagnostic) : Prop :=
  (∃ notes, display.shown clearedText file = .ok notes) ∧
    ∀ d ∈ ds, ∃ notes, display.shown (addedText d) d.file = .ok notes

namespace Display

theorem silent_shows (file : FilePath) (ds : List Diagnostic) : silent.Shows file ds :=
  ⟨⟨[], rfl⟩, fun _ _ => ⟨[], rfl⟩⟩

theorem added_eq_self {display : Display} {ds : List Diagnostic}
    (h : ∀ d ∈ ds, ∃ notes, display.shown (addedText d) d.file = .ok notes) :
    display.added ds = ds := by
  induction ds with
  | nil => rfl
  | cons d rest ih =>
      obtain ⟨notes, hnotes⟩ := h d List.mem_cons_self
      rw [added, hnotes]
      dsimp only
      rw [ih fun e he => h e (List.mem_cons_of_mem d he)]

/-- What can be shown takes the place of all that was said before. -/
theorem Shows.replaced_eq {display : Display} {file : FilePath} {ds : List Diagnostic}
    (h : display.Shows file ds) (before : List Diagnostic) :
    display.replaced file ds before = ds := by
  obtain ⟨⟨notes, hcleared⟩, hadded⟩ := h
  rw [replaced, hcleared, added_eq_self hadded]
  split <;> rfl

end Display

namespace Overlap

/-! ## What a pass has in hand -/

namespace Stage

/-- The diagnostics that a pass has in hand. -/
def pending : Stage → List Diagnostic
  | clearing found => found
  | adding rest => rest
  | _ => []

/-- Whether the next step of a pass is to clear its file or to add something. -/
def calls : Stage → Bool
  | clearing _ => true
  | adding (_ :: _) => true
  | _ => false

end Stage

namespace Pass

/-- What a pass that has not cleared its file yet will put in the place of what is said of it. -/
def found? (p : Pass) : Option (List Diagnostic) :=
  match p.stage with
  | .clearing found => some found
  | _ => p.evaluated.toOption.map (·.diagnostics p.file)

/-- All that a pass finds, given what is said of its file now. -/
def whole? (p : Pass) (said : List Diagnostic) : Option (List Diagnostic) :=
  match p.stage with
  | .adding rest => some (said ++ rest)
  | _ => p.found?

/-- What is said of the file of a pass once the pass has come to its end, given what is said of it
now. -/
def outcome (display : Display) (p : Pass) (said : List Diagnostic) : List Diagnostic :=
  match p.stage with
  | .adding rest => said ++ display.added rest
  | _ => p.found?.elim said fun found => display.replaced p.file found said

theorem isInside_of_calls {p : Pass} (h : p.stage.calls = true) : p.isInside = true := by
  unfold isInside
  cases hstage : p.stage with
  | waiting => rw [hstage] at h; cases h
  | withdrawn => rw [hstage] at h; cases h
  | evaluating => rfl
  | clearing found => rfl
  | adding rest => rfl

/-- What a pass finds that is not in does not depend on what is said of its file. -/
theorem whole?_congr {p : Pass} (h : p.isInside = false) (said said' : List Diagnostic) :
    p.whole? said = p.whole? said' := by
  unfold isInside at h
  unfold whole?
  cases hstage : p.stage with
  | adding rest => rw [hstage] at h; cases h
  | _ => rfl

end Pass

/-- Whether a move stops a pass before its end. -/
def Move.stops : Move → Bool
  | withdraw _ => true
  | cancel _ => true
  | _ => false

namespace State

variable {setup : Setup} {s t : State} {p q : Pass} {file : FilePath}

/-- What is said of a file. -/
def said (s : State) (file : FilePath) : List Diagnostic := s.session.store.diagnosticsFor file

/-! ## Steps -/

/-- A pass changes what is said of its file alone, and only by clearing the file or adding
something. What is said then is the beginning of what the pass finds. -/
structure Alters (s : State) (p : Pass) (session : Session) : Prop where
  others_eq : ∀ other, other ≠ p.file → session.store.diagnosticsFor other = s.said other
  own : session.store.diagnosticsFor p.file = s.said p.file ∨
    p.stage.calls = true ∧ ∃ whole, p.whole? (s.said p.file) = some whole ∧
      session.store.diagnosticsFor p.file <+: whole

theorem Alters.same (s : State) (p : Pass) : s.Alters p s.session :=
  ⟨fun _ _ => rfl, Or.inl rfl⟩

/-- What a step of a pass comes to. It changes neither what the pass finds nor what there will be to
say of its file once the pass has come to its end. -/
inductive Proceeds (setup : Setup) (s : State) (p : Pass) : State → Prop
  /-- The pass has gone on to a stage. -/
  | on {stage : Stage} (hstage : s.MayReach p stage) (hinside : stage.isInside = true)
      (session : Session) (notes : List Note) (halters : s.Alters p session)
      (hpending : ∀ d ∈ stage.pending, d.file = p.file)
      (hwhole : ({ p with stage } : Pass).whole? (session.store.diagnosticsFor p.file) =
        p.whole? (s.said p.file))
      (houtcome : ({ p with stage } : Pass).outcome setup.display
          (session.store.diagnosticsFor p.file) =
        p.outcome setup.display (s.said p.file)) :
      Proceeds setup s p (({ s with session, notes } : State).atStage p stage)
  /-- The pass has come to its end. -/
  | ended (hinside : p.isInside = true) (session : Session) (notes : List Note)
      (halters : s.Alters p session)
      (houtcome : session.store.diagnosticsFor p.file =
        p.outcome setup.display (s.said p.file)) :
      Proceeds setup s p (({ s with session, notes } : State).leave p)

theorem evaluated_proceeds (hstage : p.stage = .evaluating) :
    Proceeds setup s p (s.evaluated p) := by
  have hinside : p.isInside = true := by rw [Pass.isInside, hstage]; rfl
  unfold evaluated
  cases hevaluated : p.evaluated with
  | error reason =>
      have houtcome : s.said p.file = p.outcome setup.display (s.said p.file) := by
        simp [Pass.outcome, Pass.found?, hstage, hevaluated, Except.toOption]
      split
      next => exact .ended hinside s.session _ (.same s p) houtcome
      next => exact .ended hinside s.session s.notes (.same s p) houtcome
      next heq => cases heq
  | ok evaluation =>
      refine .on (Or.inl ⟨hinside, rfl⟩) rfl s.session _ (.same s p) ?_ ?_ ?_
      · intro d hd
        obtain ⟨finding, -, rfl⟩ := List.mem_map.mp hd
        rfl
      · simp [Pass.whole?, Pass.found?, hstage, hevaluated, Except.toOption]
      · simp [Pass.outcome, Pass.found?, hstage, hevaluated, said, Except.toOption]

theorem clear_proceeds {found : List Diagnostic} (hstage : p.stage = .clearing found)
    (hpending : ∀ d ∈ found, d.file = p.file) :
    Proceeds setup s p (s.act p (.adding found) (·.clear setup.display p.file)) := by
  have hinside : p.isInside = true := by rw [Pass.isInside, hstage]; rfl
  have hwhole : p.whole? (s.said p.file) = some found := by
    simp [Pass.whole?, Pass.found?, hstage]
  have houtcome : p.outcome setup.display (s.said p.file) =
      setup.display.replaced p.file found (s.said p.file) := by
    simp [Pass.outcome, Pass.found?, hstage]
  rcases s.session.clear_cases setup.display p.file with
    ⟨hvalue, hcleared, hreplaced⟩ | ⟨⟨reason, hvalue⟩, hsession, hreplaced⟩
  · rw [act_of_ok hvalue]
    have hown := hcleared p.file
    rw [if_pos rfl] at hown
    refine .on (Or.inl ⟨hinside, rfl⟩) rfl _ _ ⟨fun other hother => ?_, ?_⟩ hpending ?_ ?_
    · rw [hcleared other, if_neg hother, said]
    · refine Or.inr ⟨by rw [hstage]; rfl, found, hwhole, ?_⟩
      rw [hown]
      exact List.nil_prefix
    · rw [hown, hwhole]
      rfl
    · rw [hown, houtcome]
      exact (hreplaced found).symm
  · rw [act_of_error hvalue]
    refine .ended hinside _ _ ?_ ?_
    · rw [hsession]
      exact .same s p
    · rw [hsession, houtcome]
      exact (hreplaced found).symm

theorem add_proceeds {d : Diagnostic} {rest : List Diagnostic}
    (hstage : p.stage = .adding (d :: rest)) (hpending : ∀ e ∈ d :: rest, e.file = p.file) :
    Proceeds setup s p (s.act p (.adding rest) (·.add setup.display d)) := by
  have hinside : p.isInside = true := by rw [Pass.isInside, hstage]; rfl
  have hd := hpending d List.mem_cons_self
  have hwhole : p.whole? (s.said p.file) = some (s.said p.file ++ d :: rest) := by
    simp [Pass.whole?, hstage]
  have houtcome : p.outcome setup.display (s.said p.file) =
      s.said p.file ++ setup.display.added (d :: rest) := by
    simp [Pass.outcome, hstage]
  have hadded : ∀ other, (s.session.add setup.display d).session.store.diagnosticsFor other =
      if other = p.file then s.said other ++ [d] else s.said other := by
    intro other
    rw [Session.add_session, Store.diagnosticsFor_add, hd]
    rfl
  have hown := hadded p.file
  rw [if_pos rfl] at hown
  have halters : s.Alters p (s.session.add setup.display d).session := by
    refine ⟨fun other hother => ?_, Or.inr ⟨by rw [hstage]; rfl, _, hwhole, ?_⟩⟩
    · rw [hadded other, if_neg hother]
    · rw [hown]
      exact ⟨rest, by simp⟩
  rcases s.session.add_cases setup.display d rest with
    ⟨hvalue, hshown⟩ | ⟨⟨reason, hvalue⟩, hshown⟩
  · rw [act_of_ok hvalue]
    refine .on (Or.inl ⟨hinside, rfl⟩) rfl _ _ halters
      (fun e he => hpending e (List.mem_cons_of_mem d he)) ?_ ?_
    · rw [hown, hwhole]
      simp [Pass.whole?]
    · rw [hown, houtcome, hshown]
      simp [Pass.outcome]
  · rw [act_of_error hvalue]
    refine .ended hinside _ _ halters ?_
    rw [hown, houtcome, hshown]

theorem advance_proceeds (hpending : ∀ d ∈ p.stage.pending, d.file = p.file)
    (h : s.advance setup p = some t) : Proceeds setup s p t := by
  unfold advance at h
  cases hstage : p.stage with
  | waiting =>
      simp only [hstage, Option.ite_none_right_eq_some] at h
      obtain ⟨hadmits, h⟩ := h
      cases h
      have hwaits : p.isWaiting = true := by simp [Pass.isWaiting, hstage]
      refine .on (Or.inr ⟨hwaits, Or.inr ⟨rfl, hadmits⟩⟩) rfl s.session s.notes
        (.same s p) (by simp [Stage.pending]) ?_ ?_
      · simp [Pass.whole?, Pass.found?, hstage]
      · simp [Pass.outcome, Pass.found?, hstage, said]
  | withdrawn =>
      simp only [hstage] at h
      cases h
  | evaluating =>
      simp only [hstage] at h
      cases h
      exact evaluated_proceeds hstage
  | clearing found =>
      simp only [hstage] at h
      cases h
      rw [hstage] at hpending
      exact clear_proceeds hstage hpending
  | adding left =>
      have hinside : p.isInside = true := by rw [Pass.isInside, hstage]; rfl
      cases left with
      | nil =>
          simp only [hstage] at h
          cases h
          refine .ended hinside s.session s.notes (.same s p) ?_
          simp [Pass.outcome, hstage, Display.added, said]
      | cons d rest =>
          simp only [hstage] at h
          cases h
          rw [hstage] at hpending
          exact add_proceeds hstage hpending

/-! ## States in which passes have diagnostics of their files in hand -/

/-- The passes go in in order, and what they have in hand are diagnostics of their files. -/
structure Filed (s : State) : Prop extends s.Queued where
  file_eq : ∀ p ∈ s.passes, ∀ d ∈ p.stage.pending, d.file = p.file

theorem idle_filed (session : Session) : (idle session).Filed where
  toQueued := idle_queued session
  file_eq p hp := by cases hp

theorem Filed.arrive (hs : s.Filed) (file : FilePath) (evaluated : Except Breakdown Evaluation) :
    (s.arrive file evaluated).Filed where
  toQueued := hs.toQueued.arrive file evaluated
  file_eq p hp := by
    rcases List.mem_append.mp hp with hp | hp
    · exact hs.file_eq p hp
    · rw [List.mem_singleton.mp hp]
      dsimp only
      split <;> simp [Stage.pending]

theorem Filed.leave (hs : s.Filed) (hp : p ∈ s.passes) : (s.leave p).Filed where
  toQueued := hs.toQueued.leave hp
  file_eq q hq := by
    rw [leave_passes] at hq
    exact hs.file_eq q (List.mem_of_mem_filter hq)

theorem Filed.atStage (hs : s.Filed) (hp : p ∈ s.passes) {stage : Stage}
    (hmay : s.MayReach p stage) (hpending : ∀ d ∈ stage.pending, d.file = p.file) :
    (s.atStage p stage).Filed where
  toQueued := hs.toQueued.atStage hp hmay
  file_eq q hq := by
    rcases hs.orderly.eq_or_mem_of_atStage hp hq with rfl | ⟨hq, -⟩
    · exact hpending
    · exact hs.file_eq q hq

theorem Filed.congr (hs : s.Filed) (session : Session) (notes : List Note) :
    ({ s with session, notes } : State).Filed where
  toQueued := hs.toQueued.congr session notes
  file_eq := hs.file_eq

theorem Filed.start (hs : s.Filed) (w : Workspace) (file : FilePath) (target : Target) :
    (s.start setup w file target).Filed := by
  unfold State.start
  split
  · exact hs
  · exact hs.congr s.session _
  · exact hs.arrive file _

theorem Filed.proceeds (hs : s.Filed) (hp : p ∈ s.passes) (h : Proceeds setup s p t) :
    t.Filed := by
  cases h with
  | on hstage _ session notes _ hpending =>
      exact (hs.congr session notes).atStage hp hstage hpending
  | ended _ session notes => exact (hs.congr session notes).leave hp

theorem Filed.withdraw (hs : s.Filed) (hp : p ∈ s.passes) (hwaits : p.isWaiting = true) :
    (s.atStage p .withdrawn).Filed :=
  hs.atStage hp (Or.inr ⟨hwaits, Or.inl rfl⟩) (by simp [Stage.pending])

/-- What a move comes to. -/
inductive Comes (setup : Setup) (s : State) : Move → State → Prop
  /-- A pass was started. -/
  | started (w : Workspace) (file : FilePath) (target : Target) :
      Comes setup s (.start w file target) (s.start setup w file target)
  /-- A pass has taken its next step. -/
  | advanced {p : Pass} {t : State} (hp : p ∈ s.passes) (hfind : s.find? p.number = some p)
      (h : Proceeds setup s p t) : Comes setup s (.advance p.number) t
  /-- A pass that waited was told to give up. -/
  | withdrawn {p : Pass} (hp : p ∈ s.passes) (hwaits : p.isWaiting = true) :
      Comes setup s (.withdraw p.number) (s.atStage p .withdrawn)
  /-- A pass was cancelled. -/
  | cancelled {p : Pass} (hp : p ∈ s.passes) : Comes setup s (.cancel p.number) (s.leave p)

theorem Filed.comes (hs : s.Filed) {m : Move} (h : s.move setup m = some t) :
    Comes setup s m t := by
  cases m with
  | start w file target =>
      cases h
      exact .started w file target
  | advance number =>
      obtain ⟨p, hfound, hadvance⟩ := Option.bind_eq_some_iff.mp h
      obtain ⟨hp, rfl⟩ := mem_of_find? hfound
      exact .advanced hp hfound (advance_proceeds (hs.file_eq p hp) hadvance)
  | withdraw number =>
      obtain ⟨p, hfound, hwithdraw⟩ := Option.bind_eq_some_iff.mp h
      obtain ⟨hp, rfl⟩ := mem_of_find? hfound
      rw [State.withdraw, Option.ite_none_right_eq_some] at hwithdraw
      obtain ⟨hwaits, ht⟩ := hwithdraw
      cases ht
      exact .withdrawn hp hwaits
  | cancel number =>
      obtain ⟨p, hfound, rfl⟩ := Option.map_eq_some_iff.mp h
      obtain ⟨hp, rfl⟩ := mem_of_find? hfound
      exact .cancelled hp

theorem Filed.of_comes (hs : s.Filed) {m : Move} (h : Comes setup s m t) : t.Filed := by
  cases h with
  | started w file target => exact hs.start w file target
  | advanced hp _ h => exact hs.proceeds hp h
  | withdrawn hp hwaits => exact hs.withdraw hp hwaits
  | cancelled hp => exact hs.leave hp

/-! ## Passes do not mix -/

/-- The pass that a move lets clear a file or add something to what is said of it. -/
def caller? (s : State) (file : FilePath) : Move → Option Nat
  | .advance number => (s.find? number).bind fun p =>
    if p.file = file ∧ p.stage.calls = true then some number else none
  | _ => none

/-- The passes that clear a file or add something to what is said of it, in the order in which they
do so. A pass is listed as often as it does something. -/
def callers (setup : Setup) (file : FilePath) : List Move → State → List Nat
  | [], _ => []
  | m :: rest, s =>
    (s.caller? file m).toList ++ (s.move setup m).elim [] (callers setup file rest)

/-- All passes over a file that are under way or still to come were started at or after a pass with
a number, but for those that were told to give up. -/
structure Past (file : FilePath) (number : Nat) (s : State) : Prop where
  number_lt : number < s.next
  number_le : ∀ q ∈ s.passes, q.file = file → q.stage ≠ .withdrawn → number ≤ q.number

theorem Past.movesTo (hs : s.Orderly) {number : Nat} (hpast : Past file number s) {m : Move}
    (h : s.MovesTo m t) : Past file number t := by
  cases h with
  | noted notes => exact ⟨hpast.number_lt, hpast.number_le⟩
  | arrived other evaluated =>
      refine ⟨Nat.lt_succ_of_lt hpast.number_lt, fun q hq hfile hstage => ?_⟩
      rcases List.mem_append.mp hq with hq | hq
      · exact hpast.number_le q hq hfile hstage
      · rw [List.mem_singleton.mp hq]
        exact Nat.le_of_lt hpast.number_lt
  | @staged p hp hm session notes stage hmay =>
      refine ⟨hpast.number_lt, fun q hq hfile hstage => ?_⟩
      rcases hs.eq_or_mem_of_atStage hp hq with rfl | ⟨hq, -⟩
      · exact hpast.number_le p hp hfile hmay.ne_withdrawn
      · exact hpast.number_le q hq hfile hstage
  | @left p hp hm session notes =>
      rw [leave_congr]
      refine ⟨?_, fun q hq hfile hstage => ?_⟩
      · rw [leave_next]
        exact hpast.number_lt
      · rw [leave_passes] at hq
        exact hpast.number_le q (List.mem_of_mem_filter hq) hfile hstage

theorem exists_of_caller? {m : Move} {number : Nat} (h : s.caller? file m = some number) :
    ∃ p ∈ s.passes, p.number = number ∧ p.file = file ∧ p.stage.calls = true := by
  cases m with
  | advance n =>
      obtain ⟨p, hfound, hcalls⟩ := Option.bind_eq_some_iff.mp h
      rw [Option.ite_none_right_eq_some] at hcalls
      obtain ⟨⟨hfile, hcalls⟩, hnumber⟩ := hcalls
      obtain ⟨hp, hn⟩ := mem_of_find? hfound
      exact ⟨p, hp, hn.trans (Option.some.inj hnumber), hfile, hcalls⟩
  | start w other target => cases h
  | withdraw n => cases h
  | cancel n => cases h

/-- A pass that clears its file or adds something was started before all others over the file. -/
theorem Queued.past (hs : s.Queued) (hp : p ∈ s.passes) (hcalls : p.stage.calls = true) :
    Past p.file p.number s := by
  refine ⟨hs.orderly.number_lt p hp, fun q hq hfile hstage => ?_⟩
  exact hs.number_le p hp q hq hfile.symm (Pass.isInside_of_calls hcalls) hstage

theorem Past.le_of_mem_callers (hs : s.Queued) {number : Nat} (hpast : Past file number s)
    {moves : List Move} : ∀ n ∈ callers setup file moves s, number ≤ n := by
  induction moves generalizing s with
  | nil => intro n hn; cases hn
  | cons m rest ih =>
      intro n hn
      rcases List.mem_append.mp hn with hfirst | hrest
      · obtain ⟨p, hp, rfl, hfile, hcalls⟩ := exists_of_caller? (Option.mem_toList.mp hfirst)
        have hinside := Pass.isInside_of_calls hcalls
        exact hpast.number_le p hp hfile (Pass.ne_withdrawn_of_isInside hinside)
      · cases hmove : s.move setup m with
        | none => rw [hmove] at hrest; cases hrest
        | some t =>
            rw [hmove] at hrest
            have hmoves := move_movesTo hmove
            exact ih (hs.movesTo hmoves) (hpast.movesTo hs.orderly hmoves) n hrest

/-- What passes do to the diagnostics of a file is done by one of them after the other, in the order
in which they were started. -/
theorem Queued.callers_pairwise (hs : s.Queued) (moves : List Move) :
    (callers setup file moves s).Pairwise (· ≤ ·) := by
  induction moves generalizing s with
  | nil => exact List.Pairwise.nil
  | cons m rest ih =>
      unfold callers
      cases hmove : s.move setup m with
      | none =>
          rw [Option.elim_none, List.append_nil]
          cases s.caller? file m with
          | none => exact List.Pairwise.nil
          | some n => exact List.pairwise_singleton _ n
      | some t =>
          have hmoves := move_movesTo hmove
          have hnext := hs.movesTo hmoves
          rw [Option.elim_some]
          cases hcaller : s.caller? file m with
          | none => exact ih hnext
          | some n =>
              obtain ⟨p, hp, rfl, rfl, hcalls⟩ := exists_of_caller? hcaller
              have hpast := (hs.past hp hcalls).movesTo hs.orderly hmoves
              exact List.pairwise_cons.mpr ⟨hpast.le_of_mem_callers hnext, ih hnext⟩

/-- What is said of a file is only changed by the moves of its callers. -/
theorem Filed.said_eq_of_caller? (hs : s.Filed) {m : Move} (h : s.move setup m = some t)
    (hcaller : s.caller? file m = none) : t.said file = s.said file := by
  cases hs.comes h with
  | started w other target => rw [said, start_session, said]
  | @advanced p _ hp hfind h =>
      have hsame : ∀ {session : Session}, s.Alters p session →
          session.store.diagnosticsFor file = s.said file := by
        intro session halters
        by_cases hfile : file = p.file
        · subst hfile
          rcases halters.own with hown | ⟨hcalls, -⟩
          · exact hown
          · simp [caller?, hfind, hcalls] at hcaller
        · exact halters.others_eq file hfile
      cases h with
      | on _ _ session notes halters => exact hsame halters
      | ended _ session notes halters =>
          rw [said, leave_session]
          exact hsame halters
  | withdrawn hp hwaits => rfl
  | cancelled hp => rw [said, leave_session, said]

/-! ## What is said meanwhile -/

/-- What the pass that a move starts over a file finds, if it has a result. -/
def verdict? (setup : Setup) (file : FilePath) : Move → Option (List Diagnostic)
  | .start w other target => if other = file then Session.verdict w setup other target else none
  | _ => none

/-- What the passes over a file find that have a result, in the order in which they are started. -/
def results (setup : Setup) (file : FilePath) (moves : List Move) : List (List Diagnostic) :=
  moves.filterMap (verdict? setup file)

theorem results_cons_of_none {m : Move} (h : verdict? setup file m = none) (rest : List Move) :
    results setup file (m :: rest) = results setup file rest :=
  List.filterMap_cons_none h

theorem results_cons_of_some {m : Move} {found : List Diagnostic}
    (h : verdict? setup file m = some found) (rest : List Move) :
    results setup file (m :: rest) = found :: results setup file rest :=
  List.filterMap_cons_some h

/-- What is said of a file is the beginning of something found or what was said at first, and all
that passes over the file find is among what is found. -/
structure Within (found : List (List Diagnostic)) (initial : List Diagnostic) (file : FilePath)
    (s : State) : Prop where
  said_of : s.said file = initial ∨ ∃ whole ∈ found, s.said file <+: whole
  whole_mem : ∀ p ∈ s.passes, p.file = file →
    ∀ whole, p.whole? (s.said file) = some whole → whole ∈ found

/-- A pass that is started finds what there is to find among the files there are then. One whose
texts are not read is over and has no result. -/
theorem start_cases (setup : Setup) (s : State) (w : Workspace) (file : FilePath)
    (target : Target) :
    (Session.verdict w setup file target = none ∧
      (s.start setup w file target).passes = s.passes) ∨
    ∃ p : Pass, (s.start setup w file target).passes = s.passes ++ [p] ∧ p.file = file ∧
      (p.stage = .waiting ∨ p.stage = .evaluating) ∧
      p.found? = Session.verdict w setup file target := by
  unfold start Session.verdict
  cases Session.readTexts w file target with
  | error fault => cases fault <;> exact Or.inl ⟨rfl, rfl⟩
  | ok texts =>
      refine Or.inr ⟨_, rfl, rfl, ?_, ?_⟩
      · dsimp only
        split
        · exact Or.inr rfl
        · exact Or.inl rfl
      · unfold Pass.found?
        dsimp only
        -- A pass that has only arrived is not clearing anything.
        split
        next found hfound => split at hfound <;> cases hfound
        next =>
          cases Evaluation.ofText setup file texts.1 target.label texts.2 with
          | error reason => rfl
          | ok evaluation => rfl

theorem Within.start {found : List (List Diagnostic)} {initial : List Diagnostic}
    (hs : Within found initial file s) {w : Workspace} {other : FilePath} {target : Target}
    (hfound : ∀ whole, verdict? setup file (.start w other target) = some whole → whole ∈ found) :
    Within found initial file (s.start setup w other target) := by
  refine ⟨?_, fun p hp hfile whole hwhole => ?_⟩
  · rw [said, start_session]
    exact hs.said_of
  · rw [said, start_session] at hwhole
    rcases s.start_cases setup w other target with ⟨-, hpasses⟩ | ⟨q, hpasses, hq, hstage, hverdict⟩
    · rw [hpasses] at hp
      exact hs.whole_mem p hp hfile whole hwhole
    · rw [hpasses] at hp
      rcases List.mem_append.mp hp with hp | hp
      · exact hs.whole_mem p hp hfile whole hwhole
      · rw [List.mem_singleton.mp hp] at hwhole hfile
        apply hfound
        rw [verdict?, if_pos (hq.symm.trans hfile), ← hverdict, ← hwhole, Pass.whole?]
        rcases hstage with hstage | hstage <;> rw [hstage]

theorem Within.alters {found : List (List Diagnostic)} {initial : List Diagnostic}
    (hs : Within found initial file s) (hqueued : s.Queued) (hp : p ∈ s.passes)
    {session : Session} (halters : s.Alters p session) :
    (session.store.diagnosticsFor file = initial ∨
      ∃ whole ∈ found, session.store.diagnosticsFor file <+: whole) ∧
    ∀ q ∈ s.passes, q ≠ p → q.file = file →
      ∀ whole, q.whole? (session.store.diagnosticsFor file) = some whole → whole ∈ found := by
  by_cases hfile : file = p.file
  · subst hfile
    rcases halters.own with hown | ⟨hcalls, whole, hwhole, hprefix⟩
    · rw [hown]
      exact ⟨hs.said_of, fun q hq _ hfile => hs.whole_mem q hq hfile⟩
    · refine ⟨Or.inr ⟨whole, hs.whole_mem p hp rfl whole hwhole, hprefix⟩, ?_⟩
      -- No other pass over the file is in, so what the others find is what it was before.
      intro q hq hne hfile whole hwhole
      have houtside : q.isInside = false := by
        by_contra hinside
        rw [Bool.not_eq_false] at hinside
        exact hne (hqueued.eq_of_isInside hq hp hfile hinside (Pass.isInside_of_calls hcalls))
      rw [Pass.whole?_congr houtside _ (s.said p.file)] at hwhole
      exact hs.whole_mem q hq hfile whole hwhole
  · rw [halters.others_eq file hfile]
    exact ⟨hs.said_of, fun q hq _ hfile => hs.whole_mem q hq hfile⟩

theorem Within.proceeds {found : List (List Diagnostic)} {initial : List Diagnostic}
    (hs : Within found initial file s) (hqueued : s.Queued) (hp : p ∈ s.passes)
    (h : Proceeds setup s p t) : Within found initial file t := by
  cases h with
  | on _ _ session notes halters _ hwhole _ =>
      obtain ⟨hsaid, hothers⟩ := hs.alters hqueued hp halters
      refine ⟨hsaid, fun q hq hfile whole hfound => ?_⟩
      rcases (hqueued.congr session notes).orderly.eq_or_mem_of_atStage hp hq with
        rfl | ⟨hq, hne⟩
      · -- What the pass itself finds has not changed.
        dsimp only at hfile
        subst hfile
        exact hs.whole_mem p hp rfl whole (hwhole.symm.trans hfound)
      · exact hothers q hq hne hfile whole hfound
  | ended _ session notes halters =>
      obtain ⟨hsaid, hothers⟩ := hs.alters hqueued hp halters
      refine ⟨?_, fun q hq hfile whole hfound => ?_⟩
      · rw [said, leave_session]
        exact hsaid
      · rw [leave_passes, List.mem_filter, bne_iff_ne] at hq
        rw [said, leave_session] at hfound
        exact hothers q hq.1 (fun heq => hq.2 (heq ▸ rfl)) hfile whole hfound

theorem Within.comes {found : List (List Diagnostic)} {initial : List Diagnostic}
    (hs : Within found initial file s) (hqueued : s.Queued) {m : Move}
    (hfound : ∀ whole, verdict? setup file m = some whole → whole ∈ found)
    (h : Comes setup s m t) : Within found initial file t := by
  cases h with
  | started w other target => exact hs.start hfound
  | advanced hp _ h => exact hs.proceeds hqueued hp h
  | @withdrawn p hp hwaits =>
      refine ⟨hs.said_of, fun q hq hfile whole hwhole => ?_⟩
      rcases hqueued.orderly.eq_or_mem_of_atStage hp hq with rfl | ⟨hq, -⟩
      · refine hs.whole_mem p hp hfile whole ?_
        have hstage : p.stage = .waiting := by simpa [Pass.isWaiting] using hwaits
        simpa [Pass.whole?, Pass.found?, hstage] using hwhole
      · exact hs.whole_mem q hq hfile whole hwhole
  | cancelled hp =>
      refine ⟨?_, fun q hq hfile whole hwhole => ?_⟩
      · rw [said, leave_session]
        exact hs.said_of
      · rw [leave_passes] at hq
        rw [said, leave_session] at hwhole
        exact hs.whole_mem q (List.mem_of_mem_filter hq) hfile whole hwhole

theorem Within.run {found : List (List Diagnostic)} {initial : List Diagnostic}
    (hs : Within found initial file s) (hfiled : s.Filed) {moves : List Move}
    (hfound : ∀ whole ∈ results setup file moves, whole ∈ found)
    (h : run setup moves s = some t) : Within found initial file t := by
  induction moves generalizing s with
  | nil =>
      cases h
      exact hs
  | cons m rest ih =>
      obtain ⟨middle, hmove, hrest⟩ := Option.bind_eq_some_iff.mp h
      have hcomes := hfiled.comes hmove
      have hnow : ∀ whole, verdict? setup file m = some whole → whole ∈ found := fun whole hm =>
        hfound whole (List.mem_filterMap.mpr ⟨m, List.mem_cons_self, hm⟩)
      have hlater : ∀ whole ∈ results setup file rest, whole ∈ found := fun whole hwhole => by
        obtain ⟨n, hn, hverdict⟩ := List.mem_filterMap.mp hwhole
        exact hfound whole (List.mem_filterMap.mpr ⟨n, List.mem_cons_of_mem m hn, hverdict⟩)
      exact ih (hs.comes hfiled.toQueued hnow hcomes) (hfiled.of_comes hcomes) hlater hrest

/-! ## What is said in the end -/

/-- The passes over a file that were not told to give up, in the order in which they were started. -/
def queue (s : State) (file : FilePath) : List Pass :=
  s.passes.filter fun p => p.file == file && p.stage != .withdrawn

/-- What will be said of a file once the passes over it have come to their ends. -/
def outlook (setup : Setup) (file : FilePath) (s : State) : List Diagnostic :=
  (s.queue file).foldl (fun said p => p.outcome setup.display said) (s.said file)

theorem outlook_of_countOver (setup : Setup) (h : s.countOver file = 0) :
    s.outlook setup file = s.said file := by
  have hqueue : s.queue file = [] := by
    rw [queue, List.filter_eq_nil_iff]
    intro p hp
    simp [countOver_eq_zero_iff.mp h p hp]
  rw [outlook, hqueue, List.foldl_nil]

theorem Orderly.exists_atStage (hs : s.Orderly) (hp : p ∈ s.passes) :
    ∃ before after, s.passes = before ++ p :: after ∧ (s.leave p).passes = before ++ after ∧
      ∀ stage, (s.atStage p stage).passes = before ++ { p with stage } :: after := by
  obtain ⟨before, after, hpasses, hothers⟩ := hs.exists_others hp
  refine ⟨before, after, hpasses, by rw [leave_passes, hothers], fun stage => ?_⟩
  have hsame : ∀ q ∈ before ++ after, (if q.number = p.number then { q with stage } else q) = q := by
    intro q hq
    rw [← hothers, List.mem_filter, bne_iff_ne] at hq
    exact if_neg hq.2
  rw [List.forall_mem_append] at hsame
  rw [State.atStage, hpasses, List.map_append, List.map_cons, if_pos rfl,
    List.map_congr_left hsame.1, List.map_congr_left hsame.2, List.map_id', List.map_id']

/-- The first pass over a file goes on and leaves at the head of the queue. -/
theorem Queued.exists_queue (hs : s.Queued) (hp : p ∈ s.passes) (hne : p.stage ≠ .withdrawn)
    (hfirst : ∀ q ∈ s.passes, p.file = q.file → q.stage ≠ .withdrawn → p.number ≤ q.number) :
    ∃ rest, s.queue p.file = p :: rest ∧ (s.leave p).queue p.file = rest ∧
      ∀ stage, stage ≠ .withdrawn →
        (s.atStage p stage).queue p.file = { p with stage } :: rest := by
  obtain ⟨before, after, hpasses, hleave, hstage⟩ := hs.orderly.exists_atStage hp
  have hbefore : (before.filter fun q => q.file == p.file && q.stage != .withdrawn) = [] := by
    have hsorted := hs.sorted
    rw [hpasses, List.pairwise_append] at hsorted
    rw [List.filter_eq_nil_iff]
    intro q hq hwanted
    rw [Bool.and_eq_true, beq_iff_eq, bne_iff_ne] at hwanted
    have hlt := hsorted.2.2 q hq p List.mem_cons_self
    have hle := hfirst q (hpasses ▸ List.mem_append_left _ hq) hwanted.1.symm hwanted.2
    omega
  refine ⟨after.filter fun q => q.file == p.file && q.stage != .withdrawn, ?_, ?_, ?_⟩
  · rw [queue, hpasses, List.filter_append, hbefore, List.nil_append,
      List.filter_cons_of_pos (by simp [hne])]
  · rw [queue, hleave, List.filter_append, hbefore, List.nil_append]
  · intro stage hstaged
    rw [queue, hstage stage, List.filter_append, hbefore, List.nil_append,
      List.filter_cons_of_pos (by simp [hstaged])]

/-- A pass makes no difference to the queue of another file. -/
theorem Orderly.queue_of_ne (hs : s.Orderly) (hp : p ∈ s.passes) (hfile : file ≠ p.file) :
    (s.leave p).queue file = s.queue file ∧
      ∀ stage, (s.atStage p stage).queue file = s.queue file := by
  obtain ⟨before, after, hpasses, hleave, hstage⟩ := hs.exists_atStage hp
  have hother : (p.file == file) = false := beq_eq_false_iff_ne.mpr (Ne.symm hfile)
  refine ⟨?_, fun stage => ?_⟩
  · rw [queue, hleave, queue, hpasses]
    simp [hother]
  · rw [queue, hstage stage, queue, hpasses]
    simp [hother]

/-- What will be said of a file is not changed by the steps of passes. -/
theorem Queued.outlook_proceeds (hs : s.Queued) (hp : p ∈ s.passes) (h : Proceeds setup s p t) :
    t.outlook setup file = s.outlook setup file := by
  have hsame : ∀ (session : Session) (notes : List Note),
      (({ s with session, notes } : State).leave p).passes = (s.leave p).passes := by
    intro session notes
    rw [leave_passes, leave_passes]
  unfold outlook
  by_cases hfile : file = p.file
  · subst hfile
    cases h with
    | @on stage hstage hinside session notes _ _ _ houtcome =>
        have hstaged : stage ≠ .withdrawn := by rintro rfl; cases hinside
        obtain ⟨rest, hqueue, -, hnext⟩ := hs.exists_queue hp hstage.ne_withdrawn
          fun q hq => hs.number_le_of_mayReach hp hstage hinside hq
        have hafter : (({ s with session, notes } : State).atStage p stage).queue p.file =
            { p with stage } :: rest := hnext stage hstaged
        rw [hafter, hqueue, List.foldl_cons, List.foldl_cons, ← houtcome]
        rfl
    | ended hinside session notes _ houtcome =>
        obtain ⟨rest, hqueue, hnext, -⟩ := hs.exists_queue hp
          (Pass.ne_withdrawn_of_isInside hinside) fun q hq hf => hs.number_le p hp q hq hf hinside
        rw [queue, hsame session notes, ← queue, hnext, hqueue, List.foldl_cons, said,
          leave_session, houtcome]
  · obtain ⟨hleave, hstage⟩ := hs.orderly.queue_of_ne hp hfile
    cases h with
    | @on stage _ _ session notes halters =>
        have hafter : (({ s with session, notes } : State).atStage p stage).queue file =
            s.queue file := hstage stage
        have hsaid : (({ s with session, notes } : State).atStage p stage).said file =
            s.said file := halters.others_eq file hfile
        rw [hafter, hsaid]
    | ended _ session notes halters =>
        rw [queue, hsame session notes, ← queue, hleave, said, leave_session]
        exact congrArg (fun said => (s.queue file).foldl _ said) (halters.others_eq file hfile)

/-- A pass that is started over a file puts what it will find, if it has a result, in the place of
what else will be said. -/
theorem outlook_start (setup : Setup) (s : State) (file : FilePath) (w : Workspace)
    (other : FilePath) (target : Target) :
    (s.start setup w other target).outlook setup file =
      (verdict? setup file (.start w other target)).elim (s.outlook setup file)
        fun found => setup.display.replaced file found (s.outlook setup file) := by
  have hsaid : (s.start setup w other target).said file = s.said file := by
    rw [said, start_session, said]
  unfold outlook
  rw [hsaid]
  rcases s.start_cases setup w other target with ⟨hnone, hpasses⟩ | ⟨p, hpasses, hp, hstage, hfound⟩
  · rw [queue, hpasses, ← queue, verdict?, hnone, ite_self, Option.elim_none]
  · rw [queue, hpasses, List.filter_append, ← queue, List.foldl_append, verdict?, ← hfound, ← hp]
    have hne : p.stage ≠ .withdrawn := by
      rcases hstage with hstage | hstage <;> rw [hstage] <;> simp
    by_cases hfile : p.file = file
    · subst hfile
      rw [List.filter_cons_of_pos (by simp [hne]), if_pos rfl]
      simp only [List.filter_nil, List.foldl_cons, List.foldl_nil, Pass.outcome]
      rcases hstage with hstage | hstage <;> rw [hstage]
    · rw [List.filter_cons_of_neg (by simp [hfile]), if_neg hfile, Option.elim_none]
      rfl

theorem Filed.outlook_run (hs : s.Filed) {moves : List Move} (hmoves : ∀ m ∈ moves, m.stops = false)
    (h : run setup moves s = some t) :
    t.outlook setup file = (results setup file moves).foldl
      (fun said found => setup.display.replaced file found said) (s.outlook setup file) := by
  induction moves generalizing s with
  | nil =>
      cases h
      rfl
  | cons m rest ih =>
      obtain ⟨middle, hmove, hrest⟩ := Option.bind_eq_some_iff.mp h
      have hcomes := hs.comes hmove
      have hlater := ih (hs.of_comes hcomes) (fun n hn => hmoves n (List.mem_cons_of_mem m hn)) hrest
      have hstops := hmoves m List.mem_cons_self
      rw [hlater]
      cases hcomes with
      | started w other target =>
          rw [outlook_start]
          cases hverdict : verdict? setup file (.start w other target) with
          | none => rw [results_cons_of_none hverdict, Option.elim_none]
          | some found => rw [results_cons_of_some hverdict, Option.elim_some, List.foldl_cons]
      | advanced hp _ hproceeds =>
          rw [hs.toQueued.outlook_proceeds hp hproceeds, results_cons_of_none rfl]
      | withdrawn hp hwaits => cases hstops
      | cancelled hp => cases hstops

/-! ## Runs -/

/-- Moves of passes led from a session to a state. What the passes over a file did to its
diagnostics was done by one of them after the other. What is said of the file is the beginning of
what one of them found, or is what was said before any was started. If none of them was stopped and
all have come to their ends, each has put what it found, if it had a result, in the place of what
was found by those that were started before it; as far as that can be shown, it is what the last one
with a result found that is said of the file. -/
structure IsSerial (setup : Setup) (file : FilePath) (moves : List Move) (session : Session)
    (t : State) : Prop where
  callers_sorted : (callers setup file moves (idle session)).Pairwise (· ≤ ·)
  said_of : t.said file = session.store.diagnosticsFor file ∨
    ∃ whole ∈ results setup file moves, t.said file <+: whole
  said_eq_foldl : (∀ m ∈ moves, m.stops = false) → t.countOver file = 0 →
    t.said file = (results setup file moves).foldl
      (fun said found => setup.display.replaced file found said)
      (session.store.diagnosticsFor file)
  said_eq_last : (∀ m ∈ moves, m.stops = false) → t.countOver file = 0 →
    (∀ last ∈ (results setup file moves).getLast?, setup.display.Shows file last) →
      t.said file =
        (results setup file moves).getLast?.getD (session.store.diagnosticsFor file)

/-- Of diagnostics that take each other's place it is the last ones that stay, if they can be
shown. -/
theorem foldl_replaced_eq {display : Display} {found : List (List Diagnostic)}
    (hshows : ∀ last ∈ found.getLast?, display.Shows file last) (initial : List Diagnostic) :
    found.foldl (fun said ds => display.replaced file ds said) initial =
      found.getLast?.getD initial := by
  cases hlast : found.getLast? with
  | none =>
      rw [List.getLast?_eq_none_iff] at hlast
      rw [hlast]
      rfl
  | some last =>
      obtain ⟨before, rfl⟩ := List.getLast?_eq_some_iff.mp hlast
      rw [List.foldl_append, List.foldl_cons, List.foldl_nil, Option.getD_some]
      exact (hshows last hlast).replaced_eq _

/-- Whatever passes are started over whatever files, and however their moves alternate, each file is
dealt with by one pass after the other. -/
theorem run_isSerial {moves : List Move} {session : Session}
    (h : run setup moves (idle session) = some t) (file : FilePath) :
    IsSerial setup file moves session t := by
  have hfiled := idle_filed session
  have hwithin : Within (results setup file moves) ((idle session).said file) file
      (idle session) := ⟨Or.inl rfl, fun p hp => by cases hp⟩
  have hfoldl : (∀ m ∈ moves, m.stops = false) → t.countOver file = 0 →
      t.said file = (results setup file moves).foldl
        (fun said found => setup.display.replaced file found said)
        (session.store.diagnosticsFor file) := by
    intro hstops hover
    rw [← outlook_of_countOver setup hover, hfiled.outlook_run hstops h]
    rfl
  refine ⟨hfiled.toQueued.callers_pairwise moves, (hwithin.run hfiled (fun _ => id) h).said_of,
    hfoldl, fun hstops hover hshows => ?_⟩
  rw [hfoldl hstops hover]
  exact foldl_replaced_eq hshows _

namespace Edited

/-- A directory with a file that holds some octets. -/
def files (octets : List UInt8) : Workspace :=
  (Tree.directory [("w", .directory [("a.json", .file octets)])]).workspace ⟨.root, ["w"]⟩

/-- The directory when the file is gone. -/
def gone : Workspace := (Tree.directory [("w", .directory [])]).workspace ⟨.root, ["w"]⟩

/-- The file. -/
def data : FilePath := ⟨.root, ["w", "a.json"]⟩

/-- Nothing is shown, and there are neither providers nor a host. -/
def quiet : Setup := ⟨[], ⟨[]⟩, .silent, Schema.validate⟩

/-- The file is edited while a pass over it is under way. A second pass is started that cannot read
it, and a third one that waits for the first. -/
def moves : List Move :=
  [.start (files [0x5b]) data .nothing, .advance 0, .start gone data .nothing,
    .start (files [0x7b]) data .nothing, .advance 0, .advance 0, .advance 0] ++
  List.replicate 5 (.advance 1)

/-- What the first pass finds. -/
def old : List Diagnostic := [⟨data, "Expecting value", 1, .error⟩]

/-- What the third pass finds. -/
def new : List Diagnostic :=
  [⟨data, "Expecting property name enclosed in double quotes", 1, .error⟩]

/-- The state when all have come to their ends. -/
def settled : State := (run quiet moves (idle .empty)).getD (idle .empty)

end Edited

open Edited

/-- What the last pass with a result found is said of the file. -/
theorem run_isSerial_edited :
    run quiet moves (idle .empty) = some settled ∧
      results quiet data moves = [old, new] ∧
      callers quiet data moves (idle .empty) = [0, 0, 1, 1] ∧
      IsSerial quiet data moves .empty settled ∧ settled.said data = new := by
  have hrun : run quiet moves (idle .empty) = some settled := by
    have hsome : (run quiet moves (idle .empty)).isSome = true := by decide +kernel
    obtain ⟨t, ht⟩ := Option.isSome_iff_exists.mp hsome
    rw [settled, ht, Option.getD_some]
  have hresults : results quiet data moves = [old, new] := by decide +kernel
  have hserial := run_isSerial hrun data
  refine ⟨hrun, hresults, by decide +kernel, hserial, ?_⟩
  have hlast := hserial.said_eq_last (by decide) (by decide +kernel)
    fun last _ => Display.silent_shows data last
  rw [hlast, hresults]
  rfl

end State

end Overlap

end Conform
