import Conform.Proofs.Entries
import Conform.Proofs.Session.Turn
import Mathlib.Data.List.Nodup

/-! # The tables of locks

The tables of locks fit the passes under way: a file has a lock exactly while
passes over it are under way, all of which have or await that lock, and their
number is counted. Every move keeps this. Moves of other passes leave a pass as
it is, and a pass that arrives and leaves again leaves no trace in the tables.
-/

namespace Conform.Overlap

/-- A move is none of those of the pass with a number, once that pass was started. -/
def Move.Spares (number : Nat) : Move → Prop
  | start _ _ _ => True
  | advance n => n ≠ number
  | withdraw n => n ≠ number
  | cancel n => n ≠ number

namespace State

variable {setup : Setup} {s t : State} {p : Pass}

/-- One state leads to another by allowed moves. Between them the session may be changed in any way
by whoever else works with it. -/
inductive Leads (setup : Setup) (allowed : Move → Prop) : State → State → Prop
  | refl (s : State) : Leads setup allowed s s
  | move {s t u : State} {m : Move} (before : Leads setup allowed s t) (hm : allowed m)
      (h : t.move setup m = some u) : Leads setup allowed s u
  | meanwhile {s t : State} (session : Session) (before : Leads setup allowed s t) :
      Leads setup allowed s { t with session }

/-- A state that may come about where no pass was under way at first. -/
def Reached (setup : Setup) (s : State) : Prop :=
  ∃ session, Leads setup (fun _ => True) (idle session) s

/-- The number of passes over a file that are under way. -/
def countOver (s : State) (file : FilePath) : Nat := s.passes.countP (·.file == file)

/-- The tables fit the passes under way. -/
structure Orderly (s : State) : Prop where
  number_lt : ∀ p ∈ s.passes, p.number < s.next
  lock_lt : ∀ p ∈ s.passes, p.lock < s.next
  numbers_nodup : (s.passes.map Pass.number).Nodup
  locks_eq : ∀ p ∈ s.passes, s.locks.lookup p.file = some p.lock
  locks_eq_none : ∀ {file}, s.countOver file = 0 → s.locks.lookup file = none
  users_eq : ∀ file, s.users.lookup file =
    if s.countOver file = 0 then none else some (s.countOver file)

theorem idle_orderly (session : Session) : (idle session).Orderly where
  number_lt := by simp [idle]
  lock_lt := by simp [idle]
  numbers_nodup := List.nodup_nil
  locks_eq := by simp [idle]
  locks_eq_none _ := rfl
  users_eq _ := rfl

/-- What the tables know of a pass: its number, its file and its lock. -/
def seat (p : Pass) : Nat × FilePath × Nat := (p.number, p.file, p.lock)

/-- The tables fit other passes as well as long as these have the same seats. -/
theorem Orderly.of_seats (hs : s.Orderly) (hseats : t.passes.map seat = s.passes.map seat)
    (hlocks : t.locks = s.locks) (husers : t.users = s.users) (hnext : t.next = s.next) :
    t.Orderly := by
  have hmem : ∀ q ∈ t.passes, ∃ p ∈ s.passes,
      p.number = q.number ∧ p.file = q.file ∧ p.lock = q.lock := by
    intro q hq
    have hseat := List.mem_map_of_mem (f := seat) hq
    rw [hseats] at hseat
    obtain ⟨p, hp, hsame⟩ := List.mem_map.mp hseat
    simp only [seat, Prod.mk.injEq] at hsame
    exact ⟨p, hp, hsame⟩
  have hcount : ∀ file, t.countOver file = s.countOver file := by
    intro file
    have hover : ∀ passes : List Pass, passes.countP (·.file == file) =
        (passes.map seat).countP (·.2.1 == file) := by
      intro passes
      rw [List.countP_map]
      rfl
    rw [countOver, hover, hseats, ← hover, countOver]
  have hnumbers : ∀ passes : List Pass, passes.map Pass.number = (passes.map seat).map (·.1) := by
    intro passes
    rw [List.map_map]
    rfl
  refine ⟨fun q hq => ?_, fun q hq => ?_, ?_, fun q hq => ?_, fun {file} hnone => ?_,
    fun file => ?_⟩
  · obtain ⟨p, hp, hnumber, -, -⟩ := hmem q hq
    rw [hnext, ← hnumber]
    exact hs.number_lt p hp
  · obtain ⟨p, hp, -, -, hlock⟩ := hmem q hq
    rw [hnext, ← hlock]
    exact hs.lock_lt p hp
  · rw [hnumbers, hseats, ← hnumbers]
    exact hs.numbers_nodup
  · obtain ⟨p, hp, -, hfile, hlock⟩ := hmem q hq
    rw [hlocks, ← hfile, ← hlock]
    exact hs.locks_eq p hp
  · rw [hcount] at hnone
    rw [hlocks]
    exact hs.locks_eq_none hnone
  · rw [hcount, husers]
    exact hs.users_eq file

theorem Orderly.congr (hs : s.Orderly) (session : Session) (notes : List Note) :
    ({ s with session, notes } : State).Orderly :=
  hs.of_seats rfl rfl rfl rfl

theorem mem_of_find? {number : Nat} (h : s.find? number = some p) :
    p ∈ s.passes ∧ p.number = number := by
  refine ⟨List.mem_of_find?_eq_some h, ?_⟩
  simpa using List.find?_some h

theorem countOver_eq_zero_iff {file : FilePath} :
    s.countOver file = 0 ↔ ∀ p ∈ s.passes, p.file ≠ file := by
  simp [countOver, List.countP_eq_zero]

theorem Orderly.users_getD (hs : s.Orderly) (file : FilePath) :
    (s.users.lookup file).getD 0 = s.countOver file := by
  rw [hs.users_eq file]
  split
  next hnone => rw [hnone, Option.getD_none]
  next => rw [Option.getD_some]

/-- The lock that a file has belongs to some pass over the file. -/
theorem Orderly.exists_of_lookup (hs : s.Orderly) {file : FilePath} {lock : Nat}
    (h : s.locks.lookup file = some lock) : ∃ p ∈ s.passes, p.file = file ∧ p.lock = lock := by
  have hcount : s.countOver file ≠ 0 := by
    intro hnone
    rw [hs.locks_eq_none hnone] at h
    cases h
  rw [Ne, countOver_eq_zero_iff] at hcount
  push Not at hcount
  obtain ⟨p, hp, rfl⟩ := hcount
  refine ⟨p, hp, rfl, ?_⟩
  rw [hs.locks_eq p hp, Option.some.injEq] at h
  exact h

/-! ## Arriving and leaving -/

section Arrive

variable (hs : s.Orderly) (file : FilePath) (evaluated : Except Breakdown Evaluation)

/-- The lock that a pass over a file would have or wait for. -/
def lockOf (s : State) (file : FilePath) : Nat := (s.locks.lookup file).getD s.next

include hs

theorem Orderly.lockOf_lt : s.lockOf file < s.next + 1 := by
  unfold lockOf
  cases hlock : s.locks.lookup file with
  | none => exact Nat.lt_succ_self s.next
  | some lock =>
      obtain ⟨p, hp, -, rfl⟩ := hs.exists_of_lookup hlock
      exact Nat.lt_succ_of_lt (hs.lock_lt p hp)

theorem Orderly.arrive : (s.arrive file evaluated).Orderly where
  number_lt p hp := by
    rcases List.mem_append.mp hp with hp | hp
    · exact Nat.lt_succ_of_lt (hs.number_lt p hp)
    · rw [List.mem_singleton.mp hp]
      exact Nat.lt_succ_self s.next
  lock_lt p hp := by
    rcases List.mem_append.mp hp with hp | hp
    · exact Nat.lt_succ_of_lt (hs.lock_lt p hp)
    · rw [List.mem_singleton.mp hp]
      exact hs.lockOf_lt file
  numbers_nodup := by
    have hnew : s.next ∉ s.passes.map Pass.number := by
      rw [List.mem_map]
      rintro ⟨p, hp, hnumber⟩
      exact absurd hnumber (Nat.ne_of_lt (hs.number_lt p hp))
    unfold State.arrive
    rw [List.map_append, List.map_singleton, ← List.concat_eq_append]
    exact hs.numbers_nodup.concat hnew
  locks_eq p hp := by
    unfold State.arrive
    rw [Entries.lookup_put]
    rcases List.mem_append.mp hp with hp | hp
    · split
      next hfile => rw [← hfile, hs.locks_eq p hp, Option.getD_some]
      next => exact hs.locks_eq p hp
    · rw [List.mem_singleton.mp hp, if_pos rfl]
  locks_eq_none {other} hnone := by
    rw [countOver_eq_zero_iff] at hnone
    have hother : other ≠ file := Ne.symm (hnone _ (List.mem_append_right _ List.mem_cons_self))
    unfold State.arrive
    rw [Entries.lookup_put, if_neg hother]
    exact hs.locks_eq_none (countOver_eq_zero_iff.mpr fun p hp =>
      hnone p (List.mem_append_left _ hp))
  users_eq other := by
    have hcount : (s.arrive file evaluated).countOver other =
        s.countOver other + if file = other then 1 else 0 := by
      simp [countOver, State.arrive, List.countP_append, List.countP_cons]
    rw [hcount]
    unfold State.arrive
    rw [Entries.lookup_put, hs.users_getD]
    by_cases hother : other = file
    · subst hother
      simp
    · rw [if_neg hother, if_neg (Ne.symm hother), Nat.add_zero]
      exact hs.users_eq other

end Arrive

/-! The passes under way without one of them. -/

theorem Orderly.exists_others (hs : s.Orderly) (hp : p ∈ s.passes) :
    ∃ before after, s.passes = before ++ p :: after ∧
      s.passes.filter (·.number != p.number) = before ++ after := by
  obtain ⟨before, after, hpasses⟩ := List.append_of_mem hp
  refine ⟨before, after, hpasses, ?_⟩
  have hnodup := hs.numbers_nodup
  rw [hpasses, List.map_append, List.map_cons, List.nodup_middle, List.nodup_cons,
    ← List.map_append, List.mem_map] at hnodup
  have hothers : ∀ q ∈ before ++ after, (q.number != p.number) = true := by
    intro q hq
    exact bne_iff_ne.mpr fun hnumber => hnodup.1 ⟨q, hq, hnumber⟩
  rw [List.forall_mem_append] at hothers
  rw [hpasses, List.filter_append, List.filter_cons_of_neg (by simp),
    List.filter_eq_self.mpr hothers.1, List.filter_eq_self.mpr hothers.2]

theorem Orderly.countOver_filter (hs : s.Orderly) (hp : p ∈ s.passes) (file : FilePath) :
    s.countOver file =
      (s.passes.filter (·.number != p.number)).countP (·.file == file) +
        if p.file = file then 1 else 0 := by
  obtain ⟨before, after, hpasses, hothers⟩ := hs.exists_others hp
  rw [hothers, countOver, hpasses]
  simp [List.countP_append, List.countP_cons, Nat.add_assoc]

/-- The tables when a pass has left: a lock goes with the last pass that had or awaited it. -/
theorem Orderly.leave_eq (hs : s.Orderly) {others : Nat}
    (hcount : s.countOver p.file = others + 1) :
    s.leave p = { s with
      passes := s.passes.filter (·.number != p.number)
      locks := if others = 0 then Entries.erase p.file s.locks else s.locks
      users := if others = 0 then Entries.erase p.file s.users
        else Entries.put p.file others s.users } := by
  unfold State.leave
  dsimp only
  rw [hs.users_getD, hcount, Nat.add_sub_cancel]
  cases others <;> rfl

theorem Orderly.leave (hs : s.Orderly) (hp : p ∈ s.passes) : (s.leave p).Orderly := by
  have hcount := hs.countOver_filter hp
  have hown := hcount p.file
  rw [if_pos rfl] at hown
  rw [hs.leave_eq hown]
  have hmem : ∀ q ∈ s.passes.filter (·.number != p.number), q ∈ s.passes := fun q hq =>
    List.mem_of_mem_filter hq
  refine ⟨fun q hq => hs.number_lt q (hmem q hq), fun q hq => hs.lock_lt q (hmem q hq), ?_,
    fun q hq => ?_, fun {file} hnone => ?_, fun file => ?_⟩
  · exact hs.numbers_nodup.sublist (List.filter_sublist.map Pass.number)
  · -- A lock is only erased when no other pass over the file is left.
    dsimp only at hq ⊢
    split
    next hzero =>
      rw [List.countP_eq_zero] at hzero
      have hfile : q.file ≠ p.file := by simpa using hzero q hq
      rw [Entries.lookup_erase, if_neg hfile]
      exact hs.locks_eq q (hmem q hq)
    next => exact hs.locks_eq q (hmem q hq)
  · dsimp only [countOver] at hnone ⊢
    by_cases hfile : file = p.file
    · subst hfile
      rw [if_pos hnone, Entries.lookup_erase, if_pos rfl]
    · have hnone' : s.countOver file = 0 := by
        rw [hcount, hnone, if_neg (Ne.symm hfile)]
      split
      · rw [Entries.lookup_erase, if_neg hfile]
        exact hs.locks_eq_none hnone'
      · exact hs.locks_eq_none hnone'
  · dsimp only [countOver]
    by_cases hfile : file = p.file
    · subst hfile
      split
      next hzero => simp [Entries.lookup_erase, hzero]
      next hzero => simp [Entries.lookup_put, hzero]
    · have hsame := hcount file
      rw [if_neg (Ne.symm hfile), Nat.add_zero] at hsame
      have husers := hs.users_eq file
      rw [hsame] at husers
      split
      · rw [Entries.lookup_erase, if_neg hfile]
        exact husers
      · rw [Entries.lookup_put, if_neg hfile]
        exact husers

/-- A pass that arrives and leaves again leaves the tables and the other passes as they were. -/
theorem Orderly.leave_arrive (hs : s.Orderly) {file : FilePath}
    {evaluated : Except Breakdown Evaluation} {new : Pass} (hfile : new.file = file)
    (hnumber : new.number = s.next) :
    (s.arrive file evaluated).leave new = { s with next := s.next + 1 } := by
  subst hfile
  have hcount : (s.arrive new.file evaluated).countOver new.file = s.countOver new.file + 1 := by
    simp [countOver, State.arrive, List.countP_append]
  have hpasses : (s.arrive new.file evaluated).passes.filter (·.number != new.number) =
      s.passes := by
    have hothers : s.passes.filter (·.number != s.next) = s.passes :=
      List.filter_eq_self.mpr fun p hp => bne_iff_ne.mpr (Nat.ne_of_lt (hs.number_lt p hp))
    simp [State.arrive, hnumber, hothers]
  rw [(hs.arrive new.file evaluated).leave_eq hcount, hpasses]
  unfold State.arrive
  dsimp only
  rw [hs.users_getD]
  have husers := hs.users_eq new.file
  split
  next hnone =>
    rw [if_pos hnone] at husers
    rw [Entries.erase_put _ (hs.locks_eq_none hnone), Entries.erase_put _ husers]
  next hsome =>
    rw [if_neg hsome] at husers
    have hlock : ∃ lock, s.locks.lookup new.file = some lock := by
      rw [countOver_eq_zero_iff] at hsome
      push Not at hsome
      obtain ⟨p, hp, hpfile⟩ := hsome
      exact ⟨p.lock, hpfile ▸ hs.locks_eq p hp⟩
    obtain ⟨lock, hlock⟩ := hlock
    rw [hlock, Option.getD_some, Entries.put_eq_self hlock, Entries.put_put,
      Entries.put_eq_self husers]

/-! ## Moves -/

theorem Orderly.atStage (hs : s.Orderly) (p : Pass) (stage : Stage) :
    (s.atStage p stage).Orderly := by
  refine hs.of_seats ?_ rfl rfl rfl
  unfold State.atStage
  rw [List.map_map]
  refine List.map_congr_left fun q _ => ?_
  rw [Function.comp_apply]
  split <;> rfl

/-- A pass may come to a stage next: it was in and stays in, or it waited and goes in when it may or
is told to give up. -/
def MayReach (s : State) (p : Pass) (stage : Stage) : Prop :=
  p.isInside = true ∧ stage.isInside = true ∨
    p.isWaiting = true ∧ (stage = .withdrawn ∨ stage = .evaluating ∧ s.admits p = true)

/-- What a move may come to. -/
inductive MovesTo (s : State) (m : Move) : State → Prop
  /-- A pass that was started is over at once. -/
  | noted (notes : List Note) : MovesTo s m { s with notes }
  /-- A pass that was started is under way. -/
  | arrived (file : FilePath) (evaluated : Except Breakdown Evaluation) :
      MovesTo s m (s.arrive file evaluated)
  /-- A pass has gone on to a stage. -/
  | staged {p : Pass} (hp : p ∈ s.passes) (hm : ¬m.Spares p.number) (session : Session)
      (notes : List Note) {stage : Stage} (hstage : s.MayReach p stage) :
      MovesTo s m (({ s with session, notes } : State).atStage p stage)
  /-- A pass is over. -/
  | left {p : Pass} (hp : p ∈ s.passes) (hm : ¬m.Spares p.number) (session : Session)
      (notes : List Note) : MovesTo s m (({ s with session, notes } : State).leave p)

theorem act_movesTo {m : Move} (hp : p ∈ s.passes) (hm : ¬m.Spares p.number) {stage : Stage}
    (hstage : s.MayReach p stage) (step : Session → Outcome Unit) :
    s.MovesTo m (s.act p stage step) := by
  unfold act
  dsimp only
  split
  · exact .staged hp hm _ _ hstage
  · exact .left hp hm _ _

theorem advance_movesTo {m : Move} (hp : p ∈ s.passes) (hm : ¬m.Spares p.number)
    (h : s.advance setup p = some t) : s.MovesTo m t := by
  -- From a stage inside a pass only goes on to others inside.
  have hstays : ∀ {stage}, p.stage.isInside = true → stage.isInside = true →
      s.MayReach p stage := fun hinside hstage => Or.inl ⟨hinside, hstage⟩
  unfold advance at h
  split at h
  next hwaiting =>
    split at h
    next hadmits =>
      cases h
      have hwaits : p.isWaiting = true := by simp [Pass.isWaiting, hwaiting]
      exact .staged hp hm s.session s.notes (Or.inr ⟨hwaits, Or.inr ⟨rfl, hadmits⟩⟩)
    next => cases h
  next => cases h
  next hevaluating =>
    cases h
    unfold evaluated
    split
    · exact .left hp hm s.session _
    · exact .left hp hm s.session s.notes
    · exact .staged hp hm s.session _ (hstays (hevaluating ▸ rfl) rfl)
  next hclearing =>
    cases h
    exact act_movesTo hp hm (hstays (hclearing ▸ rfl) rfl) _
  next =>
    cases h
    exact .left hp hm s.session s.notes
  next hadding =>
    cases h
    exact act_movesTo hp hm (hstays (hadding ▸ rfl) rfl) _

theorem move_movesTo {m : Move} (h : s.move setup m = some t) : s.MovesTo m t := by
  cases m with
  | start w file target =>
      cases h
      unfold start
      split
      · exact .noted s.notes
      · exact .noted _
      · exact .arrived file _
  | advance number =>
      obtain ⟨p, hfound, hadvance⟩ := Option.bind_eq_some_iff.mp h
      obtain ⟨hp, hnumber⟩ := mem_of_find? hfound
      exact advance_movesTo hp (fun hm => hm hnumber.symm) hadvance
  | withdraw number =>
      obtain ⟨p, hfound, hwithdraw⟩ := Option.bind_eq_some_iff.mp h
      obtain ⟨hp, hnumber⟩ := mem_of_find? hfound
      have hm : ¬(Move.withdraw number).Spares p.number := fun hspares => hspares hnumber.symm
      unfold withdraw at hwithdraw
      split at hwithdraw
      next hwaits =>
        cases hwithdraw
        exact .staged hp hm s.session s.notes (Or.inr ⟨hwaits, Or.inl rfl⟩)
      next => cases hwithdraw
  | cancel number =>
      obtain ⟨p, hfound, rfl⟩ := Option.map_eq_some_iff.mp h
      obtain ⟨hp, hnumber⟩ := mem_of_find? hfound
      have hm : ¬(Move.cancel number).Spares p.number := fun hspares => hspares hnumber.symm
      exact .left hp hm s.session s.notes

theorem Orderly.movesTo (hs : s.Orderly) {m : Move} (h : s.MovesTo m t) : t.Orderly := by
  cases h with
  | noted notes => exact hs.congr s.session notes
  | arrived file evaluated => exact hs.arrive file evaluated
  | staged hp hm session notes hstage => exact (hs.congr session notes).atStage _ _
  | left hp hm session notes => exact (hs.congr session notes).leave hp

/-- A pass stays as it is as long as it does not move. -/
theorem MovesTo.find?_eq {m : Move} (h : s.MovesTo m t) {number : Nat} (hm : m.Spares number)
    (hp : s.find? number = some p) : t.find? number = some p := by
  have hnumber := (mem_of_find? hp).2
  have hne : ∀ {q : Pass}, ¬m.Spares q.number → number ≠ q.number := by
    rintro q hq rfl
    exact hq hm
  unfold find? at hp ⊢
  cases h with
  | noted notes => exact hp
  | arrived file evaluated =>
      unfold State.arrive
      rw [List.find?_append, hp, Option.some_or]
  | @staged q _ hq session notes stage _ =>
      have hsame : ((fun r : Pass => r.number == number) ∘ fun r =>
          if r.number = q.number then { r with stage } else r) = fun r => r.number == number := by
        funext r
        rw [Function.comp_apply]
        split <;> rfl
      unfold State.atStage
      rw [List.find?_map, hsame, hp, Option.map_some, if_neg (hnumber ▸ hne hq)]
  | @left q _ hq session notes =>
      have hsame : (fun r : Pass => decide ((r.number != q.number) = true ∧
          (r.number == number) = true)) = fun r => r.number == number := by
        funext r
        by_cases hr : r.number = number
        · simp [hr, hne hq]
        · simp [hr]
      rw [leave_passes, List.find?_filter, hsame, hp]

/-- Moves keep the tables in order. -/
theorem Leads.orderly {allowed : Move → Prop} (h : Leads setup allowed s t) :
    s.Orderly → t.Orderly := by
  induction h with
  | refl => exact id
  | move _ _ hmove ih => exact fun hs => (ih hs).movesTo (move_movesTo hmove)
  | meanwhile session _ ih => exact fun hs => (ih hs).congr session _

theorem Reached.orderly (h : Reached setup s) : s.Orderly := by
  obtain ⟨session, hleads⟩ := h
  exact hleads.orderly (idle_orderly session)

/-- A pass stays as it is as long as only others move. -/
theorem Leads.find?_eq {number : Nat} (h : Leads setup (Move.Spares number) s t) :
    s.find? number = some p → t.find? number = some p := by
  induction h with
  | refl => exact id
  | move _ hm hmove ih => exact fun hp => (move_movesTo hmove).find?_eq hm (ih hp)
  | meanwhile _ _ ih => exact fun hp => ih hp

end State

end Conform.Overlap
