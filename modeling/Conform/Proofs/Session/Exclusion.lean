import Conform.Files.Tree
import Conform.Proofs.Session.Locks

/-! # One pass over a file at a time

All passes over a file have or await one lock, and a pass only goes in by a lock by
which no other one is in. So at most one pass over a file is in, and it was started
before all those that still wait, because a pass that comes does not overtake them.
The two tables of locks list the same files, which are those that passes are under
way over.
-/

namespace Conform

namespace Entries

variable {κ α β : Type} [DecidableEq κ]

theorem keys_erase (key : κ) (entries : List (κ × α)) :
    (erase key entries).map (·.1) = (entries.map (·.1)).filter (· != key) := by
  rw [erase, List.filter_map]
  rfl

theorem Distinct.erase {entries : List (κ × α)} (hdistinct : Distinct entries) (key : κ) :
    Distinct (erase key entries) := by
  unfold Distinct
  rw [keys_erase]
  exact List.Nodup.filter _ hdistinct

/-- Lists with the same keys keep having them when each of them gets an entry of one key. -/
theorem keys_put_congr {first : List (κ × α)} {second : List (κ × β)}
    (h : first.map (·.1) = second.map (·.1)) (key : κ) (a : α) (b : β) :
    (put key a first).map (·.1) = (put key b second).map (·.1) := by
  rw [keys_put, keys_put, h]

theorem eq_nil_of_lookup {entries : List (κ × α)} (h : ∀ key, entries.lookup key = none) :
    entries = [] := by
  have hkeys : entries.map (·.1) = [] := by
    refine List.eq_nil_iff_forall_not_mem.mpr fun key => ?_
    exact lookup_eq_none_iff.mp (h key)
  exact List.map_eq_nil_iff.mp hkeys

end Entries

namespace Overlap

/-- A pass is in, or it waits, or it was told to give up. -/
theorem Pass.inside_or (p : Pass) :
    p.isInside = true ∨ p.isWaiting = true ∨ p.stage = .withdrawn := by
  unfold isInside isWaiting
  cases p.stage with
  | waiting => exact Or.inr (Or.inl rfl)
  | withdrawn => exact Or.inr (Or.inr rfl)
  | evaluating => exact Or.inl rfl
  | clearing found => exact Or.inl rfl
  | adding rest => exact Or.inl rfl

theorem Pass.ne_withdrawn_of_isInside {p : Pass} (h : p.isInside = true) :
    p.stage ≠ .withdrawn := by
  intro hstage
  rw [isInside, hstage] at h
  cases h

theorem Pass.ne_withdrawn_of_isWaiting {p : Pass} (h : p.isWaiting = true) :
    p.stage ≠ .withdrawn := by
  intro hstage
  rw [isWaiting, hstage] at h
  cases h

namespace State

variable {setup : Setup} {s t : State} {p q : Pass}

/-! ## The order in which passes go in -/

/-- Passes are listed in the order in which they were started, and a pass that is in was started
before all others over its file, but for those that were told to give up. -/
structure Queued (s : State) : Prop where
  orderly : s.Orderly
  sorted : s.passes.Pairwise (·.number < ·.number)
  number_le : ∀ p ∈ s.passes, ∀ q ∈ s.passes, p.file = q.file → p.isInside = true →
    q.stage ≠ .withdrawn → p.number ≤ q.number

theorem idle_queued (session : Session) : (idle session).Queued where
  orderly := idle_orderly session
  sorted := List.Pairwise.nil
  number_le p hp := by cases hp

theorem Orderly.eq_of_number (hs : s.Orderly) (hp : p ∈ s.passes) (hq : q ∈ s.passes)
    (hnumber : p.number = q.number) : p = q :=
  List.inj_on_of_nodup_map hs.numbers_nodup hp hq hnumber

theorem Orderly.lock_eq (hs : s.Orderly) (hp : p ∈ s.passes) (hq : q ∈ s.passes)
    (hfile : p.file = q.file) : p.lock = q.lock := by
  have hlock := hs.locks_eq q hq
  rw [← hfile, hs.locks_eq p hp] at hlock
  exact Option.some.inj hlock

/-- Only the pass that goes on to a stage is changed by that. -/
theorem Orderly.eq_or_mem_of_atStage (hs : s.Orderly) (hp : p ∈ s.passes) {stage : Stage}
    (hq : q ∈ (s.atStage p stage).passes) : q = { p with stage } ∨ q ∈ s.passes ∧ q ≠ p := by
  obtain ⟨r, hr, rfl⟩ := List.mem_map.mp hq
  by_cases hnumber : r.number = p.number
  · rw [if_pos hnumber, hs.eq_of_number hr hp hnumber]
    exact Or.inl rfl
  · rw [if_neg hnumber]
    exact Or.inr ⟨hr, fun heq => hnumber (heq ▸ rfl)⟩

/-- Of the passes over a file at most one is in. -/
theorem Queued.eq_of_isInside (hs : s.Queued) (hp : p ∈ s.passes) (hq : q ∈ s.passes)
    (hfile : p.file = q.file) (hpin : p.isInside = true) (hqin : q.isInside = true) : p = q := by
  have hfirst := hs.number_le p hp q hq hfile hpin (Pass.ne_withdrawn_of_isInside hqin)
  have hsecond := hs.number_le q hq p hp hfile.symm hqin (Pass.ne_withdrawn_of_isInside hpin)
  exact hs.orderly.eq_of_number hp hq (Nat.le_antisymm hfirst hsecond)

/-- Nobody is in by a lock that has no holder. -/
theorem isInside_eq_false_of_holder? {lock : Nat} (h : (s.holder? lock).isNone = true)
    (hp : p ∈ s.passes) (hlock : p.lock = lock) : p.isInside = false := by
  rw [holder?, Option.isNone_iff_eq_none, List.find?_eq_none] at h
  have hnot := h p hp
  simpa [hlock] using hnot

/-- The first of the passes in a sorted list that meet a condition has the least number of them. -/
theorem number_le_of_find? {passes : List Pass} (hsorted : passes.Pairwise (·.number < ·.number))
    {wanted : Pass → Bool} (hfound : passes.find? wanted = some p) (hq : q ∈ passes)
    (hwanted : wanted q = true) : p.number ≤ q.number := by
  induction passes with
  | nil => cases hq
  | cons first rest ih =>
      rw [List.pairwise_cons] at hsorted
      by_cases hfirst : wanted first = true
      · rw [List.find?_cons_of_pos hfirst] at hfound
        cases hfound
        rcases List.mem_cons.mp hq with rfl | hq
        · exact Nat.le_refl _
        · exact Nat.le_of_lt (hsorted.1 q hq)
      · rw [List.find?_cons_of_neg hfirst] at hfound
        rcases List.mem_cons.mp hq with rfl | hq
        · exact absurd hwanted hfirst
        · exact ih hsorted.2 hfound hq

/-- A pass that may go in was started before all others over its file that were not told to give
up. -/
theorem Queued.number_le_of_admits (hs : s.Queued) (hp : p ∈ s.passes)
    (hadmits : s.admits p = true) (hq : q ∈ s.passes) (hfile : p.file = q.file)
    (hstage : q.stage ≠ .withdrawn) : p.number ≤ q.number := by
  rw [admits, Bool.and_eq_true, Option.any_eq_true] at hadmits
  obtain ⟨hfree, first, hfirst, hnumber⟩ := hadmits
  have hlock := hs.orderly.lock_eq hp hq hfile
  have houtside := isInside_eq_false_of_holder? hfree hq hlock.symm
  have hwaits : q.isWaiting = true := by
    rcases q.inside_or with hinside | hwaits | hwithdrawn
    · rw [houtside] at hinside
      cases hinside
    · exact hwaits
    · exact absurd hwithdrawn hstage
  rw [← beq_iff_eq.mp hnumber]
  refine number_le_of_find? hs.sorted hfirst hq ?_
  rw [hlock, hwaits]
  simp

/-- Where a pass goes in as soon as it arrives, all other passes over its file were told to give
up. -/
theorem Orderly.withdrawn_of_free (hs : s.Orderly) {file : FilePath}
    (hholder : (s.holder? (s.lockOf file)).isNone = true)
    (hwaiting : (s.firstWaiting? (s.lockOf file)).isNone = true) (hq : q ∈ s.passes)
    (hfile : q.file = file) : q.stage = .withdrawn := by
  have hlock : q.lock = s.lockOf file := by
    rw [lockOf, ← hfile, hs.locks_eq q hq, Option.getD_some]
  have houtside := isInside_eq_false_of_holder? hholder hq hlock
  rw [firstWaiting?, Option.isNone_iff_eq_none, List.find?_eq_none] at hwaiting
  have hnot := hwaiting q hq
  rcases q.inside_or with hinside | hwaits | hwithdrawn
  · rw [houtside] at hinside
    cases hinside
  · simp [hlock, hwaits] at hnot
  · exact hwithdrawn

theorem Queued.arrive (hs : s.Queued) (file : FilePath)
    (evaluated : Except Breakdown Evaluation) : (s.arrive file evaluated).Queued where
  orderly := hs.orderly.arrive file evaluated
  sorted := by
    unfold State.arrive
    refine List.pairwise_append.mpr ⟨hs.sorted, List.pairwise_singleton _ _, ?_⟩
    intro p hp q hq
    rw [List.mem_singleton.mp hq]
    exact hs.orderly.number_lt p hp
  number_le p hp q hq hfile hinside hstage := by
    rcases List.mem_append.mp hp with hp | hp
    · rcases List.mem_append.mp hq with hq | hq
      · exact hs.number_le p hp q hq hfile hinside hstage
      · rw [List.mem_singleton.mp hq]
        exact Nat.le_of_lt (hs.orderly.number_lt p hp)
    · rw [List.mem_singleton] at hp
      rcases List.mem_append.mp hq with hq | hq
      · -- The pass that arrives is only in if nobody is in or waits by the lock of its file.
        subst hp
        dsimp only at hfile hinside
        unfold Pass.isInside at hinside
        dsimp only at hinside
        split at hinside
        next hfree =>
          rw [Bool.and_eq_true] at hfree
          exact absurd (hs.orderly.withdrawn_of_free hfree.1 hfree.2 hq hfile.symm) hstage
        next => cases hinside
      · obtain rfl := List.mem_singleton.mp hq
        exact Nat.le_of_eq (congrArg Pass.number hp)

/-- A pass that comes to a stage at which it is in was started before all others over its file that
were not told to give up. -/
theorem Queued.number_le_of_mayReach (hs : s.Queued) (hp : p ∈ s.passes) {stage : Stage}
    (hmay : s.MayReach p stage) (hinside : stage.isInside = true) (hq : q ∈ s.passes)
    (hfile : p.file = q.file) (hstage : q.stage ≠ .withdrawn) : p.number ≤ q.number := by
  rcases hmay with ⟨hwas, -⟩ | ⟨-, rfl | ⟨-, hadmits⟩⟩
  · exact hs.number_le p hp q hq hfile hwas hstage
  · cases hinside
  · exact hs.number_le_of_admits hp hadmits hq hfile hstage

theorem MayReach.ne_withdrawn {stage : Stage} (hmay : s.MayReach p stage) :
    p.stage ≠ .withdrawn := by
  rcases hmay with ⟨hwas, -⟩ | ⟨hwaits, -⟩
  · exact Pass.ne_withdrawn_of_isInside hwas
  · exact Pass.ne_withdrawn_of_isWaiting hwaits

theorem Queued.atStage (hs : s.Queued) (hp : p ∈ s.passes) {stage : Stage}
    (hmay : s.MayReach p stage) : (s.atStage p stage).Queued where
  orderly := hs.orderly.atStage p stage
  sorted := by
    unfold State.atStage
    rw [List.pairwise_map]
    refine hs.sorted.imp fun {first second} hlt => ?_
    split <;> split <;> exact hlt
  number_le first hfirst second hsecond hfile hinside hstage := by
    -- Whether or not one of the two is the pass that goes on, it keeps its number and its file.
    rcases hs.orderly.eq_or_mem_of_atStage hp hfirst with rfl | ⟨hfirst, -⟩
    · rcases hs.orderly.eq_or_mem_of_atStage hp hsecond with rfl | ⟨hsecond, -⟩
      · exact Nat.le_refl p.number
      · exact hs.number_le_of_mayReach (p := p) hp hmay hinside hsecond hfile hstage
    · rcases hs.orderly.eq_or_mem_of_atStage hp hsecond with rfl | ⟨hsecond, -⟩
      · exact hs.number_le first hfirst p hp hfile hinside hmay.ne_withdrawn
      · exact hs.number_le first hfirst second hsecond hfile hinside hstage

theorem Queued.leave (hs : s.Queued) (hp : p ∈ s.passes) : (s.leave p).Queued where
  orderly := hs.orderly.leave hp
  sorted := by
    rw [leave_passes]
    exact hs.sorted.filter _
  number_le first hfirst second hsecond := by
    rw [leave_passes] at hfirst hsecond
    exact hs.number_le first (List.mem_of_mem_filter hfirst) second
      (List.mem_of_mem_filter hsecond)

theorem Queued.congr (hs : s.Queued) (session : Session) (notes : List Note) :
    ({ s with session, notes } : State).Queued where
  orderly := hs.orderly.congr session notes
  sorted := hs.sorted
  number_le := hs.number_le

theorem Queued.movesTo (hs : s.Queued) {m : Move} (h : s.MovesTo m t) : t.Queued := by
  cases h with
  | noted notes => exact hs.congr s.session notes
  | arrived file evaluated => exact hs.arrive file evaluated
  | staged hp hm session notes hstage => exact (hs.congr session notes).atStage hp hstage
  | left hp hm session notes => exact (hs.congr session notes).leave hp

/-! ## The files that the tables list -/

/-- Both tables list the same files in the same order, each of them once. -/
structure Paired (s : State) : Prop where
  keys_eq : s.locks.map (·.1) = s.users.map (·.1)
  distinct : Entries.Distinct s.users

theorem idle_paired (session : Session) : (idle session).Paired where
  keys_eq := rfl
  distinct := Entries.distinct_nil

theorem Paired.arrive (hs : s.Paired) (file : FilePath)
    (evaluated : Except Breakdown Evaluation) : (s.arrive file evaluated).Paired where
  keys_eq := Entries.keys_put_congr hs.keys_eq file _ _
  distinct := hs.distinct.put file _

theorem Paired.leave (hs : s.Paired) (horderly : s.Orderly) (hp : p ∈ s.passes) :
    (s.leave p).Paired := by
  have hcount := horderly.countOver_filter hp p.file
  rw [if_pos rfl] at hcount
  have hlisted : p.file ∈ s.users.map (·.1) := by
    by_contra hnot
    have husers := horderly.users_eq p.file
    rw [Entries.lookup_eq_none_iff.mpr hnot, if_neg (by omega)] at husers
    cases husers
  rw [horderly.leave_eq hcount]
  split
  next =>
    refine ⟨?_, hs.distinct.erase p.file⟩
    dsimp only
    rw [Entries.keys_erase, Entries.keys_erase, hs.keys_eq]
  next =>
    refine ⟨?_, hs.distinct.put p.file _⟩
    dsimp only
    rw [Entries.keys_put, if_pos hlisted]
    exact hs.keys_eq

theorem Paired.movesTo (hs : s.Paired) (horderly : s.Orderly) {m : Move} (h : s.MovesTo m t) :
    t.Paired := by
  cases h with
  | noted notes => exact ⟨hs.keys_eq, hs.distinct⟩
  | arrived file evaluated => exact hs.arrive file evaluated
  | staged hp hm session notes hstage => exact ⟨hs.keys_eq, hs.distinct⟩
  | left hp hm session notes =>
      have hsame : ({ s with session, notes } : State).Paired := ⟨hs.keys_eq, hs.distinct⟩
      exact hsame.leave (horderly.congr session notes) hp

/-! ## Reached states -/

/-- What a run of moves comes to is reached. -/
theorem Leads.of_run {allowed : Move → Prop} {moves : List Move}
    (hallowed : ∀ m ∈ moves, allowed m) (h : run setup moves s = some t) :
    Leads setup allowed s t := by
  -- The moves so far lead to a state from which the rest of them is run.
  have hfrom : ∀ {before : State}, Leads setup allowed s before →
      run setup moves before = some t → Leads setup allowed s t := by
    clear h
    induction moves with
    | nil =>
        intro before hbefore hrun
        cases hrun
        exact hbefore
    | cons m rest ih =>
        intro before hbefore hrun
        obtain ⟨middle, hmove, hrest⟩ := Option.bind_eq_some_iff.mp hrun
        have hnext := Leads.move hbefore (hallowed m List.mem_cons_self) hmove
        exact ih (fun m hm => hallowed m (List.mem_cons_of_mem _ hm)) hnext hrest
  exact hfrom (.refl s) h

theorem Reached.of_run {session : Session} {moves : List Move}
    (h : run setup moves (idle session) = some s) : Reached setup s :=
  ⟨session, .of_run (fun _ _ => trivial) h⟩

theorem Leads.queued {allowed : Move → Prop} (h : Leads setup allowed s t) :
    s.Queued → t.Queued := by
  induction h with
  | refl => exact id
  | move _ _ hmove ih => exact fun hs => (ih hs).movesTo (move_movesTo hmove)
  | meanwhile session _ ih => exact fun hs => (ih hs).congr session _

theorem Leads.paired {allowed : Move → Prop} (h : Leads setup allowed s t)
    (horderly : s.Orderly) : s.Paired → t.Paired := by
  induction h with
  | refl => exact id
  | move hbefore _ hmove ih =>
      exact fun hs => (ih hs).movesTo (hbefore.orderly horderly) (move_movesTo hmove)
  | meanwhile session _ ih => exact fun hs => ⟨(ih hs).keys_eq, (ih hs).distinct⟩

/-- The locks guard the files that passes are under way over. Both tables list the same files, and
what is counted for a file are the passes over it, which all have or await the lock of the file. At
most one of them is in. Where no pass is under way, there is nothing in the tables. -/
structure IsGuarded (s : State) : Prop where
  keys_eq : s.locks.map (·.1) = s.users.map (·.1)
  keys_nodup : (s.users.map (·.1)).Nodup
  users_iff : ∀ file count,
    s.users.lookup file = some count ↔ count = s.countOver file ∧ 0 < count
  locks_eq : ∀ p ∈ s.passes, s.locks.lookup p.file = some p.lock
  eq_of_isInside : ∀ p ∈ s.passes, ∀ q ∈ s.passes, p.file = q.file → p.isInside = true →
    q.isInside = true → p = q
  eq_nil_of_passes : s.passes = [] → s.locks = [] ∧ s.users = []

/-- Whatever passes are started among whatever files, however their moves alternate, and whichever
of them break down, are told to give up or are cancelled, the locks guard the files. -/
theorem Reached.isGuarded (h : Reached setup s) : s.IsGuarded := by
  obtain ⟨session, hleads⟩ := h
  have hqueued := hleads.queued (idle_queued session)
  have hpaired := hleads.paired (idle_orderly session) (idle_paired session)
  have horderly := hqueued.orderly
  refine ⟨hpaired.keys_eq, hpaired.distinct, fun file count => ?_, horderly.locks_eq, ?_, ?_⟩
  · rw [horderly.users_eq file]
    split
    next hnone => simp only [reduceCtorEq, hnone, false_iff]; omega
    next hsome =>
      rw [Option.some.injEq]
      constructor
      · rintro rfl
        exact ⟨rfl, Nat.pos_of_ne_zero hsome⟩
      · exact fun hcount => hcount.1.symm
  · intro p hp q hq hfile hpin hqin
    exact hqueued.eq_of_isInside hp hq hfile hpin hqin
  · intro hnobody
    have hcount : ∀ file, s.countOver file = 0 := fun file => by rw [countOver, hnobody]; rfl
    refine ⟨Entries.eq_nil_of_lookup fun file => horderly.locks_eq_none (hcount file),
      Entries.eq_nil_of_lookup fun file => ?_⟩
    rw [horderly.users_eq file, if_pos (hcount file)]

namespace Crowd

/-- A directory with two files. -/
def files : Workspace :=
  (Tree.directory [("w", .directory [("a.json", .file [0x31]), ("b.json", .file [0x5b])])]).workspace
    ⟨.root, ["w"]⟩

/-- The first file. -/
def first : FilePath := ⟨.root, ["w", "a.json"]⟩

/-- The second file. -/
def second : FilePath := ⟨.root, ["w", "b.json"]⟩

/-- Nothing is shown, and there are neither providers nor a host. -/
def quiet : Setup := ⟨[], ⟨[]⟩, .silent, Schema.validate⟩

/-- A pass over the first file waits for another one and is told to give up. Before it has left, the
other one is cancelled and a third one comes. -/
def moves : List Move :=
  [.start files first .nothing, .start files first .nothing, .withdraw 1,
    .start files second .nothing, .cancel 0, .start files first .nothing]

/-- The state after these moves. -/
def crowded : State := (run quiet moves (idle .empty)).getD (idle .empty)

end Crowd

open Crowd

/-- The third pass over the first file is in, while the one that was told to give up is still
counted. -/
theorem Reached.isGuarded_crowded :
    Reached quiet crowded ∧
      crowded.passes.map (fun p => (p.number, p.file, p.stage)) =
        [(1, first, .withdrawn), (2, second, .evaluating), (3, first, .evaluating)] ∧
      crowded.users = [(first, 2), (second, 1)] ∧ crowded.IsGuarded := by
  have hrun : run quiet moves (idle .empty) = some crowded := rfl
  have hreached : Reached quiet crowded := .of_run hrun
  exact ⟨hreached, rfl, rfl, hreached.isGuarded⟩

end State

end Overlap

end Conform
