import Conform.Files.Tree
import Conform.Proofs.Session.Ends
import Conform.Proofs.Session.Evaluation
import Conform.Proofs.Session.Locks

/-! # Passes change all or nothing

Where nothing is shown, a pass whose evaluation has a result puts what was found
in the place of the diagnostics of its file, and every other pass leaves all
diagnostics as they were. Either way nothing else is changed: neither the index,
nor the diagnostics of other files, nor the tables of locks once the pass has
left, whatever passes over this file or others are under way.
-/

namespace Conform

/-! ## Sessions -/

namespace Session

variable {w : Workspace} {setup : Setup} {s t : Session}

/-- What a pass finds in a file, if its texts are read and their evaluation has a result. -/
def findings? (w : Workspace) (setup : Setup) (file : FilePath) (target : Target) :
    Option (List Finding) :=
  match readTexts w file target with
  | .error _ => none
  | .ok (text, schemaText) =>
    match Evaluation.ofText setup file text target.label schemaText with
    | .error _ => none
    | .ok evaluation => some evaluation.findings

/-- A session comes from another one by putting what was found in a file, if anything was made out,
in the place of the diagnostics of the file, and nothing else. -/
def Amended (file : FilePath) : Option (List Finding) → Session → Session → Prop
  | none, s, t => t = s
  | some found, s, t => t.index = s.index ∧ ∀ other,
      t.store.diagnosticsFor other =
        if other = file then found.map (·.inFile file) else s.store.diagnosticsFor other

/-! Where nothing is shown, changes of the store do not break down. -/

theorem clear_silent_ends (s : Session) (file : FilePath) :
    (s.clear .silent file).Ends (.ok ()) (s.clear .silent file).session := by
  unfold clear
  split
  next => exact Act.done_ends_iff.mpr ⟨rfl, rfl⟩
  next => exact Act.after_ends_iff.mpr ⟨by simp, Act.done_ends_iff.mpr ⟨rfl, rfl⟩⟩

theorem addAll_silent_ends (s : Session) (ds : List Diagnostic) :
    (s.addAll .silent ds).Ends (.ok ()) (s.addAll .silent ds).session := by
  induction ds generalizing s with
  | nil => exact Act.done_ends_iff.mpr ⟨rfl, rfl⟩
  | cons d rest ih =>
      have hadd : (s.add .silent d).Ends (.ok ()) { s with store := s.store.add d } :=
        Act.after_ends_iff.mpr ⟨by simp, Act.done_ends_iff.mpr ⟨rfl, rfl⟩⟩
      exact Act.andThen_ends_iff.mpr ⟨(), _, hadd, ih _⟩

theorem replace_silent_amended (s : Session) (file : FilePath) (found : List Finding) :
    Amended file (some found) s
      (s.replace .silent file (found.map (·.inFile file))).session := by
  have hclear := s.clear_silent_ends file
  have hadd := addAll_silent_ends (s.clear .silent file).session (found.map (·.inFile file))
  have hfile : ∀ d ∈ found.map (·.inFile file), d.file = file := by
    intro d hd
    obtain ⟨f, -, rfl⟩ := List.mem_map.mp hd
    rfl
  rw [replace, Act.andThen_ok hclear.value_eq]
  obtain ⟨hclearIndex, hcleared⟩ := clear_ends hclear
  obtain ⟨haddIndex, hadded⟩ := addAll_ends hfile hadd
  refine ⟨haddIndex.trans hclearIndex, fun other => ?_⟩
  rw [hadded other, hcleared other]
  split
  next => exact List.nil_append _
  next => rfl

/-- Concluding the evaluation of texts changes all or nothing. -/
theorem conclude_amended (hsilent : setup.display = .silent) {file : FilePath} {target : Target}
    {text schemaText : String} (htexts : readTexts w file target = .ok (text, schemaText)) :
    Amended file (findings? w setup file target) s (s.conclude setup file
      (Evaluation.ofText setup file text target.label schemaText)).session := by
  simp only [findings?, htexts]
  split
  next reason hevaluated =>
    rw [hevaluated]
    unfold conclude
    split
    next => rfl
    next => rfl
    next heq => cases heq
  next evaluation hevaluated =>
    rw [hevaluated, conclude, hsilent, Evaluation.diagnostics_eq hevaluated]
    exact s.replace_silent_amended file evaluation.findings

end Session

/-! ## Passes under way -/

namespace Overlap.State

variable {w : Workspace} {setup : Setup} {s u : State} {p : Pass} {file : FilePath}
  {target : Target} {text schemaText : String}

/-- A state comes from another one by what was found in a file, if anything was made out. The
tables of locks and the passes under way are the same. -/
structure Amended (file : FilePath) (found : Option (List Finding)) (s t : State) : Prop where
  session : s.session.Amended file found t.session
  locks_eq : t.locks = s.locks
  users_eq : t.users = s.users
  passes_eq : t.passes = s.passes

theorem leave_afterAct_amended {found : Option (List Finding)} {o : Outcome Unit}
    (h : s.session.Amended file found o.session) (p : Pass) :
    (s.leave p).Amended file found ((s.afterAct o).leave p) := by
  have hleave : (s.afterAct o).leave p =
      { s.leave p with session := o.session, notes := s.notes ++ o.notes } :=
    leave_congr s p o.session (s.notes ++ o.notes)
  rw [hleave]
  refine ⟨?_, rfl, rfl, rfl⟩
  rw [leave_session]
  exact h

/-- A pass whose turn it is leaves behind what it found, if anything was made out. -/
theorem run_turn_amended (hsilent : setup.display = .silent)
    (htexts : Session.readTexts w p.file target = .ok (text, schemaText))
    (hevaluated : p.evaluated = Evaluation.ofText setup p.file text target.label schemaText)
    (hfind : u.find? p.number = some p) (hturn : u.HasTurn p) :
    ∃ count t, run setup (List.replicate count (.advance p.number)) u = some t ∧
      (u.leave p).Amended p.file (Session.findings? w setup p.file target) t ∧
      t.session = (u.session.check w setup p.file target).session := by
  obtain ⟨count, hrun⟩ := run_turn setup hfind hturn
  rw [hevaluated] at hrun
  refine ⟨count, _, hrun, leave_afterAct_amended (Session.conclude_amended hsilent htexts) p, ?_⟩
  rw [leave_session]
  simp only [afterAct, Session.check, htexts]

theorem start_eq_arrive (htexts : Session.readTexts w file target = .ok (text, schemaText)) :
    s.start setup w file target =
      s.arrive file (Evaluation.ofText setup file text target.label schemaText) := by
  simp only [start, htexts]

theorem start_of_unread {fault : AccessFault}
    (htexts : Session.readTexts w file target = .error fault) :
    s.Amended file none (s.start setup w file target) ∧
      (s.start setup w file target).session = (s.session.check w setup file target).session := by
  simp only [start, Session.check, htexts]
  cases fault <;> exact ⟨⟨rfl, rfl, rfl, rfl⟩, rfl⟩

/-- Nobody has or awaits a lock that was not made yet. -/
theorem Orderly.find?_lock_eq_none (hs : s.Orderly) (wanted : Pass → Bool) :
    s.passes.find? (fun p => p.lock == s.next && wanted p) = none := by
  rw [List.find?_eq_none]
  intro p hp
  have hlock : p.lock ≠ s.next := Nat.ne_of_lt (hs.lock_lt p hp)
  simp [hlock]

/-- The pass that arrives. It is in at once if no pass over its file is under way. -/
theorem Orderly.exists_of_arrive (hs : s.Orderly) (file : FilePath)
    (evaluated : Except Breakdown Evaluation) :
    ∃ p : Pass, (s.arrive file evaluated).find? s.next = some p ∧ p.file = file ∧
      p.evaluated = evaluated ∧ (s.countOver file = 0 → p.stage = .evaluating) := by
  have hothers : s.passes.find? (·.number == s.next) = none := by
    rw [List.find?_eq_none]
    intro p hp
    simp [Nat.ne_of_lt (hs.number_lt p hp)]
  unfold find? State.arrive
  dsimp only
  rw [List.find?_append, hothers, Option.none_or]
  refine ⟨_, List.find?_cons_of_pos (by simp), rfl, rfl, fun hnone => ?_⟩
  rw [hs.locks_eq_none hnone, Option.getD_none, holder?, firstWaiting?,
    hs.find?_lock_eq_none Pass.isInside, hs.find?_lock_eq_none Pass.isWaiting]
  rfl

/-- A pass over a file that is started changes all or nothing, in every state in which passes may
be under way. One whose texts are not read changes nothing. One whose texts are read only adds its
share to the tables of locks; whatever the others do until it has its turn, it then comes to its end
and takes its share away again, and what its texts come to is all that it leaves behind. Where no
pass over the file is under way, it has its turn at once, and the session is led to where the check
of the file leads it. -/
theorem start_allOrNothing (hsilent : setup.display = .silent) (hs : Reached setup s)
    (w : Workspace) (file : FilePath) (target : Target) :
    (∀ fault, Session.readTexts w file target = .error fault →
      s.Amended file none (s.start setup w file target)) ∧
    (∀ texts, Session.readTexts w file target = .ok texts →
      ∃ p : Pass, p.file = file ∧ s.Amended file none ((s.start setup w file target).leave p) ∧
        ∀ u, Leads setup (Move.Spares s.next) (s.start setup w file target) u →
          u.find? s.next = some p ∧
          (u.HasTurn p → ∃ count t,
            run setup (List.replicate count (.advance s.next)) u = some t ∧
              (u.leave p).Amended file (Session.findings? w setup file target) t)) ∧
    (s.countOver file = 0 → ∃ count t,
      run setup (.start w file target :: List.replicate count (.advance s.next)) s = some t ∧
        s.Amended file (Session.findings? w setup file target) t ∧
        t.session = (s.session.check w setup file target).session) := by
  refine ⟨fun fault htexts => (start_of_unread htexts).1, ?_, fun hnone => ?_⟩
  · rintro ⟨text, schemaText⟩ htexts
    rw [start_eq_arrive htexts]
    obtain ⟨p, hfind, hfile, hevaluated, -⟩ := hs.orderly.exists_of_arrive file
      (Evaluation.ofText setup file text target.label schemaText)
    obtain ⟨-, hnumber⟩ := mem_of_find? hfind
    refine ⟨p, hfile, ?_, fun u hleads => ?_⟩
    · -- The session is not touched by arriving.
      rw [hs.orderly.leave_arrive hfile hnumber]
      exact ⟨rfl, rfl, rfl, rfl⟩
    · -- The moves of others leave the pass as it arrived, whatever they do to the rest.
      have hfound := hleads.find?_eq hfind
      subst hfile
      rw [← hnumber] at hfound ⊢
      refine ⟨hfound, fun hturn => ?_⟩
      obtain ⟨count, t, hrun, hamended, -⟩ :=
        run_turn_amended hsilent htexts hevaluated hfound hturn
      exact ⟨count, t, hrun, hamended⟩
  · cases htexts : Session.readTexts w file target with
    | error fault =>
        obtain ⟨hamended, hsession⟩ := start_of_unread htexts
        refine ⟨0, s.start setup w file target, rfl, ?_, hsession⟩
        simp only [Session.findings?, htexts]
        exact hamended
    | ok texts =>
        obtain ⟨text, schemaText⟩ := texts
        obtain ⟨p, hfind, hfile, hevaluated, hstage⟩ := hs.orderly.exists_of_arrive file
          (Evaluation.ofText setup file text target.label schemaText)
        obtain ⟨-, hnumber⟩ := mem_of_find? hfind
        subst hfile
        rw [← hnumber] at hfind
        -- With no other pass over the file it is in as soon as it arrives.
        obtain ⟨count, t, hrun, hamended, hsession⟩ :=
          run_turn_amended hsilent htexts hevaluated hfind (Or.inl (hstage hnone))
        refine ⟨count, t, ?_, ?_, hsession⟩
        · rw [run, move, start_eq_arrive htexts, Option.bind_some, ← hnumber]
          exact hrun
        · rw [hs.orderly.leave_arrive rfl hnumber] at hamended
          exact ⟨hamended.session, hamended.locks_eq, hamended.users_eq, hamended.passes_eq⟩

/-! ## A pass that waits -/

namespace Sample

/-- A directory with one file, which is cut off after its first bracket. -/
def files : Workspace :=
  (Tree.directory [("w", .directory [("a.json", .file [0x5b])])]).workspace ⟨.root, ["w"]⟩

/-- The file. -/
def data : FilePath := ⟨.root, ["w", "a.json"]⟩

/-- Nothing is shown, and there are neither providers nor a host. -/
def quiet : Setup := ⟨[], ⟨[]⟩, .silent, Schema.validate⟩

/-- There is something to say of the file. -/
def before : Session := ⟨.empty, ⟨[(data, [⟨data, "Invalid", 3, .error⟩])]⟩⟩

/-- A pass over the file is under way. -/
def busy : State := (idle before).start quiet files data .nothing

end Sample

open Sample

/-- A second pass over the file waits for the first one. -/
theorem start_allOrNothing_waiting :
    Reached quiet busy ∧ busy.countOver data = 1 ∧
      ∃ p : Pass, p.file = data ∧
        busy.Amended data none ((busy.start quiet files data .nothing).leave p) ∧
        ∀ u, Leads quiet (Move.Spares busy.next) (busy.start quiet files data .nothing) u →
          u.find? busy.next = some p ∧
          (u.HasTurn p → ∃ count t,
            run quiet (List.replicate count (.advance busy.next)) u = some t ∧
              (u.leave p).Amended data (some [⟨1, "Expecting value"⟩]) t) := by
  have hreached : Reached quiet busy :=
    ⟨before, .move (m := .start files data .nothing) (.refl _) trivial rfl⟩
  have htexts : Session.readTexts files data .nothing = .ok ("[", "\x7b\x7d") := by rfl
  have hfound : Session.findings? files quiet data .nothing = some [⟨1, "Expecting value"⟩] := by
    decide +kernel
  have hall := (start_allOrNothing rfl hreached files data .nothing).2.1 _ htexts
  rw [hfound] at hall
  exact ⟨hreached, by decide +kernel, hall⟩

end Overlap.State

end Conform
