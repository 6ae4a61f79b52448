import Conform.Files.Tree
import Conform.Proofs.Session.Evaluation
import Conform.Watch

/-! # How far a batch gets

The removals of a batch are all dealt with. Its changes are dealt with in order,
up to and including the first one whose own part breaks down; the files that come
after it are passed over. What breaks down among the jobs that a removal or a
change waits for stops nothing, and neither does a file that is nested too deeply.
-/

namespace Conform

/-! ## Acts that depth does not break down -/

/-- An act does not break down for something that is nested too deeply. -/
def Act.EnduresDepth {α : Type} (act : Outcome α) : Prop := act.value ≠ .error (.fault .tooDeep)

namespace Act

variable {α β : Type} {s : Session} {act : Outcome α}

theorem done_enduresDepth (s : Session) (a : α) : (s.done a).EnduresDepth := nofun

theorem broken_enduresDepth {reason : Breakdown} (h : reason ≠ .fault .tooDeep) :
    (s.broken reason : Outcome α).EnduresDepth :=
  fun hvalue => h (Except.error.inj hvalue)

theorem EnduresDepth.after (h : act.EnduresDepth) (notes : List Note) :
    (act.after notes).EnduresDepth := h

theorem EnduresDepth.logging (h : act.EnduresDepth) (entry : Entry) :
    (act.logging entry).EnduresDepth := h

theorem EnduresDepth.andThen (h : act.EnduresDepth) {next : α → Session → Outcome β}
    (hnext : ∀ a s, (next a s).EnduresDepth) : (act.andThen next).EnduresDepth := by
  cases hact : act.value with
  | error reason =>
      rw [andThen_error hact]
      exact fun hvalue => h (hact.trans (congrArg Except.error (Except.error.inj hvalue)))
  | ok a =>
      rw [andThen_ok hact]
      exact hnext a act.session

end Act

namespace Session

variable {w : Workspace} {setup : Setup} {s t u : Session} {job : Job} {reason : Breakdown}

theorem clear_enduresDepth (display : Display) (file : FilePath) (s : Session) :
    (s.clear display file).EnduresDepth := by
  unfold clear
  split
  next => exact Act.done_enduresDepth _ ()
  next =>
    split
    next => exact Act.broken_enduresDepth nofun
    next notes _ => exact (Act.done_enduresDepth _ ()).after notes

theorem addAll_enduresDepth (display : Display) (ds : List Diagnostic) (s : Session) :
    (s.addAll display ds).EnduresDepth := by
  induction ds generalizing s with
  | nil => exact Act.done_enduresDepth s ()
  | cons d rest ih =>
      have hadd : (s.add display d).EnduresDepth := by
        unfold add
        dsimp only
        split
        next => exact Act.broken_enduresDepth nofun
        next notes _ => exact (Act.done_enduresDepth _ ()).after notes
      exact hadd.andThen fun _ s => ih s

theorem check_enduresDepth (w : Workspace) (setup : Setup) (file : FilePath) (target : Target)
    (s : Session) : (s.check w setup file target).EnduresDepth := by
  unfold check
  split
  next => exact Act.broken_enduresDepth nofun
  next => exact (Act.done_enduresDepth s ()).logging _
  next =>
    unfold conclude
    split
    next => exact (Act.done_enduresDepth s ()).logging _
    next hdeep _ => exact Act.broken_enduresDepth hdeep
    next evaluation _ =>
      have hreplace : (s.replace setup.display file (evaluation.diagnostics file)).EnduresDepth :=
        (clear_enduresDepth _ _ s).andThen fun _ s => addAll_enduresDepth _ _ s
      exact hreplace.after _

theorem resolve_enduresDepth (w : Workspace) (file : FilePath) (s : Session) :
    (s.resolve w file).EnduresDepth := by
  have hnames : (s.namesIn w file.parent).EnduresDepth := by
    unfold namesIn
    split
    next names _ => exact Act.done_enduresDepth s names
    next => exact Act.broken_enduresDepth nofun
    next => exact (Act.done_enduresDepth s []).logging _
  unfold resolve
  split
  next => exact Act.done_enduresDepth s none
  next =>
    refine hnames.andThen fun names s => ?_
    split
    next => exact Act.broken_enduresDepth nofun
    next => exact Act.done_enduresDepth s none
    next schema _ => exact Act.done_enduresDepth _ (some schema)

theorem start_changed_enduresDepth (w : Workspace) (setup : Setup) (file : FilePath)
    (s : Session) : (s.start w setup (.changed file)).EnduresDepth := by
  have hcheck : ∀ (file : FilePath) (target : Target) (s : Session),
      ((s.check w setup file target).andThen fun _ s => s.done ([] : List Job)).EnduresDepth :=
    fun file target s => (check_enduresDepth w setup file target s).andThen fun _ s =>
      Act.done_enduresDepth s []
  rw [start, startChanged]
  split
  next => exact Act.broken_enduresDepth nofun
  next => exact Act.done_enduresDepth s []
  next =>
    unfold startPresent
    split
    next => exact hcheck _ _ s
    next =>
      split
      next =>
        refine (resolve_enduresDepth w _ s).andThen fun schema s => ?_
        cases schema with
        | some schema => exact hcheck _ _ s
        | none =>
            dsimp only
            split
            next => exact hcheck _ _ _
            next => exact Act.done_enduresDepth _ _
      next => exact Act.done_enduresDepth s []

/-! ## Jobs one after the other -/

/-- A job breaks down where its own part does. -/
theorem perform_of_error (h : (s.start w setup job).value = .error reason) :
    (s.perform w setup job).value = .error reason ∧
      (s.perform w setup job).session = (s.start w setup job).session := by
  rw [perform, Act.andThen_error h]
  exact ⟨rfl, rfl⟩

/-- A job whose own part has a result has one, whatever becomes of the jobs that it waits for. -/
theorem perform_of_ok {jobs : List Job} (h : (s.start w setup job).value = .ok jobs) :
    (s.perform w setup job).value = .ok () := by
  rw [perform, Act.andThen_ok h]
  rfl

/-- Jobs that are done one after the other, each of them with a result, lead from a session to
another one. -/
inductive Does (w : Workspace) (setup : Setup) : List Job → Session → Session → Prop
  | nil (s : Session) : Does w setup [] s s
  | cons {job : Job} {rest : List Job} {s t : Session}
      (first : (s.perform w setup job).value = .ok ())
      (others : Does w setup rest (s.perform w setup job).session t) :
      Does w setup (job :: rest) s t

/-- Jobs without a breakdown make no difference to how the jobs after them come out. -/
theorem Does.performAll_append {jobs : List Job} (h : Does w setup jobs s t) (rest : List Job) :
    (s.performAll w setup (jobs ++ rest)).value = (t.performAll w setup rest).value ∧
      (s.performAll w setup (jobs ++ rest)).session = (t.performAll w setup rest).session := by
  induction h with
  | nil s => exact ⟨rfl, rfl⟩
  | cons hfirst _ ih =>
      rw [List.cons_append, performAll, Act.andThen_ok hfirst]
      exact ih

theorem exists_does_removed (w : Workspace) (setup : Setup) (files : List FilePath) (s : Session) :
    ∃ t, Does w setup (files.map .removed) s t := by
  induction files generalizing s with
  | nil => exact ⟨s, .nil s⟩
  | cons file rest ih =>
      obtain ⟨t, ht⟩ := ih (s.perform w setup (.removed file)).session
      exact ⟨t, .cons (perform_of_ok rfl) ht⟩

/-- Jobs are done up to and including the first one whose own part breaks down. -/
theorem performAll_does_or (w : Workspace) (setup : Setup) (jobs : List Job) (s : Session) :
    (Does w setup jobs s (s.performAll w setup jobs).session ∧
        (s.performAll w setup jobs).value = .ok ()) ∨
      ∃ before job after reason u, jobs = before ++ job :: after ∧ Does w setup before s u ∧
        (u.start w setup job).value = .error reason ∧
        (s.performAll w setup jobs).value = .error reason ∧
        (s.performAll w setup jobs).session = (u.start w setup job).session := by
  induction jobs generalizing s with
  | nil => exact Or.inl ⟨.nil s, rfl⟩
  | cons job rest ih =>
      cases hstart : (s.start w setup job).value with
      | error reason =>
          obtain ⟨hvalue, hsession⟩ := perform_of_error hstart
          rw [performAll, Act.andThen_error hvalue]
          exact Or.inr ⟨[], job, rest, reason, s, rfl, .nil s, hstart, rfl, hsession⟩
      | ok jobs =>
          have hvalue := perform_of_ok hstart
          rw [performAll, Act.andThen_ok hvalue]
          rcases ih (s.perform w setup job).session with ⟨hdoes, hok⟩ |
            ⟨before, later, after, reason, u, rfl, hdoes, hlater, herror, hsession⟩
          · exact Or.inl ⟨.cons hvalue hdoes, hok⟩
          · exact Or.inr ⟨job :: before, later, after, reason, u, rfl, .cons hvalue hdoes, hlater,
              herror, hsession⟩

/-! ## Batches -/

/-- All removals of a batch are dealt with. Then either all changes are dealt with, or those before
some file are, the own part of the change of that file breaks down, and this is the end of it: the
session is as that part leaves it and the files after it are passed over. A file that is nested too
deeply is not the end. -/
theorem handle_reaches (w : Workspace) (setup : Setup) (batch : Watch.Batch) (s : Session) :
    ∃ middle, Does w setup ((FilePath.sort batch.deleted).map .removed) s middle ∧
      ((Does w setup ((FilePath.sort batch.changed).map .changed) middle
            (s.handle w setup batch).session ∧
          (s.handle w setup batch).value = .ok ()) ∨
        ∃ before file after reason u, FilePath.sort batch.changed = before ++ file :: after ∧
          Does w setup (before.map .changed) middle u ∧
          (u.start w setup (.changed file)).value = .error reason ∧
          reason ≠ .fault .tooDeep ∧
          (s.handle w setup batch).value = .error reason ∧
          (s.handle w setup batch).session = (u.start w setup (.changed file)).session) := by
  obtain ⟨middle, hremoved⟩ := exists_does_removed w setup (FilePath.sort batch.deleted) s
  obtain ⟨hvalue, hsession⟩ :=
    hremoved.performAll_append ((FilePath.sort batch.changed).map .changed)
  refine ⟨middle, hremoved, ?_⟩
  rw [handle, hvalue, hsession]
  rcases performAll_does_or w setup ((FilePath.sort batch.changed).map .changed) middle with
    hall | ⟨before, job, after, reason, u, hjobs, hdoes, hstart, herror, hlast⟩
  · exact Or.inl hall
  · obtain ⟨files, others, hfiles, rfl, hothers⟩ := List.map_eq_append_iff.mp hjobs
    obtain ⟨file, rest, rfl, rfl, rfl⟩ := List.map_eq_cons_iff.mp hothers
    refine Or.inr ⟨files, file, rest, reason, u, hfiles, hdoes, hstart, ?_, herror, hlast⟩
    rintro rfl
    exact start_changed_enduresDepth w setup file u hstart

namespace Sample

/-- Two files with the suffix of a provider, the second one cut off after its first bracket. -/
def files : Workspace :=
  (Tree.directory [("w", .directory [("a.conf", .file [0x31]), ("b.conf", .file [0x5b])])]).workspace
    ⟨.root, ["w"]⟩

/-- The first file. -/
def first : FilePath := ⟨.root, ["w", "a.conf"]⟩

/-- The second file. -/
def second : FilePath := ⟨.root, ["w", "b.conf"]⟩

/-- There is a provider whose schema refers to a place which it does not have. -/
def provided : Setup := ⟨[⟨[(".conf", Evaluation.lostSchema)]⟩], ⟨[]⟩, .silent, Schema.validate⟩

theorem sort_both : FilePath.sort [first, second] = [first, second] :=
  List.mergeSort_of_pairwise (by decide)

end Sample

open Sample

/-- Both files have changed. The change of the first one breaks down and nothing is said of the
second one. Had the second one changed alone, it would have been said what is wrong with it. -/
theorem handle_passes_over :
    (Session.empty.handle files provided ⟨[first, second], []⟩).value.isOk = false ∧
      (Session.empty.handle files provided ⟨[first, second], []⟩).session = .empty ∧
      (Session.empty.handle files provided ⟨[second], []⟩).session.store.diagnosticsFor second =
        [⟨second, "Expecting value", 1, .error⟩] := by
  rw [handle, sort_both]
  exact ⟨by decide +kernel, by decide +kernel, by decide +kernel⟩

end Session

end Conform
