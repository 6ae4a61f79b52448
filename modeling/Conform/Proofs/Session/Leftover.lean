import Conform.Proofs.Session.Dependents
import Conform.Proofs.Session.Orders
import Conform.Tools

/-! # What is said of files that are gone

Diagnostics are put in the place of others when a file is read, and in no other
way are they taken back. The removal of a path takes it out of the index and has
other files changed. So what was said of a file before it went is said of it as
long as it is not read again, whatever else happens, and it is listed and counted
among all the rest.
-/

namespace Conform

/-- The text of a file is not read. -/
def Workspace.Misses (w : Workspace) (file : FilePath) : Prop := ∃ fault, w.text file = .error fault

/-- Where a path leads nowhere there is no text. -/
theorem Tree.misses_of_not_present {root : Tree} {current file : FilePath}
    (h : (root.workspace current).present file ≠ .ok true) :
    (root.workspace current).Misses file := by
  simp only [Workspace.Misses, workspace] at h ⊢
  cases hfind : root.find current file with
  | error fault => exact ⟨fault, rfl⟩
  | ok tree =>
      rw [hfind] at h
      exact absurd rfl h

/-! ## All diagnostics -/

namespace Store

variable {store : Store}

/-- Among all diagnostics those of one file are listed by line. -/
theorem IsKeyed.filter_all (h : store.IsKeyed) (file : FilePath) :
    store.all.filter (·.file = file) = (store.diagnosticsFor file).mergeSort listedBefore := by
  rw [all, filter_mergeSort_eq listedBefore_trans listedBefore_total, h.filter_file]

/-- The errors are those of one file and those of all others. -/
theorem IsKeyed.errorCount_eq (h : store.IsKeyed) (file : FilePath) :
    store.errorCount =
      ((store.diagnosticsFor file).filter fun d => d.severity = .error).length +
        (store.all.filter fun d => d.severity = .error && !decide (d.file = file)).length := by
  have hown : ((store.all.filter fun d => d.file = file).filter fun d =>
      d.severity = .error).length =
        ((store.diagnosticsFor file).filter fun d => d.severity = .error).length := by
    rw [h.filter_all]
    exact ((List.mergeSort_perm _ _).filter _).length_eq
  rw [errorCount, List.length_eq_length_filter_add fun d : Diagnostic => decide (d.file = file),
    List.filter_comm, hown, List.filter_filter]
  simp only [Bool.and_comm]

end Store

/-! ## What checks keep -/

namespace Session

variable {w : Workspace} {setup : Setup} {s : Session} {file : FilePath}

/-- What every check keeps of a store is kept by starting any job, since nothing else is done to the
store. -/
theorem start_store {motive : Store → Prop}
    (hcheck : ∀ file target (t : Session), motive t.store →
      motive (t.check w setup file target).session.store)
    (hs : motive s.store) (job : Job) : motive (s.start w setup job).session.store := by
  have hchecked : ∀ file target (t : Session), motive t.store →
      motive ((t.check w setup file target).andThen fun _ t =>
        t.done ([] : List Job)).session.store := by
    intro file target t ht
    rw [andThen_done_session]
    exact hcheck file target t ht
  cases job with
  | check file target => exact hchecked file target s hs
  | removed file => exact hs
  | changed file =>
      obtain ⟨notes, -, hstart⟩ := start_changed_eq w setup file s
      rw [hstart]
      have hplaced : motive (s.placing w setup (w.absolute file)).store := hs
      cases course w setup (w.absolute file) with
      | broken reason => exact hplaced
      | idle => exact hplaced
      | provided text => exact hchecked _ _ _ hplaced
      | under schema => exact hchecked _ _ _ hplaced
      | alone =>
          rw [startCourse]
          split
          next => exact hchecked _ _ _ hplaced
          next => exact hplaced

theorem resolve_store (w : Workspace) (file : FilePath) (s : Session) :
    (s.resolve w file).session.store = s.store := by
  obtain ⟨notes, -, hresolve⟩ := resolve_eq w file s
  rw [hresolve]
  cases resolved w file with
  | error reason => rfl
  | ok found => cases found <;> rfl

/-- What every check keeps of a store is kept by all calls. -/
theorem afterCalls_store {motive : Store → Prop} {calls : List (Workspace × Call)}
    (hcheck : ∀ call ∈ calls, ∀ file target (t : Session), motive t.store →
      motive (t.check call.1 setup file target).session.store)
    (hs : motive s.store) : motive (s.afterCalls setup calls).store := by
  refine afterCalls_session (motive := fun t => motive t.store) ?_ hs
  rintro ⟨w, call⟩ hcall t ht
  have hstart : ∀ (job : Job) (t : Session), motive t.store →
      motive (t.start w setup job).session.store :=
    fun job t ht => start_store (hcheck _ hcall) ht job
  cases call with
  | perform job => exact perform_session (motive := fun t => motive t.store) hstart ht job
  | start job => exact hstart job t ht
  | resolve file =>
      rw [afterCall, resolve_store]
      exact ht

theorem afterCalls_isKeyed (setup : Setup) (calls : List (Workspace × Call))
    (hs : s.store.IsKeyed) : (s.afterCalls setup calls).store.IsKeyed :=
  afterCalls_store (fun call _ file target _ ht => check_isKeyed call.1 setup file target ht) hs

/-- A pass over a file that is not read leaves what is said of it, and so does every other pass. -/
theorem check_of_misses (h : w.Misses file) (other : FilePath) (target : Target) (s : Session) :
    (s.check w setup other target).session.store.diagnosticsFor file =
      s.store.diagnosticsFor file := by
  rw [check_diagnosticsFor]
  split
  next hsame =>
    subst hsame
    obtain ⟨fault, htext⟩ := h
    have hverdict : verdict w setup file target = none := by
      simp only [verdict, readTexts, htext]
      rfl
    rw [saidAfter_eq, hverdict, Option.elim_none]
  next => rfl

/-- What is said of a file stays as long as the file is not read. -/
theorem afterCalls_of_misses {calls : List (Workspace × Call)}
    (hcalls : ∀ call ∈ calls, call.1.Misses file) (s : Session) :
    (s.afterCalls setup calls).store.diagnosticsFor file = s.store.diagnosticsFor file :=
  afterCalls_store (motive := fun store => store.diagnosticsFor file = s.store.diagnosticsFor file)
    (fun call hcall other target _ ht =>
      (check_of_misses (hcalls call hcall) other target _).trans ht)
    rfl

/-! ## Removals -/

/-- Whatever calls have led to a session: the removal of a path that is not read, and everything
after it as long as the path is not read again, leaves what is said of the path as it was before
the removal. It stays among all diagnostics, its errors are counted, and the tool gives it. -/
theorem perform_removed_leaves (setup : Setup) (calls later : List (Workspace × Call))
    (w : Workspace) {path : FilePath} (hgone : w.Misses (w.absolute path))
    (hlater : ∀ call ∈ later, call.1.Misses (w.absolute path)) :
    let s := afterCalls setup ⟨.empty, .empty⟩ calls
    let said := s.store.diagnosticsFor (w.absolute path)
    let t := afterCalls setup (s.perform w setup (.removed path)).session later
    t.store.diagnosticsFor (w.absolute path) = said ∧
      t.store.all.filter (·.file = w.absolute path) = said.mergeSort Store.listedBefore ∧
      t.store.errorCount = (said.filter fun d => d.severity = .error).length +
        (t.store.all.filter fun d =>
          d.severity = .error && !decide (d.file = w.absolute path)).length ∧
      t.diagnosticsTool w path = said := by
  intro s said t
  have ht : t = afterCalls setup ⟨.empty, .empty⟩
      (calls ++ (w, .perform (.removed path)) :: later) := by
    simp only [t, s, afterCalls, List.foldl_append, List.foldl_cons, afterCall]
  have hkeyed : t.store.IsKeyed := ht ▸ afterCalls_isKeyed setup _ Store.empty_isKeyed
  have hcalls : ∀ call ∈ (w, .perform (.removed path)) :: later, call.1.Misses (w.absolute path) :=
    List.forall_mem_cons.mpr ⟨hgone, hlater⟩
  have hsaid : t.store.diagnosticsFor (w.absolute path) = said := afterCalls_of_misses hcalls s
  refine ⟨hsaid, ?_, ?_, hsaid⟩
  · rw [hkeyed.filter_all, hsaid]
  · rw [hkeyed.errorCount_eq (w.absolute path), hsaid]

open Vigil Vigil.Sample

/-- The working directory once nothing is left in it. -/
def bare : Tree := .directory [("w", .directory [])]

/-- The file and its schema are gone. Neither the removals nor another change of the file take back
what was said of it. -/
theorem perform_removed_leaves_bare :
    let s := afterCalls sample.setup ⟨.empty, .empty⟩
      [(sample.workspace paired, .perform (.changed data))]
    let later : List (Workspace × Call) := [(sample.workspace bare, .perform (.removed dataSchema)),
      (sample.workspace bare, .perform (.changed data))]
    let t := afterCalls sample.setup
      (s.perform (sample.workspace bare) sample.setup (.removed data)).session later
    s.index.Holds dataSchema data ∧
      (sample.workspace bare).Misses ((sample.workspace bare).absolute data) ∧
      (∀ call ∈ later, call.1.Misses ((sample.workspace bare).absolute data)) ∧
      t.diagnosticsTool (sample.workspace bare) data = [⟨data, "Expecting value", 1, .error⟩] ∧
      t.store.all.filter (·.file = data) = [⟨data, "Expecting value", 1, .error⟩] := by
  have hvisited : (Session.empty.perform (sample.workspace paired) sample.setup
      (.changed data)).Ends (.ok ()) visited := by
    refine perform_ends_of_check empty_sane pairs_data (by decide) rfl paired_schemaOf ?_
    exact ends_of_eval (by decide +kernel)
  have hreached : afterCalls sample.setup ⟨.empty, .empty⟩
      [(sample.workspace paired, .perform (.changed data))] = visited := hvisited.session_eq
  have habsolute : (sample.workspace bare).absolute data = data := absolute_eq pairs_data.covers
  have hgone : (sample.workspace bare).Misses ((sample.workspace bare).absolute data) :=
    Tree.misses_of_not_present (by decide)
  have hlater : ∀ call ∈ [(sample.workspace bare, Call.perform (.removed dataSchema)),
      (sample.workspace bare, Call.perform (.changed data))],
      call.1.Misses ((sample.workspace bare).absolute data) := by
    rintro call hcall
    simp only [List.mem_cons, List.not_mem_nil, or_false] at hcall
    rcases hcall with rfl | rfl <;> exact hgone
  obtain ⟨-, hall, -, htool⟩ := perform_removed_leaves sample.setup
    [(sample.workspace paired, .perform (.changed data))] _ (sample.workspace bare) hgone hlater
  rw [habsolute, hreached] at hall htool
  rw [hreached]
  refine ⟨⟨[data], List.mem_cons_self, List.mem_cons_self⟩, hgone, hlater, htool, ?_⟩
  exact hall.trans (List.mergeSort_singleton _)

/-- A deleted file is reported on after its removal was dealt with. -/
theorem perform_removed_reports :
    let s := afterCalls sample.setup ⟨.empty, .empty⟩
      [(sample.workspace unpaired, .perform (.changed data))]
    let t := (s.perform (sample.workspace bare) sample.setup (.removed data)).session
    (sample.workspace bare).present data = .ok false ∧
      t.store.diagnosticsFor data = [⟨data, "Expecting value", 1, .error⟩] ∧
      t.store.all = [⟨data, "Expecting value", 1, .error⟩] ∧ t.store.errorCount = 1 ∧
      t.diagnosticsTool (sample.workspace bare) data = [⟨data, "Expecting value", 1, .error⟩] := by
  have hreached : afterCalls sample.setup ⟨.empty, .empty⟩
      [(sample.workspace unpaired, .perform (.changed data))] = unpairedVisited := by decide +kernel
  have hremoved : (unpairedVisited.perform (sample.workspace bare) sample.setup
      (.removed data)).session = unpairedVisited := by decide +kernel
  have hall : unpairedVisited.store.all = [⟨data, "Expecting value", 1, .error⟩] :=
    List.mergeSort_singleton _
  intro s t
  have ht : t = unpairedVisited := by
    simp only [t, s, hreached, hremoved]
  rw [ht, Store.errorCount, hall]
  exact ⟨by decide, by decide, rfl, by decide, by decide⟩

end Session

end Conform
