import Conform.Proofs.Session.Said

/-! # What a change comes to

Whether the change of a file breaks down before anything is done, which place it
gives the file in the index and what it checks is decided by the files there are
and by that place, and by nothing else that a session holds. The session after a
change is the one in which the file has its place, after the checks. So a change
that is dealt with twice comes to what it came to at first, however its checks end.
-/

namespace Conform

namespace Act

variable {α β : Type} (next : α → Session → Outcome β)

theorem after_andThen (notes : List Note) (act : Outcome α) :
    (act.after notes).andThen next = (act.andThen next).after notes := by
  simp only [andThen, bind, after, List.append_assoc]

theorem done_andThen (s : Session) (a : α) : (s.done a).andThen next = next a s := by
  simp only [andThen, bind, Session.done, Session.stay, List.nil_append]

end Act

/-! ## The schema that is found -/

namespace Session

/-- The schema that is found for a file, or none, among the files there are. -/
def resolved (w : Workspace) (file : FilePath) : Except Breakdown (Option FilePath) :=
  (Session.empty.resolve w file).value

/-- What a session holds has no part in which schema is found. -/
theorem resolve_eq (w : Workspace) (file : FilePath) (s : Session) :
    ∃ notes, (∀ note ∈ notes, note.isGap = false) ∧ s.resolve w file =
      match resolved w file with
      | .error reason => (s.broken reason).after notes
      | .ok none => (s.done none).after notes
      | .ok (some schema) =>
        ({ s with index := s.index.associate schema file }.done (some schema)).after notes := by
  unfold resolved resolve
  split
  next => exact ⟨[], by simp, rfl⟩
  next =>
    -- The names beside the file are known, or count as none, or there is no going on.
    have hnames : (∃ reason, ∀ s : Session, s.namesIn w file.parent = s.broken reason) ∨
        ∃ names notes, (∀ note ∈ notes, note.isGap = false) ∧
          ∀ s : Session, s.namesIn w file.parent = (s.done names).after notes := by
      unfold namesIn
      cases w.list file.parent with
      | ok names => exact Or.inr ⟨names, [], by simp, fun s => rfl⟩
      | error fault =>
          have hunlisted : (Note.logged (.unlisted file.parent fault)).isGap = false := rfl
          cases fault with
          | nullCharacter => exact Or.inl ⟨.access .nullCharacter, fun s => rfl⟩
          | refused obstacle path => exact Or.inr ⟨[], [_], by simpa using hunlisted, fun s => rfl⟩
          | malformed found => exact Or.inr ⟨[], [_], by simpa using hunlisted, fun s => rfl⟩
    rcases hnames with ⟨reason, hbroken⟩ | ⟨names, notes, hgapless, hdone⟩
    · refine ⟨[], by simp, ?_⟩
      rw [hbroken, hbroken]
      rfl
    · refine ⟨notes, hgapless, ?_⟩
      rw [hdone, hdone, Act.after_andThen, Act.after_andThen, Act.done_andThen, Act.done_andThen]
      cases Convention.choose w file.parent names (Convention.candidates file) with
      | error fault => rfl
      | ok found => cases found <;> rfl

end Session

/-! ## Courses -/

/-- Files, and what all of them are checked against. -/
structure Checks where
  /-- The files, in the order in which they are checked. -/
  files : List FilePath
  /-- What they are checked against. -/
  target : Target

/-- What the change of a file comes to. -/
inductive Course
  /-- The change breaks down before anything is done. -/
  | broken (reason : Breakdown)
  /-- There is nothing to do: there is no such file, or it is one that nobody checks. -/
  | idle
  /-- The file is checked against the schema of a provider. -/
  | provided (text : String)
  /-- The file is put under its schema and checked against it. -/
  | under (schema : FilePath)
  /-- The file has no schema. If there are files under it, they are checked against it; if not, the
  form of the file is checked. -/
  | alone

/-- What the change of a file comes to among the files there are. -/
def Session.course (w : Workspace) (setup : Setup) (file : FilePath) : Course :=
  match leadsToFile w file with
  | .error fault => .broken (.access fault)
  | .ok false => .idle
  | .ok true =>
    match Provider.first? setup.providers file with
    | some text => .provided text
    | none =>
      if Convention.isDocumentName file.name then
        match resolved w file with
        | .error reason => .broken reason
        | .ok none => .alone
        | .ok (some schema) => .under schema
      else .idle

namespace Course

/-- The index in which a file has its place. -/
def place (file : FilePath) (index : Index) : Course → Index
  | under schema => index.associate schema file
  | alone => index.dissociate file
  | _ => index

/-- What is checked where the file has its place in the index. -/
def checks (file : FilePath) (placed : Index) : Course → Checks
  | broken _ => ⟨[], .nothing⟩
  | idle => ⟨[], .nothing⟩
  | provided text => ⟨[file], .ofText text⟩
  | under schema => ⟨[file], .ofFile schema⟩
  | alone =>
    match FilePath.sort (placed.dependentsOf file) with
    | [] => ⟨[file], .nothing⟩
    | dependents => ⟨dependents, .ofFile file⟩

theorem checks_alone_of_nil {file : FilePath} {placed : Index}
    (hnobody : placed.dependentsOf file = []) : alone.checks file placed = ⟨[file], .nothing⟩ := by
  rw [checks, hnobody, FilePath.sort, List.mergeSort_nil]

theorem checks_alone_of_mem {file d : FilePath} {placed : Index}
    (hd : d ∈ placed.dependentsOf file) :
    alone.checks file placed = ⟨FilePath.sort (placed.dependentsOf file), .ofFile file⟩ := by
  have hsorted := FilePath.mem_sort.mpr hd
  rw [checks]
  split
  next hnil =>
    rw [hnil] at hsorted
    cases hsorted
  next => rfl

/-- A change checks the file itself or the files that stand under it. -/
theorem eq_or_mem_of_mem_checks {index : Index} {file p : FilePath} (course : Course)
    (hp : p ∈ (course.checks file index).files) : p = file ∨ p ∈ index.dependentsOf file := by
  cases course with
  | broken reason => cases hp
  | idle => cases hp
  | provided text => exact Or.inl (List.mem_singleton.mp hp)
  | under schema => exact Or.inl (List.mem_singleton.mp hp)
  | alone =>
      rw [checks] at hp
      split at hp
      · exact Or.inl (List.mem_singleton.mp hp)
      · exact Or.inr (FilePath.mem_sort.mp hp)

theorem place_place (file : FilePath) (index : Index) (course : Course) :
    course.place file (course.place file index) = course.place file index := by
  cases course with
  | broken reason => rfl
  | idle => rfl
  | provided text => rfl
  | under schema => exact Index.associate_associate index schema file
  | alone => exact Index.dissociate_dissociate index file

end Course

namespace Session

variable {w : Workspace} {setup : Setup} {s t : Session} {file p : FilePath}

/-- Starts what a change comes to, in a session in which the file has its place. -/
def startCourse (w : Workspace) (setup : Setup) (file : FilePath) (s : Session) :
    Course → Outcome (List Job)
  | .broken reason => s.broken reason
  | .idle => s.done []
  | .provided text => (s.check w setup file (.ofText text)).andThen fun _ s => s.done []
  | .under schema => (s.check w setup file (.ofFile schema)).andThen fun _ s => s.done []
  | .alone =>
    match FilePath.sort (s.index.dependentsOf file) with
    | [] => (s.check w setup file .nothing).andThen fun _ s => s.done []
    | dependents => s.done (dependents.map fun d => .check d (.ofFile file))

/-- The session in which a file has the place that its change gives it. -/
def placing (w : Workspace) (setup : Setup) (file : FilePath) (s : Session) : Session :=
  { s with index := (course w setup file).place file s.index }

/-- A change gives the file its place and then starts what it comes to. -/
theorem start_changed_eq (w : Workspace) (setup : Setup) (file : FilePath) (s : Session) :
    ∃ notes, (∀ note ∈ notes, note.isGap = false) ∧
      s.start w setup (.changed file) =
        ((s.placing w setup (w.absolute file)).startCourse w setup (w.absolute file)
          (course w setup (w.absolute file))).after notes := by
  rw [start, startChanged]
  unfold placing course
  generalize w.absolute file = file
  cases leadsToFile w file with
  | error fault => exact ⟨[], by simp, rfl⟩
  | ok isThere =>
      cases isThere with
      | false => exact ⟨[], by simp, rfl⟩
      | true =>
          rw [startPresent]
          cases Provider.first? setup.providers file with
          | some text => exact ⟨[], by simp, rfl⟩
          | none =>
              dsimp only
              split
              next =>
                obtain ⟨notes, hgapless, hresolve⟩ := resolve_eq w file s
                refine ⟨notes, hgapless, ?_⟩
                rw [startByConvention, hresolve]
                cases resolved w file with
                | error reason => exact Act.after_andThen _ notes (s.broken reason)
                | ok found =>
                    cases found <;>
                      (dsimp only
                       rw [Act.after_andThen, Act.done_andThen]
                       rfl)
              next => exact ⟨[], by simp, rfl⟩

/-! ## The session after a change -/

theorem settle_nil_session (w : Workspace) (setup : Setup) (n : Nat) (s : Session) :
    (s.settle w setup n []).session = s := by
  induction n generalizing s with
  | zero => rfl
  | succ n ih => exact ih s

/-- What was started waits for nothing. -/
def IsLone (o : Outcome (List Job)) : Prop := ∀ jobs, o.value = .ok jobs → jobs = []

theorem IsLone.awaited {o : Outcome (List Job)} (h : IsLone o) :
    (o.bind awaited).value = [] ∧ (o.bind awaited).session = o.session := by
  unfold Act.bind Session.awaited
  cases hvalue : o.value with
  | error reason => exact ⟨rfl, rfl⟩
  | ok jobs => exact ⟨h jobs hvalue, rfl⟩

theorem IsLone.after {o : Outcome (List Job)} (h : IsLone o) (notes : List Note) :
    IsLone (o.after notes) := h

theorem broken_isLone (s : Session) (reason : Breakdown) : IsLone (s.broken reason) := by
  intro jobs hvalue
  cases hvalue

theorem done_isLone (s : Session) : IsLone (s.done []) := by
  intro jobs hvalue
  cases hvalue
  rfl

/-- What goes on from another act without any jobs to wait for waits for nothing. -/
theorem andThen_isLone {α : Type} (act : Outcome α) : IsLone (act.andThen fun _ s => s.done []) := by
  cases hvalue : act.value with
  | error reason =>
      rw [Act.andThen_error hvalue]
      intro jobs hjobs
      cases hjobs
  | ok a =>
      rw [Act.andThen_ok hvalue]
      intro jobs hjobs
      cases hjobs
      rfl

theorem andThen_done_session {α : Type} (act : Outcome α) :
    (act.andThen fun _ s => s.done ([] : List Job)).session = act.session :=
  Act.andThen_session (motive := fun t => t = act.session) rfl fun _ _ ht => ht

/-- A job that waits for nothing is done to its end when it is started. -/
theorem perform_session_of_isLone {job : Job} (h : IsLone (s.start w setup job)) :
    (s.perform w setup job).session = (s.start w setup job).session := by
  unfold perform
  cases hvalue : (s.start w setup job).value with
  | error reason => rw [Act.andThen_error hvalue]
  | ok jobs =>
      rw [Act.andThen_ok hvalue, h jobs hvalue]
      exact settle_nil_session w setup generations _

/-- Jobs of which none waits for anything leave the session that they leave one after the other,
whether or not some of them break down, and wait for nothing together. -/
theorem startAll_isLone {motive : Session → Prop} (jobs : List Job)
    (hjobs : ∀ job ∈ jobs, ∀ t, motive t →
      IsLone (t.start w setup job) ∧ motive (t.start w setup job).session) (hs : motive s) :
    (s.startAll w setup jobs).value = [] ∧
      (s.startAll w setup jobs).session =
        jobs.foldl (fun t job => (t.start w setup job).session) s := by
  induction jobs generalizing s with
  | nil => exact ⟨rfl, rfl⟩
  | cons job rest ih =>
      obtain ⟨hlone, hkept⟩ := hjobs job List.mem_cons_self s hs
      obtain ⟨hvalue, hsession⟩ := hlone.awaited
      obtain ⟨hothers, hlast⟩ := ih
        (fun other hother => hjobs other (List.mem_cons_of_mem job hother)) hkept
      rw [startAll, List.foldl_cons]
      simp only [Act.bind, Act.map] at hvalue hsession ⊢
      rw [hvalue, hsession, hothers, hlast]
      exact ⟨rfl, rfl⟩

theorem startAll_checks (w : Workspace) (setup : Setup) (target : Target) (files : List FilePath)
    (s : Session) :
    (s.startAll w setup (files.map fun file => .check file target)).value = [] ∧
      (s.startAll w setup (files.map fun file => .check file target)).session =
        s.checkEach w setup target files := by
  have hjobs : ∀ job ∈ files.map fun file => Job.check file target, ∀ t : Session, True →
      IsLone (t.start w setup job) ∧ True := by
    intro job hjob t _
    obtain ⟨file, -, rfl⟩ := List.mem_map.mp hjob
    exact ⟨andThen_isLone _, trivial⟩
  obtain ⟨hvalue, hsession⟩ := startAll_isLone _ hjobs (s := s) trivial
  refine ⟨hvalue, hsession.trans ?_⟩
  rw [List.foldl_map, checkEach]
  congr 1
  funext t file
  exact andThen_done_session _

/-- The session after a change is the one in which the file has its place, after the checks. -/
theorem perform_changed_session (w : Workspace) (setup : Setup) (file : FilePath) (s : Session) :
    (s.perform w setup (.changed file)).session =
      let placed := s.placing w setup (w.absolute file)
      let checks := (course w setup (w.absolute file)).checks (w.absolute file) placed.index
      placed.checkEach w setup checks.target checks.files := by
  obtain ⟨notes, -, hstart⟩ := start_changed_eq w setup file s
  rw [perform, hstart, Act.after_andThen]
  generalize w.absolute file = file
  dsimp only
  generalize s.placing w setup file = placed
  -- A check that is made at once is the end of it, with or without a result.
  have hcheck : ∀ target, ((((placed.check w setup file target).andThen fun _ s =>
      s.done []).andThen fun jobs s =>
        (s.settle w setup generations jobs).map Except.ok).after notes).session =
      (placed.check w setup file target).session := by
    intro target
    cases hvalue : (placed.check w setup file target).value with
    | error reason => rw [Act.andThen_error hvalue]; rfl
    | ok value => rw [Act.andThen_ok hvalue]; exact settle_nil_session w setup generations _
  cases course w setup file with
  | broken reason => rfl
  | idle => exact settle_nil_session w setup generations _
  | provided text => exact hcheck _
  | under schema => exact hcheck _
  | alone =>
      rw [startCourse, Course.checks]
      generalize FilePath.sort (placed.index.dependentsOf file) = dependents
      cases dependents with
      | nil => exact hcheck _
      | cons d rest =>
          obtain ⟨hvalue, hsession⟩ := startAll_checks w setup (.ofFile file) (d :: rest) placed
          dsimp only
          rw [Act.done_andThen]
          simp only [Act.after, Act.map, generations, settle, Act.bind]
          rw [hvalue]
          exact hsession

/-! ## Changes whose passes are all complete -/

/-- A session comes from another one by the change of a file whose passes are all complete. -/
structure Changed (w : Workspace) (setup : Setup) (file : FilePath) (s t : Session) : Prop where
  not_broken : ∀ reason, course w setup file ≠ .broken reason
  checkedEach : CheckedEach w setup
    ((course w setup file).checks file (s.placing w setup file).index).target
    ((course w setup file).checks file (s.placing w setup file).index).files
    (s.placing w setup file) t

theorem perform_changed_ends (h : (s.perform w setup (.changed file)).Ends (.ok ()) t) :
    Changed w setup (w.absolute file) s t := by
  obtain ⟨jobs, last, hstart, hsettle⟩ := perform_ends_iff.mp h
  obtain ⟨notes, -, heq⟩ := start_changed_eq w setup file s
  rw [heq] at hstart
  obtain ⟨-, hstart⟩ := Act.after_ends_iff.mp hstart
  generalize w.absolute file = file at hstart ⊢
  -- A check that is made at once leaves nothing to be settled.
  have hcheck : ∀ {target}, (((s.placing w setup file).check w setup file target).andThen
      fun _ s => s.done []).Ends (.ok jobs) last →
      CheckedEach w setup target [file] (s.placing w setup file) t := by
    intro target hends
    obtain ⟨_, middle, hchecked, hdone⟩ := Act.andThen_ends_iff.mp hends
    obtain ⟨rfl, rfl⟩ := Act.done_ends_iff.mp hdone
    obtain rfl := settle_nil_ends_iff.mp hsettle
    exact .cons (check_ends hchecked) (.nil w setup target _)
  refine ⟨fun reason hbroken => ?_, ?_⟩
  · rw [hbroken] at hstart
    exact Act.not_broken_ends hstart
  · revert hstart
    cases course w setup file with
    | broken reason => exact fun hstart => absurd hstart Act.not_broken_ends
    | idle =>
        intro hstart
        obtain ⟨rfl, rfl⟩ := Act.done_ends_iff.mp hstart
        obtain rfl := settle_nil_ends_iff.mp hsettle
        exact .nil w setup _ _
    | provided text => exact hcheck
    | under schema => exact hcheck
    | alone =>
        rw [startCourse, Course.checks]
        generalize FilePath.sort ((s.placing w setup file).index.dependentsOf file) = dependents
        cases dependents with
        | nil => exact hcheck
        | cons d rest =>
            intro hstart
            obtain ⟨rfl, rfl⟩ := Act.done_ends_iff.mp hstart
            obtain ⟨more, middle, hall, hrest⟩ := Act.bind_ends_iff.mp hsettle
            obtain ⟨rfl, hchecked⟩ := startAll_checks_ends hall
            obtain rfl := settle_nil_ends_iff.mp hrest
            exact hchecked

/-! ## Changes one after the other -/

/-- The session after changes of files were dealt with one after the other. -/
def changeEach (w : Workspace) (setup : Setup) (files : List FilePath) (s : Session) : Session :=
  files.foldl (fun s file => (s.perform w setup (.changed file)).session) s

theorem changeEach_append (w : Workspace) (setup : Setup) (first second : List FilePath)
    (s : Session) :
    s.changeEach w setup (first ++ second) =
      (s.changeEach w setup first).changeEach w setup second :=
  List.foldl_append

/-- What the change of one file keeps is kept by changes of several files. -/
theorem changeEach_of {motive : Session → Prop} (files : List FilePath)
    (hstep : ∀ t file, motive t → motive (t.perform w setup (.changed file)).session)
    (hs : motive s) : motive (s.changeEach w setup files) := by
  unfold changeEach
  induction files generalizing s with
  | nil => exact hs
  | cons file rest ih => exact ih (hstep s file hs)

theorem visit_session (w : Workspace) (setup : Setup) (files : List FilePath) (s : Session) :
    (s.visit w setup files).session = s.changeEach w setup files := by
  unfold changeEach
  induction files generalizing s with
  | nil => rfl
  | cons file rest ih =>
      -- A visit that breaks down is logged, which leaves the session as it is.
      have hend : ∀ result (t : Session), (endVisit file result t).session = t := by
        intro result t
        cases result <;> rfl
      rw [visit, List.foldl_cons, ← ih]
      simp only [Act.bind, hend]

/-! ## Changes that are repeated -/

/-- In every session, a change that is dealt with twice among the same files leaves the index and
what is said of each file as it left them at first, whatever it comes to and however its checks
end. -/
theorem perform_changed_again (w : Workspace) (setup : Setup) (file : FilePath) (s : Session) :
    let once := (s.perform w setup (.changed file)).session
    let twice := (once.perform w setup (.changed file)).session
    twice.index = once.index ∧
      ∀ p, twice.store.diagnosticsFor p = once.store.diagnosticsFor p := by
  simp only [perform_changed_session, placing]
  generalize w.absolute file = file
  generalize hplaced : (course w setup file).place file s.index = placed
  -- The checks leave the index as it is once the file has its place, so the second time gives the
  -- file the same place and makes the same checks.
  have hagain : (course w setup file).place file placed = placed := by
    rw [← hplaced]
    exact Course.place_place file s.index (course w setup file)
  simp only [checkEach_index, checkEach_diagnosticsFor, hagain]
  refine ⟨trivial, fun p => ?_⟩
  generalize (course w setup file).checks file placed = checks
  by_cases hp : p ∈ checks.files
  · simp only [if_pos hp, saidAfter_saidAfter]
  · simp only [if_neg hp]

end Session

end Conform
