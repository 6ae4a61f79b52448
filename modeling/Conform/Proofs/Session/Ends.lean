import Conform.Proofs.Diagnostic
import Conform.Proofs.Index.Holds
import Conform.Session.Job
import Conform.Watch

/-! # Acts that end with every pass complete

An act ends in a session if it has a value and leaves no note behind that a pass
was not completed. How acts are put together decides how they end: an act that
goes on from another one ends where the second one ends when it starts from the
end of the first. A check that ends has put what its texts come to in the place
of the diagnostics of its file and has changed nothing else.
-/

namespace Conform

/-- Whether an entry tells of a pass that was not completed. -/
def Entry.isGap : Entry → Bool
  | unread _ _ => true
  | tooDeep _ => true
  | passFailed _ => true
  | visitFailed _ _ => true
  | _ => false

/-- Whether a note tells of a pass that was not completed. -/
def Note.isGap : Note → Bool
  | logged entry => entry.isGap
  | printed _ => false

/-- An act has a value, leads to a session and leaves no note of a pass that was not completed. -/
structure Act.Ends {α : Type} (act : Act α) (a : α) (s : Session) : Prop where
  value_eq : act.value = a
  session_eq : act.session = s
  gapless : ∀ note ∈ act.notes, note.isGap = false

namespace Act

variable {α β : Type} {a : α} {b : β} {s t : Session}

theorem stay_ends_iff {a' : α} : (s.stay a').Ends a t ↔ a' = a ∧ s = t := by
  constructor
  · rintro ⟨hvalue, hsession, -⟩
    exact ⟨hvalue, hsession⟩
  · rintro ⟨rfl, rfl⟩
    exact ⟨rfl, rfl, by simp [Session.stay]⟩

theorem done_ends_iff {a' : α} : (s.done a').Ends (.ok a) t ↔ a' = a ∧ s = t := by
  rw [Session.done, stay_ends_iff, Except.ok.injEq]

theorem not_broken_ends {reason : Breakdown} :
    ¬(s.broken reason : Outcome α).Ends (.ok a) t := by
  rintro ⟨hvalue, -, -⟩
  cases hvalue

theorem after_ends_iff {act : Act α} {notes : List Note} :
    (act.after notes).Ends a t ↔ (∀ note ∈ notes, note.isGap = false) ∧ act.Ends a t := by
  constructor
  · rintro ⟨hvalue, hsession, hgapless⟩
    rw [Act.after] at hvalue hsession hgapless
    rw [List.forall_mem_append] at hgapless
    exact ⟨hgapless.1, hvalue, hsession, hgapless.2⟩
  · rintro ⟨hnotes, hvalue, hsession, hgapless⟩
    exact ⟨hvalue, hsession, List.forall_mem_append.mpr ⟨hnotes, hgapless⟩⟩

theorem logging_ends_iff {act : Act α} {entry : Entry} :
    (act.logging entry).Ends a t ↔ entry.isGap = false ∧ act.Ends a t := by
  rw [logging, after_ends_iff, List.forall_mem_singleton, Note.isGap]

theorem bind_ends_iff {act : Act α} {next : α → Session → Act β} :
    (act.bind next).Ends b t ↔ ∃ a s, act.Ends a s ∧ (next a s).Ends b t := by
  constructor
  · rintro ⟨hvalue, hsession, hgapless⟩
    rw [Act.bind, List.forall_mem_append] at hgapless
    exact ⟨act.value, act.session, ⟨rfl, rfl, hgapless.1⟩, hvalue, hsession, hgapless.2⟩
  · rintro ⟨a, s, ⟨rfl, rfl, hgapless⟩, hvalue, hsession, hrest⟩
    exact ⟨hvalue, hsession, List.forall_mem_append.mpr ⟨hgapless, hrest⟩⟩

theorem andThen_ends_iff {act : Outcome α} {next : α → Session → Outcome β} :
    (act.andThen next).Ends (.ok b) t ↔
      ∃ a s, act.Ends (.ok a) s ∧ (next a s).Ends (.ok b) t := by
  rw [andThen, bind_ends_iff]
  constructor
  · rintro ⟨result, s, hact, hnext⟩
    cases result with
    | error reason => exact absurd hnext not_broken_ends
    | ok a => exact ⟨a, s, hact, hnext⟩
  · rintro ⟨a, s, hact, hnext⟩
    exact ⟨.ok a, s, hact, hnext⟩

theorem map_ends_iff {act : Act α} {f : α → β} :
    (act.map f).Ends b t ↔ ∃ a, f a = b ∧ act.Ends a t := by
  constructor
  · rintro ⟨hvalue, hsession, hgapless⟩
    exact ⟨act.value, hvalue, rfl, hsession, hgapless⟩
  · rintro ⟨a, rfl, rfl, hsession, hgapless⟩
    exact ⟨rfl, hsession, hgapless⟩

end Act

namespace Session

variable {w : Workspace} {setup : Setup} {s t : Session}

/-! ## Checks -/

/-- The diagnostics that a pass puts in the place of those of a file, if it is completed. -/
def verdict (w : Workspace) (setup : Setup) (file : FilePath) (target : Target) :
    Option (List Diagnostic) :=
  match readTexts w file target with
  | .error _ => none
  | .ok (text, schemaText) =>
    match Evaluation.ofText setup file text target.label schemaText with
    | .error _ => none
    | .ok evaluation => some (evaluation.diagnostics file)

/-- A session comes from another one by the check of a file. -/
structure Checked (w : Workspace) (setup : Setup) (file : FilePath) (target : Target)
    (s t : Session) : Prop where
  index_eq : t.index = s.index
  verdict_eq : verdict w setup file target = some (t.store.diagnosticsFor file)
  others_eq : ∀ other, other ≠ file →
    t.store.diagnosticsFor other = s.store.diagnosticsFor other

/-- The verdict on a file depends on no text but its own and that of its schema. -/
theorem verdict_congr {w' : Workspace} {file : FilePath} {target : Target}
    (htext : w'.text file = w.text file) (htarget : target.read w' = target.read w) :
    verdict w' setup file target = verdict w setup file target := by
  unfold verdict readTexts
  rw [htext, htarget]

theorem clear_ends {display : Display} {file : FilePath}
    (h : (s.clear display file).Ends (.ok ()) t) :
    t.index = s.index ∧ ∀ other,
      t.store.diagnosticsFor other = if other = file then [] else s.store.diagnosticsFor other := by
  unfold clear at h
  split at h
  next hempty =>
    obtain ⟨-, rfl⟩ := Act.done_ends_iff.mp h
    refine ⟨rfl, fun other => ?_⟩
    split
    next hfile => exact hfile ▸ List.isEmpty_iff.mp hempty
    next => rfl
  next =>
    split at h
    next => exact absurd h Act.not_broken_ends
    next =>
      obtain ⟨-, h⟩ := Act.after_ends_iff.mp h
      obtain ⟨-, rfl⟩ := Act.done_ends_iff.mp h
      exact ⟨rfl, Store.diagnosticsFor_clear s.store file⟩

theorem add_ends {display : Display} {d : Diagnostic}
    (h : (s.add display d).Ends (.ok ()) t) : t = { s with store := s.store.add d } := by
  unfold add at h
  dsimp only at h
  split at h
  next => exact absurd h Act.not_broken_ends
  next =>
    obtain ⟨-, h⟩ := Act.after_ends_iff.mp h
    exact (Act.done_ends_iff.mp h).2.symm

theorem addAll_ends {display : Display} {file : FilePath} {ds : List Diagnostic}
    (hfile : ∀ d ∈ ds, d.file = file) (h : (s.addAll display ds).Ends (.ok ()) t) :
    t.index = s.index ∧ ∀ other,
      t.store.diagnosticsFor other =
        if other = file then s.store.diagnosticsFor other ++ ds
        else s.store.diagnosticsFor other := by
  induction ds generalizing s with
  | nil =>
      obtain ⟨-, rfl⟩ := Act.done_ends_iff.mp h
      simp
  | cons d rest ih =>
      obtain ⟨_, middle, hadd, hrest⟩ := Act.andThen_ends_iff.mp h
      obtain ⟨hindex, hothers⟩ := ih (fun e he => hfile e (List.mem_cons_of_mem d he)) hrest
      rw [add_ends hadd] at hindex hothers
      refine ⟨hindex, fun other => ?_⟩
      rw [hothers other, Store.diagnosticsFor_add, hfile d List.mem_cons_self]
      split
      next => simp
      next => rfl

theorem check_ends {file : FilePath} {target : Target}
    (h : (s.check w setup file target).Ends (.ok ()) t) : Checked w setup file target s t := by
  have hgap : ∀ {entry : Entry}, entry.isGap = true →
      ¬((s.done ()).logging entry).Ends (.ok ()) t := by
    intro entry hentry hends
    have hnot := (Act.logging_ends_iff.mp hends).1
    rw [hentry] at hnot
    cases hnot
  unfold check at h
  split at h
  next => exact absurd h Act.not_broken_ends
  next => exact absurd h (hgap rfl)
  next text schemaText htexts =>
    unfold conclude at h
    split at h
    next => exact absurd h (hgap rfl)
    next => exact absurd h Act.not_broken_ends
    next evaluation hevaluated =>
      obtain ⟨-, h⟩ := Act.after_ends_iff.mp h
      obtain ⟨_, middle, hclear, hadd⟩ := Act.andThen_ends_iff.mp h
      have hfile : ∀ d ∈ evaluation.diagnostics file, d.file = file := by
        intro d hd
        obtain ⟨finding, -, rfl⟩ := List.mem_map.mp hd
        rfl
      -- The file is cleared before anything is added, so what is added is all that is left.
      obtain ⟨hclearIndex, hcleared⟩ := clear_ends hclear
      obtain ⟨haddIndex, hadded⟩ := addAll_ends hfile hadd
      refine ⟨haddIndex.trans hclearIndex, ?_, fun other hother => ?_⟩
      · rw [hadded file, if_pos rfl, hcleared file, if_pos rfl, List.nil_append]
        simp only [verdict, htexts, hevaluated]
      · rw [hadded other, if_neg hother, hcleared other, if_neg hother]

/-! ## Finding a schema -/

/-- The names in a directory, none if they are not known. -/
def namesBeside (w : Workspace) (directory : FilePath) : List String :=
  match w.list directory with
  | .ok names => names
  | .error _ => []

/-- The schema that the files there are give a file. -/
def schemaOf (w : Workspace) (file : FilePath) : Except AccessFault (Option FilePath) :=
  Convention.choose w file.parent (namesBeside w file.parent) (Convention.candidates file)

/-- The index after a file was found to have a schema, or none. -/
def placed (index : Index) (file : FilePath) : Option FilePath → Index
  | none => index.dissociate file
  | some schema => index.associate schema file

/-- What a file is checked against when its schema, if it has one, is known. -/
def targetOf : Option FilePath → Target
  | none => .nothing
  | some schema => .ofFile schema

theorem resolve_schema_ends {file : FilePath} {found : Option FilePath}
    (hschema : Convention.isSchemaName file.name = true)
    (h : (s.resolve w file).Ends (.ok found) t) : found = none ∧ t = s := by
  rw [resolve, if_pos hschema] at h
  obtain ⟨hfound, hsession⟩ := Act.done_ends_iff.mp h
  exact ⟨hfound.symm, hsession.symm⟩

theorem namesIn_ends {directory : FilePath} {names : List String}
    (h : (s.namesIn w directory).Ends (.ok names) t) : names = namesBeside w directory ∧ t = s := by
  unfold namesIn at h
  split at h
  next hlist =>
    obtain ⟨hnames, hsession⟩ := Act.done_ends_iff.mp h
    exact ⟨by rw [namesBeside, hlist, hnames], hsession.symm⟩
  next => exact absurd h Act.not_broken_ends
  next hlist =>
    obtain ⟨-, h⟩ := Act.logging_ends_iff.mp h
    obtain ⟨hnames, hsession⟩ := Act.done_ends_iff.mp h
    exact ⟨by rw [namesBeside, hlist, hnames], hsession.symm⟩

theorem resolve_file_ends {file : FilePath} {found : Option FilePath}
    (hschema : Convention.isSchemaName file.name = false)
    (h : (s.resolve w file).Ends (.ok found) t) :
    schemaOf w file = .ok found ∧
      t = found.elim s fun schema => { s with index := s.index.associate schema file } := by
  rw [resolve, if_neg (by simp [hschema])] at h
  obtain ⟨names, middle, hnames, hrest⟩ := Act.andThen_ends_iff.mp h
  obtain ⟨rfl, rfl⟩ := namesIn_ends hnames
  unfold schemaOf
  split at hrest
  next => exact absurd hrest Act.not_broken_ends
  next hchoose =>
    obtain ⟨rfl, hsession⟩ := Act.done_ends_iff.mp hrest
    exact ⟨hchoose, hsession.symm⟩
  next hchoose =>
    obtain ⟨rfl, hsession⟩ := Act.done_ends_iff.mp hrest
    exact ⟨hchoose, hsession.symm⟩

theorem resolve_ends_of_schemaOf {file : FilePath} {names : List String}
    {found : Option FilePath} (hschema : Convention.isSchemaName file.name = false)
    (hlist : w.list file.parent = .ok names) (hfound : schemaOf w file = .ok found) :
    (s.resolve w file).Ends (.ok found)
      (found.elim s fun schema => { s with index := s.index.associate schema file }) := by
  rw [resolve, if_neg (by simp [hschema])]
  refine Act.andThen_ends_iff.mpr ⟨names, s, ?_, ?_⟩
  · rw [namesIn, hlist]
    exact Act.done_ends_iff.mpr ⟨rfl, rfl⟩
  · rw [schemaOf, namesBeside, hlist] at hfound
    dsimp only at hfound
    rw [hfound]
    cases found with
    | none => exact Act.done_ends_iff.mpr ⟨rfl, rfl⟩
    | some schema => exact Act.done_ends_iff.mpr ⟨rfl, rfl⟩

/-! ## Jobs -/

theorem start_check_ends {file : FilePath} {target : Target} {jobs : List Job}
    (h : (s.start w setup (.check file target)).Ends (.ok jobs) t) :
    jobs = [] ∧ Checked w setup file target s t := by
  obtain ⟨_, middle, hcheck, h⟩ := Act.andThen_ends_iff.mp h
  obtain ⟨hjobs, rfl⟩ := Act.done_ends_iff.mp h
  exact ⟨hjobs.symm, check_ends hcheck⟩

theorem startAll_nil_ends {jobs : List Job} (h : (s.startAll w setup []).Ends jobs t) :
    jobs = [] ∧ t = s := by
  obtain ⟨hjobs, hsession⟩ := Act.stay_ends_iff.mp h
  exact ⟨hjobs.symm, hsession.symm⟩

/-- Jobs that end when they are started together have ended one after the other. -/
theorem startAll_cons_ends {job : Job} {rest jobs : List Job}
    (h : (s.startAll w setup (job :: rest)).Ends jobs t) :
    ∃ own middle others, (s.start w setup job).Ends (.ok own) middle ∧
      (middle.startAll w setup rest).Ends others t ∧ jobs = own ++ others := by
  obtain ⟨own, middle, hfirst, h⟩ := Act.bind_ends_iff.mp h
  obtain ⟨others, hjobs, hrest⟩ := Act.map_ends_iff.mp h
  obtain ⟨result, last, hstart, hawaited⟩ := Act.bind_ends_iff.mp hfirst
  cases result with
  | error reason =>
      -- A job that breaks down is noted and the others go on, but such a note is a gap.
      have hgap := (Act.logging_ends_iff.mp hawaited).1
      cases hgap
  | ok found =>
      obtain ⟨rfl, rfl⟩ := Act.stay_ends_iff.mp hawaited
      exact ⟨found, last, others, hstart, hrest, hjobs.symm⟩

/-- A session comes from another one by checks of files against one target. -/
structure CheckedEach (w : Workspace) (setup : Setup) (target : Target) (files : List FilePath)
    (s t : Session) : Prop where
  index_eq : t.index = s.index
  verdict_eq : ∀ p ∈ files, verdict w setup p target = some (t.store.diagnosticsFor p)
  others_eq : ∀ p ∉ files, t.store.diagnosticsFor p = s.store.diagnosticsFor p

theorem CheckedEach.nil (w : Workspace) (setup : Setup) (target : Target) (s : Session) :
    CheckedEach w setup target [] s s :=
  ⟨rfl, by simp, fun _ _ => rfl⟩

/-- A file may be checked twice, and then its last check counts. -/
theorem CheckedEach.cons {file : FilePath} {target : Target} {files : List FilePath}
    {middle : Session} (hfirst : Checked w setup file target s middle)
    (hrest : CheckedEach w setup target files middle t) :
    CheckedEach w setup target (file :: files) s t := by
  refine ⟨hrest.index_eq.trans hfirst.index_eq, fun p hp => ?_, fun p hp => ?_⟩
  · by_cases hmem : p ∈ files
    · exact hrest.verdict_eq p hmem
    · rcases List.mem_cons.mp hp with rfl | hp
      · rw [hrest.others_eq p hmem]
        exact hfirst.verdict_eq
      · exact absurd hp hmem
  · rw [List.mem_cons, not_or] at hp
    rw [hrest.others_eq p hp.2, hfirst.others_eq p hp.1]

theorem startAll_checks_ends {target : Target} {files : List FilePath} {jobs : List Job}
    (h : (s.startAll w setup (files.map fun file => .check file target)).Ends jobs t) :
    jobs = [] ∧ CheckedEach w setup target files s t := by
  induction files generalizing s jobs with
  | nil =>
      obtain ⟨rfl, rfl⟩ := startAll_nil_ends h
      exact ⟨rfl, .nil w setup target t⟩
  | cons file rest ih =>
      obtain ⟨own, middle, others, hstart, hrest, rfl⟩ := startAll_cons_ends h
      obtain ⟨rfl, hchecked⟩ := start_check_ends hstart
      obtain ⟨rfl, hothers⟩ := ih hrest
      exact ⟨rfl, .cons hchecked hothers⟩

theorem settle_nil_ends_iff {n : Nat} : (s.settle w setup n []).Ends () t ↔ s = t := by
  induction n generalizing s with
  | zero => simp [settle, Act.stay_ends_iff]
  | succ n ih =>
      constructor
      · intro h
        obtain ⟨jobs, middle, hall, hrest⟩ := Act.bind_ends_iff.mp h
        obtain ⟨rfl, rfl⟩ := startAll_nil_ends hall
        exact ih.mp hrest
      · intro h
        exact Act.bind_ends_iff.mpr ⟨[], s, Act.stay_ends_iff.mpr ⟨rfl, rfl⟩, ih.mpr h⟩

theorem perform_ends_iff {job : Job} :
    (s.perform w setup job).Ends (.ok ()) t ↔
      ∃ jobs middle, (s.start w setup job).Ends (.ok jobs) middle ∧
        (middle.settle w setup generations jobs).Ends () t := by
  rw [perform, Act.andThen_ends_iff]
  refine exists_congr fun jobs => exists_congr fun middle => and_congr_right fun _ => ?_
  rw [Act.map_ends_iff]
  exact ⟨fun ⟨_, _, hsettle⟩ => hsettle, fun hsettle => ⟨(), rfl, hsettle⟩⟩

/-- A visit ends where its jobs end if they are done one after the other. -/
theorem visit_ends_iff {files : List FilePath} :
    (s.visit w setup files).Ends () t ↔
      (s.performAll w setup (files.map .changed)).Ends (.ok ()) t := by
  induction files generalizing s with
  | nil => exact Act.stay_ends_iff.trans Act.done_ends_iff.symm
  | cons file rest ih =>
      constructor
      · intro h
        obtain ⟨_, middle, hfirst, hrest⟩ := Act.bind_ends_iff.mp h
        obtain ⟨result, last, hperform, hend⟩ := Act.bind_ends_iff.mp hfirst
        cases result with
        | error reason =>
            have hgap := (Act.logging_ends_iff.mp hend).1
            cases hgap
        | ok value =>
            obtain ⟨-, rfl⟩ := Act.stay_ends_iff.mp hend
            exact Act.andThen_ends_iff.mpr ⟨(), last, hperform, ih.mp hrest⟩
      · intro h
        obtain ⟨_, middle, hperform, hrest⟩ := Act.andThen_ends_iff.mp h
        refine Act.bind_ends_iff.mpr ⟨(), middle, ?_, ih.mpr hrest⟩
        exact Act.bind_ends_iff.mpr ⟨.ok (), middle, hperform, Act.stay_ends_iff.mpr ⟨rfl, rfl⟩⟩

end Session

end Conform
