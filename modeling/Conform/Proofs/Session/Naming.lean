import Conform.Proofs.Session.Vigil

/-! # The names of files and schemas in the index

Only finding the schema of a file puts a pair into the index, and what is found
goes with the file by its name. So whatever is called, among whatever files, and
whatever breaks down, the index pairs files with schemas that go with them.
-/

namespace Conform

/-! ## What holds at the end of an act -/

namespace Act

variable {α β : Type} {motive : Session → Prop}

theorem bind_session {act : Act α} {next : α → Session → Act β} (hact : motive act.session)
    (hnext : ∀ a s, motive s → motive (next a s).session) : motive (act.bind next).session :=
  hnext act.value act.session hact

theorem andThen_session {act : Outcome α} {next : α → Session → Outcome β}
    (hact : motive act.session) (hnext : ∀ a s, motive s → motive (next a s).session) :
    motive (act.andThen next).session := by
  refine bind_session hact fun result s hs => ?_
  cases result with
  | ok a => exact hnext a s hs
  | error reason => exact hs

end Act

namespace Session

variable {w : Workspace} {setup : Setup}

theorem clear_index (display : Display) (file : FilePath) (s : Session) :
    (s.clear display file).session.index = s.index := by
  unfold clear
  split
  · rfl
  · split <;> rfl

theorem add_index (display : Display) (d : Diagnostic) (s : Session) :
    (s.add display d).session.index = s.index := by
  unfold add
  dsimp only
  split <;> rfl

theorem addAll_index (display : Display) (ds : List Diagnostic) (s : Session) :
    (s.addAll display ds).session.index = s.index := by
  induction ds generalizing s with
  | nil => rfl
  | cons d rest ih =>
      refine Act.andThen_session (motive := fun t => t.index = s.index) ?_ fun _ t ht => ?_
      · exact add_index display d s
      · exact (ih t).trans ht

/-- A check leaves the index alone, however it ends. -/
theorem check_index (w : Workspace) (setup : Setup) (file : FilePath) (target : Target)
    (s : Session) : (s.check w setup file target).session.index = s.index := by
  unfold check
  split
  · rfl
  · rfl
  · unfold conclude
    split
    · rfl
    · rfl
    · refine Act.andThen_session (motive := fun t => t.index = s.index) ?_ fun _ t ht => ?_
      · exact clear_index setup.display file s
      · exact (addAll_index setup.display _ t).trans ht

theorem namesIn_session (w : Workspace) (directory : FilePath) (s : Session) :
    (s.namesIn w directory).session = s := by
  unfold namesIn
  split <;> rfl

/-! ## What every job keeps -/

section Keeps

variable {w : Workspace} {setup : Setup} {motive : Session → Prop} {s : Session}

/-- What starting a job keeps is kept by starting any number of jobs. -/
theorem startAll_session (hstart : ∀ (job : Job) t, motive t → motive (t.start w setup job).session)
    (hs : motive s) (jobs : List Job) : motive (s.startAll w setup jobs).session := by
  induction jobs generalizing s with
  | nil => exact hs
  | cons job rest ih =>
      refine Act.bind_session (Act.bind_session (hstart job s hs) ?_) fun _ t ht => ih ht
      intro result t ht
      cases result <;> exact ht

theorem settle_session (hstart : ∀ (job : Job) t, motive t → motive (t.start w setup job).session)
    (hs : motive s) (n : Nat) (jobs : List Job) : motive (s.settle w setup n jobs).session := by
  induction n generalizing s jobs with
  | zero => exact hs
  | succ n ih =>
      exact Act.bind_session (startAll_session hstart hs jobs) fun more t ht => ih ht more

/-- What starting a job keeps is kept by doing it to its end. -/
theorem perform_session (hstart : ∀ (job : Job) t, motive t → motive (t.start w setup job).session)
    (hs : motive s) (job : Job) : motive (s.perform w setup job).session :=
  Act.andThen_session (hstart job s hs) fun jobs _ ht => settle_session hstart ht generations jobs

end Keeps

end Session

/-! ## Pairs that go together -/

/-- A file is the schema of another one as far as their names say: both lie in one directory, the
one has the name of a schema, the other one has not, and the name is, up to case, one of those
that the schema of the file may have. -/
structure Convention.GoesWith (schema file : FilePath) : Prop where
  parent_eq : schema.parent = file.parent
  schema_isSchemaName : isSchemaName schema.name = true
  file_isSchemaName : isSchemaName file.name = false
  lower_eq : ∃ candidate ∈ candidates file, Text.lower schema.name = Text.lower candidate

theorem Convention.goesWith_of_choose {w : Workspace} {names : List String}
    {file schema : FilePath} (hfile : isSchemaName file.name = false)
    (h : choose w file.parent names (candidates file) = .ok (some schema)) :
    GoesWith schema file := by
  obtain ⟨name, -, rfl, -, candidate, hcandidate, hlower⟩ := exists_of_choose h
  have hname : (file.parent.child name).name = name := FilePath.name_child file.parent name
  refine ⟨FilePath.parent_child file.parent name, ?_, hfile, candidate, hcandidate, ?_⟩
  · rw [hname, isSchemaName_congr hlower]
    exact isSchemaName_of_mem_candidates hcandidate
  · rw [hname, hlower]

/-- No file is its own schema. -/
theorem Convention.GoesWith.ne {schema file : FilePath} (h : GoesWith schema file) :
    file ≠ schema := by
  rintro rfl
  have hname := h.schema_isSchemaName
  rw [h.file_isSchemaName] at hname
  cases hname

/-- A well-formed index in which every file goes with its schema. -/
structure Index.IsNamed (index : Index) : Prop where
  wellFormed : index.WellFormed
  goesWith : ∀ {schema file}, index.Holds schema file → Convention.GoesWith schema file

namespace Index.IsNamed

variable {index : Index}

theorem empty : Index.empty.IsNamed where
  wellFormed := empty_wellFormed
  goesWith := by
    rintro schema file ⟨files, hentry, -⟩
    simp [Index.empty] at hentry

theorem associate (hindex : index.IsNamed) {schema file : FilePath}
    (hpair : Convention.GoesWith schema file) : (index.associate schema file).IsNamed where
  wellFormed := associate_wellFormed hindex.wellFormed schema file
  goesWith {other listed} h := by
    rw [associate_holds_iff] at h
    split at h
    next hlisted => rw [h, hlisted]; exact hpair
    next => exact hindex.goesWith h

theorem dissociate (hindex : index.IsNamed) (file : FilePath) :
    (index.dissociate file).IsNamed where
  wellFormed := dissociate_wellFormed hindex.wellFormed file
  goesWith h := hindex.goesWith (dissociate_holds_iff.mp h).1

theorem remove (hindex : index.IsNamed) (path : FilePath) : (index.remove path).2.IsNamed where
  wellFormed := remove_wellFormed hindex.wellFormed path
  goesWith h := hindex.goesWith (remove_holds_iff.mp h).1

end Index.IsNamed

/-! ## Jobs -/

namespace Session

variable {w : Workspace} {setup : Setup} {s : Session}

theorem checked_isNamed (hs : s.index.IsNamed) (file : FilePath) (target : Target) :
    ((s.check w setup file target).andThen fun _ t =>
      t.done ([] : List Job)).session.index.IsNamed := by
  refine Act.andThen_session (motive := fun t => t.index.IsNamed) ?_ fun _ _ ht => ht
  rw [check_index]
  exact hs

theorem resolve_isNamed (hs : s.index.IsNamed) (file : FilePath) :
    (s.resolve w file).session.index.IsNamed := by
  unfold resolve
  split
  next => exact hs
  next hname =>
    rw [Bool.not_eq_true] at hname
    refine Act.andThen_session (motive := fun t => t.index.IsNamed) ?_ fun names t ht => ?_
    · rw [namesIn_session]
      exact hs
    · split
      next => exact ht
      next => exact ht
      next hfound => exact ht.associate (Convention.goesWith_of_choose hname hfound)

theorem startByConvention_isNamed (hs : s.index.IsNamed) (file : FilePath) :
    (s.startByConvention w setup file).session.index.IsNamed := by
  refine Act.andThen_session (motive := fun t => t.index.IsNamed) (resolve_isNamed hs file)
    fun found t ht => ?_
  cases found with
  | some schema => exact checked_isNamed ht file (.ofFile schema)
  | none =>
      have hdropped : (Session.mk (t.index.dissociate file) t.store).index.IsNamed :=
        ht.dissociate file
      dsimp only
      split
      · exact checked_isNamed hdropped file .nothing
      · exact hdropped

theorem startPresent_isNamed (hs : s.index.IsNamed) (file : FilePath) :
    (s.startPresent w setup file).session.index.IsNamed := by
  unfold startPresent
  split
  next text _ => exact checked_isNamed hs file (.ofText text)
  next =>
    split
    · exact startByConvention_isNamed hs file
    · exact hs

/-- Starting a job keeps the index named, whether or not the job breaks down. -/
theorem start_isNamed (hs : s.index.IsNamed) (job : Job) :
    (s.start w setup job).session.index.IsNamed := by
  cases job with
  | check file target => exact checked_isNamed hs file target
  | changed file =>
      unfold start startChanged
      dsimp only
      split
      · exact hs
      · exact hs
      · exact startPresent_isNamed hs (w.absolute file)
  | removed file => exact hs.remove (w.absolute file)

theorem perform_isNamed (hs : s.index.IsNamed) (job : Job) :
    (s.perform w setup job).session.index.IsNamed :=
  perform_session (motive := fun t => t.index.IsNamed) (fun _ _ ht => start_isNamed ht _) hs job

end Session

/-! ## Calls -/

/-- What may be asked of a session from outside. -/
inductive Call
  /-- A job is done to its end. -/
  | perform (job : Job)
  /-- A job is started, and what it waits for is left to other calls. Jobs that overlap are started
  one by one and never undone, so each order of their parts is a list of such calls. -/
  | start (job : Job)
  /-- The schema of a file is looked for. -/
  | resolve (file : FilePath)

namespace Session

/-- The session after a call, whether or not the call broke down. -/
def afterCall (w : Workspace) (setup : Setup) (s : Session) : Call → Session
  | .perform job => (s.perform w setup job).session
  | .start job => (s.start w setup job).session
  | .resolve file => (s.resolve w file).session

/-- The session after calls, each of them among the files there are by then. -/
def afterCalls (setup : Setup) (s : Session) (calls : List (Workspace × Call)) : Session :=
  calls.foldl (fun s (w, call) => s.afterCall w setup call) s

/-- What each of the calls keeps is kept by all of them. -/
theorem afterCalls_session {setup : Setup} {motive : Session → Prop} {s : Session}
    {calls : List (Workspace × Call)}
    (hcall : ∀ call ∈ calls, ∀ t, motive t → motive (t.afterCall call.1 setup call.2))
    (hs : motive s) : motive (s.afterCalls setup calls) := by
  unfold afterCalls
  induction calls generalizing s with
  | nil => exact hs
  | cons call rest ih =>
      have hrest := fun other hother => hcall other (List.mem_cons_of_mem call hother)
      exact ih hrest (hcall call List.mem_cons_self s hs)

theorem afterCall_isNamed {w : Workspace} {setup : Setup} {s : Session} (hs : s.index.IsNamed)
    (call : Call) : (s.afterCall w setup call).index.IsNamed := by
  unfold afterCall
  cases call with
  | perform job => exact perform_isNamed hs job
  | start job => exact start_isNamed hs job
  | resolve file => exact resolve_isNamed hs file

theorem afterCalls_isNamed {setup : Setup} {s : Session} (hs : s.index.IsNamed)
    (calls : List (Workspace × Call)) : (s.afterCalls setup calls).index.IsNamed :=
  afterCalls_session (motive := fun t => t.index.IsNamed)
    (fun call _ _ ht => afterCall_isNamed ht call.2) hs

end Session

/-- Every file that the index lists goes with its schema and is listed under no other one, and no
entry is empty. So nothing is both a schema in use and a file under one, least of all its own. -/
structure Index.IsConventional (index : Index) : Prop where
  goesWith : ∀ {schema file}, index.Holds schema file → Convention.GoesWith schema file
  holds_unique : ∀ {first second file}, index.Holds first file → index.Holds second file →
    first = second
  files_ne_nil : ∀ entry ∈ index.entries, entry.2 ≠ []
  not_holds_of_mem_schemas : ∀ {path}, path ∈ index.schemas → ∀ schema, ¬index.Holds schema path
  not_holds_self : ∀ path, ¬index.Holds path path

/-- From an empty index no calls lead to an index that is not conventional, whatever the files are
at each of them and whichever of them break down. -/
theorem Session.afterCalls_index_isConventional (setup : Setup) (store : Store)
    (calls : List (Workspace × Call)) :
    (afterCalls setup ⟨.empty, store⟩ calls).index.IsConventional := by
  have hnamed : (afterCalls setup ⟨.empty, store⟩ calls).index.IsNamed :=
    afterCalls_isNamed .empty calls
  -- A schema in use has the name of a schema, and a file under a schema has not.
  have hname : ∀ {path}, path ∈ (afterCalls setup ⟨.empty, store⟩ calls).index.schemas →
      Convention.isSchemaName path.name = true := by
    intro path hpath
    obtain ⟨file, hholds⟩ := (Index.mem_schemas_iff hnamed.wellFormed).mp hpath
    exact (hnamed.goesWith hholds).schema_isSchemaName
  have happart : ∀ {path}, path ∈ (afterCalls setup ⟨.empty, store⟩ calls).index.schemas →
      ∀ schema, ¬(afterCalls setup ⟨.empty, store⟩ calls).index.Holds schema path := by
    intro path hpath schema hholds
    have hfile := (hnamed.goesWith hholds).file_isSchemaName
    rw [hname hpath] at hfile
    cases hfile
  refine ⟨hnamed.goesWith, hnamed.wellFormed.holds_unique, hnamed.wellFormed.files_ne_nil,
    happart, fun path hholds => ?_⟩
  exact happart ((Index.mem_schemas_iff hnamed.wellFormed).mpr ⟨path, hholds⟩) path hholds

end Conform
