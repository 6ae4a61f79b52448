import Conform.Proofs.Session.Changes

/-! # Removals

What events put under a schema are documents that no provider answers for. When
a schema is removed, each of the files that stood under it has changed, once, and
nothing else has. None of these changes is about another file, so whichever of
them break down, each of the files is put where the convention puts it now, and
all other files are left alone.
-/

namespace Conform

/-! ## Files that go by the convention -/

/-- A file goes by the convention: its path starts at a root, it has the name of a document, and no
provider answers for it. -/
structure Convention.Governs (setup : Setup) (file : FilePath) : Prop where
  start_ne : file.start ≠ .here
  isDocumentName : isDocumentName file.name = true
  first?_eq_none : Provider.first? setup.providers file = none

/-- Every file that the index lists goes by the convention. -/
structure Index.IsGoverned (setup : Setup) (index : Index) : Prop extends index.IsNamed where
  governs : ∀ {schema file}, index.Holds schema file → Convention.Governs setup file

namespace Index.IsGoverned

variable {setup : Setup} {index : Index}

theorem empty (setup : Setup) : Index.empty.IsGoverned setup where
  toIsNamed := .empty
  governs := by
    rintro schema file ⟨files, hentry, -⟩
    simp [Index.empty] at hentry

theorem associate (hindex : index.IsGoverned setup) {schema file : FilePath}
    (hnamed : (index.associate schema file).IsNamed) (hfile : Convention.Governs setup file) :
    (index.associate schema file).IsGoverned setup where
  toIsNamed := hnamed
  governs {other listed} h := by
    rw [associate_holds_iff] at h
    split at h
    next hlisted => rw [hlisted]; exact hfile
    next => exact hindex.governs h

theorem dissociate (hindex : index.IsGoverned setup) (file : FilePath) :
    (index.dissociate file).IsGoverned setup where
  toIsNamed := hindex.toIsNamed.dissociate file
  governs h := hindex.governs (dissociate_holds_iff.mp h).1

theorem remove (hindex : index.IsGoverned setup) (path : FilePath) :
    (index.remove path).2.IsGoverned setup where
  toIsNamed := hindex.toIsNamed.remove path
  governs h := hindex.governs (remove_holds_iff.mp h).1

end Index.IsGoverned

/-- Whether a call is an event: a job that is started or done. -/
def Call.isEvent : Call → Bool
  | resolve _ => false
  | _ => true

namespace Session

variable {w : Workspace} {setup : Setup} {s t : Session} {file : FilePath}

/-- Only documents that no provider answers for are put under schemas. -/
theorem governs_of_course {schema : FilePath} (hstart : file.start ≠ .here)
    (h : course w setup file = .under schema) : Convention.Governs setup file := by
  unfold course at h
  split at h
  next => cases h
  next => cases h
  next =>
    split at h
    next => cases h
    next hnone =>
      split at h
      next hname => exact ⟨hstart, hname, hnone⟩
      next => cases h

theorem startCourse_index (w : Workspace) (setup : Setup) (file : FilePath) (s : Session)
    (course : Course) : (s.startCourse w setup file course).session.index = s.index := by
  cases course with
  | broken reason => rfl
  | idle => rfl
  | provided text => exact (congrArg index (andThen_done_session _)).trans (check_index w setup _ _ s)
  | under schema => exact (congrArg index (andThen_done_session _)).trans (check_index w setup _ _ s)
  | alone =>
      rw [startCourse]
      split
      · exact (congrArg index (andThen_done_session _)).trans (check_index w setup _ _ s)
      · rfl

theorem start_changed_index (w : Workspace) (setup : Setup) (file : FilePath) (s : Session) :
    (s.start w setup (.changed file)).session.index =
      (s.placing w setup (w.absolute file)).index := by
  obtain ⟨notes, -, hstart⟩ := start_changed_eq w setup file s
  rw [hstart]
  exact startCourse_index w setup _ _ _

/-- What is started where paths are taken from a root keeps it so that the index lists only files
that go by the convention. -/
theorem start_isGoverned (hcurrent : w.current.start ≠ .here) (hs : s.index.IsGoverned setup)
    (job : Job) : (s.start w setup job).session.index.IsGoverned setup := by
  cases job with
  | check file target =>
      have hsame : (s.start w setup (.check file target)).session.index = s.index :=
        (congrArg index (andThen_done_session _)).trans (check_index w setup file target s)
      rw [hsame]
      exact hs
  | changed file =>
      have hnamed : (s.start w setup (.changed file)).session.index.IsNamed :=
        start_isNamed hs.toIsNamed (.changed file)
      have hstart : (w.absolute file).start ≠ .here := FilePath.start_join_ne hcurrent file
      rw [start_changed_index] at hnamed ⊢
      unfold placing at hnamed ⊢
      cases hcourse : course w setup (w.absolute file) with
      | under schema =>
          rw [hcourse] at hnamed
          exact hs.associate hnamed (governs_of_course hstart hcourse)
      | alone => exact hs.dissociate (w.absolute file)
      | broken reason => exact hs
      | idle => exact hs
      | provided text => exact hs
  | removed file => exact hs.remove (w.absolute file)

/-- Events that come where paths are taken from a root put only files that go by the convention
into the index. -/
theorem afterCalls_isGoverned {calls : List (Workspace × Call)} (hs : s.index.IsGoverned setup)
    (hcalls : ∀ call ∈ calls, call.1.current.start ≠ .here ∧ call.2.isEvent = true) :
    (s.afterCalls setup calls).index.IsGoverned setup := by
  refine afterCalls_session (motive := fun t => t.index.IsGoverned setup) ?_ hs
  rintro ⟨w, call⟩ hcall t ht
  obtain ⟨hcurrent, hevent⟩ := hcalls _ hcall
  cases call with
  | perform job =>
      exact perform_session (motive := fun t => t.index.IsGoverned setup)
        (fun job _ ht => start_isGoverned hcurrent ht job) ht job
  | start job => exact start_isGoverned hcurrent ht job
  | resolve file => cases hevent

/-! ## The schema by the convention -/

theorem choose_nil (w : Workspace) (directory : FilePath) (wanted : List String) :
    Convention.choose w directory [] wanted = .ok none := by
  induction wanted with
  | nil => rfl
  | cons first rest ih =>
      have hnone : Convention.find? [] first = none :=
        Convention.find?_eq_none_iff.mpr fun _ hname => by cases hname
      rw [Convention.choose, hnone]
      exact ih

/-- What is found for a file that has not the name of a schema is its schema by the convention. -/
theorem toOption_resolved (hname : Convention.isSchemaName file.name = false) :
    (resolved w file).toOption.join = (schemaOf w file).toOption.join := by
  have hnot : ¬Convention.isSchemaName file.name = true := by simp [hname]
  unfold resolved schemaOf namesBeside
  rw [resolve, if_neg hnot, namesIn]
  -- Without a list of the names beside the file there is nothing to choose from.
  cases w.list file.parent with
  | error fault =>
      dsimp only
      rw [choose_nil]
      cases fault <;> simp only [Act.andThen, Act.bind, Act.logging, Act.after, done, broken, stay,
        choose_nil] <;> rfl
  | ok names =>
      dsimp only
      rw [Act.done_andThen]
      cases Convention.choose w file.parent names (Convention.candidates file) with
      | error fault => rfl
      | ok found => cases found <;> rfl

/-- The schema that a file has by the convention is a file. -/
theorem isFile_of_schemaOf {schema : FilePath}
    (h : (schemaOf w file).toOption.join = some schema) : w.isFile schema = .ok true := by
  cases hfound : schemaOf w file with
  | error fault =>
      rw [hfound] at h
      cases h
  | ok found =>
      rw [hfound] at h
      obtain rfl : found = some schema := h
      obtain ⟨name, -, -, hfile, -⟩ := Convention.exists_of_choose hfound
      exact hfile

theorem schemaAfter_course (hthere : leadsToFile w file = .ok true)
    (hfile : Convention.Governs setup file) (hname : Convention.isSchemaName file.name = false) :
    (course w setup file).schemaAfter none = (schemaOf w file).toOption.join := by
  rw [← toOption_resolved hname, course_eq hthere hfile.first?_eq_none hfile.isDocumentName]
  cases resolved w file with
  | error reason => rfl
  | ok found => cases found <;> rfl

/-- Nothing new is held about what leads to no file. -/
theorem standingAfter_of_not (hthere : leadsToFile w file ≠ .ok true) (before : Standing) :
    standingAfter w setup file before = before := by
  have hcourse : course w setup file = .idle ∨ ∃ reason, course w setup file = .broken reason := by
    unfold course
    cases hleads : leadsToFile w file with
    | error fault => exact Or.inr ⟨_, rfl⟩
    | ok isThere =>
        cases isThere with
        | false => exact Or.inl rfl
        | true => exact absurd hleads hthere
  unfold standingAfter
  rcases hcourse with hidle | ⟨reason, hbroken⟩
  · rw [hidle]
    rfl
  · rw [hbroken]
    rfl

/-! ## Changes one after the other -/

theorem changeEach_isNamed (hs : s.index.IsNamed) (files : List FilePath) :
    (s.changeEach w setup files).index.IsNamed := by
  apply changeEach_of (motive := fun t => t.index.IsNamed) files ?_ hs
  intro t file ht
  exact perform_isNamed ht _

/-- A path that starts at a root and has not the name of a schema. -/
structure IsPlain (file : FilePath) : Prop where
  start_ne : file.start ≠ .here
  isSchemaName : Convention.isSchemaName file.name = false

theorem IsPlain.absolute_eq (h : IsPlain file) (w : Workspace) : w.absolute file = file :=
  FilePath.join_eq_right h.start_ne

/-- The change of a file under which no other one stands waits for nothing. -/
theorem start_changed_isLone (w : Workspace) (setup : Setup) (hs : s.index.IsNamed)
    (hfile : IsPlain file) : IsLone (s.start w setup (.changed file)) := by
  have hnobody := (placing_isNamed w setup hs file).dependentsOf_eq_nil
    hfile.isSchemaName
  obtain ⟨notes, -, hstart⟩ := start_changed_eq w setup file s
  rw [hstart]
  rw [hfile.absolute_eq w] at hnobody ⊢
  apply IsLone.after
  cases course w setup file with
  | broken reason => exact broken_isLone _ reason
  | idle => exact done_isLone _
  | provided text => exact andThen_isLone _
  | under schema => exact andThen_isLone _
  | alone =>
      rw [startCourse, hnobody, FilePath.sort, List.mergeSort_nil]
      exact andThen_isLone _

theorem startAll_changed (w : Workspace) (setup : Setup) (hs : s.index.IsNamed) {files : List FilePath}
    (hfiles : ∀ d ∈ files, IsPlain d) :
    (s.startAll w setup (files.map .changed)).value = [] ∧
      (s.startAll w setup (files.map .changed)).session = s.changeEach w setup files := by
  have hjobs : ∀ job ∈ files.map Job.changed, ∀ t : Session, t.index.IsNamed →
      IsLone (t.start w setup job) ∧ (t.start w setup job).session.index.IsNamed := by
    intro job hjob t ht
    obtain ⟨d, hd, rfl⟩ := List.mem_map.mp hjob
    exact ⟨start_changed_isLone w setup ht (hfiles d hd), start_isNamed ht _⟩
  obtain ⟨hvalue, hsession⟩ := startAll_isLone _ hjobs hs
  refine ⟨hvalue, hsession.trans ?_⟩
  clear hjobs hvalue hsession
  rw [List.foldl_map, changeEach]
  induction files generalizing s with
  | nil => rfl
  | cons d rest ih =>
      have hlone := start_changed_isLone w setup hs (hfiles d List.mem_cons_self)
      rw [List.foldl_cons, List.foldl_cons, perform_session_of_isLone hlone]
      exact ih (start_isNamed hs _) fun e he => hfiles e (List.mem_cons_of_mem d he)

theorem perform_changed_standing_of_isPlain (w : Workspace) (setup : Setup)
    (hs : s.index.IsNamed) (hfile : IsPlain file) (p : FilePath) :
    (s.perform w setup (.changed file)).session.standing p =
      if p = file then standingAfter w setup p (s.standing p) else s.standing p := by
  have habsolute := hfile.absolute_eq w
  rw [perform_changed_standing hs (habsolute.symm ▸ hfile.isSchemaName), habsolute]
  split
  next hp => rw [hp]
  next => rfl

/-- Changes of files that are dealt with one after the other are each about one of the files. -/
theorem changeEach_standing (w : Workspace) (setup : Setup) (hs : s.index.IsNamed)
    {files : List FilePath} (hnodup : files.Nodup) (hfiles : ∀ d ∈ files, IsPlain d) (p : FilePath) :
    (s.changeEach w setup files).standing p =
      if p ∈ files then standingAfter w setup p (s.standing p) else s.standing p := by
  unfold changeEach
  induction files generalizing s with
  | nil => simp
  | cons d rest ih =>
      have hd := hfiles d List.mem_cons_self
      have hfirst := perform_changed_standing_of_isPlain w setup hs hd
      rw [List.nodup_cons] at hnodup
      rw [List.foldl_cons, ih (perform_isNamed hs _) hnodup.2 fun e he =>
        hfiles e (List.mem_cons_of_mem d he), hfirst]
      by_cases hp : p = d
      · subst hp
        simp [hnodup.1]
      · simp [hp]

/-- A change whose passes are all complete says of a file what its text comes to with the schema
that is found. -/
theorem perform_changed_found (hs : s.index.IsNamed) (hfile : Convention.Governs setup file)
    (hname : Convention.isSchemaName file.name = false) (hthere : leadsToFile w file = .ok true)
    (h : (s.perform w setup (.changed file)).Ends (.ok ()) t) :
    ∃ found, resolved w file = .ok found ∧
      verdict w setup file (targetOf found) = some (t.store.diagnosticsFor file) := by
  have hnobody := (placing_isNamed w setup hs file).dependentsOf_eq_nil hname
  have hcourse := course_eq hthere hfile.first?_eq_none hfile.isDocumentName
  obtain ⟨hwhole, hchecked⟩ := perform_changed_ends h
  rw [IsPlain.absolute_eq ⟨hfile.start_ne, hname⟩ w] at hnobody hwhole hchecked
  cases hfound : resolved w file with
  | error reason =>
      rw [hfound] at hcourse
      exact absurd hcourse (hwhole reason)
  | ok found =>
      refine ⟨found, rfl, ?_⟩
      rw [hfound] at hcourse
      cases found with
      | some schema =>
          rw [hcourse] at hchecked
          exact hchecked.verdict_eq file List.mem_cons_self
      | none =>
          rw [hcourse, Course.checks_alone_of_nil hnobody] at hchecked
          exact hchecked.verdict_eq file List.mem_cons_self

/-! ## Removals -/

/-- The session in which a path is forgotten. -/
def forgetting (file : FilePath) (s : Session) : Session :=
  { s with index := (s.index.remove file).2 }

/-- The session after the files that stood under a forgotten path were dealt with in order. -/
def afterForgetting (w : Workspace) (setup : Setup) (file : FilePath) (s : Session) : Session :=
  (s.forgetting file).changeEach w setup (FilePath.sort (s.index.dependentsOf file))

/-- What the session was before a path was forgotten and what it is after the files that stood under
it were dealt with. The path is neither a schema in use nor under one. Every file that stood under it
and still leads to a file stands where the convention puts it, and if its change was completed in its
turn, what is said of it is what its text comes to there. What stood under the path and leads to no
file stands nowhere. Of all other files the same is said, and they stand where they stood. -/
structure Forgets (w : Workspace) (setup : Setup) (file : FilePath) (s t : Session) : Prop where
  notMem_schemas : file ∉ t.index.schemas
  not_holds : ∀ schema, ¬t.index.Holds schema file
  schemaFor?_eq : ∀ d ∈ s.index.dependentsOf file, leadsToFile w d = .ok true →
    t.index.schemaFor? d = (schemaOf w d).toOption.join
  verdict_eq : ∀ d ∈ s.index.dependentsOf file, leadsToFile w d = .ok true →
    ∀ before after, FilePath.sort (s.index.dependentsOf file) = before ++ d :: after →
      ∀ u, (((s.forgetting file).changeEach w setup before).perform w setup (.changed d)).Ends
          (.ok ()) u →
        verdict w setup d (targetOf (t.index.schemaFor? d)) = some (t.store.diagnosticsFor d)
  gone : ∀ d ∈ s.index.dependentsOf file, leadsToFile w d ≠ .ok true →
    t.index.schemaFor? d = none ∧ t.store.diagnosticsFor d = s.store.diagnosticsFor d
  others : ∀ p ∉ s.index.dependentsOf file,
    t.store.diagnosticsFor p = s.store.diagnosticsFor p ∧
      (p ≠ file → ∀ schema, t.index.Holds schema p ↔ s.index.Holds schema p)

section Forgets

variable (hs : s.index.IsGoverned setup)

include hs

theorem former_isPlain {d : FilePath} (hd : d ∈ s.index.dependentsOf file) :
    Convention.Governs setup d ∧ IsPlain d := by
  have hholds := (Index.mem_dependentsOf_iff hs.wellFormed).mp hd
  have hgoverns := hs.governs hholds
  exact ⟨hgoverns, hgoverns.start_ne, (hs.goesWith hholds).file_isSchemaName⟩

theorem notMem_former : file ∉ s.index.dependentsOf file := fun hfile =>
  (hs.goesWith ((Index.mem_dependentsOf_iff hs.wellFormed).mp hfile)).ne rfl

theorem sort_former_nodup (file : FilePath) :
    (FilePath.sort (s.index.dependentsOf file)).Nodup :=
  (List.mergeSort_perm _ _).nodup_iff.mpr (Index.dependentsOf_nodup hs.wellFormed file)

/-- A removal comes to the changes of the files that stood under the path, one after the other. -/
theorem perform_removed_session (w : Workspace) (path : FilePath) :
    (s.perform w setup (.removed path)).session =
      s.afterForgetting w setup (w.absolute path) := by
  have hplain : ∀ d ∈ FilePath.sort (s.index.dependentsOf (w.absolute path)), IsPlain d :=
    fun d hd => (former_isPlain hs (FilePath.mem_sort.mp hd)).2
  have hstart : s.start w setup (.removed path) = (s.forgetting (w.absolute path)).done
      ((FilePath.sort (s.index.dependentsOf (w.absolute path))).map .changed) := rfl
  have hremoved : (s.forgetting (w.absolute path)).index.IsNamed := hs.toIsNamed.remove _
  obtain ⟨hvalue, hsession⟩ := startAll_changed w setup hremoved hplain
  rw [perform, hstart, Act.done_andThen]
  simp only [Act.map, generations, settle, Act.bind]
  rw [hvalue, hsession]
  rfl

theorem standing_after (w : Workspace) (file p : FilePath) :
    (s.afterForgetting w setup file).standing p =
      if p ∈ s.index.dependentsOf file then
        standingAfter w setup p ⟨none, s.store.diagnosticsFor p⟩
      else (s.forgetting file).standing p := by
  have hplain : ∀ d ∈ FilePath.sort (s.index.dependentsOf file), IsPlain d :=
    fun d hd => (former_isPlain hs (FilePath.mem_sort.mp hd)).2
  have hremoved : (s.forgetting file).index.IsNamed := hs.toIsNamed.remove file
  rw [afterForgetting, changeEach_standing w setup hremoved (sort_former_nodup hs file) hplain p]
  by_cases hp : p ∈ s.index.dependentsOf file
  · have hschema := (Index.mem_dependentsOf_iff_schemaFor? hs.wellFormed).mp hp
    have hstanding : (s.forgetting file).standing p = ⟨none, s.store.diagnosticsFor p⟩ := by
      rw [standing, forgetting, Index.schemaFor?_remove hs.wellFormed, if_pos (Or.inr hschema)]
    rw [if_pos (FilePath.mem_sort.mpr hp), if_pos hp, hstanding]
  · rw [if_neg (mt FilePath.mem_sort.mp hp), if_neg hp]

theorem perform_removed_schemaFor? (w : Workspace) {d : FilePath}
    (hd : d ∈ s.index.dependentsOf file) (hthere : leadsToFile w d = .ok true) :
    (s.afterForgetting w setup file).index.schemaFor? d = (schemaOf w d).toOption.join := by
  have hstanding := standing_after hs w file d
  rw [if_pos hd] at hstanding
  obtain ⟨hgoverns, hplain⟩ := former_isPlain hs hd
  exact (congrArg Standing.schema? hstanding).trans
    (schemaAfter_course hthere hgoverns hplain.isSchemaName)

/-- What is said of a file whose change was completed in its turn stays, because the changes that
come later are about other files. -/
theorem verdict_of_turn (w : Workspace) {d : FilePath} (hd : d ∈ s.index.dependentsOf file)
    (hthere : leadsToFile w d = .ok true) {before after : List FilePath}
    (hsort : FilePath.sort (s.index.dependentsOf file) = before ++ d :: after) {u : Session}
    (h : (((s.forgetting file).changeEach w setup before).perform w setup (.changed d)).Ends
      (.ok ()) u) :
    verdict w setup d (targetOf (schemaOf w d).toOption.join) =
      some ((s.afterForgetting w setup file).store.diagnosticsFor d) := by
  obtain ⟨hgoverns, hplain⟩ := former_isPlain hs hd
  have hbefore : ((s.forgetting file).changeEach w setup before).index.IsNamed :=
    changeEach_isNamed (hs.toIsNamed.remove file) before
  obtain ⟨found, hfound, hverdict⟩ :=
    perform_changed_found hbefore hgoverns hplain.isSchemaName hthere h
  have hlater : ∀ e ∈ after, IsPlain e := by
    intro e he
    have hmem : e ∈ FilePath.sort (s.index.dependentsOf file) := by
      rw [hsort]
      exact List.mem_append_right _ (List.mem_cons_of_mem d he)
    exact (former_isPlain hs (FilePath.mem_sort.mp hmem)).2
  have hnodup := sort_former_nodup hs file
  rw [hsort, List.nodup_append, List.nodup_cons] at hnodup
  have hnamed : u.index.IsNamed := h.session_eq ▸ perform_isNamed hbefore (.changed d)
  have hstanding := changeEach_standing w setup hnamed hnodup.2.1.2 hlater d
  rw [if_neg hnodup.2.1.1] at hstanding
  have hwhole : s.afterForgetting w setup file = u.changeEach w setup after := by
    rw [afterForgetting, hsort, changeEach_append, ← h.session_eq]
    rfl
  have hsaid : (u.changeEach w setup after).store.diagnosticsFor d = u.store.diagnosticsFor d :=
    congrArg Standing.said hstanding
  rw [← toOption_resolved hplain.isSchemaName, hfound, hwhole, hsaid]
  exact hverdict

theorem standing_of_gone (w : Workspace) {d : FilePath} (hd : d ∈ s.index.dependentsOf file)
    (hthere : leadsToFile w d ≠ .ok true) :
    (s.afterForgetting w setup file).standing d = ⟨none, s.store.diagnosticsFor d⟩ := by
  rw [standing_after hs w file d, if_pos hd, standingAfter_of_not hthere]

/-- A file that did not stand under the path stands where it stood, unless it is the path itself. -/
theorem standing_of_other (w : Workspace) {p : FilePath} (hp : p ∉ s.index.dependentsOf file) :
    (s.afterForgetting w setup file).standing p =
      ⟨if p = file then none else s.index.schemaFor? p, s.store.diagnosticsFor p⟩ := by
  have hschema : s.index.schemaFor? p ≠ some file :=
    mt (Index.mem_dependentsOf_iff_schemaFor? hs.wellFormed).mpr hp
  rw [standing_after hs w file p, if_neg hp, standing, forgetting,
    Index.schemaFor?_remove hs.wellFormed]
  simp [hschema]

theorem forgets_of_isFile_ne (w : Workspace) (hgone : w.isFile file ≠ .ok true) :
    Forgets w setup file s (s.afterForgetting w setup file) := by
  have hwellFormed : (s.afterForgetting w setup file).index.WellFormed :=
    (changeEach_isNamed (hs.toIsNamed.remove file) _).wellFormed
  have hother : ∀ {p}, p ∉ s.index.dependentsOf file →
      (s.afterForgetting w setup file).index.schemaFor? p =
        if p = file then none else s.index.schemaFor? p :=
    fun hp => congrArg Standing.schema? (standing_of_other hs w hp)
  have hgoneNow : ∀ {d}, d ∈ s.index.dependentsOf file → leadsToFile w d ≠ .ok true →
      (s.afterForgetting w setup file).index.schemaFor? d = none :=
    fun hd hthere => congrArg Standing.schema? (standing_of_gone hs w hd hthere)
  constructor
  case notMem_schemas =>
    -- Whatever stands under something now was looked for again or stood there before.
    intro hmem
    obtain ⟨d, hd⟩ := (Index.mem_schemas_iff hwellFormed).mp hmem
    rw [← Index.schemaFor?_eq_some_iff hwellFormed] at hd
    by_cases hformer : d ∈ s.index.dependentsOf file
    · by_cases hthere : leadsToFile w d = .ok true
      · rw [perform_removed_schemaFor? hs w hformer hthere] at hd
        exact hgone (isFile_of_schemaOf hd)
      · rw [hgoneNow hformer hthere] at hd
        cases hd
    · rw [hother hformer] at hd
      split at hd
      next => cases hd
      next => exact hformer ((Index.mem_dependentsOf_iff_schemaFor? hs.wellFormed).mpr hd)
  case not_holds =>
    intro schema hfile
    rw [← Index.schemaFor?_eq_some_iff hwellFormed, hother (notMem_former hs), if_pos rfl] at hfile
    cases hfile
  case schemaFor?_eq => exact fun d hd => perform_removed_schemaFor? hs w hd
  case verdict_eq =>
    intro d hd hthere before after hsort u hends
    rw [perform_removed_schemaFor? hs w hd hthere]
    exact verdict_of_turn hs w hd hthere hsort hends
  case gone =>
    intro d hd hthere
    exact ⟨hgoneNow hd hthere, congrArg Standing.said (standing_of_gone hs w hd hthere)⟩
  case others =>
    intro p hp
    refine ⟨congrArg Standing.said (standing_of_other hs w hp), fun hne schema => ?_⟩
    rw [← Index.schemaFor?_eq_some_iff hwellFormed, ← Index.schemaFor?_eq_some_iff hs.wellFormed,
      hother hp, if_neg hne]

end Forgets

/-- Whatever events have led to a session, and whichever changes break down or are not completed,
the removal of a path that leads to no file any more has the files changed that stood under it, each
of them once, and forgets the path. The tool gives these files, sorted by their written forms. -/
theorem perform_removed_forgets (w : Workspace) (setup : Setup) (store : Store)
    (calls : List (Workspace × Call))
    (hcalls : ∀ call ∈ calls, call.1.current.start ≠ .here ∧ call.2.isEvent = true)
    (hcurrent : w.current.start ≠ .here) {path : FilePath}
    (hgone : w.isFile (w.absolute path) ≠ .ok true) :
    let s := afterCalls setup ⟨.empty, store⟩ calls
    let file := w.absolute path
    let former := s.index.dependentsOf file
    let t := (s.perform w setup (.removed path)).session
    (former.Nodup ∧ ∀ d, d ∈ former ↔ s.index.schemaFor? d = some file) ∧
      (s.start w setup (.removed path)).value = .ok ((FilePath.sort former).map .changed) ∧
      t = (s.forgetting file).changeEach w setup (FilePath.sort former) ∧
      Forgets w setup file s t ∧
      (s.removedTool w setup path).value = .ok (FilePath.sortByText former) ∧
      (s.removedTool w setup path).session = t := by
  dsimp only
  have hs : (afterCalls setup ⟨.empty, store⟩ calls).index.IsGoverned setup :=
    afterCalls_isGoverned (.empty setup) hcalls
  generalize afterCalls setup ⟨.empty, store⟩ calls = s at hs
  have hsession := perform_removed_session hs w path
  have hforgets := forgets_of_isFile_ne hs w hgone
  rw [← hsession] at hforgets
  -- The tool spells the path from the root first, which makes no difference to the removal.
  have habsolute : w.absolute (w.absolute path) = w.absolute path :=
    FilePath.join_eq_right (FilePath.start_join_ne hcurrent path)
  have htool : s.removedTool w setup path = (s.perform w setup (.removed path)).andThen fun _ t =>
      t.done (FilePath.sortByText (s.index.dependentsOf (w.absolute path))) := by
    simp only [removedTool, dependentsTool, perform, start, startRemoved, habsolute]
  refine ⟨⟨Index.dependentsOf_nodup hs.wellFormed _, fun d =>
    Index.mem_dependentsOf_iff_schemaFor? hs.wellFormed⟩, rfl, hsession, hforgets, ?_, ?_⟩
  · rw [htool]
    rfl
  · rw [htool]
    rfl

open Vigil Vigil.Sample

/-- When the schema of a file was removed, its form is checked and it stands under nothing. -/
theorem perform_removed_forgets_unpaired :
    let w := sample.workspace unpaired
    let calls := [(sample.workspace paired, Call.perform (.changed data))]
    let s := afterCalls sample.setup ⟨.empty, .empty⟩ calls
    let t := (s.perform w sample.setup (.removed dataSchema)).session
    (∀ call ∈ calls, call.1.current.start ≠ .here ∧ call.2.isEvent = true) ∧
      w.current.start ≠ .here ∧ w.isFile (w.absolute dataSchema) ≠ .ok true ∧
      s.index.dependentsOf dataSchema = [data] ∧
      (s.perform w sample.setup (.removed dataSchema)).Ends (.ok ()) unpairedVisited ∧
      Forgets w sample.setup dataSchema s t ∧
      (s.removedTool w sample.setup dataSchema).value = .ok [data] ∧
      verdict w sample.setup data .nothing = some (t.store.diagnosticsFor data) := by
  have hvisited : (Session.empty.perform (sample.workspace paired) sample.setup
      (.changed data)).Ends (.ok ()) visited := by
    refine perform_ends_of_check empty_sane pairs_data (by decide) rfl paired_schemaOf ?_
    exact ends_of_eval (by decide +kernel)
  have hreached : afterCalls sample.setup ⟨.empty, .empty⟩
      [(sample.workspace paired, Call.perform (.changed data))] = visited := hvisited.session_eq
  have hcalls : ∀ call ∈ [(sample.workspace paired, Call.perform (.changed data))],
      call.1.current.start ≠ .here ∧ call.2.isEvent = true := by
    intro call hcall
    rw [List.mem_singleton.mp hcall]
    exact ⟨sample.current_absolute, rfl⟩
  have hgone : (sample.workspace unpaired).isFile
      ((sample.workspace unpaired).absolute dataSchema) ≠ .ok true := by decide
  have hends : (visited.perform (sample.workspace unpaired) sample.setup
      (.removed dataSchema)).Ends (.ok ()) unpairedVisited := ends_of_eval (by decide +kernel)
  have hforgets := perform_removed_forgets (sample.workspace unpaired) sample.setup .empty _ hcalls
    sample.current_absolute hgone
  have habsolute : (sample.workspace unpaired).absolute dataSchema = dataSchema :=
    absolute_eq covers_dataSchema
  dsimp only at hforgets ⊢
  rw [hreached, habsolute] at hforgets
  rw [hreached]
  obtain ⟨-, -, -, hforgotten, htool, -⟩ := hforgets
  have hone : FilePath.sortByText [data] = [data] := List.mergeSort_singleton data
  refine ⟨hcalls, sample.current_absolute, hgone, rfl, hends, hforgotten,
    htool.trans (congrArg Except.ok hone), ?_⟩
  rw [hends.session_eq]
  decide +kernel

end Session

end Conform
