import Conform.Proofs.Session.AllOrNothing
import Conform.Proofs.Session.Changes
import Conform.Proofs.Session.Finding

/-! # The change of a schema

A schema that changes is not checked itself; every file that depends on it is
checked against it, once. The passes follow each other, and none of them is kept
from being made by how another one ends: what breaks down is entered in the log.
A pass says nothing of files other than its own, so what is said of a file after
the change is what its own pass left behind.
-/

namespace Conform

/-! ## Passes that are complete -/

namespace Evaluation

variable {setup : Setup} {file : FilePath} {text label schemaText : String}
  {evaluation : Evaluation}

theorem ofFailures_gapless (file : FilePath) (text : String) (failures : List Failure) :
    ∀ entry ∈ (ofFailures file text failures).entries, entry.isGap = false := by
  unfold ofFailures
  split
  next => exact nofun
  next =>
    intro entry hentry
    obtain ⟨failure, -, hfailure⟩ := List.mem_filterMap.mp hentry
    unfold unlocated? at hfailure
    split at hfailure
    next =>
      cases hfailure
      rfl
    next => cases hfailure

/-- No entry that is made during an evaluation with a result tells of a pass that was not
completed. -/
theorem entries_gapless (h : ofText setup file text label schemaText = .ok evaluation) :
    ∀ entry ∈ evaluation.entries, entry.isGap = false := by
  have hsilent : ∀ {entry : Entry}, entry.isGap = false →
      ∀ other ∈ (silent entry).entries, other.isGap = false := by
    intro entry hentry other hother
    rw [List.mem_singleton.mp hother]
    exact hentry
  unfold ofText ofValue at h
  split at h
  next =>
    split at h
    next =>
      cases h
      exact hsilent rfl
    next =>
      cases h
      exact nofun
  next => cases h
  next =>
    split at h
    next =>
      cases h
      exact hsilent rfl
    next => cases h
    next =>
      split at h
      next =>
        cases h
        exact hsilent rfl
      next => cases h
      next =>
        cases h
        exact ofFailures_gapless _ _ _

end Evaluation

namespace Session

variable {w : Workspace} {setup : Setup} {s t : Session} {file d p : FilePath} {target : Target}

theorem replace_silent_ends (s : Session) (file : FilePath) (ds : List Diagnostic) :
    (s.replace .silent file ds).Ends (.ok ()) (s.replace .silent file ds).session := by
  have hends : (s.replace .silent file ds).Ends (.ok ())
      ((s.clear .silent file).session.addAll .silent ds).session :=
    Act.andThen_ends_iff.mpr ⟨(), _, s.clear_silent_ends file, addAll_silent_ends _ ds⟩
  rw [← hends.session_eq] at hends
  exact hends

/-- Where nothing is shown, a pass is completed if its texts come to something. -/
theorem check_silent_ends (hsilent : setup.display = .silent)
    (hverdict : verdict w setup file target ≠ none) (s : Session) :
    (s.check w setup file target).Ends (.ok ()) (s.check w setup file target).session := by
  unfold verdict at hverdict
  split at hverdict
  next => exact absurd rfl hverdict
  next text schemaText htexts =>
    split at hverdict
    next => exact absurd rfl hverdict
    next evaluation hevaluated =>
      have hcheck : s.check w setup file target =
          (s.replace .silent file (evaluation.diagnostics file)).after
            (evaluation.entries.map .logged) := by
        simp only [check, htexts, hevaluated, conclude, hsilent]
      rw [hcheck]
      refine Act.after_ends_iff.mpr ⟨fun note hnote => ?_, s.replace_silent_ends file _⟩
      obtain ⟨entry, hentry, rfl⟩ := List.mem_map.mp hnote
      exact Evaluation.entries_gapless hevaluated entry hentry

theorem saidAfter_eq (w : Workspace) (setup : Setup) (file : FilePath) (target : Target)
    (before : List Diagnostic) :
    saidAfter w setup file target before =
      (verdict w setup file target).elim before fun ds =>
        setup.display.replaced file ds before := by
  unfold saidAfter verdict
  cases readTexts w file target with
  | error fault => rfl
  | ok texts =>
      dsimp only
      cases Evaluation.ofText setup file texts.1 target.label texts.2 <;> rfl

/-- A pass is completed, where nothing is shown, exactly if its texts come to something. -/
theorem check_silent_ends_iff (hsilent : setup.display = .silent) (s : Session) :
    (∃ t, (s.check w setup file target).Ends (.ok ()) t) ↔ verdict w setup file target ≠ none := by
  constructor
  · rintro ⟨t, hends⟩ hnone
    have hsome := (check_ends hends).verdict_eq
    rw [hnone] at hsome
    cases hsome
  · exact fun hverdict => ⟨_, check_silent_ends hsilent hverdict s⟩

/-! ## Passes one after the other -/

/-- Passes over files against one target, each of which begins where the one before it led. -/
def passes (w : Workspace) (setup : Setup) (target : Target) :
    List FilePath → Session → List (Outcome Unit)
  | [], _ => []
  | file :: rest, s =>
    s.check w setup file target :: passes w setup target rest (s.check w setup file target).session

/-- What a pass leaves behind among others: its notes, and an entry if it breaks down. -/
def leavings (pass : Outcome Unit) : List Note :=
  match pass.value with
  | .ok _ => pass.notes
  | .error reason => pass.notes ++ [.logged (.passFailed reason)]

theorem startAll_checks_notes (w : Workspace) (setup : Setup) (target : Target)
    (files : List FilePath) (s : Session) :
    (s.startAll w setup (files.map fun file => .check file target)).notes =
      (s.passes w setup target files).flatMap leavings := by
  induction files generalizing s with
  | nil => rfl
  | cons file rest ih =>
      have hfirst : (((s.start w setup (.check file target)).bind awaited).session =
            (s.check w setup file target).session) ∧
          ((s.start w setup (.check file target)).bind awaited).notes =
            leavings (s.check w setup file target) := by
        rw [start, leavings]
        cases hvalue : (s.check w setup file target).value with
        | ok value =>
            rw [Act.andThen_ok hvalue]
            simp [Act.bind, awaited, done, stay]
        | error reason =>
            rw [Act.andThen_error hvalue]
            simp [Act.bind, awaited, stay, Act.logging, Act.after]
      obtain ⟨hsession, hnotes⟩ := hfirst
      rw [List.map_cons, startAll, passes, List.flatMap_cons, ← ih, ← hsession, ← hnotes]
      rfl

/-- What is said of a file whose pass was completed in its turn stays, because the passes that come
later are over other files. -/
theorem verdict_of_pass {files before after : List FilePath} (hnodup : files.Nodup)
    (hfiles : files = before ++ d :: after)
    (h : ((s.checkEach w setup target before).check w setup d target).Ends (.ok ()) t) :
    verdict w setup d target =
      some ((s.checkEach w setup target files).store.diagnosticsFor d) := by
  rw [hfiles, List.nodup_append, List.nodup_cons] at hnodup
  have hwhole : s.checkEach w setup target files = t.checkEach w setup target after := by
    rw [hfiles, checkEach, List.foldl_append, List.foldl_cons, ← h.session_eq]
    rfl
  rw [(check_ends h).verdict_eq, hwhole, checkEach_diagnosticsFor, if_neg hnodup.2.1.1]

end Session

/-! ## The change of a schema -/

namespace Index

/-- Nothing with the name of a schema stands under a schema. -/
theorem IsNamed.not_holds {index : Index} (hindex : index.IsNamed) {file : FilePath}
    (hname : Convention.isSchemaName file.name = true) (schema : FilePath) :
    ¬index.Holds schema file := by
  intro hholds
  have hfile := (hindex.goesWith hholds).file_isSchemaName
  rw [hname] at hfile
  cases hfile

/-- Taking a file that stands under nothing from every schema changes nothing. -/
theorem dissociate_eq_self {index : Index} {file : FilePath}
    (h : ∀ schema, ¬index.Holds schema file) : index.dissociate file = index := by
  have hkept : index.entries.filterMap (withoutFile file) = index.entries.filterMap some := by
    refine List.filterMap_congr fun entry hentry => ?_
    have habsent : file ∉ entry.2 := fun hfile => h entry.1 ⟨entry.2, hentry, hfile⟩
    rw [withoutFile, if_neg (by simpa using habsent)]
  rw [dissociate, hkept, List.filterMap_some]

end Index

namespace Session

variable {w : Workspace} {setup : Setup} {s : Session}

/-- A schema that is in use is not checked when it changes. All that is done is a pass over each of
the files that depend on it, and what breaks down among these is entered in the log. -/
theorem perform_changed_passes (hs : s.index.IsNamed) {file : FilePath}
    (hthere : leadsToFile w (w.absolute file) = .ok true)
    (hname : Convention.isSchemaName (w.absolute file).name = true)
    (hnone : Provider.first? setup.providers (w.absolute file) = none)
    (hused : s.index.dependentsOf (w.absolute file) ≠ []) :
    let files := FilePath.sort (s.index.dependentsOf (w.absolute file))
    let target := Target.ofFile (w.absolute file)
    s.perform w setup (.changed file) = ⟨.ok (), s.checkEach w setup target files,
      (s.passes w setup target files).flatMap leavings⟩ := by
  dsimp only
  have hnobody := hs.not_holds hname
  have hstart : s.start w setup (.changed file) =
      s.done ((FilePath.sort (s.index.dependentsOf (w.absolute file))).map fun d =>
        .check d (.ofFile (w.absolute file))) := by
    rw [start, startChanged]
    generalize w.absolute file = schema at hthere hname hnone hused hnobody ⊢
    rw [hthere]
    dsimp only
    rw [startPresent, hnone]
    dsimp only
    rw [if_pos (Convention.isDocumentName_of_isSchemaName hname), startByConvention, resolve,
      if_pos hname, Act.done_andThen]
    dsimp only
    rw [Index.dissociate_eq_self hnobody]
    split
    next hnil =>
      obtain ⟨d, hd⟩ := List.exists_mem_of_ne_nil _ hused
      rw [← FilePath.mem_sort, hnil] at hd
      cases hd
    next => rfl
  obtain ⟨hvalue, hsession⟩ := startAll_checks w setup (.ofFile (w.absolute file))
    (FilePath.sort (s.index.dependentsOf (w.absolute file))) s
  have hnotes := startAll_checks_notes w setup (.ofFile (w.absolute file))
    (FilePath.sort (s.index.dependentsOf (w.absolute file))) s
  rw [perform, hstart, Act.done_andThen, ← hsession, ← hnotes]
  simp only [generations, settle, Act.bind, Act.map, hvalue]
  simp [startAll, stay]

/-- In whatever session calls have led to, the change of a schema in use that no provider answers
for comes to one pass over each file that depends on it, against the schema as it is now, and to
nothing else. It has a result and leaves the index as it was, however the passes end. Of a file
whose pass is completed exactly what its text comes to is said at the end. A file whose texts come
to nothing keeps what was said of it. Where nothing is shown, these are the files whose passes are
not completed. -/
theorem perform_changed_dependents (w : Workspace) (setup : Setup) (store : Store)
    (calls : List (Workspace × Call)) {file : FilePath}
    (hthere : leadsToFile w (w.absolute file) = .ok true)
    (hname : Convention.isSchemaName (w.absolute file).name = true)
    (hnone : Provider.first? setup.providers (w.absolute file) = none)
    (hused : (afterCalls setup ⟨.empty, store⟩ calls).index.dependentsOf (w.absolute file) ≠ []) :
    let s := afterCalls setup ⟨.empty, store⟩ calls
    let target := Target.ofFile (w.absolute file)
    ∃ files : List FilePath, files.Nodup ∧
      (∀ d, d ∈ files ↔ s.index.Holds (w.absolute file) d) ∧
      let t := s.checkEach w setup target files
      s.perform w setup (.changed file) =
          ⟨.ok (), t, (s.passes w setup target files).flatMap leavings⟩ ∧
        t.index = s.index ∧
        (∀ p, p ∉ files → t.store.diagnosticsFor p = s.store.diagnosticsFor p) ∧
        ∀ before d after, files = before ++ d :: after →
          let pass := (s.checkEach w setup target before).check w setup d target
          (∀ u, pass.Ends (.ok ()) u →
            verdict w setup d target = some (t.store.diagnosticsFor d)) ∧
          (verdict w setup d target = none →
            t.store.diagnosticsFor d = s.store.diagnosticsFor d) ∧
          (setup.display = .silent →
            ((∃ u, pass.Ends (.ok ()) u) ↔ verdict w setup d target ≠ none)) := by
  dsimp only
  have hs : (afterCalls setup ⟨.empty, store⟩ calls).index.IsNamed :=
    afterCalls_isNamed .empty calls
  generalize afterCalls setup ⟨.empty, store⟩ calls = s at hs hused ⊢
  have hnodup : (FilePath.sort (s.index.dependentsOf (w.absolute file))).Nodup :=
    (List.mergeSort_perm _ _).nodup_iff.mpr (Index.dependentsOf_nodup hs.wellFormed _)
  refine ⟨_, hnodup, fun d => ?_, perform_changed_passes hs hthere hname hnone hused,
    checkEach_index w setup _ _ s, fun p hp => ?_, fun before d after hfiles => ⟨fun u hends => ?_,
      fun hverdict => ?_, fun hsilent => ?_⟩⟩
  · rw [FilePath.mem_sort, Index.mem_dependentsOf_iff hs.wellFormed]
  · rw [checkEach_diagnosticsFor, if_neg hp]
  · exact verdict_of_pass hnodup hfiles hends
  · rw [checkEach_diagnosticsFor, saidAfter_eq, hverdict, Option.elim_none, ite_self]
  · exact check_silent_ends_iff hsilent _

/-! ## Passes that are not completed -/

theorem resolved_child {directory : FilePath} {contents : Contents} {name schema : String}
    (hname : Convention.isSchemaName name = false) (hshows : w.Shows directory contents)
    (hchosen : contents.chosen (Convention.candidates (directory.child name)) = some schema) :
    resolved w (directory.child name) = .ok (some (directory.child schema)) := by
  rw [resolved, resolve_child_eq hname hshows, hchosen]
  rfl

/-- A file is put under the schema that is chosen for it and checked against it. -/
theorem perform_changed_chosen {directory : FilePath} {contents : Contents} {name schema : String}
    (habsolute : w.absolute (directory.child name) = directory.child name)
    (hshows : w.Shows directory contents)
    (hthere : leadsToFile w (directory.child name) = .ok true)
    (hdocument : Convention.isDocumentName name = true)
    (hname : Convention.isSchemaName name = false)
    (hnone : Provider.first? setup.providers (directory.child name) = none)
    (hchosen : contents.chosen (Convention.candidates (directory.child name)) = some schema)
    (s : Session) :
    (s.perform w setup (.changed (directory.child name))).session =
      (check w setup (directory.child name) (.ofFile (directory.child schema))
        ⟨s.index.associate (directory.child schema) (directory.child name), s.store⟩).session := by
  have hcourse : course w setup (directory.child name) = .under (directory.child schema) := by
    rw [course_eq hthere hnone ((FilePath.name_child directory name).symm ▸ hdocument),
      resolved_child hname hshows hchosen]
  rw [perform_changed_session, placing, habsolute, hcourse]
  rfl

open Vigil Vigil.Sample

/-- Three files and their schema, all of them without a text. -/
def blank : List (String × Tree) :=
  [("a.json", .file []), ("b.json", .file []), ("c.json", .file []), ("schema.json", .file [])]

/-- The directory with the files without a text. -/
def blankFiles : Workspace := sample.workspace (.directory [("w", .directory blank)])

/-- The files with other texts: a line break, a byte that is not in UTF-8, and the digit one. The
schema refers to a place that it does not have. -/
def filledFiles : Workspace :=
  sample.workspace (.directory [("w", .directory [("a.json", .file [10]), ("b.json", .file [255]),
    ("c.json", .file [0x31]),
    ("schema.json", .file (Evaluation.lostSchema.toList.map fun c => UInt8.ofNat c.toNat))])])

/-- The three files. -/
def three : List FilePath := ["a.json", "b.json", "c.json"].map sample.top.child

/-- Their schema. -/
def threeSchema : FilePath := sample.top.child "schema.json"

/-- The changes of the three files, while none of them has a text. -/
def threeCalls : List (Workspace × Call) :=
  three.map fun file => (blankFiles, .perform (.changed file))

/-- The session after these changes. -/
def threeVisited : Session := ⟨⟨[(threeSchema, three)]⟩, ⟨three.map said⟩⟩

theorem perform_blank {name : String} (hname : name ∈ ["a.json", "b.json", "c.json"])
    (s : Session) :
    (s.perform blankFiles sample.setup (.changed (sample.top.child name))).session =
      (check blankFiles sample.setup (sample.top.child name) (.ofFile threeSchema)
        ⟨s.index.associate threeSchema (sample.top.child name), s.store⟩).session := by
  have hshows : blankFiles.Shows sample.top (.ofEntries blank) :=
    Contents.shows_ofEntries rfl (by decide)
  have hall : ∀ name ∈ ["a.json", "b.json", "c.json"],
      leadsToFile blankFiles (sample.top.child name) = .ok true ∧
        Convention.isDocumentName name = true ∧ Convention.isSchemaName name = false ∧
        Convention.candidates (sample.top.child name) =
          (Convention.candidates (sample.top.child name)).take 2 ++ ["schema.json"] ∧
        ∀ earlier ∈ (Convention.candidates (sample.top.child name)).take 2,
          ∀ other ∈ (Contents.ofEntries blank).names, Text.lower other ≠ Text.lower earlier := by
    decide
  obtain ⟨hthere, hdocument, hnot, hcandidates, hearlier⟩ := hall name hname
  have hchosen : (Contents.ofEntries blank).chosen
      (Convention.candidates (sample.top.child name)) = some "schema.json" :=
    Contents.chosen_of_least hcandidates hearlier (by decide) (by decide) (by decide) (by decide)
  exact perform_changed_chosen rfl hshows hthere hdocument hnot rfl hchosen s

theorem afterCalls_three : afterCalls sample.setup ⟨.empty, .empty⟩ threeCalls = threeVisited := by
  simp only [threeCalls, three, List.map_cons, List.map_nil, afterCalls, List.foldl_cons,
    List.foldl_nil, afterCall]
  rw [perform_blank (by simp), perform_blank (by simp), perform_blank (by simp)]
  decide +kernel

/-- The schema changes together with the three files. The text of the first one is malformed, that
of the second one is not read, and the evaluation of the third one has no result: each of them gets
or keeps what it would if the others were not there. -/
theorem perform_changed_dependents_filled :
    let s := afterCalls sample.setup ⟨.empty, .empty⟩ threeCalls
    let changed := s.perform filledFiles sample.setup (.changed threeSchema)
    leadsToFile filledFiles (filledFiles.absolute threeSchema) = .ok true ∧
      Convention.isSchemaName (filledFiles.absolute threeSchema).name = true ∧
      Provider.first? sample.setup.providers (filledFiles.absolute threeSchema) = none ∧
      s.index.dependentsOf (filledFiles.absolute threeSchema) = three ∧
      changed.value = .ok () ∧ changed.session.index = s.index ∧
      (three.map fun d => changed.session.store.diagnosticsFor d) =
        [[⟨sample.top.child "a.json", "Expecting value", 2, .error⟩],
          [⟨sample.top.child "b.json", "Expecting value", 1, .error⟩],
          [⟨sample.top.child "c.json", "Expecting value", 1, .error⟩]] := by
  have habsolute : filledFiles.absolute threeSchema = threeSchema := rfl
  have hthere : leadsToFile filledFiles (filledFiles.absolute threeSchema) = .ok true := by decide
  have hdependents : threeVisited.index.dependentsOf threeSchema = three := by decide
  obtain ⟨files, -, hmem, hperform, hindex, -, hpasses⟩ := perform_changed_dependents filledFiles
    sample.setup .empty threeCalls hthere (by decide) rfl
    (by rw [afterCalls_three, habsolute, hdependents]; decide)
  simp only [afterCalls_three, habsolute] at hmem hperform hindex hpasses ⊢
  -- What is said of each of the three is what its own pass comes to, or what was said before.
  have hsaid : ∀ d ∈ three, (threeVisited.checkEach filledFiles sample.setup (.ofFile threeSchema)
      files).store.diagnosticsFor d =
        (verdict filledFiles sample.setup d (.ofFile threeSchema)).getD
          (threeVisited.store.diagnosticsFor d) := by
    intro d hd
    have hholds : threeVisited.index.Holds threeSchema d := ⟨three, List.mem_cons_self, hd⟩
    obtain ⟨before, after, hfiles⟩ := List.append_of_mem ((hmem d).mpr hholds)
    obtain ⟨hdone, hkept, hends⟩ := hpasses before d after hfiles
    cases hverdict : verdict filledFiles sample.setup d (.ofFile threeSchema) with
    | none => exact hkept hverdict
    | some ds =>
        obtain ⟨u, hu⟩ := (hends rfl).mpr (by simp [hverdict])
        exact Option.some.inj ((hdone u hu).symm.trans hverdict)
  rw [hperform]
  refine ⟨hthere, by decide, rfl, hdependents, rfl, hindex, ?_⟩
  rw [List.map_congr_left hsaid]
  decide +kernel

/-- What is said is shown to someone who looks from the working directory. -/
def loud : Setup := ⟨[], ⟨[]⟩, .console (some sample.top), Schema.validate⟩

/-- A file in a directory whose name opens a tag. -/
def bracketData : FilePath := (sample.top.child "[").child "b.json"

/-- Its schema. -/
def bracketSchema : FilePath := (sample.top.child "[").child "schema.json"

/-- The file and its schema with given texts. -/
def bracketed (text schemaText : String) : Workspace :=
  let bytes (text : String) : List UInt8 := text.toList.map fun c => UInt8.ofNat c.toNat
  sample.workspace (.directory [("w", .directory [("[",
    .directory [("b.json", .file (bytes text)), ("schema.json", .file (bytes schemaText))])])])

/-- The file with a bracket for its value. Nothing but null meets the schema. -/
def bracketValue : Workspace :=
  bracketed "\"]\"" ("\x7b\"$schema\": \"http://json-schema.org/draft-04/schema#\", " ++
    "\"type\": \"null\"\x7d")

/-- The session after the change of the file without a text. -/
def bracketVisited : Session := ⟨⟨[(bracketSchema, [bracketData])]⟩, ⟨[said bracketData]⟩⟩

theorem afterCalls_bracketed :
    afterCalls loud ⟨.empty, .empty⟩ [(bracketed "" "", .perform (.changed bracketData))] =
      bracketVisited := by
  have hshows : (bracketed "" "").Shows (sample.top.child "[")
      (.ofEntries [("b.json", .file []), ("schema.json", .file [])]) :=
    Contents.shows_ofEntries rfl (by decide)
  have hcandidates : Convention.candidates bracketData =
      ["bSchema.json", "b.schema.json"] ++ "schema.json" :: [] := by decide
  have hchosen : (Contents.ofEntries [("b.json", .file []), ("schema.json", .file [])]).chosen
      (Convention.candidates bracketData) = some "schema.json" :=
    Contents.chosen_of_least hcandidates (by decide) (by decide) (by decide) (by decide) (by decide)
  have hnone : Provider.first? loud.providers bracketData = none := rfl
  have hsession := perform_changed_chosen rfl hshows (by decide) (by decide) (by decide) hnone
    hchosen Session.empty
  refine hsession.trans ?_
  decide +kernel

/-- The pass over the file breaks down after the file was cleared. -/
theorem check_bracketValue :
    let pass := bracketVisited.check bracketValue loud bracketData (.ofFile bracketSchema)
    pass.value.isOk = false ∧ pass.session.store.diagnosticsFor bracketData =
      [⟨bracketData, "']' is not of type 'null'", 1, .error⟩] := by
  decide +kernel

/-- It takes that the texts come to nothing. Here they come to something that cannot be shown, since
the tag that the path opens ends with the first bracket of the message, and what was said of the
file before is gone. -/
theorem perform_changed_dependents_unprintable :
    let s := afterCalls loud ⟨.empty, .empty⟩
      [(bracketed "" "", .perform (.changed bracketData))]
    leadsToFile bracketValue (bracketValue.absolute bracketSchema) = .ok true ∧
      Convention.isSchemaName (bracketValue.absolute bracketSchema).name = true ∧
      Provider.first? loud.providers (bracketValue.absolute bracketSchema) = none ∧
      s.index.dependentsOf (bracketValue.absolute bracketSchema) = [bracketData] ∧
      (s.check bracketValue loud bracketData (.ofFile bracketSchema)).value.isOk = false ∧
      s.store.diagnosticsFor bracketData = [⟨bracketData, "Expecting value", 1, .error⟩] ∧
      (s.perform bracketValue loud (.changed bracketSchema)).session.store.diagnosticsFor
        bracketData = [⟨bracketData, "']' is not of type 'null'", 1, .error⟩] := by
  have habsolute : bracketValue.absolute bracketSchema = bracketSchema := rfl
  have hnamed : bracketVisited.index.IsNamed :=
    afterCalls_bracketed ▸ afterCalls_isNamed .empty _
  have hdependents : bracketVisited.index.dependentsOf bracketSchema = [bracketData] := by decide
  have hthere : leadsToFile bracketValue (bracketValue.absolute bracketSchema) = .ok true := by
    decide
  have hnone : Provider.first? loud.providers (bracketValue.absolute bracketSchema) = none := rfl
  have hperform := perform_changed_passes hnamed hthere (by decide) hnone
    (ne_of_eq_of_ne hdependents (by decide))
  rw [habsolute, hdependents, FilePath.sort, List.mergeSort_singleton] at hperform
  have hsession : (bracketVisited.perform bracketValue loud (.changed bracketSchema)).session =
      bracketVisited.checkEach bracketValue loud (.ofFile bracketSchema) [bracketData] := by
    rw [hperform]
  intro s
  have hs : s = bracketVisited := afterCalls_bracketed
  rw [hs, habsolute, hsession, checkEach, List.foldl_cons, List.foldl_nil]
  exact ⟨hthere, by decide, rfl, hdependents, check_bracketValue.1, by decide, check_bracketValue.2⟩

end Session

end Conform
