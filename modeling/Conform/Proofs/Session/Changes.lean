import Conform.Proofs.Session.Course
import Conform.Proofs.Session.Incremental

/-! # What a change says, and of which files

The change of a file whose name is not that of a schema decides what is held about
that file from what was held about it before, and leaves all other files alone.
So such changes of distinct files do not depend on each other.
-/

namespace Conform

namespace Index.IsNamed

variable {index : Index} {file : FilePath}

/-- Files stand only under what has the name of a schema. -/
theorem dependentsOf_eq_nil (hindex : index.IsNamed)
    (hname : Convention.isSchemaName file.name = false) : index.dependentsOf file = [] := by
  refine List.eq_nil_iff_forall_not_mem.mpr fun d hd => ?_
  have hpair := hindex.goesWith ((mem_dependentsOf_iff hindex.wellFormed).mp hd)
  have hschema := hpair.schema_isSchemaName
  rw [hname] at hschema
  cases hschema

end Index.IsNamed

/-! ## What is held about a file after its change -/

namespace Course

variable {index : Index} {file : FilePath}

/-- The schema a file stands under once it has its place. -/
def schemaAfter (before : Option FilePath) : Course → Option FilePath
  | under schema => some schema
  | alone => none
  | _ => before

theorem schemaFor?_place (hindex : index.WellFormed) (file p : FilePath) (course : Course) :
    (course.place file index).schemaFor? p =
      if p = file then course.schemaAfter (index.schemaFor? file) else index.schemaFor? p := by
  have hsame : index.schemaFor? p =
      if p = file then index.schemaFor? file else index.schemaFor? p := by
    split
    next hp => rw [hp]
    next => rfl
  cases course with
  | broken reason => exact hsame
  | idle => exact hsame
  | provided text => exact hsame
  | under schema => exact Index.schemaFor?_associate hindex schema file p
  | alone => exact Index.schemaFor?_dissociate hindex file p

/-- Without files under it, a file is the only one that its change may check. -/
theorem checks_eq_empty (hnobody : index.dependentsOf file = []) (course : Course) :
    course.checks file index = course.checks file .empty := by
  have hempty : Index.empty.dependentsOf file = [] := rfl
  cases course with
  | alone => rw [checks_alone_of_nil hnobody, checks_alone_of_nil hempty]
  | _ => rfl

theorem eq_of_mem_checks {p : FilePath} (course : Course)
    (hp : p ∈ (course.checks file .empty).files) : p = file := by
  cases course with
  | broken reason => cases hp
  | idle => cases hp
  | provided text => exact List.mem_singleton.mp hp
  | under schema => exact List.mem_singleton.mp hp
  | alone =>
      rw [checks_alone_of_nil rfl] at hp
      exact List.mem_singleton.mp hp

end Course

namespace Session

variable {w : Workspace} {setup : Setup} {s : Session} {file : FilePath}

/-- What is held about a file after its change, if no file stands under it. -/
def standingAfter (w : Workspace) (setup : Setup) (file : FilePath) (before : Standing) :
    Standing where
  schema? := (course w setup file).schemaAfter before.schema?
  said :=
    let checks := (course w setup file).checks file .empty
    if file ∈ checks.files then saidAfter w setup file checks.target before.said else before.said

theorem perform_changed_index (w : Workspace) (setup : Setup) (file : FilePath) (s : Session) :
    (s.perform w setup (.changed file)).session.index =
      (s.placing w setup (w.absolute file)).index := by
  rw [perform_changed_session]
  exact checkEach_index w setup _ _ _

/-- Giving a file its place keeps an index named, because a change does no more to it. -/
theorem placing_isNamed (w : Workspace) (setup : Setup) (hs : s.index.IsNamed) (file : FilePath) :
    (s.placing w setup (w.absolute file)).index.IsNamed := by
  rw [← perform_changed_index]
  exact perform_isNamed hs (.changed file)

/-- The change of a file under which no other one stands is about that file alone, and what was
held about it before is all of the session that the change depends on. -/
theorem perform_changed_standing (hs : s.index.IsNamed)
    (hname : Convention.isSchemaName (w.absolute file).name = false) (p : FilePath) :
    (s.perform w setup (.changed file)).session.standing p =
      if p = w.absolute file then
        standingAfter w setup (w.absolute file) (s.standing (w.absolute file))
      else s.standing p := by
  have hnobody := (placing_isNamed w setup hs file).dependentsOf_eq_nil hname
  unfold standing
  rw [perform_changed_session]
  dsimp only
  rw [checkEach_index, checkEach_diagnosticsFor, Course.checks_eq_empty hnobody]
  unfold placing
  rw [Course.schemaFor?_place hs.wellFormed]
  generalize w.absolute file = file
  split
  next hp =>
    subst hp
    rfl
  next hp =>
    rw [if_neg fun hmem => hp (Course.eq_of_mem_checks _ hmem)]

/-! ## Changes of files that go by the convention -/

theorem resolved_eq_none (w : Workspace) (hname : Convention.isSchemaName file.name = true) :
    resolved w file = .ok none := by
  rw [resolved, resolve, if_pos hname]
  rfl

/-- What the change of a file that is there comes to if no provider answers for it. -/
theorem course_eq (hthere : leadsToFile w file = .ok true)
    (hnone : Provider.first? setup.providers file = none)
    (hname : Convention.isDocumentName file.name = true) :
    course w setup file =
      match resolved w file with
      | .error reason => .broken reason
      | .ok none => .alone
      | .ok (some schema) => .under schema := by
  rw [course, hthere, hnone]
  exact if_pos hname

/-- In whatever session calls have led to, a change whose passes are all complete says of a file
that no provider answers for exactly what its text comes to with the schema that is found, or with
the empty one, provided that no file stands under it. None does unless it has the name of a schema.
Otherwise the change says it of all the files that stand under it, with this file as their
schema. -/
theorem perform_changed_verdict (w : Workspace) (setup : Setup) (store : Store)
    (calls : List (Workspace × Call)) {file : FilePath} {t : Session}
    (hthere : leadsToFile w (w.absolute file) = .ok true)
    (hname : Convention.isDocumentName (w.absolute file).name = true)
    (hnone : Provider.first? setup.providers (w.absolute file) = none)
    (h : ((afterCalls setup ⟨.empty, store⟩ calls).perform w setup (.changed file)).Ends
      (.ok ()) t) :
    let f := w.absolute file
    let dependents := (afterCalls setup ⟨.empty, store⟩ calls).index.dependentsOf f
    (dependents = [] → ∃ found, resolved w f = .ok found ∧
        verdict w setup f (targetOf found) = some (t.store.diagnosticsFor f)) ∧
      (Convention.isSchemaName f.name = false → dependents = []) ∧
      ∀ d ∈ dependents, verdict w setup d (.ofFile f) = some (t.store.diagnosticsFor d) := by
  dsimp only
  have hs : (afterCalls setup ⟨.empty, store⟩ calls).index.IsNamed := afterCalls_isNamed .empty calls
  generalize afterCalls setup ⟨.empty, store⟩ calls = s at hs h
  have hcourse := course_eq hthere hnone hname
  obtain ⟨hwhole, hchecked⟩ := perform_changed_ends h
  unfold placing at hchecked
  generalize w.absolute file = f at hcourse hwhole hchecked ⊢
  refine ⟨fun hnobody => ?_, hs.dependentsOf_eq_nil, fun d hd => ?_⟩
  · cases hfound : resolved w f with
    | error reason =>
        rw [hfound] at hcourse
        exact absurd hcourse (hwhole reason)
    | ok found =>
        refine ⟨found, rfl, ?_⟩
        rw [hfound] at hcourse
        cases found with
        | some schema =>
            rw [hcourse] at hchecked
            exact hchecked.verdict_eq f List.mem_cons_self
        | none =>
            have hplaced : (s.index.dissociate f).dependentsOf f = [] := by
              refine List.eq_nil_iff_forall_not_mem.mpr fun d hd => ?_
              rw [Index.mem_dependentsOf_dissociate hs.wellFormed, hnobody] at hd
              cases hd.1
            rw [hcourse, Course.place, Course.checks_alone_of_nil hplaced] at hchecked
            exact hchecked.verdict_eq f List.mem_cons_self
  · -- A file under which another one stands has the name of a schema, so it has no schema.
    have hpair := hs.goesWith ((Index.mem_dependentsOf_iff hs.wellFormed).mp hd)
    rw [resolved_eq_none w hpair.schema_isSchemaName] at hcourse
    have hplaced : d ∈ (s.index.dissociate f).dependentsOf f :=
      (Index.mem_dependentsOf_dissociate hs.wellFormed).mpr ⟨hd, hpair.ne⟩
    rw [hcourse, Course.place, Course.checks_alone_of_mem hplaced] at hchecked
    exact hchecked.verdict_eq d (FilePath.mem_sort.mpr hplaced)

open Vigil Vigil.Sample

/-- The file without its schema and with a line break for its text. -/
def reworded : Tree := .directory [("w", .directory [("a.json", .file [10])])]

/-- The session once the change of the text is dealt with. -/
def rewordedVisited : Session :=
  ⟨⟨[]⟩, ⟨[(data, [⟨data, "Expecting value", 2, .error⟩])]⟩⟩

/-- Of what was said of a file nothing is left once its text has changed. -/
theorem perform_changed_verdict_reworded :
    let s := afterCalls sample.setup ⟨.empty, .empty⟩ [(sample.workspace unpaired,
      .perform (.changed data))]
    s.store.diagnosticsFor data = [⟨data, "Expecting value", 1, .error⟩] ∧
      leadsToFile (sample.workspace reworded) data = .ok true ∧
      Convention.isDocumentName data.name = true ∧
      Provider.first? sample.setup.providers data = none ∧
      (s.perform (sample.workspace reworded) sample.setup (.changed data)).Ends (.ok ())
        rewordedVisited ∧
      (s.index.dependentsOf data = [] → ∃ found,
        resolved (sample.workspace reworded) data = .ok found ∧
        verdict (sample.workspace reworded) sample.setup data (targetOf found) =
          some (rewordedVisited.store.diagnosticsFor data)) ∧
      (Convention.isSchemaName data.name = false → s.index.dependentsOf data = []) ∧
      ∀ d ∈ s.index.dependentsOf data,
        verdict (sample.workspace reworded) sample.setup d (.ofFile data) =
          some (rewordedVisited.store.diagnosticsFor d) := by
  have hthere : leadsToFile (sample.workspace reworded) data = .ok true := by decide
  have habsolute : (sample.workspace reworded).absolute data = data := absolute_eq pairs_data.covers
  have hvisited : afterCalls sample.setup ⟨.empty, .empty⟩ [(sample.workspace unpaired,
      .perform (.changed data))] = unpairedVisited := by decide +kernel
  have hends : (unpairedVisited.perform (sample.workspace reworded) sample.setup
      (.changed data)).Ends (.ok ()) rewordedVisited := ends_of_eval (by decide +kernel)
  have hverdict := perform_changed_verdict (sample.workspace reworded) sample.setup .empty
    [(sample.workspace unpaired, .perform (.changed data))] (habsolute ▸ hthere)
    (habsolute ▸ pairs_data.isDocumentName) (habsolute ▸ pairs_data.first?_eq_none)
    (hvisited ▸ hends)
  rw [hvisited, habsolute] at hverdict
  rw [hvisited]
  exact ⟨by decide, hthere, pairs_data.isDocumentName, rfl, hends, hverdict⟩

/-- The session after a visit of the schema and then of the file. -/
def schemaFirst : Session := ⟨⟨[(dataSchema, [data])]⟩, ⟨[said dataSchema, said data]⟩⟩

/-- The file and its schema, with a line break for the text of the schema. -/
def schemaReworded : Tree :=
  .directory [("w", .directory [("a.json", .file []), ("aSchema.json", .file [10])])]

/-- It takes that no file stands under the file. What was said of a schema when none did stays,
even where something else is to be said of its new text. -/
theorem perform_changed_outdated_schemaReworded :
    let s := afterCalls sample.setup ⟨.empty, .empty⟩
      [(sample.workspace paired, .perform (.changed dataSchema)),
        (sample.workspace paired, .perform (.changed data))]
    s.index.dependentsOf dataSchema = [data] ∧
      leadsToFile (sample.workspace schemaReworded) dataSchema = .ok true ∧
      Convention.isDocumentName dataSchema.name = true ∧
      Provider.first? sample.setup.providers dataSchema = none ∧
      (s.perform (sample.workspace schemaReworded) sample.setup (.changed dataSchema)).Ends
        (.ok ()) schemaFirst ∧
      resolved (sample.workspace schemaReworded) dataSchema = .ok none ∧
      verdict (sample.workspace schemaReworded) sample.setup dataSchema .nothing =
        some [⟨dataSchema, "Expecting value", 2, .error⟩] ∧
      schemaFirst.store.diagnosticsFor dataSchema = [⟨dataSchema, "Expecting value", 1, .error⟩] := by
  have hfirst : ((⟨.empty, .empty⟩ : Session).perform (sample.workspace paired) sample.setup
      (.changed dataSchema)).Ends (.ok ()) ⟨⟨[]⟩, ⟨[said dataSchema]⟩⟩ :=
    ends_of_eval (by decide +kernel)
  have hsane := (perform_changed empty_sane covers_dataSchema hfirst).1.sane
  have hsecond : ((⟨⟨[]⟩, ⟨[said dataSchema]⟩⟩ : Session).perform (sample.workspace paired)
      sample.setup (.changed data)).Ends (.ok ()) schemaFirst := by
    refine perform_ends_of_check hsane pairs_data (by decide) rfl paired_schemaOf ?_
    exact ends_of_eval (by decide +kernel)
  have hreached : afterCalls sample.setup ⟨.empty, .empty⟩
      [(sample.workspace paired, .perform (.changed dataSchema)),
        (sample.workspace paired, .perform (.changed data))] = schemaFirst := by
    simp only [afterCalls, List.foldl_cons, List.foldl_nil, afterCall, hfirst.session_eq,
      hsecond.session_eq]
  rw [hreached]
  exact ⟨by decide, by decide, by decide, rfl, ends_of_eval (by decide +kernel),
    resolved_eq_none _ (by decide), by decide +kernel, by decide⟩

/-! ## Changes of distinct files -/

/-- In whatever session calls have led to, and however its passes end, the change of a file that
has not the name of a schema changes neither what is said of any other file nor under which schema
it stands. Two such changes of distinct files come to the same in either order. -/
theorem perform_changed_independent (w : Workspace) (setup : Setup) (store : Store)
    (calls : List (Workspace × Call)) {f g : FilePath}
    (hf : Convention.isSchemaName (w.absolute f).name = false)
    (hg : Convention.isSchemaName (w.absolute g).name = false)
    (hdistinct : w.absolute f ≠ w.absolute g) :
    let s := afterCalls setup ⟨.empty, store⟩ calls
    let changed (file : FilePath) (s : Session) := (s.perform w setup (.changed file)).session
    (∀ p, p ≠ w.absolute f →
      (changed f s).store.diagnosticsFor p = s.store.diagnosticsFor p ∧
        ∀ schema, (changed f s).index.Holds schema p ↔ s.index.Holds schema p) ∧
      (changed g (changed f s)).index.Agrees (changed f (changed g s)).index ∧
      ∀ p, (changed g (changed f s)).store.diagnosticsFor p =
        (changed f (changed g s)).store.diagnosticsFor p := by
  dsimp only
  have hs : (afterCalls setup ⟨.empty, store⟩ calls).index.IsNamed := afterCalls_isNamed .empty calls
  generalize afterCalls setup ⟨.empty, store⟩ calls = s at hs
  have hafterF : (s.perform w setup (.changed f)).session.index.IsNamed := perform_isNamed hs _
  have hafterG : (s.perform w setup (.changed g)).session.index.IsNamed := perform_isNamed hs _
  have hsame : ∀ p, p ≠ w.absolute f →
      (s.perform w setup (.changed f)).session.standing p = s.standing p := by
    intro p hp
    rw [perform_changed_standing hs hf, if_neg hp]
  have horder : ∀ p,
      ((s.perform w setup (.changed f)).session.perform w setup (.changed g)).session.standing p =
        ((s.perform w setup (.changed g)).session.perform w setup (.changed f)).session.standing
          p := by
    intro p
    rw [perform_changed_standing hafterF hg, perform_changed_standing hafterG hf,
      perform_changed_standing hs hf, perform_changed_standing hs hf,
      perform_changed_standing hs hg, perform_changed_standing hs hg,
      if_neg hdistinct, if_neg hdistinct.symm]
    by_cases hpf : p = w.absolute f
    · have hpg : p ≠ w.absolute g := hpf ▸ hdistinct
      simp only [if_pos hpf, if_neg hpg]
    · simp only [if_neg hpf]
  refine ⟨fun p hp => ⟨congrArg Standing.said (hsame p hp), fun schema => ?_⟩, ?_,
    fun p => congrArg Standing.said (horder p)⟩
  · rw [← Index.schemaFor?_eq_some_iff hafterF.wellFormed,
      ← Index.schemaFor?_eq_some_iff hs.wellFormed]
    exact iff_of_eq (congrArg (fun standing => standing.schema? = some schema) (hsame p hp))
  · exact Index.agrees_of_schemaFor?_eq (perform_isNamed hafterF _).wellFormed
      (perform_isNamed hafterG _).wellFormed fun p => congrArg Standing.schema? (horder p)

/-- The file beside a directory with a file that is not written in UTF-8. -/
def torn : Tree :=
  .directory [("w", .directory [("a.json", .file []), ("d", .directory [("b.json", .file [255])])])]

/-- The file that is not written in UTF-8. -/
def illegible : FilePath := (sample.top.child "d").child "b.json"

/-- The order makes no difference either if one of the two files cannot be read. -/
theorem perform_changed_independent_torn :
    let w := sample.workspace torn
    let s := afterCalls sample.setup ⟨.empty, .empty⟩ [(sample.workspace unpaired,
      .perform (.changed data))]
    let changed (file : FilePath) (s : Session) :=
      (s.perform w sample.setup (.changed file)).session
    Convention.isSchemaName (w.absolute data).name = false ∧
      Convention.isSchemaName (w.absolute illegible).name = false ∧
      w.absolute data ≠ w.absolute illegible ∧
      (∀ t, ¬(s.perform w sample.setup (.changed illegible)).Ends (.ok ()) t) ∧
      (∀ p, p ≠ w.absolute data →
        (changed data s).store.diagnosticsFor p = s.store.diagnosticsFor p ∧
          ∀ schema, (changed data s).index.Holds schema p ↔ s.index.Holds schema p) ∧
      (changed illegible (changed data s)).index.Agrees
        (changed data (changed illegible s)).index ∧
      ∀ p, (changed illegible (changed data s)).store.diagnosticsFor p =
        (changed data (changed illegible s)).store.diagnosticsFor p := by
  have hgap : ((afterCalls sample.setup ⟨.empty, .empty⟩ [(sample.workspace unpaired,
      .perform (.changed data))]).perform (sample.workspace torn) sample.setup
      (.changed illegible)).notes.any Note.isGap = true := by decide +kernel
  refine ⟨by decide, by decide, by decide, fun t hends => ?_,
    perform_changed_independent (sample.workspace torn) sample.setup .empty _ (by decide)
      (by decide) (by decide)⟩
  obtain ⟨note, hnote, hisGap⟩ := List.any_eq_true.mp hgap
  rw [hends.gapless note hnote] at hisGap
  cases hisGap

end Session

end Conform
