import Conform.Proofs.Session.Dependents
import Conform.Proofs.Session.Removal

/-! # A schema that is new

The change of a schema asks the index which files stand under it, whether or not
the schema was there before. Files that the convention gives to it from now on
are not looked for. Each of them stands where it stood, with what was said of it,
until it changes itself, and then it is put under the new schema.
-/

namespace Conform

namespace Session

variable {w : Workspace} {setup : Setup} {s t : Session} {file schema d : FilePath}

/-! ## The change of a file to which the convention gives the schema -/

/-- What the change of a file makes of a session: it puts the file under the schema and under no
other one, and if its pass is completed, exactly what its text comes to with the schema is said of
it, which is what a check of it alone says. -/
structure Joins (w : Workspace) (setup : Setup) (schema d : FilePath) (s : Session) : Prop where
  holds_iff : ∀ other,
    (s.perform w setup (.changed d)).session.index.Holds other d ↔ other = schema
  verdict_eq : ∀ {t}, (s.perform w setup (.changed d)).Ends (.ok ()) t →
    verdict w setup d (.ofFile schema) = some (t.store.diagnosticsFor d)
  fresh_eq : ∀ {t fresh}, (s.perform w setup (.changed d)).Ends (.ok ()) t →
    (Session.empty.perform w setup (.changed d)).Ends (.ok ()) fresh →
    t.store.diagnosticsFor d = fresh.store.diagnosticsFor d

/-- In whatever session it comes, the change of a file to which the convention gives a schema puts
the file under it, and the change is completed exactly if its one pass is. -/
theorem perform_changed_resolved (hd : Convention.Governs setup d)
    (hthere : leadsToFile w d = .ok true) (hresolved : resolved w d = .ok (some schema))
    (s : Session) :
    (s.perform w setup (.changed d)).session.index = s.index.associate schema d ∧
      ∀ t, (s.perform w setup (.changed d)).Ends (.ok ()) t ↔
        (check w setup d (.ofFile schema) ⟨s.index.associate schema d, s.store⟩).Ends
          (.ok ()) t := by
  have habsolute : w.absolute d = d := FilePath.join_eq_right hd.start_ne
  have hcourse : course w setup d = .under schema := by
    rw [course_eq hthere hd.first?_eq_none hd.isDocumentName, hresolved]
  have hplaced : s.placing w setup d = ⟨s.index.associate schema d, s.store⟩ := by
    rw [placing, hcourse]
    rfl
  refine ⟨by rw [perform_changed_index, habsolute, hplaced], fun t => ?_⟩
  obtain ⟨notes, hgapless, hstart⟩ := start_changed_eq w setup d s
  rw [perform_ends_iff, hstart, habsolute, hplaced, hcourse]
  simp only [startCourse, Act.after_ends_iff]
  constructor
  · rintro ⟨jobs, middle, ⟨-, hends⟩, hsettle⟩
    obtain ⟨value, last, hchecked, hdone⟩ := Act.andThen_ends_iff.mp hends
    obtain ⟨rfl, rfl⟩ := Act.done_ends_iff.mp hdone
    obtain rfl := settle_nil_ends_iff.mp hsettle
    exact hchecked
  · intro hchecked
    refine ⟨[], t, ⟨hgapless, ?_⟩, settle_nil_ends_iff.mpr rfl⟩
    exact Act.andThen_ends_iff.mpr ⟨(), t, hchecked, Act.done_ends_iff.mpr ⟨rfl, rfl⟩⟩

theorem perform_changed_joins (hd : Convention.Governs setup d)
    (hthere : leadsToFile w d = .ok true) (hresolved : resolved w d = .ok (some schema))
    (s : Session) : Joins w setup schema d s := by
  have hverdict : ∀ {s t : Session}, (s.perform w setup (.changed d)).Ends (.ok ()) t →
      verdict w setup d (.ofFile schema) = some (t.store.diagnosticsFor d) := by
    intro s t hends
    have hchecked := ((perform_changed_resolved hd hthere hresolved s).2 t).mp hends
    exact (check_ends hchecked).verdict_eq
  refine ⟨fun other => ?_, hverdict, fun hends hfresh => ?_⟩
  · rw [(perform_changed_resolved hd hthere hresolved s).1, Index.associate_holds_iff, if_pos rfl]
  · exact Option.some.inj ((hverdict hends).symm.trans (hverdict hfresh))

/-! ## The change of the schema -/

/-- The change of a schema looks for no other place for any file, and it checks what the index
lists. -/
theorem perform_changed_isSchemaName (hs : s.index.IsNamed)
    (hthere : leadsToFile w (w.absolute file) = .ok true)
    (hname : Convention.isSchemaName (w.absolute file).name = true)
    (hnone : Provider.first? setup.providers (w.absolute file) = none) :
    (s.perform w setup (.changed file)).session =
      let checks := Course.alone.checks (w.absolute file) s.index
      s.checkEach w setup checks.target checks.files := by
  have hcourse : course w setup (w.absolute file) = .alone := by
    rw [course_eq hthere hnone (Convention.isDocumentName_of_isSchemaName hname),
      resolved_eq_none w hname]
  have hplaced : s.placing w setup (w.absolute file) = s := by
    rw [placing, hcourse, Course.place, Index.dissociate_eq_self (hs.not_holds hname)]
  rw [perform_changed_session, hplaced, hcourse]

/-- The pass over a file in its turn, when other files have had theirs. -/
def turn (w : Workspace) (setup : Setup) (target : Target) (before : List FilePath) (d : FilePath)
    (s : Session) : Outcome Unit :=
  (s.checkEach w setup target before).check w setup d target

/-- What the change of a schema makes of a session. The index stays as it was. Of each file under
the schema whose pass is completed in its turn exactly what its text comes to is said, and if the
convention gives the file that schema, a check of the file alone says the same. Of other files,
except for the schema, nothing new is said. -/
structure Spreads (w : Workspace) (setup : Setup) (schema : FilePath) (s t : Session) : Prop where
  index_eq : t.index = s.index
  mem_sort_iff : ∀ d, d ∈ FilePath.sort (s.index.dependentsOf schema) ↔ s.index.Holds schema d
  session_eq : ∀ d, s.index.Holds schema d →
    t = s.checkEach w setup (.ofFile schema) (FilePath.sort (s.index.dependentsOf schema))
  verdict_eq : ∀ {before d after u},
    FilePath.sort (s.index.dependentsOf schema) = before ++ d :: after →
      (s.turn w setup (.ofFile schema) before d).Ends (.ok ()) u →
      verdict w setup d (.ofFile schema) = some (t.store.diagnosticsFor d)
  fresh_eq : ∀ {before d after u fresh},
    FilePath.sort (s.index.dependentsOf schema) = before ++ d :: after →
      Convention.Governs setup d → leadsToFile w d = .ok true →
      resolved w d = .ok (some schema) →
      (s.turn w setup (.ofFile schema) before d).Ends (.ok ()) u →
      (Session.empty.perform w setup (.changed d)).Ends (.ok ()) fresh →
      t.store.diagnosticsFor d = fresh.store.diagnosticsFor d
  others_eq : ∀ p, p ≠ schema → ¬s.index.Holds schema p →
    t.store.diagnosticsFor p = s.store.diagnosticsFor p

theorem perform_changed_spreads (hs : s.index.IsNamed)
    (hthere : leadsToFile w (w.absolute file) = .ok true)
    (hname : Convention.isSchemaName (w.absolute file).name = true)
    (hnone : Provider.first? setup.providers (w.absolute file) = none) :
    Spreads w setup (w.absolute file) s (s.perform w setup (.changed file)).session := by
  rw [perform_changed_isSchemaName hs hthere hname hnone]
  generalize w.absolute file = schema
  have hmem : ∀ d, d ∈ FilePath.sort (s.index.dependentsOf schema) ↔ s.index.Holds schema d := by
    intro d
    rw [FilePath.mem_sort, Index.mem_dependentsOf_iff hs.wellFormed]
  have hchecks : ∀ d, s.index.Holds schema d → Course.alone.checks schema s.index =
      ⟨FilePath.sort (s.index.dependentsOf schema), .ofFile schema⟩ := fun d hd =>
    Course.checks_alone_of_mem ((Index.mem_dependentsOf_iff hs.wellFormed).mpr hd)
  let checks := Course.alone.checks schema s.index
  have hverdict : ∀ {before d after u},
      FilePath.sort (s.index.dependentsOf schema) = before ++ d :: after →
        (s.turn w setup (.ofFile schema) before d).Ends (.ok ()) u →
        verdict w setup d (.ofFile schema) =
          some ((s.checkEach w setup checks.target checks.files).store.diagnosticsFor d) := by
    intro before d after u hsort hends
    have hd : s.index.Holds schema d := by
      rw [← hmem, hsort]
      exact List.mem_append_right before List.mem_cons_self
    have hnodup : (FilePath.sort (s.index.dependentsOf schema)).Nodup :=
      (List.mergeSort_perm _ _).nodup_iff.mpr (Index.dependentsOf_nodup hs.wellFormed _)
    simp only [checks, hchecks d hd]
    exact verdict_of_pass hnodup hsort hends
  refine ⟨checkEach_index w setup _ _ s, hmem, fun d hd => ?_, hverdict, ?_, ?_⟩
  · rw [hchecks d hd]
  · intro before d after u fresh hsort hd hthere hresolved hends hfresh
    have hjoins := perform_changed_joins hd hthere hresolved Session.empty
    exact Option.some.inj ((hverdict hsort hends).symm.trans (hjoins.verdict_eq hfresh))
  · intro p hp hnot
    rw [checkEach_diagnosticsFor, if_neg]
    intro hchecked
    rcases Course.eq_or_mem_of_mem_checks _ hchecked with hself | hmem
    · exact hp hself
    · exact hnot ((Index.mem_dependentsOf_iff hs.wellFormed).mp hmem)

/-! ## New schemas -/

/-- In whatever session calls have led to, whether or not a schema was there before: its change
checks the files that the index lists under it and leaves the index and all other files alone. Every
file to which the convention gives the schema is put under it by its own next change, whatever is
called before that. -/
theorem perform_changed_newcomer (w : Workspace) (setup : Setup) (store : Store)
    (calls : List (Workspace × Call)) {file : FilePath}
    (hthere : leadsToFile w (w.absolute file) = .ok true)
    (hname : Convention.isSchemaName (w.absolute file).name = true)
    (hnone : Provider.first? setup.providers (w.absolute file) = none) :
    let s := afterCalls setup ⟨.empty, store⟩ calls
    let schema := w.absolute file
    let t := (s.perform w setup (.changed file)).session
    Spreads w setup schema s t ∧
      ∀ (later : List (Workspace × Call)) (w' : Workspace) (d : FilePath),
        Convention.Governs setup d → leadsToFile w' d = .ok true →
        resolved w' d = .ok (some schema) →
        Joins w' setup schema d (afterCalls setup t later) := by
  intro s schema t
  refine ⟨perform_changed_spreads (afterCalls_isNamed .empty calls) hthere hname hnone, ?_⟩
  intro later w' d hd hd' hresolved
  exact perform_changed_joins hd hd' hresolved _

open Vigil Vigil.Sample

/-- The first of three files under a schema. -/
def firstData : FilePath := sample.top.child "a.json"

/-- The second one. -/
def secondData : FilePath := sample.top.child "b.json"

/-- The second file is checked before there is a schema, and the first one when there is. -/
def scattered : List (Workspace × Call) :=
  [(sample.workspace (.directory [("w", .directory [("b.json", .file [])])]),
      .perform (.changed secondData)),
    (blankFiles, .perform (.changed firstData))]

/-- The session after these checks. -/
def scatteredVisited : Session :=
  ⟨⟨[(threeSchema, [firstData])]⟩, ⟨[said secondData, said firstData]⟩⟩

/-- Two files with other texts and the schema that has come. -/
def renewed : List (String × Tree) :=
  [("a.json", .file [10]), ("b.json", .file [10]), ("schema.json", .file [])]

/-- The directory with them. -/
def renewedFiles : Workspace := sample.workspace (.directory [("w", .directory renewed)])

theorem afterCalls_scattered :
    afterCalls sample.setup ⟨.empty, .empty⟩ scattered = scatteredVisited := by
  have hsecond : ((⟨.empty, .empty⟩ : Session).perform
      (sample.workspace (.directory [("w", .directory [("b.json", .file [])])])) sample.setup
      (.changed secondData)).session = ⟨⟨[]⟩, ⟨[said secondData]⟩⟩ := by decide +kernel
  simp only [scattered, afterCalls, List.foldl_cons, List.foldl_nil, afterCall]
  rw [hsecond, firstData, perform_blank (by simp)]
  decide +kernel

theorem resolved_renewed :
    resolved renewedFiles secondData = .ok (some threeSchema) := by
  have hcandidates : Convention.candidates secondData =
      ["bSchema.json", "b.schema.json"] ++ "schema.json" :: [] := by decide
  exact resolved_child (by decide) (Contents.shows_ofEntries rfl (by decide)) <|
    Contents.chosen_of_least hcandidates (by decide) (by decide) (by decide) (by decide) (by decide)

/-- When the schema comes again, the file under it is checked, and the other one keeps what was said
of it until it changes. -/
theorem perform_changed_newcomer_renewed :
    let s := afterCalls sample.setup ⟨.empty, .empty⟩ scattered
    let t := (s.perform renewedFiles sample.setup (.changed threeSchema)).session
    let own := t.perform renewedFiles sample.setup (.changed secondData)
    leadsToFile renewedFiles (renewedFiles.absolute threeSchema) = .ok true ∧
      Convention.isSchemaName (renewedFiles.absolute threeSchema).name = true ∧
      Provider.first? sample.setup.providers (renewedFiles.absolute threeSchema) = none ∧
      Convention.Governs sample.setup secondData ∧
      leadsToFile renewedFiles secondData = .ok true ∧
      resolved renewedFiles secondData = .ok (some threeSchema) ∧
      t.index = ⟨[(threeSchema, [firstData])]⟩ ∧
      t.store.diagnosticsFor firstData = [⟨firstData, "Expecting value", 2, .error⟩] ∧
      t.store.diagnosticsFor secondData = [⟨secondData, "Expecting value", 1, .error⟩] ∧
      own.session.index.Holds threeSchema secondData ∧
      own.session.store.diagnosticsFor secondData =
        [⟨secondData, "Expecting value", 2, .error⟩] := by
  have habsolute : renewedFiles.absolute threeSchema = threeSchema := rfl
  have hthere : leadsToFile renewedFiles (renewedFiles.absolute threeSchema) = .ok true := by
    decide
  have hgoverns : Convention.Governs sample.setup secondData := ⟨by decide, by decide, rfl⟩
  have hthereSecond : leadsToFile renewedFiles secondData = .ok true := by decide
  have hnone : Provider.first? sample.setup.providers (renewedFiles.absolute threeSchema) = none :=
    rfl
  have hwording : ∀ d ∈ [firstData, secondData],
      verdict renewedFiles sample.setup d (.ofFile threeSchema) =
        some [⟨d, "Expecting value", 2, .error⟩] := by decide +kernel
  obtain ⟨hspreads, hlater⟩ := perform_changed_newcomer renewedFiles sample.setup .empty scattered
    hthere (by decide) hnone
  rw [afterCalls_scattered, habsolute] at hspreads
  simp only [afterCalls_scattered, habsolute] at hspreads hlater ⊢
  generalize (scatteredVisited.perform renewedFiles sample.setup (.changed threeSchema)).session = t
    at hspreads hlater ⊢
  have hsort : FilePath.sort (scatteredVisited.index.dependentsOf threeSchema) =
      [] ++ firstData :: [] := List.mergeSort_singleton _
  have hfirst := hspreads.verdict_eq hsort
    (check_silent_ends rfl (by rw [hwording firstData (by simp)]; simp) _)
  have hsecond := hspreads.others_eq secondData (by decide) fun hholds => by
    rw [← hspreads.mem_sort_iff, hsort] at hholds
    exact absurd hholds (by decide)
  have hjoins := hlater [] renewedFiles secondData hgoverns hthereSecond resolved_renewed
  have hown := ((perform_changed_resolved hgoverns hthereSecond resolved_renewed t).2 _).mpr
    (check_silent_ends rfl (by rw [hwording secondData (by simp)]; simp) _)
  have hsaid := hjoins.verdict_eq hown
  rw [← hown.session_eq, hwording secondData (by simp), Option.some.injEq] at hsaid
  rw [hwording firstData (by simp), Option.some.injEq] at hfirst
  exact ⟨hthere, by decide, hnone, hgoverns, hthereSecond, resolved_renewed, hspreads.index_eq,
    hfirst.symm, hsecond.trans (by decide), (hjoins.holds_iff _).mpr rfl, hsaid.symm⟩

/-- A schema that the values of one type meet. -/
def typed (type : String) : Tree :=
  .file <| String.toList ("\x7b\"$schema\": \"http://json-schema.org/draft-04/schema#\", " ++
    "\"type\": \"" ++ type ++ "\"\x7d") |>.map fun c => UInt8.ofNat c.toNat

/-- A list, and a schema for all files that takes lists. -/
def outranked : List (String × Tree) :=
  [("a.json", .file [0x5b, 0x5d]), ("schema.json", typed "array")]

/-- A schema for the list alone has come, and it does not take lists. -/
def overtaken : List (String × Tree) :=
  [("a.json", .file [0x5b, 0x5d]), ("aSchema.json", typed "null"), ("schema.json", typed "array")]

/-- The directory before. -/
def outrankedFiles : Workspace := sample.workspace (.directory [("w", .directory outranked)])

/-- The directory after. -/
def overtakenFiles : Workspace := sample.workspace (.directory [("w", .directory overtaken)])

/-- The session after the check of the list. -/
def outrankedVisited : Session := ⟨⟨[(threeSchema, [data])]⟩, .empty⟩

theorem resolved_outranked : resolved outrankedFiles data = .ok (some threeSchema) := by
  have hcandidates : Convention.candidates data =
      ["aSchema.json", "a.schema.json"] ++ "schema.json" :: [] := candidates_data
  exact resolved_child (by decide) (Contents.shows_ofEntries rfl (by decide)) <|
    Contents.chosen_of_least hcandidates (by decide) (by decide) (by decide) (by decide) (by decide)

theorem resolved_overtaken : resolved overtakenFiles data = .ok (some dataSchema) := by
  have hcandidates : Convention.candidates data =
      [] ++ "aSchema.json" :: ["a.schema.json", "schema.json"] := candidates_data
  exact resolved_child (by decide) (Contents.shows_ofEntries rfl (by decide)) <|
    Contents.chosen_of_least hcandidates (by decide) (by decide) (by decide) (by decide) (by decide)

theorem afterCalls_outranked :
    afterCalls sample.setup ⟨.empty, .empty⟩ [(outrankedFiles, .perform (.changed data))] =
      outrankedVisited := by
  have hgoverns : Convention.Governs sample.setup data := ⟨by decide, by decide, rfl⟩
  have hends := ((perform_changed_resolved hgoverns (by decide) resolved_outranked Session.empty).2
    outrankedVisited).mpr (ends_of_eval (by decide +kernel))
  exact hends.session_eq

/-- It takes that the file stands under the new schema. A file that was checked with a schema for
all files stays under that one and has no diagnostics when a schema for it alone has come and been
dealt with, although the convention gives it the new one and its text does not meet that. -/
theorem perform_changed_unnoticed :
    let s := afterCalls sample.setup ⟨.empty, .empty⟩ [(outrankedFiles, .perform (.changed data))]
    let t := (s.perform overtakenFiles sample.setup (.changed dataSchema)).session
    leadsToFile overtakenFiles (overtakenFiles.absolute dataSchema) = .ok true ∧
      Convention.isSchemaName (overtakenFiles.absolute dataSchema).name = true ∧
      Provider.first? sample.setup.providers (overtakenFiles.absolute dataSchema) = none ∧
      Convention.Governs sample.setup data ∧ leadsToFile overtakenFiles data = .ok true ∧
      resolved overtakenFiles data = .ok (some dataSchema) ∧
      ¬t.index.Holds dataSchema data ∧ t.index.Holds threeSchema data ∧
      verdict overtakenFiles sample.setup data (.ofFile dataSchema) =
        some [⟨data, "[] is not of type 'null'", 1, .error⟩] ∧
      t.store.diagnosticsFor data = [] := by
  have hthere : leadsToFile overtakenFiles (overtakenFiles.absolute dataSchema) = .ok true := by
    decide
  have hnamed : outrankedVisited.index.IsNamed := afterCalls_outranked ▸ afterCalls_isNamed .empty _
  have hnone : Provider.first? sample.setup.providers (overtakenFiles.absolute dataSchema) = none :=
    rfl
  have hspreads := perform_changed_spreads hnamed hthere (by decide) hnone
  have hholds : ∀ schema, outrankedVisited.index.Holds schema data ↔
      data ∈ outrankedVisited.index.dependentsOf schema := fun schema =>
    (Index.mem_dependentsOf_iff hnamed.wellFormed).symm
  have hnot : ¬outrankedVisited.index.Holds dataSchema data := by
    rw [hholds]
    decide
  simp only [afterCalls_outranked]
  rw [hspreads.index_eq, hspreads.others_eq data (by decide) hnot]
  exact ⟨hthere, by decide, hnone, ⟨by decide, by decide, rfl⟩, by decide, resolved_overtaken, hnot,
    (hholds _).mpr (by decide), by decide +kernel, rfl⟩

end Session

end Conform
