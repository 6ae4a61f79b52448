import Conform.Proofs.Session.UpToDate
import Conform.Schema.Validator

/-! # Checking what has changed

What there is to say once batch after batch was dealt with is what a check of
everything says. This needs that no directory with the name of a schema comes or
goes. Such a directory hides a file that equals it up to case, and nobody tells
the files that have it for a schema.
-/

namespace Conform

open Standing

namespace Vigil

variable {v : Vigil} {tree : Tree} {s : Session} {p schema : FilePath}

theorem Sane.schemaFor?_of_not_pairs (hs : v.Sane s) (hp : ¬v.Pairs p) :
    s.index.schemaFor? p = none := by
  cases hschema : s.index.schemaFor? p with
  | none => rfl
  | some schema => exact absurd (hs.pairs hschema) hp

/-- Two sessions that are up to date with the same files hold the same about each of them. -/
theorem UpToDate.standing_eq {w : Workspace} {u : Session} (hs : v.UpToDate w s)
    (hu : v.UpToDate w u) (hcovers : v.Covers p)
    (hname : Convention.isSchemaName p.name = false)
    (hfile : Session.leadsToFile w p = .ok true) : s.standing p = u.standing p := by
  have hsettled := hs.settled hcovers hname hfile
  have husettled := hu.settled hcovers hname hfile
  have hunder : ¬v.Pairs p → (s.standing p).schema? = (u.standing p).schema? := fun hnot =>
    (hs.sane.schemaFor?_of_not_pairs hnot).trans (hu.sane.schemaFor?_of_not_pairs hnot).symm
  cases hprovider : Provider.first? v.setup.providers p with
  | some text =>
      refine Standing.ext (hunder fun hp => ?_) ?_
      · have hnone := hp.first?_eq_none
        rw [hprovider] at hnone
        cases hnone
      · exact Option.some.inj
          ((hsettled.provided hprovider).symm.trans (husettled.provided hprovider))
  | none =>
      by_cases hdocument : Convention.isDocumentName p.name = true
      · obtain ⟨hfound, hverdict⟩ := hsettled.paired hprovider hdocument
        obtain ⟨hufound, huverdict⟩ := husettled.paired hprovider hdocument
        have hschema : (s.standing p).schema? = (u.standing p).schema? :=
          Except.ok.inj (hfound.symm.trans hufound)
        rw [hschema, huverdict] at hverdict
        exact Standing.ext hschema (Option.some.inj hverdict).symm
      · refine Standing.ext (hunder fun hp => hdocument hp.isDocumentName) ?_
        rw [Bool.not_eq_true] at hdocument
        exact (hs.sane.silent hprovider hdocument).trans
          (hu.sane.silent hprovider hdocument).symm

theorem UpToDate.schemaFor?_eq_of_some {w : Workspace} {u : Session} (hs : v.UpToDate w s)
    (hu : v.UpToDate w u) (hschema : s.index.schemaFor? p = some schema) :
    u.index.schemaFor? p = some schema := by
  have hp := hs.sane.pairs hschema
  have hsame := hs.standing_eq hu hp.covers hp.isSchemaName (hs.present hschema)
  exact (congrArg Standing.schema? hsame).symm.trans hschema

theorem UpToDate.index_agrees {w : Workspace} {u : Session} (hs : v.UpToDate w s)
    (hu : v.UpToDate w u) : s.index.Agrees u.index := by
  refine Index.agrees_of_schemaFor?_eq hs.sane.wellFormed hu.sane.wellFormed fun p => ?_
  cases hschema : s.index.schemaFor? p with
  | some schema => exact (hs.schemaFor?_eq_of_some hu hschema).symm
  | none =>
      cases hother : u.index.schemaFor? p with
      | none => rfl
      | some schema =>
          have hback := hu.schemaFor?_eq_of_some hs hother
          rw [hschema] at hback
          cases hback

/-- A vigil over the working directory, without providers and without a host. -/
def sample : Vigil where
  current := ⟨.root, ["w"]⟩
  root := ⟨.here, []⟩
  suffixes := [".json"]
  setup := ⟨[], ⟨[]⟩, .silent, Schema.validate⟩
  current_absolute := by decide
  suffix_ne_empty := by decide

namespace Sample

/-- A file and its schema, both without a text. -/
def paired : Tree :=
  .directory [("w", .directory [("a.json", .file []), ("aSchema.json", .file [])])]

/-- The file without its schema. -/
def unpaired : Tree := .directory [("w", .directory [("a.json", .file [])])]

/-- The file and its schema beside a directory whose name is that of the schema up to case. -/
def shadowed : Tree :=
  .directory [("w", .directory [("ASCHEMA.json", .directory [("b.json", .file [])]),
    ("a.json", .file []), ("aSchema.json", .file [])])]

/-- The file. -/
def data : FilePath := sample.top.child "a.json"

/-- The schema of the file. -/
def dataSchema : FilePath := sample.top.child "aSchema.json"

/-- The file in the directory that comes. -/
def inner : FilePath := (sample.top.child "ASCHEMA.json").child "b.json"

/-- What is said of a file without a text. -/
def said (file : FilePath) : FilePath × List Diagnostic :=
  (file, [⟨file, "Expecting value", 1, .error⟩])

/-- The session after the first visit. -/
def visited : Session := ⟨⟨[(dataSchema, [data])]⟩, ⟨[said data]⟩⟩

theorem ends_of_eval {act : Outcome Unit} {s : Session}
    (h : (decide (act.session = s) && act.value.isOk && act.notes.isEmpty) = true) :
    act.Ends (.ok ()) s := by
  simp only [Bool.and_eq_true, decide_eq_true_eq, List.isEmpty_iff] at h
  obtain ⟨⟨hsession, hvalue⟩, hnotes⟩ := h
  refine ⟨?_, hsession, by simp [hnotes]⟩
  cases hresult : act.value with
  | ok value => rfl
  | error reason =>
      rw [hresult] at hvalue
      cases hvalue

theorem pairs_data : sample.Pairs data where
  covers := ⟨⟨["a.json"], by simp, by decide, rfl⟩, by decide⟩
  isDocumentName := by decide
  isSchemaName := by decide
  first?_eq_none := rfl

theorem covers_dataSchema : sample.Covers dataSchema :=
  ⟨⟨["aSchema.json"], by simp, by decide, rfl⟩, by decide⟩

theorem covers_inner : sample.Covers inner :=
  ⟨⟨["ASCHEMA.json", "b.json"], by simp, by decide, rfl⟩, by decide⟩

theorem candidates_data :
    Convention.candidates data = ["aSchema.json", "a.schema.json", "schema.json"] := by
  decide

theorem schemaOf_beside {w : Workspace} {directory : FilePath}
    (hlist : w.list directory = .ok ["a.json", "aSchema.json"])
    (hfile : w.isFile (directory.child "aSchema.json") = .ok true) :
    Session.schemaOf w (directory.child "a.json") =
      .ok (some (directory.child "aSchema.json")) := by
  have hcandidates : Convention.candidates (directory.child "a.json") =
      ["aSchema.json", "a.schema.json", "schema.json"] := by
    rw [Convention.candidates, FilePath.stem, FilePath.name_child]
    decide
  have hfirst : Convention.find? ["a.json", "aSchema.json"] "aSchema.json" =
      some "aSchema.json" := by
    refine Convention.find?_eq_some_iff.mpr ⟨by simp, rfl, fun other hother => ?_⟩
    simp only [List.mem_cons, List.not_mem_nil, or_false] at hother
    rcases hother with rfl | rfl <;> decide
  rw [Session.schemaOf, FilePath.parent_child, namesBeside_eq hlist, hcandidates,
    Convention.choose_present hfirst, hfile]
  rfl

theorem paired_schemaOf :
    Session.schemaOf (sample.workspace paired) data = .ok (some dataSchema) :=
  schemaOf_beside rfl (by decide)

theorem shadowed_schemaOf : Session.schemaOf (sample.workspace shadowed) data = .ok none := by
  have hlist : (sample.workspace shadowed).list data.parent =
      .ok ["ASCHEMA.json", "a.json", "aSchema.json"] := rfl
  have hfirst : Convention.find? ["ASCHEMA.json", "a.json", "aSchema.json"] "aSchema.json" =
      some "ASCHEMA.json" := by
    refine Convention.find?_eq_some_iff.mpr ⟨by simp, by decide, fun other hother => ?_⟩
    simp only [List.mem_cons, List.not_mem_nil, or_false] at hother
    rcases hother with rfl | rfl | rfl <;> decide
  have habsent : ∀ wanted ∈ ["a.schema.json", "schema.json"],
      Convention.find? ["ASCHEMA.json", "a.json", "aSchema.json"] wanted = none := by
    intro wanted hwanted
    refine Convention.find?_eq_none_iff.mpr fun other hother => ?_
    simp only [List.mem_cons, List.not_mem_nil, or_false] at hother hwanted
    rcases hwanted with rfl | rfl <;> rcases hother with rfl | rfl | rfl <;> decide
  rw [Session.schemaOf, namesBeside_eq hlist, candidates_data, Convention.choose_present hfirst]
  refine (Convention.choose_absent (habsent "a.schema.json" (by simp))).trans ?_
  exact Convention.choose_absent (habsent "schema.json" (by simp))

theorem paired_visit :
    (Session.empty.visit (sample.workspace paired) sample.setup [data, dataSchema]).Ends () visited := by
  have hfirst : (Session.empty.perform (sample.workspace paired) sample.setup
      (.changed data)).Ends (.ok ()) visited := by
    refine perform_ends_of_check empty_sane pairs_data (by decide) rfl paired_schemaOf ?_
    exact ends_of_eval (by decide +kernel)
  have hsecond : (visited.perform (sample.workspace paired) sample.setup
      (.changed dataSchema)).Ends (.ok ()) visited := ends_of_eval (by decide +kernel)
  refine Session.visit_ends_iff.mpr (Act.andThen_ends_iff.mpr ⟨(), visited, hfirst, ?_⟩)
  exact Act.andThen_ends_iff.mpr ⟨(), visited, hsecond, Act.done_ends_iff.mpr ⟨rfl, rfl⟩⟩

theorem files_eq {tree : Tree} {found : List FilePath}
    (hfound : Collect.ofPath (sample.workspace tree) sample.suffixes sample.root = .ok found)
    (hnodup : found.eraseDups = found)
    (hsorted : found.Pairwise fun p q => Collect.visitedBefore p q = true) :
    sample.files tree = .ok found := by
  rw [Vigil.files, Collect.files_singleton, hfound]
  have hsame := List.mergeSort_of_pairwise hsorted
  exact congrArg Except.ok ((congrArg (·.mergeSort Collect.visitedBefore) hnodup).trans hsame)

theorem paired_files : sample.files paired = .ok [data, dataSchema] :=
  files_eq rfl rfl (by decide)

theorem unpaired_files : sample.files unpaired = .ok [data] :=
  files_eq rfl rfl (by decide)

theorem shadowed_files : sample.files shadowed = .ok [inner, data, dataSchema] :=
  files_eq rfl rfl (by decide)

/-- The session once the schema was removed. -/
def unpairedVisited : Session := ⟨⟨[]⟩, ⟨[said data]⟩⟩

theorem paired_reached : sample.Reached paired visited :=
  .start (by decide) (by decide) paired_files paired_visit

theorem unpaired_reports : sample.Reports paired unpaired ⟨[], [dataSchema]⟩ := by
  have hbefore : (sample.workspace paired).below sample.top = [data, dataSchema] := rfl
  have hafter : (sample.workspace unpaired).below sample.top = [data] := rfl
  have hdata : (sample.workspace unpaired).isFile data = .ok true := by decide
  refine ⟨.of_below (by simp) ?_ ?_ ?_ ?_ ?_, ?_, ?_⟩
  · intro p hp
    rw [List.mem_singleton] at hp
    exact hp ▸ covers_dataSchema
  · intro p hp
    rw [hafter, List.mem_singleton] at hp
    exact hp ▸ Or.inr ⟨by decide, rfl⟩
  · intro p hp
    rw [hbefore, List.mem_cons, List.mem_singleton] at hp
    rcases hp with rfl | rfl
    · exact Or.inr hdata
    · exact Or.inl List.mem_cons_self
  · intro p hp hfile
    rw [List.mem_singleton] at hp
    subst hp
    exact absurd hfile (by decide)
  · intro p hp hname
    rw [hafter, List.mem_singleton] at hp
    subst hp
    exact absurd hname (by decide)
  · intro p hp hname hlists
    have htop : unpaired.find sample.current sample.top =
        .ok (.directory [("a.json", .file [])]) := rfl
    obtain ⟨name, hmem, rfl⟩ :=
      Tree.exists_of_lists sample.top_absolute hp.1 htop (by simp [Tree.isFile]) hlists
    rw [List.map_singleton, List.mem_singleton] at hmem
    subst hmem
    exact absurd hname (by decide)
  · intro p hp _ hlists hfile
    have htop : paired.find sample.current sample.top =
        .ok (.directory [("a.json", .file []), ("aSchema.json", .file [])]) := rfl
    obtain ⟨name, hmem, rfl⟩ :=
      Tree.exists_of_lists sample.top_absolute hp.1 htop (by simp [Tree.isFile]) hlists
    rw [List.map_cons, List.map_singleton, List.mem_cons, List.mem_singleton] at hmem
    rcases hmem with rfl | rfl
    · exact absurd (by decide) hfile
    · exact absurd (by decide) hfile

theorem unpaired_visit : (Session.empty.visit (sample.workspace unpaired) sample.setup
    [data]).Ends () unpairedVisited :=
  Session.visit_ends_iff.mpr (ends_of_eval (by decide +kernel))

theorem unpaired_reached : sample.Reached unpaired unpairedVisited :=
  .batch paired_reached unpaired_reports (ends_of_eval (by decide +kernel))

/-- What the batch with which the directory comes has to tell. -/
theorem shadowed_tells : sample.Tells paired shadowed ⟨[inner], []⟩ := by
  have hbefore : (sample.workspace paired).below sample.top = [data, dataSchema] := rfl
  have hafter : (sample.workspace shadowed).below sample.top = [inner, data, dataSchema] := rfl
  refine .of_below ?_ (by simp) ?_ ?_ (by simp) ?_
  · intro p hp
    rw [List.mem_singleton] at hp
    exact hp ▸ covers_inner
  · intro p hp
    rw [hafter, List.mem_cons, List.mem_cons, List.mem_singleton] at hp
    rcases hp with rfl | rfl | rfl
    · exact Or.inl List.mem_cons_self
    · exact Or.inr ⟨by decide, rfl⟩
    · exact Or.inr ⟨by decide, rfl⟩
  · intro p hp
    rw [hbefore, List.mem_cons, List.mem_singleton] at hp
    rcases hp with rfl | rfl
    · exact Or.inr (by decide)
    · exact Or.inr (by decide)
  · intro p hp hname
    rw [hafter, List.mem_cons, List.mem_cons, List.mem_singleton] at hp
    rcases hp with rfl | rfl | rfl
    · exact absurd hname (by decide)
    · exact absurd hname (by decide)
    · decide

/-- The session once the directory has come. -/
def shadowedLater : Session := ⟨⟨[(dataSchema, [data])]⟩, ⟨[said data, said inner]⟩⟩

/-- The session after a first visit of the files with the directory. -/
def shadowedVisited : Session := ⟨⟨[]⟩, ⟨[said inner, said data, said dataSchema]⟩⟩

theorem shadowed_visit : (Session.empty.visit (sample.workspace shadowed) sample.setup
    [inner, data, dataSchema]).Ends () shadowedVisited := by
  have hfirst : (Session.empty.perform (sample.workspace shadowed) sample.setup
      (.changed inner)).Ends (.ok ()) ⟨⟨[]⟩, ⟨[said inner]⟩⟩ := ends_of_eval (by decide +kernel)
  have hsane := (perform_changed empty_sane covers_inner hfirst).1.sane
  have hsecond : ((⟨⟨[]⟩, ⟨[said inner]⟩⟩ : Session).perform (sample.workspace shadowed)
      sample.setup (.changed data)).Ends (.ok ()) ⟨⟨[]⟩, ⟨[said inner, said data]⟩⟩ := by
    refine perform_ends_of_check hsane pairs_data (by decide) rfl shadowed_schemaOf ?_
    exact ends_of_eval (by decide +kernel)
  have hthird : ((⟨⟨[]⟩, ⟨[said inner, said data]⟩⟩ : Session).perform (sample.workspace shadowed)
      sample.setup (.changed dataSchema)).Ends (.ok ()) shadowedVisited :=
    ends_of_eval (by decide +kernel)
  refine Session.visit_ends_iff.mpr (Act.andThen_ends_iff.mpr ⟨(), _, hfirst, ?_⟩)
  refine Act.andThen_ends_iff.mpr ⟨(), _, hsecond, ?_⟩
  exact Act.andThen_ends_iff.mpr ⟨(), _, hthird, Act.done_ends_iff.mpr ⟨rfl, rfl⟩⟩

theorem shadowed_reached : sample.Reached shadowed shadowedVisited :=
  .start (by decide) (by decide) shadowed_files shadowed_visit

/-- What the batch with which the directory goes has to tell. -/
theorem unshadowed_tells : sample.Tells shadowed paired ⟨[], [inner]⟩ := by
  have hbefore : (sample.workspace shadowed).below sample.top = [inner, data, dataSchema] := rfl
  have hafter : (sample.workspace paired).below sample.top = [data, dataSchema] := rfl
  refine .of_below (by simp) ?_ ?_ ?_ ?_ ?_
  · intro p hp
    rw [List.mem_singleton] at hp
    exact hp ▸ covers_inner
  · intro p hp
    rw [hafter, List.mem_cons, List.mem_singleton] at hp
    rcases hp with rfl | rfl
    · exact Or.inr ⟨by decide, rfl⟩
    · exact Or.inr ⟨by decide, rfl⟩
  · intro p hp
    rw [hbefore, List.mem_cons, List.mem_cons, List.mem_singleton] at hp
    rcases hp with rfl | rfl | rfl
    · exact Or.inl List.mem_cons_self
    · exact Or.inr (by decide)
    · exact Or.inr (by decide)
  · intro p hp hfile
    rw [List.mem_singleton] at hp
    subst hp
    exact absurd hfile (by decide)
  · intro p hp hname
    rw [hafter, List.mem_cons, List.mem_singleton] at hp
    rcases hp with rfl | rfl
    · exact absurd hname (by decide)
    · decide

end Sample

open Sample

end Vigil

end Conform
