import Conform.Proofs.Session.Vigil

/-! # What a session holds about a file

A session holds two things about a file: the schema it stands under and what is
said of it. These are settled if they are what the files there are give. In a
sane session files stand under schemas beside them, and every change of the
index that a job makes keeps it sane.
-/

namespace Conform

/-- What a session holds about a file. -/
@[ext]
structure Standing where
  /-- The schema the file stands under. -/
  schema? : Option FilePath
  /-- What is said of the file. -/
  said : List Diagnostic

/-- What a session holds about a file. -/
def Session.standing (s : Session) (p : FilePath) : Standing :=
  ⟨s.index.schemaFor? p, s.store.diagnosticsFor p⟩

namespace Standing

variable {w : Workspace} {setup : Setup} {p : FilePath} {first second third : Standing}

/-- What is held about a file is what the files there are give. -/
structure Settled (w : Workspace) (setup : Setup) (p : FilePath) (standing : Standing) :
    Prop where
  provided : ∀ {text}, Provider.first? setup.providers p = some text →
    Session.verdict w setup p (.ofText text) = some standing.said
  paired : Provider.first? setup.providers p = none →
    Convention.isDocumentName p.name = true →
    Session.schemaOf w p = .ok standing.schema? ∧
      Session.verdict w setup p (Session.targetOf standing.schema?) = some standing.said

/-- How jobs change what is held about a file that they are not about. -/
inductive Moves (w : Workspace) (setup : Setup) (p : FilePath) : Standing → Standing → Prop
  /-- It stays as it was. -/
  | kept (standing : Standing) : Moves w setup p standing standing
  /-- It is settled. -/
  | settled {before after : Standing} (h : Settled w setup p after) : Moves w setup p before after
  /-- The file was checked again with the schema it stands under. -/
  | rechecked {schema : FilePath} {before after : List Diagnostic}
      (hnone : Provider.first? setup.providers p = none)
      (hverdict : Session.verdict w setup p (.ofFile schema) = some after) :
      Moves w setup p ⟨some schema, before⟩ ⟨some schema, after⟩

/-- What is settled stays settled among other files if neither the text nor the schema of the file
nor the text of that schema has changed. -/
theorem Settled.congr {w' : Workspace} (h : Settled w setup p first)
    (htext : w'.text p = w.text p)
    (hschema : Provider.first? setup.providers p = none →
      Convention.isDocumentName p.name = true →
      Session.schemaOf w' p = .ok first.schema? ∧
        ∀ schema, first.schema? = some schema → w'.text schema = w.text schema) :
    Settled w' setup p first := by
  refine ⟨fun hsome => ?_, fun hnone hdocument => ?_⟩
  · rw [Session.verdict_congr htext rfl]
    exact h.provided hsome
  · obtain ⟨hfound, htexts⟩ := hschema hnone hdocument
    refine ⟨hfound, ?_⟩
    rw [Session.verdict_congr htext, (h.paired hnone hdocument).2]
    cases hfirst : first.schema? with
    | none => rfl
    | some schema => exact htexts schema hfirst

/-- What is settled stays settled. -/
theorem Settled.moves (h : Settled w setup p first) (hmoves : Moves w setup p first second) :
    Settled w setup p second := by
  cases hmoves with
  | kept => exact h
  | settled hsecond => exact hsecond
  | rechecked hnone hverdict =>
      -- The schema is still the one that is found, only the verdict is new.
      refine ⟨fun hsome => ?_, fun _ hdocument => ⟨(h.paired hnone hdocument).1, hverdict⟩⟩
      rw [hnone] at hsome
      cases hsome

theorem Moves.trans (h : Moves w setup p first second) (hnext : Moves w setup p second third) :
    Moves w setup p first third := by
  cases h with
  | kept => exact hnext
  | settled hsecond => exact .settled (hsecond.moves hnext)
  | rechecked hnone hverdict =>
      cases hnext with
      | kept => exact .rechecked hnone hverdict
      | settled hthird => exact .settled hthird
      | rechecked _ hnext => exact .rechecked hnone hnext

/-- Unless it is settled, a file stays under its schema. -/
theorem Moves.schema?_eq (h : Moves w setup p first second) :
    Settled w setup p second ∨ second.schema? = first.schema? := by
  cases h with
  | kept => exact Or.inr rfl
  | settled hsecond => exact Or.inl hsecond
  | rechecked => exact Or.inr rfl

/-- A file that was checked with its schema stays so, unless it is settled. -/
theorem Moves.verdict {schema : FilePath} (h : Moves w setup p first second)
    (hschema : first.schema? = some schema)
    (hverdict : Session.verdict w setup p (.ofFile schema) = some first.said) :
    Settled w setup p second ∨
      Session.verdict w setup p (.ofFile schema) = some second.said := by
  cases h with
  | kept => exact Or.inr hverdict
  | settled hsecond => exact Or.inl hsecond
  | rechecked _ hnext =>
      cases hschema
      exact Or.inr hnext

end Standing

open Standing

/-! ## Sane sessions -/

namespace Vigil

variable {v : Vigil} {w : Workspace} {s t : Session} {f p schema : FilePath}

/-- Files stand under schemas beside them, and nothing is said of files that are never checked. -/
structure Sane (v : Vigil) (s : Session) : Prop where
  wellFormed : s.index.WellFormed
  pairs : ∀ {p schema}, s.index.schemaFor? p = some schema → v.Pairs p
  isBeside : ∀ {p schema}, s.index.schemaFor? p = some schema → IsBeside p schema
  silent : ∀ {p}, Provider.first? v.setup.providers p = none →
    Convention.isDocumentName p.name = false → s.store.diagnosticsFor p = []

/-- A file that goes by the convention is settled by the schema that is found and the check with
it. -/
theorem Pairs.settled (hp : v.Pairs p) {standing : Standing}
    (hfound : Session.schemaOf w p = .ok standing.schema?)
    (hverdict : Session.verdict w v.setup p (Session.targetOf standing.schema?) =
      some standing.said) : Settled w v.setup p standing where
  provided hsome := by
    rw [hp.first?_eq_none] at hsome
    cases hsome
  paired _ _ := ⟨hfound, hverdict⟩

theorem empty_sane : v.Sane Session.empty where
  wellFormed := Index.empty_wellFormed
  pairs h := by cases h
  isBeside h := by cases h
  silent _ _ := rfl

theorem Sane.schemaFor?_eq_none (hs : v.Sane s) (hname : Convention.isSchemaName f.name = true) :
    s.index.schemaFor? f = none := by
  cases hschema : s.index.schemaFor? f with
  | none => rfl
  | some schema =>
      have hfile := (hs.pairs hschema).isSchemaName
      rw [hname] at hfile
      cases hfile

theorem schemaFor?_placed {index : Index} (hindex : index.WellFormed) (f p : FilePath)
    (found : Option FilePath) :
    (Session.placed index f found).schemaFor? p = if p = f then found else index.schemaFor? p := by
  cases found with
  | none => exact Index.schemaFor?_dissociate hindex f p
  | some schema => exact Index.schemaFor?_associate hindex schema f p

theorem Sane.placed (hs : v.Sane s) {found : Option FilePath}
    (hfound : ∀ schema, found = some schema → v.Pairs f ∧ IsBeside f schema) :
    v.Sane { s with index := Session.placed s.index f found } where
  wellFormed := by
    cases found with
    | none => exact Index.dissociate_wellFormed hs.wellFormed f
    | some schema => exact Index.associate_wellFormed hs.wellFormed schema f
  pairs {p schema} h := by
    rw [schemaFor?_placed hs.wellFormed] at h
    split at h
    next hp => exact hp ▸ (hfound schema h).1
    next => exact hs.pairs h
  isBeside {p schema} h := by
    rw [schemaFor?_placed hs.wellFormed] at h
    split at h
    next hp => exact hp ▸ (hfound schema h).2
    next => exact hs.isBeside h
  silent := hs.silent

theorem Sane.dissociate (hs : v.Sane s) (f : FilePath) :
    v.Sane { s with index := s.index.dissociate f } := by
  have hnone : ∀ schema, none = some schema → v.Pairs f ∧ IsBeside f schema := by
    intro schema hschema
    cases hschema
  exact hs.placed hnone

theorem Sane.remove (hs : v.Sane s) (f : FilePath) :
    v.Sane { s with index := (s.index.remove f).2 } where
  wellFormed := Index.remove_wellFormed hs.wellFormed f
  pairs {p found} h := by
    rw [Index.schemaFor?_remove hs.wellFormed] at h
    split at h
    next => cases h
    next => exact hs.pairs h
  isBeside {p found} h := by
    rw [Index.schemaFor?_remove hs.wellFormed] at h
    split at h
    next => cases h
    next => exact hs.isBeside h
  silent := hs.silent

theorem Sane.checked {target : Target} (hs : v.Sane s)
    (h : Session.Checked w v.setup f target s t)
    (hf : Provider.first? v.setup.providers f = none → Convention.isDocumentName f.name = true) :
    v.Sane t where
  wellFormed := h.index_eq ▸ hs.wellFormed
  pairs {p found} hfound := hs.pairs (h.index_eq ▸ hfound)
  isBeside {p found} hfound := hs.isBeside (h.index_eq ▸ hfound)
  silent {p} hnone hname := by
    have hne : p ≠ f := by
      rintro rfl
      rw [hf hnone] at hname
      cases hname
    rw [h.others_eq p hne]
    exact hs.silent hnone hname

end Vigil

theorem Session.Checked.standing_eq {w : Workspace} {setup : Setup} {f p : FilePath}
    {target : Target} {s t : Session} (h : Session.Checked w setup f target s t) (hp : p ≠ f) :
    t.standing p = s.standing p := by
  rw [Session.standing, Session.standing, h.index_eq, h.others_eq p hp]

end Conform
