import Conform.Index
import Mathlib.Data.List.Nodup
import Mathlib.Tactic.Tauto

/-! # Which files stand under which schemas

An index is read through the pairs of a schema and a file that it holds. On
well-formed indices each way of asking gives these pairs, and each operation
has one equation on them. Every operation keeps indices well formed.
-/

namespace Conform

namespace Index

/-- A file stands under a schema in some entry. -/
def Holds (index : Index) (schema file : FilePath) : Prop :=
  ∃ files, (schema, files) ∈ index.entries ∧ file ∈ files

/-- What every operation keeps: each schema has one entry, which is not empty
and lists no file twice, and no file stands under two schemas. -/
structure WellFormed (index : Index) : Prop where
  schemas_nodup : index.schemas.Nodup
  files_ne_nil : ∀ entry ∈ index.entries, entry.2 ≠ []
  files_nodup : ∀ entry ∈ index.entries, entry.2.Nodup
  holds_unique : ∀ {first second file}, index.Holds first file →
    index.Holds second file → first = second

/-- Each schema has one entry, which lists no file twice. A file may stand under
several schemas, a schema may stand under another one, and entries may be empty. -/
structure IsMapping (index : Index) : Prop where
  schemas_nodup : index.schemas.Nodup
  files_nodup : ∀ entry ∈ index.entries, entry.2.Nodup

theorem WellFormed.isMapping {index : Index} (hindex : index.WellFormed) : index.IsMapping :=
  ⟨hindex.schemas_nodup, hindex.files_nodup⟩

theorem empty_wellFormed : empty.WellFormed where
  schemas_nodup := List.nodup_nil
  files_ne_nil := by simp [empty]
  files_nodup := by simp [empty]
  holds_unique := by
    rintro first second file ⟨files, hentry, _⟩
    simp [empty] at hentry

/-! ## Reading the index -/

theorem IsMapping.mem_dependentsOf_iff {index : Index} (hindex : index.IsMapping)
    {schema file : FilePath} :
    file ∈ index.dependentsOf schema ↔ index.Holds schema file := by
  have hnodup := hindex.schemas_nodup
  unfold dependentsOf Holds
  unfold schemas at hnodup
  generalize index.entries = entries at hnodup
  induction entries with
  | nil => simp
  | cons entry rest ih =>
      obtain ⟨other, files⟩ := entry
      rw [List.map_cons, List.nodup_cons] at hnodup
      by_cases hsame : schema = other
      · subst hsame
        have habsent : ∀ others, (schema, others) ∉ rest := fun others hmem =>
          hnodup.1 (List.mem_map.mpr ⟨_, hmem, rfl⟩)
        simp [habsent]
      · simpa [List.lookup_cons, beq_eq_false_iff_ne.mpr hsame, hsame] using ih hnodup.2

theorem IsMapping.dependentsOf_nodup {index : Index} (hindex : index.IsMapping)
    (schema : FilePath) : (index.dependentsOf schema).Nodup := by
  unfold dependentsOf
  cases hfound : index.entries.lookup schema with
  | none => exact List.nodup_nil
  | some files =>
      obtain ⟨before, after, hentries, _⟩ := List.lookup_eq_some_iff.mp hfound
      exact hindex.files_nodup (schema, files) (by simp [hentries])

theorem mem_dependentsOf_iff {index : Index} (hindex : index.WellFormed)
    {schema file : FilePath} :
    file ∈ index.dependentsOf schema ↔ index.Holds schema file :=
  hindex.isMapping.mem_dependentsOf_iff

theorem dependentsOf_nodup {index : Index} (hindex : index.WellFormed) (schema : FilePath) :
    (index.dependentsOf schema).Nodup :=
  hindex.isMapping.dependentsOf_nodup schema

theorem schemaFor?_eq_some_iff {index : Index} (hindex : index.WellFormed)
    {schema file : FilePath} :
    index.schemaFor? file = some schema ↔ index.Holds schema file := by
  have hfound : ∀ {entry}, index.entries.find? (fun entry => entry.2.contains file) = some entry →
      index.Holds entry.1 file := by
    intro entry hfind
    have hfile : entry.2.contains file = true := by
      simpa using List.find?_some hfind
    exact ⟨entry.2, List.mem_of_find?_eq_some hfind, List.contains_iff_mem.mp hfile⟩
  unfold schemaFor?
  rw [Option.map_eq_some_iff]
  constructor
  · rintro ⟨entry, hfind, rfl⟩
    exact hfound hfind
  · rintro ⟨files, hentry, hfile⟩
    cases hfind : index.entries.find? fun entry => entry.2.contains file with
    | none =>
        rw [List.find?_eq_none] at hfind
        exact absurd (List.contains_iff_mem.mpr hfile) (hfind _ hentry)
    | some entry =>
        exact ⟨entry, rfl, hindex.holds_unique (hfound hfind) ⟨files, hentry, hfile⟩⟩

theorem mem_schemas_iff {index : Index} (hindex : index.WellFormed) {schema : FilePath} :
    schema ∈ index.schemas ↔ ∃ file, index.Holds schema file := by
  unfold schemas
  rw [List.mem_map]
  constructor
  · rintro ⟨entry, hentry, rfl⟩
    obtain ⟨file, hfile⟩ := List.exists_mem_of_ne_nil _ (hindex.files_ne_nil entry hentry)
    exact ⟨file, entry.2, hentry, hfile⟩
  · rintro ⟨file, files, hentry, _⟩
    exact ⟨(schema, files), hentry, rfl⟩

/-! ## Taking a file from schemas -/

/-- An entry stays, without the file, unless that leaves it empty where it was not. -/
theorem withoutFile_eq_some_iff {file : FilePath} {entry other : FilePath × List FilePath} :
    withoutFile file entry = some other ↔
      other = (entry.1, entry.2.filter (· != file)) ∧ (other.2 = [] → entry.2 = []) := by
  unfold withoutFile
  split
  next hmem =>
    have hne : entry.2 ≠ [] := List.ne_nil_of_mem (List.contains_iff_mem.mp hmem)
    dsimp only
    split
    next hempty =>
      rw [List.isEmpty_iff] at hempty
      simp only [reduceCtorEq, false_iff, not_and]
      rintro rfl hkept
      exact hne (hkept hempty)
    next hempty =>
      rw [List.isEmpty_iff] at hempty
      simp only [Option.some.injEq]
      refine ⟨?_, fun h => h.1.symm⟩
      rintro rfl
      exact ⟨rfl, fun h => absurd h hempty⟩
  next hmem =>
    have hsame : entry.2.filter (· != file) = entry.2 := by
      rw [List.filter_eq_self]
      intro other hother
      rw [bne_iff_ne]
      rintro rfl
      exact hmem (List.contains_iff_mem.mpr hother)
    rw [hsame]
    simp only [Option.some.injEq]
    refine ⟨?_, fun h => h.1.symm⟩
    rintro rfl
    exact ⟨rfl, id⟩

/-- Takes a file from every schema except those that keep it. -/
def withdraw (keeps : FilePath → Prop) [DecidablePred keeps] (file : FilePath) (index : Index) :
    Index :=
  ⟨index.entries.filterMap fun entry =>
    if keeps entry.1 then some entry else withoutFile file entry⟩

section Withdraw

variable {index : Index} {keeps : FilePath → Prop} [DecidablePred keeps] {file : FilePath}

theorem mem_withdraw_iff {entry : FilePath × List FilePath} :
    entry ∈ (index.withdraw keeps file).entries ↔
      ∃ files, (entry.1, files) ∈ index.entries ∧
        entry.2 = (if keeps entry.1 then files else files.filter (· != file)) ∧
        (entry.2 = [] → files = []) := by
  unfold withdraw
  rw [List.mem_filterMap]
  constructor
  · rintro ⟨⟨schema, files⟩, hmem, hentry⟩
    dsimp only at hentry
    split at hentry
    next hkeeps =>
      cases hentry
      exact ⟨files, hmem, by rw [if_pos hkeeps], id⟩
    next hkeeps =>
      obtain ⟨rfl, hrest⟩ := withoutFile_eq_some_iff.mp hentry
      exact ⟨files, hmem, by rw [if_neg hkeeps], hrest⟩
  · rintro ⟨files, hmem, hfiles, hrest⟩
    refine ⟨(entry.1, files), hmem, ?_⟩
    dsimp only
    split
    next hkeeps =>
      rw [if_pos hkeeps] at hfiles
      rw [← hfiles]
    next hkeeps =>
      rw [if_neg hkeeps] at hfiles
      exact withoutFile_eq_some_iff.mpr ⟨by rw [← hfiles], hrest⟩

theorem withdraw_holds_iff {schema other : FilePath} :
    (index.withdraw keeps file).Holds schema other ↔
      index.Holds schema other ∧ (keeps schema ∨ other ≠ file) := by
  unfold Holds
  simp only [mem_withdraw_iff]
  constructor
  · rintro ⟨_, ⟨files, hmem, hfiles, _⟩, hother⟩
    rw [hfiles] at hother
    split at hother
    next hkeeps => exact ⟨⟨files, hmem, hother⟩, Or.inl hkeeps⟩
    next hkeeps =>
      rw [List.mem_filter, bne_iff_ne] at hother
      exact ⟨⟨files, hmem, hother.1⟩, Or.inr hother.2⟩
  · rintro ⟨⟨files, hmem, hother⟩, hstays⟩
    have hmem' : other ∈ if keeps schema then files else files.filter (· != file) := by
      split
      next => exact hother
      next hkeeps =>
        exact List.mem_filter.mpr ⟨hother, bne_iff_ne.mpr (hstays.resolve_left hkeeps)⟩
    exact ⟨_, ⟨files, hmem, rfl, fun hempty => absurd hempty (List.ne_nil_of_mem hmem')⟩, hmem'⟩

theorem withoutFile_fst {file : FilePath} {entry other : FilePath × List FilePath}
    (h : withoutFile file entry = some other) : other.1 = entry.1 := by
  unfold withoutFile at h
  split at h
  · dsimp only at h
    split at h <;> cases h
    rfl
  · cases h
    rfl

theorem withdraw_schemas_sublist (keeps : FilePath → Prop) [DecidablePred keeps]
    (file : FilePath) (entries : List (FilePath × List FilePath)) :
    ((Index.mk entries).withdraw keeps file).schemas.Sublist (Index.mk entries).schemas := by
  unfold withdraw schemas
  induction entries with
  | nil => exact List.Sublist.slnil
  | cons entry rest ih =>
      have hfirst : ∀ other, (if keeps entry.1 then some entry else withoutFile file entry) =
          some other → other.1 = entry.1 := by
        intro other hother
        split at hother
        · cases hother
          rfl
        · exact withoutFile_fst hother
      rw [List.filterMap_cons]
      split
      next => exact ih.trans (List.sublist_cons_self _ _)
      next other hother =>
        rw [List.map_cons, List.map_cons, hfirst other hother]
        exact ih.cons_cons _

theorem withdraw_isMapping (hindex : index.IsMapping) : (index.withdraw keeps file).IsMapping where
  schemas_nodup := hindex.schemas_nodup.sublist (withdraw_schemas_sublist keeps file index.entries)
  files_nodup entry hentry := by
    obtain ⟨files, hmem, hfiles, _⟩ := mem_withdraw_iff.mp hentry
    have hnodup := hindex.files_nodup _ hmem
    rw [hfiles]
    split
    · exact hnodup
    · exact hnodup.filter _

theorem withdraw_wellFormed (hindex : index.WellFormed) :
    (index.withdraw keeps file).WellFormed where
  schemas_nodup := (withdraw_isMapping hindex.isMapping).schemas_nodup
  files_ne_nil entry hentry := by
    obtain ⟨files, hmem, _, hrest⟩ := mem_withdraw_iff.mp hentry
    exact fun hempty => hindex.files_ne_nil _ hmem (hrest hempty)
  files_nodup := (withdraw_isMapping hindex.isMapping).files_nodup
  holds_unique hfirst hsecond := hindex.holds_unique
    (withdraw_holds_iff.mp hfirst).1 (withdraw_holds_iff.mp hsecond).1

end Withdraw

/-! ## Operations that are repeated -/

theorem withoutFile_of_withoutFile {file : FilePath} {entry other : FilePath × List FilePath}
    (h : withoutFile file entry = some other) : withoutFile file other = some other := by
  unfold withoutFile at h
  split at h
  next =>
    dsimp only at h
    split at h
    next => cases h
    next =>
      cases h
      simp [withoutFile]
  next habsent =>
    cases h
    rw [withoutFile, if_neg habsent]

theorem withdraw_withdraw (keeps : FilePath → Prop) [DecidablePred keeps] (file : FilePath)
    (index : Index) :
    (index.withdraw keeps file).withdraw keeps file = index.withdraw keeps file := by
  unfold withdraw
  rw [List.filterMap_filterMap]
  congr 2
  funext entry
  by_cases hkeeps : keeps entry.1
  · simp [hkeeps]
  · rw [if_neg hkeeps]
    cases hother : withoutFile file entry with
    | none => rfl
    | some other =>
        rw [Option.bind_some, withoutFile_of_withoutFile hother, ite_self]

/-! ## The operations -/

theorem dissociate_eq_withdraw (index : Index) (file : FilePath) :
    index.dissociate file = index.withdraw (fun _ => False) file := by
  simp [dissociate, withdraw]

theorem dissociate_isMapping {index : Index} (hindex : index.IsMapping) (file : FilePath) :
    (index.dissociate file).IsMapping := by
  rw [dissociate_eq_withdraw]
  exact withdraw_isMapping hindex

theorem dissociate_wellFormed {index : Index} (hindex : index.WellFormed) (file : FilePath) :
    (index.dissociate file).WellFormed := by
  rw [dissociate_eq_withdraw]
  exact withdraw_wellFormed hindex

theorem dissociate_holds_iff {index : Index} {file schema other : FilePath} :
    (index.dissociate file).Holds schema other ↔ index.Holds schema other ∧ other ≠ file := by
  rw [dissociate_eq_withdraw, withdraw_holds_iff, false_or]

theorem addUnder_holds_iff {schema file other listed : FilePath}
    {entries : List (FilePath × List FilePath)} :
    (Index.mk (addUnder schema file entries)).Holds other listed ↔
      (Index.mk entries).Holds other listed ∨ (other = schema ∧ listed = file) := by
  unfold Holds
  induction entries with
  | nil => simp [addUnder]
  | cons entry rest ih =>
      obtain ⟨first, files⟩ := entry
      unfold addUnder
      split
      next hsame =>
        subst hsame
        simp only [List.mem_cons, Prod.mk.injEq, or_and_right, exists_or, and_assoc,
          exists_and_left, exists_eq_left]
        have hadded : listed ∈ (if files.contains file then files else files ++ [file]) ↔
            listed ∈ files ∨ listed = file := by
          split
          next hmem =>
            rw [List.contains_iff_mem] at hmem
            exact ⟨Or.inl, fun h => h.elim id fun heq => heq ▸ hmem⟩
          next => rw [List.mem_append, List.mem_singleton]
        rw [hadded]
        generalize (∃ others, (other, others) ∈ rest ∧ listed ∈ others) = inRest
        tauto
      next hother =>
        simp only [List.mem_cons, or_and_right, exists_or] at ih ⊢
        rw [ih, or_assoc]

theorem addUnder_schemas (schema file : FilePath) (entries : List (FilePath × List FilePath)) :
    (Index.mk (addUnder schema file entries)).schemas =
      if schema ∈ (Index.mk entries).schemas then (Index.mk entries).schemas
      else (Index.mk entries).schemas ++ [schema] := by
  unfold schemas
  induction entries with
  | nil => simp [addUnder]
  | cons entry rest ih =>
      obtain ⟨first, files⟩ := entry
      unfold addUnder
      split
      next hsame => simp [hsame]
      next hother =>
        rw [List.map_cons, ih]
        simp only [List.map_cons, List.mem_cons, Ne.symm hother, false_or, List.cons_append]
        split <;> rfl

theorem mem_addUnder {schema file : FilePath} {entries : List (FilePath × List FilePath)}
    {entry : FilePath × List FilePath} (hentry : entry ∈ addUnder schema file entries) :
    entry ∈ entries ∨ entry.2 = [file] ∨
      ∃ files, (schema, files) ∈ entries ∧
        entry.2 = if files.contains file then files else files ++ [file] := by
  induction entries with
  | nil =>
      rw [addUnder, List.mem_singleton] at hentry
      exact Or.inr (Or.inl (by rw [hentry]))
  | cons first rest ih =>
      obtain ⟨other, files⟩ := first
      unfold addUnder at hentry
      split at hentry
      next hsame =>
        subst hsame
        rcases List.mem_cons.mp hentry with rfl | hrest
        · exact Or.inr (Or.inr ⟨files, List.mem_cons_self, rfl⟩)
        · exact Or.inl (List.mem_cons_of_mem _ hrest)
      next hother =>
        rcases List.mem_cons.mp hentry with rfl | hrest
        · exact Or.inl List.mem_cons_self
        · rcases ih hrest with hmem | hone | ⟨old, hmem, hfiles⟩
          · exact Or.inl (List.mem_cons_of_mem _ hmem)
          · exact Or.inr (Or.inl hone)
          · exact Or.inr (Or.inr ⟨old, List.mem_cons_of_mem _ hmem, hfiles⟩)

theorem associate_eq_addUnder (index : Index) (schema file : FilePath) :
    index.associate schema file =
      ⟨addUnder schema file (index.withdraw (· = schema) file).entries⟩ := rfl

theorem dissociate_dissociate (index : Index) (file : FilePath) :
    (index.dissociate file).dissociate file = index.dissociate file := by
  simp only [dissociate_eq_withdraw, withdraw_withdraw]

/-- Taking a file from all schemas but one has no part in adding it under that one. -/
theorem withdraw_addUnder (schema file : FilePath) (entries : List (FilePath × List FilePath)) :
    (Index.mk (addUnder schema file entries)).withdraw (· = schema) file =
      ⟨addUnder schema file ((Index.mk entries).withdraw (· = schema) file).entries⟩ := by
  unfold withdraw
  congr 1
  induction entries with
  | nil => simp [addUnder]
  | cons entry rest ih =>
      obtain ⟨other, files⟩ := entry
      by_cases hother : other = schema
      · simp [addUnder, hother]
      · rw [addUnder, if_neg hother]
        simp only [List.filterMap_cons, if_neg hother]
        cases hstays : withoutFile file (other, files) with
        | none => exact ih
        | some left =>
            obtain ⟨first, others⟩ := left
            obtain rfl : first = other := withoutFile_fst hstays
            rw [addUnder, if_neg hother]
            exact congrArg _ ih

theorem addUnder_addUnder (schema file : FilePath) (entries : List (FilePath × List FilePath)) :
    addUnder schema file (addUnder schema file entries) = addUnder schema file entries := by
  induction entries with
  | nil => simp [addUnder]
  | cons entry rest ih =>
      obtain ⟨other, files⟩ := entry
      by_cases hother : other = schema
      · rw [addUnder, if_pos hother, addUnder, if_pos hother]
        simp only [Prod.mk.injEq, List.cons.injEq, true_and, and_true]
        split
        next => rfl
        next => simp
      · rw [addUnder, if_neg hother, addUnder, if_neg hother, ih]

theorem associate_associate (index : Index) (schema file : FilePath) :
    (index.associate schema file).associate schema file = index.associate schema file := by
  rw [associate_eq_addUnder, associate_eq_addUnder, withdraw_addUnder, withdraw_withdraw,
    addUnder_addUnder]

theorem associate_holds_iff {index : Index} {schema file other listed : FilePath} :
    (index.associate schema file).Holds other listed ↔
      if listed = file then other = schema else index.Holds other listed := by
  rw [associate_eq_addUnder, addUnder_holds_iff, withdraw_holds_iff]
  split
  next hfile =>
    subst hfile
    constructor
    · rintro (⟨_, hother | hne⟩ | ⟨hother, _⟩)
      · exact hother
      · exact absurd rfl hne
      · exact hother
    · exact fun hother => Or.inr ⟨hother, rfl⟩
  next hfile => simp [hfile]

theorem associate_isMapping {index : Index} (hindex : index.IsMapping)
    (schema file : FilePath) : (index.associate schema file).IsMapping := by
  -- First the file is taken from all other schemas, then it is added under its own.
  have hothers : (index.withdraw (· = schema) file).IsMapping := withdraw_isMapping hindex
  refine ⟨?_, ?_⟩
  · rw [associate_eq_addUnder, addUnder_schemas]
    split
    next => exact hothers.schemas_nodup
    next habsent =>
      rw [← List.concat_eq_append]
      exact hothers.schemas_nodup.concat habsent
  · intro entry hentry
    rw [associate_eq_addUnder] at hentry
    rcases mem_addUnder hentry with hmem | hone | ⟨files, hmem, hfiles⟩
    · exact hothers.files_nodup _ hmem
    · simp [hone]
    · rw [hfiles]
      split
      next => exact hothers.files_nodup _ hmem
      next habsent =>
        rw [List.contains_iff_mem] at habsent
        rw [← List.concat_eq_append]
        exact (hothers.files_nodup _ hmem).concat habsent

/-- Only an entry that was empty is empty when a file has been added. -/
theorem empty_mem_of_mem_addUnder {schema file other : FilePath}
    {entries : List (FilePath × List FilePath)}
    (hentry : (other, []) ∈ addUnder schema file entries) : (other, []) ∈ entries := by
  rcases mem_addUnder hentry with hmem | hone | ⟨files, _, hfiles⟩
  · exact hmem
  · simp at hone
  · split at hfiles
    next hmem => simp [← hfiles] at hmem
    next => simp at hfiles

theorem associate_wellFormed {index : Index} (hindex : index.WellFormed)
    (schema file : FilePath) : (index.associate schema file).WellFormed where
  schemas_nodup := (associate_isMapping hindex.isMapping schema file).schemas_nodup
  files_nodup := (associate_isMapping hindex.isMapping schema file).files_nodup
  files_ne_nil := by
    rintro ⟨other, files⟩ hentry rfl
    have hothers : (index.withdraw (· = schema) file).WellFormed := withdraw_wellFormed hindex
    rw [associate_eq_addUnder] at hentry
    exact hothers.files_ne_nil _ (empty_mem_of_mem_addUnder hentry) rfl
  holds_unique {first second listed} hfirst hsecond := by
    rw [associate_holds_iff] at hfirst hsecond
    split at hfirst
    next hfile =>
      rw [if_pos hfile] at hsecond
      rw [hfirst, hsecond]
    next hfile =>
      rw [if_neg hfile] at hsecond
      exact hindex.holds_unique hfirst hsecond

theorem erase_holds_iff {index : Index} {path schema file : FilePath} :
    (Index.mk (Entries.erase path index.entries)).Holds schema file ↔
      index.Holds schema file ∧ schema ≠ path := by
  unfold Holds Entries.erase
  simp only [List.mem_filter, bne_iff_ne]
  constructor
  · rintro ⟨files, ⟨hmem, hne⟩, hfile⟩
    exact ⟨⟨files, hmem, hfile⟩, hne⟩
  · rintro ⟨⟨files, hmem, hfile⟩, hne⟩
    exact ⟨files, ⟨hmem, hne⟩, hfile⟩

theorem erase_isMapping {index : Index} (hindex : index.IsMapping) (path : FilePath) :
    (Index.mk (Entries.erase path index.entries)).IsMapping where
  schemas_nodup := hindex.schemas_nodup.sublist (List.filter_sublist.map Prod.fst)
  files_nodup entry hentry := hindex.files_nodup entry (List.mem_of_mem_filter hentry)

theorem erase_wellFormed {index : Index} (hindex : index.WellFormed) (path : FilePath) :
    (Index.mk (Entries.erase path index.entries)).WellFormed where
  schemas_nodup := (erase_isMapping hindex.isMapping path).schemas_nodup
  files_ne_nil entry hentry := hindex.files_ne_nil entry (List.mem_of_mem_filter hentry)
  files_nodup := (erase_isMapping hindex.isMapping path).files_nodup
  holds_unique hfirst hsecond :=
    hindex.holds_unique (erase_holds_iff.mp hfirst).1 (erase_holds_iff.mp hsecond).1

theorem remove_isMapping {index : Index} (hindex : index.IsMapping) (path : FilePath) :
    (index.remove path).2.IsMapping :=
  dissociate_isMapping (erase_isMapping hindex path) path

theorem remove_wellFormed {index : Index} (hindex : index.WellFormed) (path : FilePath) :
    (index.remove path).2.WellFormed :=
  dissociate_wellFormed (erase_wellFormed hindex path) path

theorem remove_holds_iff {index : Index} {path schema file : FilePath} :
    (index.remove path).2.Holds schema file ↔
      index.Holds schema file ∧ schema ≠ path ∧ file ≠ path := by
  unfold remove
  rw [dissociate_holds_iff, erase_holds_iff, and_assoc]

/-! ## The schema of a file after an operation -/

theorem schemaFor?_associate {index : Index} (hindex : index.WellFormed)
    (schema file other : FilePath) :
    (index.associate schema file).schemaFor? other =
      if other = file then some schema else index.schemaFor? other := by
  ext found
  rw [schemaFor?_eq_some_iff (associate_wellFormed hindex schema file),
    associate_holds_iff]
  split
  next => simp [eq_comm]
  next => rw [schemaFor?_eq_some_iff hindex]

theorem schemaFor?_dissociate {index : Index} (hindex : index.WellFormed)
    (file other : FilePath) :
    (index.dissociate file).schemaFor? other =
      if other = file then none else index.schemaFor? other := by
  ext found
  rw [schemaFor?_eq_some_iff (dissociate_wellFormed hindex file), dissociate_holds_iff]
  split
  next hfile => simp [hfile]
  next hfile => simp [hfile, schemaFor?_eq_some_iff hindex]

/-- After a removal the path itself has no schema, and neither has a file that stood under it. -/
theorem schemaFor?_remove {index : Index} (hindex : index.WellFormed) (path other : FilePath) :
    (index.remove path).2.schemaFor? other =
      if other = path ∨ index.schemaFor? other = some path then none
      else index.schemaFor? other := by
  ext found
  rw [schemaFor?_eq_some_iff (remove_wellFormed hindex path), remove_holds_iff,
    ← schemaFor?_eq_some_iff hindex]
  split
  next hgone =>
    simp only [reduceCtorEq, iff_false]
    rintro ⟨hfound, hschema, hfile⟩
    rcases hgone with hgone | hgone
    · exact hfile hgone
    · exact hschema (Option.some.inj (hfound.symm.trans hgone))
  next hstays =>
    rw [not_or] at hstays
    constructor
    · exact fun h => h.1
    · exact fun hfound => ⟨hfound, fun hschema => hstays.2 (hschema ▸ hfound), hstays.1⟩

theorem mem_dependentsOf_iff_schemaFor? {index : Index} (hindex : index.WellFormed)
    {schema file : FilePath} :
    file ∈ index.dependentsOf schema ↔ index.schemaFor? file = some schema := by
  rw [mem_dependentsOf_iff hindex, schemaFor?_eq_some_iff hindex]

theorem mem_dependentsOf_dissociate {index : Index} (hindex : index.WellFormed)
    {schema file other : FilePath} :
    other ∈ (index.dissociate file).dependentsOf schema ↔
      other ∈ index.dependentsOf schema ∧ other ≠ file := by
  rw [mem_dependentsOf_iff (dissociate_wellFormed hindex file), dissociate_holds_iff,
    mem_dependentsOf_iff hindex]

/-- Two indices have the same schemas in use and the same files under each of them. -/
structure Agrees (first second : Index) : Prop where
  schemas_perm : first.schemas.Perm second.schemas
  dependentsOf_perm : ∀ schema, (first.dependentsOf schema).Perm (second.dependentsOf schema)
  schemaFor?_eq : ∀ file, first.schemaFor? file = second.schemaFor? file

/-- The schemas of the files say all there is in an index but for its order. -/
theorem agrees_of_schemaFor?_eq {first second : Index} (hfirst : first.WellFormed)
    (hsecond : second.WellFormed) (h : ∀ file, first.schemaFor? file = second.schemaFor? file) :
    first.Agrees second where
  schemas_perm := by
    refine (List.perm_ext_iff_of_nodup hfirst.schemas_nodup hsecond.schemas_nodup).mpr ?_
    intro schema
    rw [mem_schemas_iff hfirst, mem_schemas_iff hsecond]
    refine exists_congr fun file => ?_
    rw [← schemaFor?_eq_some_iff hfirst, ← schemaFor?_eq_some_iff hsecond, h file]
  dependentsOf_perm schema := by
    refine (List.perm_ext_iff_of_nodup (dependentsOf_nodup hfirst schema)
      (dependentsOf_nodup hsecond schema)).mpr ?_
    intro file
    rw [mem_dependentsOf_iff_schemaFor? hfirst, mem_dependentsOf_iff_schemaFor? hsecond, h file]
  schemaFor?_eq := h

end Index

end Conform
