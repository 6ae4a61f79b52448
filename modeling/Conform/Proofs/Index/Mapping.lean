import Conform.Proofs.Entries
import Conform.Proofs.Index.Holds
import Conform.Proofs.Listing

/-! # The operations on arbitrary mappings

The calls on the empty index put a file under one schema at most and leave no
schema without files. What an operation does to the pairs of a schema and a file
rests on neither: wherever a file stands it is found, under however many schemas,
and an entry that is empty before an operation is left alone.
-/

namespace Conform

namespace Index

/-! ## Entries that are given -/

/-- Whatever the entries are, the index with them is a mapping. -/
theorem ofEntries_isMapping (entries : List (FilePath × List FilePath)) :
    (ofEntries entries).IsMapping := by
  have hputs : ∀ known : List (FilePath × List FilePath), (Index.mk known).IsMapping →
      (Index.mk (entries.foldl (fun known entry =>
        Entries.put entry.1 entry.2.eraseDups known) known)).IsMapping := by
    induction entries with
    | nil => exact fun known hknown => hknown
    | cons entry rest ih =>
        intro known hknown
        refine ih _ ⟨Entries.Distinct.put hknown.schemas_nodup _ _, ?_⟩
        intro other hother
        rcases Entries.mem_put hother with rfl | hmem
        · exact nodup_eraseDups _
        · exact hknown.files_nodup other hmem
  exact hputs [] ⟨List.nodup_nil, by simp⟩

/-! ## What an operation leaves -/

/-- The mapping after an operation holds the given pairs, and of its entries only
those are empty that were empty before. -/
structure Leaves (index after : Index) (pairs : FilePath → FilePath → Prop) : Prop where
  isMapping : after.IsMapping
  holds_iff : ∀ schema file, after.Holds schema file ↔ pairs schema file
  empty_mem : ∀ schema, (schema, []) ∈ after.entries → (schema, []) ∈ index.entries

section Operations

variable {index : Index}

theorem empty_mem_of_mem_withdraw {keeps : FilePath → Prop} [DecidablePred keeps]
    {file schema : FilePath} (hentry : (schema, []) ∈ (index.withdraw keeps file).entries) :
    (schema, []) ∈ index.entries := by
  obtain ⟨files, hmem, _, hrest⟩ := mem_withdraw_iff.mp hentry
  rwa [hrest rfl] at hmem

/-- The file stands under the schema and under no other one. -/
theorem IsMapping.associate_leaves (hindex : index.IsMapping) (schema file : FilePath) :
    index.Leaves (index.associate schema file) fun other listed =>
      if listed = file then other = schema else index.Holds other listed where
  isMapping := associate_isMapping hindex schema file
  holds_iff other listed := associate_holds_iff
  empty_mem other hentry := by
    rw [associate_eq_addUnder] at hentry
    exact empty_mem_of_mem_withdraw (empty_mem_of_mem_addUnder hentry)

/-- The file stands under no schema. -/
theorem IsMapping.dissociate_leaves (hindex : index.IsMapping) (file : FilePath) :
    index.Leaves (index.dissociate file) fun schema listed =>
      index.Holds schema listed ∧ listed ≠ file where
  isMapping := dissociate_isMapping hindex file
  holds_iff schema listed := dissociate_holds_iff
  empty_mem schema hentry := by
    rw [dissociate_eq_withdraw] at hentry
    exact empty_mem_of_mem_withdraw hentry

/-- Nothing stands under the path, and the path stands under nothing. -/
theorem IsMapping.remove_leaves (hindex : index.IsMapping) (path : FilePath) :
    index.Leaves (index.remove path).2 fun schema file =>
      index.Holds schema file ∧ schema ≠ path ∧ file ≠ path where
  isMapping := remove_isMapping hindex path
  holds_iff schema file := remove_holds_iff
  empty_mem schema hentry := by
    have herased := ((erase_isMapping hindex path).dissociate_leaves path).empty_mem schema hentry
    exact List.mem_of_mem_filter herased

/-- Not even an entry without files is left of a path that is removed. -/
theorem notMem_schemas_remove (index : Index) (path : FilePath) :
    path ∉ (index.remove path).2.schemas := by
  have herased : path ∉ (Index.mk (Entries.erase path index.entries)).schemas := by
    simp [schemas, Entries.erase]
  have hsub := withdraw_schemas_sublist (fun _ => False) path (Entries.erase path index.entries)
  rw [← dissociate_eq_withdraw] at hsub
  exact fun hmem => herased (hsub.subset hmem)

/-- A removal hands back what stood under the path, each file once. -/
theorem IsMapping.removed (hindex : index.IsMapping) (path : FilePath) :
    (index.remove path).1.Nodup ∧
      ∀ file, file ∈ (index.remove path).1 ↔ index.Holds path file :=
  ⟨hindex.dependentsOf_nodup path, fun _ => hindex.mem_dependentsOf_iff⟩

end Operations

/-- From every mapping: `associate` leaves the file under the schema and under no
other one, `dissociate` leaves the file under none, and `remove` leaves the path
neither as a schema nor under one and hands back what stood under it. Each
keeps all other pairs and adds no other. -/
theorem IsMapping.operations (index : Index) (hindex : index.IsMapping) :
    (∀ schema file, index.Leaves (index.associate schema file) fun other listed =>
      if listed = file then other = schema else index.Holds other listed) ∧
    (∀ file, index.Leaves (index.dissociate file) fun schema listed =>
      index.Holds schema listed ∧ listed ≠ file) ∧
    ∀ path, index.Leaves (index.remove path).2 (fun schema file =>
        index.Holds schema file ∧ schema ≠ path ∧ file ≠ path) ∧
      path ∉ (index.remove path).2.schemas ∧ (index.remove path).1.Nodup ∧
      ∀ file, file ∈ (index.remove path).1 ↔ index.Holds path file := by
  refine ⟨hindex.associate_leaves, hindex.dissociate_leaves, fun path => ?_⟩
  exact ⟨hindex.remove_leaves path, notMem_schemas_remove index path, hindex.removed path⟩

/-- A mapping that no calls build: `a.json` stands under two schemas, both of which
stand under each other, and a third schema has no files. -/
def tangled : Index :=
  let a : FilePath := ⟨.here, ["a.json"]⟩
  let s : FilePath := ⟨.here, ["s.json"]⟩
  let t : FilePath := ⟨.here, ["t.json"]⟩
  ofEntries [(s, [t, a]), (t, [a, s]), (⟨.here, ["u.json"]⟩, [])]

theorem IsMapping.operations_tangled :
    let a : FilePath := ⟨.here, ["a.json"]⟩
    let s : FilePath := ⟨.here, ["s.json"]⟩
    let t : FilePath := ⟨.here, ["t.json"]⟩
    let u : FilePath := ⟨.here, ["u.json"]⟩
    tangled.IsMapping ∧ ¬tangled.WellFormed ∧
      ((tangled.associate u a).entries = [(s, [t]), (t, [s]), (u, [a])] ∧
        ∀ schema, (tangled.associate u a).Holds schema a ↔ schema = u) ∧
      ((tangled.dissociate a).entries = [(s, [t]), (t, [s]), (u, [])] ∧
        ∀ schema, ¬(tangled.dissociate a).Holds schema a) ∧
      tangled.remove t = ([a, s], ⟨[(s, [a]), (u, [])]⟩) ∧
        (∀ schema, ¬(tangled.remove t).2.Holds schema t) ∧
        ∀ file, file ∈ (tangled.remove t).1 ↔ tangled.Holds t file := by
  intro a s t u
  have hmapping : tangled.IsMapping := ofEntries_isMapping _
  obtain ⟨hassociate, hdissociate, hremove⟩ := IsMapping.operations tangled hmapping
  refine ⟨hmapping, ?_, ⟨by decide +kernel, fun schema => ?_⟩, ⟨by decide +kernel, fun schema => ?_⟩,
    by decide +kernel, fun schema => ?_, (hremove t).2.2.2⟩
  · intro hindex
    exact hindex.files_ne_nil (u, []) (by decide +kernel) rfl
  · rw [(hassociate u a).holds_iff, if_pos rfl]
  · rw [(hdissociate a).holds_iff]
    exact fun h => h.2 rfl
  · rw [(hremove t).1.holds_iff]
    exact fun h => h.2.2 rfl

end Index

end Conform
