import Conform.Proofs.Index.Holds
import Mathlib.Data.List.Induction
import Mathlib.Logic.Function.Basic

/-! # The index as an assignment of schemas to files

The index lists files under schemas. What it stands for runs the other way: a
partial function that gives each file its schema. Every operation on the index
has a counterpart on such functions, and after any sequence of operations the
index answers every question as the function does.
-/

namespace Conform

/-- A call that changes an index. -/
inductive Index.Operation
  | associate (schema file : FilePath)
  | dissociate (file : FilePath)
  | remove (path : FilePath)

/-- Which schema each file has, if any. -/
abbrev Assignment := FilePath → Option FilePath

namespace Index

/-- Carries out one call. -/
def perform (index : Index) : Operation → Index
  | .associate schema file => index.associate schema file
  | .dissociate file => index.dissociate file
  | .remove path => (index.remove path).2

/-- The index after calls on the empty one. -/
def after (operations : List Operation) : Index := operations.foldl perform empty

end Index

namespace Assignment

/-- What a call does to the schemas of files. -/
def perform (schemaOf : Assignment) : Index.Operation → Assignment
  | .associate schema file => Function.update schemaOf file (some schema)
  | .dissociate file => Function.update schemaOf file none
  | .remove path => fun file =>
      if schemaOf file = some path ∨ file = path then none else schemaOf file

/-- The schemas of files after calls, where no file had one before. -/
def after (operations : List Index.Operation) : Assignment :=
  operations.foldl perform fun _ => none

end Assignment

namespace Index

/-- The pairs of an index are those of an assignment. -/
def Matches (index : Index) (schemaOf : Assignment) : Prop :=
  ∀ schema file, index.Holds schema file ↔ schemaOf file = some schema

theorem perform_wellFormed {index : Index} (hindex : index.WellFormed) (operation : Operation) :
    (index.perform operation).WellFormed := by
  cases operation with
  | associate schema file => exact associate_wellFormed hindex schema file
  | dissociate file => exact dissociate_wellFormed hindex file
  | remove path => exact remove_wellFormed hindex path

/-- One call does the same to an index and to its assignment. -/
theorem perform_matches {index : Index} {schemaOf : Assignment}
    (hmatches : index.Matches schemaOf) (operation : Operation) :
    (index.perform operation).Matches (schemaOf.perform operation) := by
  intro schema file
  cases operation with
  | associate newSchema newFile =>
      simp only [perform, Assignment.perform, associate_holds_iff, Function.update_apply]
      split
      next => rw [Option.some.injEq, eq_comm]
      next => exact hmatches schema file
  | dissociate gone =>
      simp only [perform, Assignment.perform, dissociate_holds_iff, Function.update_apply]
      split
      next hgone => simp [hgone]
      next hstays => simp [hstays, hmatches schema file]
  | remove path =>
      simp only [perform, Assignment.perform, remove_holds_iff, hmatches schema file]
      split
      next hgone =>
        simp only [reduceCtorEq, iff_false, not_and, not_not]
        intro hschema hne
        rcases hgone with hpath | hpath
        · exact absurd (Option.some.inj (hschema.symm.trans hpath)) hne
        · exact hpath
      next hstays =>
        rw [not_or] at hstays
        refine ⟨fun h => h.1, fun h => ⟨h, ?_, hstays.2⟩⟩
        rintro rfl
        exact hstays.1 h

theorem after_wellFormed_and_matches (operations : List Operation) :
    (after operations).WellFormed ∧ (after operations).Matches (Assignment.after operations) := by
  unfold after Assignment.after
  induction operations using List.reverseRecOn with
  | nil =>
      refine ⟨empty_wellFormed, ?_⟩
      intro schema file
      simp [Holds, empty]
  | append_singleton operations operation ih =>
      rw [List.foldl_append, List.foldl_append]
      exact ⟨perform_wellFormed ih.1 operation, perform_matches ih.2 operation⟩

/-- An index answers every question as an assignment does: it gives each file
its schema, each schema its files, and the schemas that some file has. A removal
hands back the files of the schema that is removed. No schema is listed twice
or without files, and no file is listed twice. -/
structure Represents (index : Index) (schemaOf : Assignment) : Prop where
  schemaFor? : ∀ file, index.schemaFor? file = schemaOf file
  dependentsOf : ∀ schema file, file ∈ index.dependentsOf schema ↔ schemaOf file = some schema
  schemas : ∀ schema, schema ∈ index.schemas ↔ ∃ file, schemaOf file = some schema
  removed : ∀ path file, file ∈ (index.remove path).1 ↔ schemaOf file = some path
  schemas_nodup : index.schemas.Nodup
  files_ne_nil : ∀ entry ∈ index.entries, entry.2 ≠ []
  files_nodup : (index.entries.flatMap (·.2)).Nodup

/-- The files of a well-formed index, over all schemas, are listed once. -/
theorem WellFormed.flatMap_files_nodup {index : Index} (hindex : index.WellFormed) :
    (index.entries.flatMap (·.2)).Nodup := by
  rw [List.nodup_flatMap]
  refine ⟨hindex.files_nodup, ?_⟩
  have hschemas : index.entries.Pairwise fun first second => first.1 ≠ second.1 :=
    List.pairwise_map.mp hindex.schemas_nodup
  refine hschemas.imp_of_mem ?_
  intro first second hfirst hsecond hne file hfile hfile'
  exact hne (hindex.holds_unique ⟨first.2, hfirst, hfile⟩ ⟨second.2, hsecond, hfile'⟩)

/-- After any sequence of calls on the empty index, the index represents the
assignment that the same calls make. -/
theorem after_represents (operations : List Operation) :
    (after operations).Represents (Assignment.after operations) := by
  obtain ⟨hindex, hmatches⟩ := after_wellFormed_and_matches operations
  have hdependents : ∀ schema file, file ∈ (after operations).dependentsOf schema ↔
      Assignment.after operations file = some schema := fun schema file =>
    (mem_dependentsOf_iff hindex).trans (hmatches schema file)
  refine ⟨?_, hdependents, ?_, hdependents, hindex.schemas_nodup, hindex.files_ne_nil,
    hindex.flatMap_files_nodup⟩
  · intro file
    apply Option.ext
    intro schema
    exact (schemaFor?_eq_some_iff hindex).trans (hmatches schema file)
  · intro schema
    rw [mem_schemas_iff hindex]
    exact exists_congr fun file => hmatches schema file

end Index

end Conform
