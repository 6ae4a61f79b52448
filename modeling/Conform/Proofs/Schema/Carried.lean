import Conform.Schema.Report

/-! # Properties that reports carry on

A property of the violations of a value is carried on if violations that only
name a cause have it and if what has it inside a value has it as well when it is
seen from there. Combining reports keeps such a property.
-/

namespace Conform

theorem eq_ok_of_toOption {ε α : Type} {result : Except ε α} {a : α}
    (h : result.toOption = some a) : result = .ok a := by
  cases result with
  | ok b => rw [Option.some.inj h]
  | error e => cases h

/-- The cause is not that no alternative is met. -/
def Cause.IsPlain : Cause → Prop
  | .noAlternative _ => False
  | _ => True

/-- The violation seen from the value around its own. -/
def Violation.within (step : Step) (v : Violation) : Violation := { v with path := step :: v.path }

/-- A property of the violations of a value that reports carry on. -/
structure Violation.Carried (P : Json → Violation → Prop) : Prop where
  plain : ∀ {found : Json} {cause : Cause}, cause.IsPlain → P found ⟨[], cause, []⟩
  item : ∀ {items : List Json} {n : Nat} {item : Json} {v : Violation}, items[n]? = some item →
    P item v → P (.arr items) (v.within (.index n))
  member : ∀ {members : List (Text × Json)} {key : Text} {value : Json} {v : Violation},
    (key, value) ∈ members → P value v → P (.obj members) (v.within (.key key))
  /-- A key of an object is looked at as a text of its own, without a step. -/
  name : ∀ {key : Text} {found : Json} {v : Violation}, P (.str key) v → P found v

namespace Report

/-- Every violation has a property, as a violation of some value. -/
def Every (P : Json → Violation → Prop) (found : Json) (report : Report) : Prop :=
  ∀ v ∈ report.violations, P found v

variable {P : Json → Violation → Prop} {found : Json}

theorem clean_every : clean.Every P found := by simp [Every, clean]

theorem failed_every (fault : Fault) : (failed fault).Every P found := by simp [Every, failed]

theorem andThen_every {brief : Bool} {report : Report} {next : Unit → Report}
    (hreport : report.Every P found) (hnext : (next ()).Every P found) :
    (report.andThen brief next).Every P found := by
  unfold andThen
  split
  · exact hreport
  · intro v hv
    rcases List.mem_append.mp hv with hv | hv
    · exact hreport v hv
    · exact hnext v hv

theorem each_every {α : Type} {brief : Bool} {report : α → Report} {things : List α}
    (hreport : ∀ thing ∈ things, (report thing).Every P found) :
    (each brief report things).Every P found := by
  induction things with
  | nil => exact clean_every
  | cons thing rest ih =>
      exact andThen_every (hreport thing List.mem_cons_self)
        (ih fun other hother => hreport other (List.mem_cons_of_mem _ hother))

/-- Of an evaluation that may fail before it reports. -/
theorem ofExcept_bind_every {α : Type} {result : Except Fault α} {next : α → Except Fault Report}
    (hnext : ∀ a, result = .ok a → (ofExcept (next a)).Every P found) :
    (ofExcept (result >>= next)).Every P found := by
  cases result with
  | ok a => exact hnext a rfl
  | error fault => exact failed_every fault

theorem mem_violations_of_all {report : Report} {violations : List Violation}
    (hall : report.all = .ok violations) {v : Violation} (hv : v ∈ violations) :
    v ∈ report.violations := by
  unfold all at hall
  split at hall
  · cases hall
  · cases hall
    exact hv

end Report

namespace Violation.Carried

open Report

variable {P : Json → Violation → Prop} (hP : Carried P) {found : Json}

include hP

theorem violation_every {cause : Cause} (hcause : cause.IsPlain) :
    (violation cause).Every P found := by
  simpa [Every, violation] using hP.plain hcause

theorem ensure_every (holds : Bool) {cause : Cause} (hcause : cause.IsPlain) :
    (ensure holds cause).Every P found := by
  unfold ensure
  split
  · exact clean_every
  · exact hP.violation_every hcause

theorem within_index_every {items : List Json} {n : Nat} {item : Json} {report : Report}
    (hitem : items[n]? = some item) (hreport : report.Every P item) :
    (report.within (.index n)).Every P (.arr items) := by
  intro v hv
  obtain ⟨inner, hinner, rfl⟩ := List.mem_map.mp hv
  exact hP.item hitem (hreport inner hinner)

theorem within_key_every {members : List (Text × Json)} {key : Text} {value : Json}
    {report : Report} (hmember : (key, value) ∈ members) (hreport : report.Every P value) :
    (report.within (.key key)).Every P (.obj members) := by
  intro v hv
  obtain ⟨inner, hinner, rfl⟩ := List.mem_map.mp hv
  exact hP.member hmember (hreport inner hinner)

theorem every_of_str {key : Text} {report : Report} (hreport : report.Every P (.str key)) :
    report.Every P found :=
  fun v hv => hP.name (hreport v hv)

end Violation.Carried

end Conform
