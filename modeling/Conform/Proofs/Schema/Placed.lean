import Conform.Proofs.Json.Places
import Conform.Proofs.Schema.Sound

/-! # Reports on the places of a value

A report is placed in a value if each of its violations names a place that the
value has. All reports are, except those of one rule, which names members that
an object does not have.
-/

namespace Conform

open Report

/-- A path leads to some value inside. -/
def Json.HasPlace (value : Json) (path : List Step) : Prop := ∃ inner, value.Leads path inner

theorem Json.hasPlace_nil (value : Json) : value.HasPlace [] := ⟨value, .here value⟩

theorem Json.HasPlace.item {items : List Json} {n : Nat} {item : Json} {path : List Step}
    (hitem : items[n]? = some item) (hplace : item.HasPlace path) :
    (Json.arr items).HasPlace (.index n :: path) := by
  obtain ⟨inner, hleads⟩ := hplace
  exact ⟨inner, .item hitem hleads⟩

theorem Json.HasPlace.member {members : List (Text × Json)} {key : Text} {value : Json}
    {path : List Step} (hmember : (key, value) ∈ members) (hplace : value.HasPlace path) :
    (Json.obj members).HasPlace (.key key :: path) := by
  obtain ⟨inner, hleads⟩ := hplace
  exact ⟨inner, .member hmember hleads⟩

/-- A text has no value inside it. -/
theorem Json.HasPlace.eq_nil_of_str {s : Text} {path : List Step}
    (hplace : (Json.str s).HasPlace path) : path = [] := by
  obtain ⟨inner, hleads⟩ := hplace
  cases hleads
  rfl

/-- The violation stands at a place of the value. -/
def Violation.Placed (found : Json) (v : Violation) : Prop := found.HasPlace v.path

theorem Violation.placed_carried : Carried Placed where
  plain _ := Json.hasPlace_nil _
  item hitem hplaced := hplaced.item hitem
  member hmember hplaced := hplaced.member hmember
  name hplaced := by
    rw [Placed, hplaced.eq_nil_of_str]
    exact Json.hasPlace_nil _

theorem Rules.noAlternative_placed (found : Json) (trial : Trial) :
    (noAlternative found trial).Every Violation.Placed found := by
  simp [Every, noAlternative, Violation.Placed, Json.hasPlace_nil]

/-- The rule that names members which are not there is a rule of the third draft only. -/
theorem Draft.rule?_ne_propertiesWithRequired {draft : Draft} (hdraft : draft ≠ .draft3)
    {keyword : Text} {rule : Rule} (hrule : draft.rule? keyword = some rule) :
    rule ≠ .propertiesWithRequired := by
  have hmem : ∀ entry ∈ draft.rules, entry.2 ≠ .propertiesWithRequired := by
    cases draft with
    | draft3 => exact absurd rfl hdraft
    | draft4 => decide
    | draft6 => decide
    | draft7 => decide
    | draft201909 => decide
    | draft202012 => decide
  exact hmem (keyword, rule) (Entries.mem_of_lookup hrule)

/-- The rules of a schema, under any draft but the third, report on the places of
the value. -/
theorem Judge.Sound.apply_placed {judge : Judge} (hjudge : judge.Sound Violation.Placed)
    (around : Draft) {scope : Scope} (hdraft : scope.draft ≠ .draft3) (brief : Bool)
    (found schema : Json) :
    (judge.apply around scope brief found schema).Every Violation.Placed found :=
  hjudge.apply_every Violation.placed_carried scope brief around found schema
    (fun _ _ _ _ _ trial _ => Rules.noAlternative_placed found trial)
    (fun _ _ hrule => absurd rfl (Draft.rule?_ne_propertiesWithRequired hdraft hrule))

end Conform
