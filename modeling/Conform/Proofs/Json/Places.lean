import Conform.Proofs.Entries
import Conform.Proofs.Json.Source

/-! # The values inside a value

A path leads from a value to one inside it. For a value that was read, the
paths are those of its source: what they lead to is written at the place that
the source gives for them.
-/

namespace Conform

/-- A path leads from a value to a value inside it. -/
inductive Json.Leads : Json → List Step → Json → Prop
  /-- The empty path leads to the value itself. -/
  | here (value : Json) : Leads value [] value
  /-- An index leads to the item that stands there. -/
  | item {items : List Json} {n : Nat} {item : Json} {path : List Step} {inner : Json}
      (hitem : items[n]? = some item) (hrest : Leads item path inner) :
      Leads (.arr items) (.index n :: path) inner
  /-- A key leads to the member with that key. -/
  | member {members : List (Text × Json)} {key : Text} {value : Json} {path : List Step}
      {inner : Json} (hmember : (key, value) ∈ members) (hrest : Leads value path inner) :
      Leads (.obj members) (.key key :: path) inner

theorem Json.leads_nil_iff {value inner : Json} : value.Leads [] inner ↔ inner = value := by
  constructor
  · intro h
    cases h
    rfl
  · rintro rfl
    exact .here inner

theorem Json.leads_arr_iff {items : List Json} {step : Step} {path : List Step} {inner : Json} :
    (Json.arr items).Leads (step :: path) inner ↔
      ∃ (n : Nat) (item : Json), step = .index n ∧ items[n]? = some item ∧
        item.Leads path inner := by
  constructor
  · intro h
    cases h with
    | item hitem hrest => exact ⟨_, _, rfl, hitem, hrest⟩
  · rintro ⟨n, item, rfl, hitem, hrest⟩
    exact .item hitem hrest

theorem Json.leads_obj_iff {members : List (Text × Json)} {step : Step} {path : List Step}
    {inner : Json} :
    (Json.obj members).Leads (step :: path) inner ↔
      ∃ (key : Text) (value : Json), step = .key key ∧ (key, value) ∈ members ∧
        value.Leads path inner := by
  constructor
  · intro h
    cases h with
    | member hmember hrest => exact ⟨_, _, rfl, hmember, hrest⟩
  · rintro ⟨key, value, rfl, hmember, hrest⟩
    exact .member hmember hrest

/-- Nothing is inside a value that was read as a word or number. -/
theorem Document.path_eq_nil_of_readScalar {line : Nat} {cs : List Char} {content : Json}
    {position : Document.Position} {path : List Step} {inner : Json}
    (hread : Document.readScalar line cs = .ok (.leaf line content, position))
    (hleads : content.Leads path inner) : path = [] := by
  have hcontent : (∃ entry ∈ Document.words, entry.2 = content) ∨ ∃ n, .num n = content := by
    unfold Document.readScalar at hread
    split at hread
    next value rest hword =>
      cases hread
      obtain ⟨entry, hentry, hafter⟩ := List.exists_of_findSome?_eq_some hword
      obtain ⟨_, _, hvalue⟩ := Option.map_eq_some_iff.mp hafter
      exact Or.inl ⟨entry, hentry, (Prod.mk.inj hvalue).1⟩
    next =>
      split at hread
      next => cases hread
      next =>
        split at hread
        next => cases hread
        next n _ =>
          cases hread
          exact Or.inr ⟨n, rfl⟩
  rcases hcontent with ⟨entry, hentry, rfl⟩ | ⟨n, rfl⟩
  · simp only [Document.words, List.mem_cons, List.not_mem_nil, or_false] at hentry
    rcases hentry with rfl | rfl | rfl | rfl | rfl | rfl <;> cases hleads <;> rfl
  · cases hleads
    rfl

namespace Source

theorem memberValues_keys (members : List (Label × Source × List Char)) :
    (memberValues members).map (·.1) = members.map (·.1.key) := by
  induction members with
  | nil => rfl
  | cons member rest ih =>
      obtain ⟨label, item, trail⟩ := member
      simp [memberValues, ih]

theorem mem_ofMembers_iff {members known : List (Text × Json)} {key : Text} {value : Json}
    (h : Json.ofMembers members = .obj known) :
    (key, value) ∈ known ↔ members.reverse.lookup key = some value := by
  have hknown : Entries.putAll [] members = known := Json.obj.inj h
  rw [← hknown, (Entries.distinct_nil.putAll _).mem_iff_lookup, Entries.lookup_putAll]
  simp

theorem exists_map_eq_some_iff {found : Option (List Char × Source)} {before : List Char}
    {inner : Json} :
    (∃ cs node, (found.map fun (after, node) => (before ++ after, node)) = some (cs, node) ∧
      node.value = inner) ↔ ∃ cs node, found = some (cs, node) ∧ node.value = inner := by
  cases found with
  | none => simp
  | some place => simp [Prod.ext_iff]

mutual

/-- A source has a place for exactly the paths that lead somewhere in its value,
and the value written there is the one that the path leads to. -/
theorem leads_iff_at? (source : Source) (hwf : source.WellFormed) (path : List Step)
    (inner : Json) :
    source.value.Leads path inner ↔
      ∃ before node, source.at? path = some (before, node) ∧ node.value = inner := by
  match source, hwf, path with
  | source, _, [] =>
      rw [Json.leads_nil_iff]
      simp [at?, eq_comm]
  | .scalar cs content, ⟨line, after, hread⟩, step :: path =>
      have hnot : ¬content.Leads (step :: path) inner := fun hleads =>
        absurd (Document.path_eq_nil_of_readScalar hread hleads) (by simp)
      rw [value, at?_scalar_cons]
      simp [hnot]
  | .string raw text, _, step :: path =>
      have hnot : ¬(Json.str text).Leads (step :: path) inner := fun hleads => nomatch hleads
      rw [value, at?_string_cons]
      simp [hnot]
  | .array blank items, ⟨_, hitems⟩, step :: path =>
      rw [value, Json.leads_arr_iff]
      cases step with
      | key name =>
          rw [at?_array_key]
          simp
      | index n =>
          rw [at?, exists_map_eq_some_iff, ← itemLeads_iff_itemAt? items hitems [] n path inner]
          simp
  | .object blank members, ⟨_, hmembers⟩, step :: path =>
      rw [value, Json.ofMembers, Json.leads_obj_iff]
      cases step with
      | index n =>
          rw [at?_object_index]
          simp
      | key name =>
          rw [at?, exists_map_eq_some_iff, ← memberLeads_iff_memberAt? members hmembers [] name]
          simp only [mem_ofMembers_iff rfl, Step.key.injEq]
          simp
  termination_by sizeOf source

theorem itemLeads_iff_itemAt? (items : List (List Char × Source × List Char))
    (hwf : ItemsWellFormed items) (comma : List Char) (n : Int) (path : List Step)
    (inner : Json) :
    (∃ (i : Nat) (item : Json), n = i ∧ (itemValues items)[i]? = some item ∧ item.Leads path inner) ↔
      ∃ before node, itemAt? comma n path items = some (before, node) ∧ node.value = inner := by
  match items, hwf with
  | [], _ => simp [itemAt?, itemValues]
  | (lead, item, trail) :: rest, ⟨_, hitem, _, hrest⟩ =>
      rw [itemAt?]
      split
      next hzero =>
        rw [exists_map_eq_some_iff, ← leads_iff_at? item hitem path inner]
        subst hzero
        constructor
        · rintro ⟨i, found, hi, hfound, hleads⟩
          obtain rfl : i = 0 := by omega
          simp only [itemValues, List.getElem?_cons_zero, Option.some.injEq] at hfound
          exact hfound ▸ hleads
        · exact fun hleads => ⟨0, _, rfl, rfl, hleads⟩
      next hzero =>
        rw [exists_map_eq_some_iff, ← itemLeads_iff_itemAt? rest hrest [','] (n - 1) path inner]
        constructor
        · rintro ⟨i, found, rfl, hfound, hleads⟩
          obtain ⟨j, rfl⟩ : ∃ j, i = j + 1 := ⟨i - 1, by omega⟩
          exact ⟨j, found, by omega, by simpa [itemValues] using hfound, hleads⟩
        · rintro ⟨j, found, hj, hfound, hleads⟩
          exact ⟨j + 1, found, by omega, by simpa [itemValues] using hfound, hleads⟩
  termination_by sizeOf items

theorem memberLeads_iff_memberAt? (members : List (Label × Source × List Char))
    (hwf : MembersWellFormed members) (comma : List Char) (key : Text) (path : List Step)
    (inner : Json) :
    (∃ value, (memberValues members).reverse.lookup key = some value ∧ value.Leads path inner) ↔
      ∃ before node, memberAt? comma key path members = some (before, node) ∧
        node.value = inner := by
  match members, hwf with
  | [], _ => simp [memberAt?, memberValues]
  | (label, item, trail) :: rest, ⟨_, hitem, _, hrest⟩ =>
      -- Looked up from behind, so that a repeated key leads to its last member.
      have hlookup : (memberValues ((label, item, trail) :: rest)).reverse.lookup key =
          ((memberValues rest).reverse.lookup key).or
            (if label.key = key then some item.value else none) := by
        rw [memberValues, List.reverse_cons, List.lookup_append]
        congr 1
        by_cases h : label.key = key
        · simp [h]
        · simp [List.lookup_cons, beq_eq_false_iff_ne.mpr (Ne.symm h), h]
      have hkeys : key ∈ rest.map (·.1.key) ↔ (memberValues rest).reverse.lookup key ≠ none := by
        rw [ne_eq, Entries.lookup_eq_none_iff, List.map_reverse, memberValues_keys]
        simp
      rw [memberAt?, hlookup]
      by_cases hmem : key ∈ rest.map (·.1.key)
      · rw [if_pos hmem, exists_map_eq_some_iff,
          ← memberLeads_iff_memberAt? rest hrest [','] key path inner]
        obtain ⟨later, hlater⟩ := Option.ne_none_iff_exists'.mp (hkeys.mp hmem)
        simp [hlater]
      · have hnone : (memberValues rest).reverse.lookup key = none :=
          not_not.mp (mt hkeys.mpr hmem)
        rw [if_neg hmem, hnone, Option.none_or]
        by_cases hkey : label.key = key
        · rw [if_pos hkey, if_pos hkey, exists_map_eq_some_iff,
            ← leads_iff_at? item hitem path inner]
          simp
        · simp [hkey]
  termination_by sizeOf members

end

end Source

end Conform
