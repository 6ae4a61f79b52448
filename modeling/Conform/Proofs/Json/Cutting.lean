import Conform.Proofs.Json.Positions

/-! # Values that are cut short

Of a text that breaks off, some values have begun and others have not. Cutting
a source leaves the values whose first character is there; a string is left
once its closing quote is there too. Where no object repeats a key, a value
stands in the source that is left exactly if it is left itself, and it stands
at the place it had before.
-/

namespace Conform

namespace Source

mutual

/-- No object repeats a key. -/
def KeysOnce : Source → Prop
  | scalar _ _ => True
  | string _ _ => True
  | array _ items => ItemsKeysOnce items
  | object _ members => (members.map (·.1.key)).Nodup ∧ MembersKeysOnce members

/-- No object among items repeats a key. -/
def ItemsKeysOnce : List (List Char × Source × List Char) → Prop
  | [] => True
  | (_, item, _) :: rest => KeysOnce item ∧ ItemsKeysOnce rest

/-- No object among the values of members repeats a key. -/
def MembersKeysOnce : List (Label × Source × List Char) → Prop
  | [] => True
  | (_, item, _) :: rest => KeysOnce item ∧ MembersKeysOnce rest

end

mutual

/-- What is left of a value that breaks off after some number of characters. -/
def cut (n : Nat) : Source → Option Source
  | scalar cs content => if n = 0 then none else some (scalar cs content)
  | string raw text => if n < raw.length + 2 then none else some (string raw text)
  | array blank items =>
    if n = 0 then none else some (array blank (cutItems (n - (blank.length + 1)) [] items))
  | object blank members =>
    if n = 0 then none else some (object blank (cutMembers (n - (blank.length + 1)) [] members))

/-- What is left of items that break off after some number of characters. -/
def cutItems (n : Nat) (comma : List Char) :
    List (List Char × Source × List Char) → List (List Char × Source × List Char)
  | [] => []
  | (lead, item, trail) :: rest =>
    match cut (n - (comma ++ lead).length) item with
    | none => []
    | some kept =>
      (lead, kept, trail) ::
        cutItems (n - (comma ++ lead ++ chars item ++ trail).length) [','] rest

/-- What is left of members that break off after some number of characters. -/
def cutMembers (n : Nat) (comma : List Char) :
    List (Label × Source × List Char) → List (Label × Source × List Char)
  | [] => []
  | (label, item, trail) :: rest =>
    match cut (n - (comma ++ label.chars).length) item with
    | none => []
    | some kept =>
      (label, kept, trail) ::
        cutMembers (n - (comma ++ label.chars ++ chars item ++ trail).length) [','] rest

end

/-! ## Nothing and everything -/

@[simp] theorem cut_zero (source : Source) : source.cut 0 = none := by
  cases source <;> simp [cut]

@[simp] theorem cutItems_zero (comma : List Char) (items : List (List Char × Source × List Char)) :
    cutItems 0 comma items = [] := by
  cases items with
  | nil => rfl
  | cons entry rest => simp [cutItems]

@[simp] theorem cutMembers_zero (comma : List Char)
    (members : List (Label × Source × List Char)) : cutMembers 0 comma members = [] := by
  cases members with
  | nil => rfl
  | cons entry rest => simp [cutMembers]

mutual

theorem cut_of_length_le (source : Source) (hform : source.Spelled) {n : Nat}
    (h : source.chars.length ≤ n) : source.cut n = some source := by
  match source, hform with
  | .scalar cs content, hscalar =>
      have hne : cs.length ≠ 0 := by simpa using hscalar.unbroken.1
      have hn : n ≠ 0 := by
        rw [chars] at h
        omega
      rw [cut, if_neg hn]
  | .string raw text, _ =>
      have hn : ¬n < raw.length + 2 := by
        simp only [chars, List.length_append, List.length_cons, List.length_nil] at h
        omega
      rw [cut, if_neg hn]
  | .array blank items, ⟨_, hitems⟩ =>
      simp only [chars, List.length_append, List.length_cons, List.length_nil] at h
      have hn : n ≠ 0 := by omega
      rw [cut, if_neg hn, cutItems_of_length_le items hitems (by omega)]
  | .object blank members, ⟨_, hmembers⟩ =>
      simp only [chars, List.length_append, List.length_cons, List.length_nil] at h
      have hn : n ≠ 0 := by omega
      rw [cut, if_neg hn, cutMembers_of_length_le members hmembers (by omega)]
  termination_by sizeOf source

theorem cutItems_of_length_le (items : List (List Char × Source × List Char))
    (hform : ItemsSpelled items) {n : Nat} {comma : List Char}
    (h : (itemChars comma items).length ≤ n) : cutItems n comma items = items := by
  match items, hform with
  | [], _ => rfl
  | (lead, item, trail) :: rest, ⟨_, hitem, _, hrest⟩ =>
      simp only [itemChars, List.length_append] at h
      have hkept : item.cut (n - (comma ++ lead).length) = some item :=
        cut_of_length_le item hitem (by rw [List.length_append]; omega)
      rw [cutItems, hkept, cutItems_of_length_le rest hrest]
      simp only [List.length_append]
      omega
  termination_by sizeOf items

theorem cutMembers_of_length_le (members : List (Label × Source × List Char))
    (hform : MembersSpelled members) {n : Nat} {comma : List Char}
    (h : (memberChars comma members).length ≤ n) : cutMembers n comma members = members := by
  match members, hform with
  | [], _ => rfl
  | (label, item, trail) :: rest, ⟨_, hitem, _, hrest⟩ =>
      simp only [memberChars, List.length_append] at h
      have hkept : item.cut (n - (comma ++ label.chars).length) = some item :=
        cut_of_length_le item hitem (by rw [List.length_append]; omega)
      rw [cutMembers, hkept, cutMembers_of_length_le rest hrest]
      simp only [List.length_append]
      omega
  termination_by sizeOf members

end

/-- A value is left if its first character is there and, for a string, its
closing quote. -/
theorem cut_isSome_iff (source : Source) (n : Nat) :
    (source.cut n).isSome ↔
      0 < n ∧ ∀ raw text, source = string raw text → source.chars.length ≤ n := by
  cases source with
  | scalar cs content =>
      rw [cut]
      split <;> simp <;> omega
  | string raw text =>
      rw [cut]
      split
      next h =>
        simp only [Option.isSome_none, Bool.false_eq_true, false_iff, not_and]
        intro _ hall
        have := hall raw text rfl
        simp [chars] at this
        omega
      next h =>
        simp [chars]
        omega
  | array blank items =>
      rw [cut]
      split <;> simp <;> omega
  | object blank members =>
      rw [cut]
      split <;> simp <;> omega

/-! ## Places -/

/-- The place of a value in a source that is cut, if the value is left there. -/
def cutPlace (n : Nat) : List Char × Source → Option (List Char × Source)
  | (before, node) => (node.cut (n - before.length)).map fun kept => (before, kept)

/-- A place further on is cut later. -/
theorem map_bind_cutPlace (place : Option (List Char × Source)) (lead : List Char) (n : Nat) :
    (place.map fun (before, node) => (lead ++ before, node)).bind (cutPlace n) =
      (place.bind (cutPlace (n - lead.length))).map fun (before, node) => (lead ++ before, node) := by
  cases place with
  | none => rfl
  | some place =>
      obtain ⟨before, node⟩ := place
      have hlength : n - (lead ++ before).length = n - lead.length - before.length := by
        rw [List.length_append, Nat.sub_add_eq]
      simp only [Option.map_some, Option.bind_some, cutPlace, hlength, Option.map_map]
      rfl

/-- If what is left of a value is not the whole value, nothing behind it is left. -/
theorem eq_or_behind_of_cut {source : Source} (hform : source.Spelled) {n : Nat}
    (lead trail : List Char) :
    source.cut (n - lead.length) = some source ∨
      n - (lead ++ source.chars ++ trail).length = 0 := by
  by_cases h : source.chars.length ≤ n - lead.length
  · exact Or.inl (source.cut_of_length_le hform h)
  · simp only [List.length_append]
    omega

theorem mem_keys_of_mem_keys_cutMembers {n : Nat} {comma : List Char}
    {members : List (Label × Source × List Char)} {key : Text}
    (h : key ∈ (cutMembers n comma members).map (·.1.key)) : key ∈ members.map (·.1.key) := by
  induction members generalizing n comma with
  | nil => exact h
  | cons member rest ih =>
      obtain ⟨label, item, trail⟩ := member
      rw [cutMembers] at h
      split at h
      next => simp at h
      next =>
        rcases List.mem_cons.mp h with rfl | h
        · exact List.mem_cons_self
        · exact List.mem_cons_of_mem _ (ih h)

/-- A member with another key is passed over. -/
theorem memberAt?_cons_of_ne {label : Label} {key : Text} (hkey : label.key ≠ key)
    {item : Source} {trail : List Char} {rest : List (Label × Source × List Char)}
    {comma : List Char} {path : List Step} :
    memberAt? comma key path ((label, item, trail) :: rest) =
      (memberAt? [','] key path rest).map fun (before, found) =>
        (comma ++ label.chars ++ item.chars ++ trail ++ before, found) := by
  rw [memberAt?, if_neg hkey]
  split
  next => rfl
  next hmem => rw [memberAt?_eq_none hmem, Option.map_none]

mutual

/-- The place of a value in what is left of a source is the place that it had,
and there stands what is left of the value. -/
theorem at?_cut (source : Source) (hform : source.Spelled) (honce : source.KeysOnce) (n : Nat)
    (path : List Step) :
    (source.cut n).bind (·.at? path) = (source.at? path).bind (cutPlace n) := by
  match source, hform, honce, path with
  | source, _, _, [] =>
      cases hcut : source.cut n <;> simp [at?, cutPlace, hcut]
  | .scalar cs content, _, _, step :: path =>
      rw [at?_scalar_cons, cut]
      split <;> simp
  | .string raw text, _, _, step :: path =>
      rw [at?_string_cons, cut]
      split <;> simp
  | .array blank items, ⟨_, hitems⟩, hitemsOnce, step :: path =>
      cases step with
      | key name =>
          rw [at?_array_key, cut]
          split <;> simp
      | index i =>
          rw [at?, map_bind_cutPlace, ← itemAt?_cut items hitems hitemsOnce, cut]
          split
          next hn =>
            subst hn
            simp [itemAt?]
          next => simp [at?]
  | .object blank members, ⟨_, hmembers⟩, ⟨hkeys, hmembersOnce⟩, step :: path =>
      cases step with
      | index i =>
          rw [at?_object_index, cut]
          split <;> simp
      | key name =>
          rw [at?, map_bind_cutPlace, ← memberAt?_cut members hmembers hkeys hmembersOnce, cut]
          split
          next hn =>
            subst hn
            simp [memberAt?]
          next => simp [at?]
  termination_by sizeOf source

theorem itemAt?_cut (items : List (List Char × Source × List Char)) (hform : ItemsSpelled items)
    (honce : ItemsKeysOnce items) (n : Nat) (comma : List Char) (i : Int) (path : List Step) :
    itemAt? comma i path (cutItems n comma items) =
      (itemAt? comma i path items).bind (cutPlace n) := by
  match items, hform, honce with
  | [], _, _ => simp [cutItems, itemAt?]
  | (lead, item, trail) :: rest, ⟨_, hitem, _, hrest⟩, ⟨hitemOnce, hrestOnce⟩ =>
      rw [cutItems, itemAt?]
      by_cases hzero : i = 0
      · rw [if_pos hzero, map_bind_cutPlace, ← at?_cut item hitem hitemOnce]
        cases item.cut (n - (comma ++ lead).length) with
        | none => rfl
        | some kept =>
            rw [Option.bind_some]
            exact (itemAt?.eq_2 _ _ _ _ _ _ _).trans (if_pos hzero)
      · rw [if_neg hzero, map_bind_cutPlace, ← itemAt?_cut rest hrest hrestOnce]
        rcases eq_or_behind_of_cut hitem (n := n) (comma ++ lead) trail with hwhole | hnothing
        · rw [hwhole]
          exact (itemAt?.eq_2 _ _ _ _ _ _ _).trans (if_neg hzero)
        · rw [hnothing, cutItems_zero]
          cases item.cut (n - (comma ++ lead).length) with
          | none => rfl
          | some kept => exact (itemAt?.eq_2 _ _ _ _ _ _ _).trans (if_neg hzero)
  termination_by sizeOf items

theorem memberAt?_cut (members : List (Label × Source × List Char))
    (hform : MembersSpelled members) (hkeys : (members.map (·.1.key)).Nodup)
    (honce : MembersKeysOnce members) (n : Nat) (comma : List Char) (key : Text)
    (path : List Step) :
    memberAt? comma key path (cutMembers n comma members) =
      (memberAt? comma key path members).bind (cutPlace n) := by
  match members, hform, hkeys, honce with
  | [], _, _, _ => simp [cutMembers, memberAt?]
  | (label, item, trail) :: rest, ⟨_, hitem, _, hrest⟩, hkeys, ⟨hitemOnce, hrestOnce⟩ =>
      rw [List.map_cons, List.nodup_cons] at hkeys
      rw [cutMembers, memberAt?]
      by_cases hmem : key ∈ rest.map (·.1.key)
      · have hkey : label.key ≠ key := fun h => hkeys.1 (h ▸ hmem)
        rw [if_pos hmem, map_bind_cutPlace, ← memberAt?_cut rest hrest hkeys.2 hrestOnce]
        rcases eq_or_behind_of_cut hitem (n := n) (comma ++ label.chars) trail with
          hwhole | hnothing
        · rw [hwhole]
          dsimp only
          rw [memberAt?_cons_of_ne hkey]
        · rw [hnothing, cutMembers_zero]
          cases item.cut (n - (comma ++ label.chars).length) with
          | none => rfl
          | some kept => exact memberAt?_cons_of_ne hkey
      · rw [if_neg hmem]
        by_cases hkey : label.key = key
        · rw [if_pos hkey, map_bind_cutPlace, ← at?_cut item hitem hitemOnce]
          cases item.cut (n - (comma ++ label.chars).length) with
          | none => rfl
          | some kept =>
              dsimp only
              rw [memberAt?, if_neg (mt mem_keys_of_mem_keys_cutMembers hmem), if_pos hkey,
                Option.bind_some]
        · rw [if_neg hkey, Option.bind_none]
          cases item.cut (n - (comma ++ label.chars).length) with
          | none => rfl
          | some kept =>
              dsimp only
              rw [memberAt?, if_neg (mt mem_keys_of_mem_keys_cutMembers hmem), if_neg hkey]
  termination_by sizeOf members

end

end Source

end Conform
