import Conform.Proofs.Json.Nodes
import Conform.Proofs.Json.Places
import Conform.Proofs.Json.Reading
import Conform.Proofs.Json.Scanning

/-! # The lines of the values of a text

The outline that is scanned from a text lists exactly the values that reading
the text gives, each with the line on which it starts.
-/

namespace Conform

namespace Source

/-! ## Outlines of sources -/

theorem segment_index_natCast (n : Nat) :
    (Step.index n).segment = Text.ofString (toString n) := rfl

mutual

theorem outline_distinct (source : Source) (line : Nat) : (source.outline line).Distinct := by
  match source with
  | .scalar _ _ => exact .node Entries.distinct_nil (by simp)
  | .string _ _ => exact .node Entries.distinct_nil (by simp)
  | .array blank items =>
      obtain ⟨hkeys, hchildren⟩ := itemOutlines_distinct items (line + lines blank) 0
        Entries.distinct_nil (by simp) (by simp)
      exact .node hkeys hchildren
  | .object blank members =>
      obtain ⟨hkeys, hchildren⟩ := memberOutlines_distinct members (line + lines blank)
        Entries.distinct_nil (by simp)
      exact .node hkeys hchildren
  termination_by sizeOf source

theorem itemOutlines_distinct (items : List (List Char × Source × List Char)) (line next : Nat)
    {known : List (Text × Outline)} (hkeys : Entries.Distinct known)
    (hchildren : ∀ child ∈ known, child.2.Distinct)
    (hnew : ∀ n : Nat, next ≤ n → (Step.index n).segment ∉ known.map (·.1)) :
    Entries.Distinct (itemOutlines line next known items) ∧
      ∀ child ∈ itemOutlines line next known items, child.2.Distinct := by
  match items with
  | [] => exact ⟨hkeys, hchildren⟩
  | (lead, item, trail) :: rest =>
      rw [itemOutlines]
      apply itemOutlines_distinct rest
      · exact Entries.distinct_cons.mpr ⟨hnew next (Nat.le_refl next), hkeys⟩
      · intro child hchild
        rcases List.mem_cons.mp hchild with rfl | hchild
        · exact outline_distinct item _
        · exact hchildren child hchild
      · intro n hn hmem
        rcases List.mem_cons.mp hmem with heq | hmem
        · have := Step.segment_index_injective heq
          omega
        · exact hnew n (by omega) hmem
  termination_by sizeOf items

theorem memberOutlines_distinct (members : List (Label × Source × List Char)) (line : Nat)
    {known : List (Text × Outline)} (hkeys : Entries.Distinct known)
    (hchildren : ∀ child ∈ known, child.2.Distinct) :
    Entries.Distinct (memberOutlines line known members) ∧
      ∀ child ∈ memberOutlines line known members, child.2.Distinct := by
  match members with
  | [] => exact ⟨hkeys, hchildren⟩
  | (label, item, trail) :: rest =>
      rw [memberOutlines]
      apply memberOutlines_distinct rest
      · exact hkeys.put _ _
      · intro child hchild
        rcases Entries.mem_put hchild with rfl | hchild
        · exact outline_distinct item _
        · exact hchildren child hchild
  termination_by sizeOf members

end

/-! ## Where the values stand -/

theorem exists_natCast_of_itemAt? {items : List (List Char × Source × List Char)}
    {comma : List Char} {n : Int} {path : List Step} {place : List Char × Source}
    (h : itemAt? comma n path items = some place) : ∃ m : Nat, n = m := by
  induction items generalizing comma n place with
  | nil => simp [itemAt?] at h
  | cons entry rest ih =>
      obtain ⟨lead, item, trail⟩ := entry
      rw [itemAt?] at h
      split at h
      next hzero => exact ⟨0, hzero⟩
      next =>
        obtain ⟨_, hfound, _⟩ := Option.map_eq_some_iff.mp h
        obtain ⟨m, hm⟩ := ih hfound
        exact ⟨m + 1, by omega⟩

theorem memberAt?_eq_none {members : List (Label × Source × List Char)} {comma : List Char}
    {key : Text} {path : List Step} (h : key ∉ members.map (·.1.key)) :
    memberAt? comma key path members = none := by
  cases members with
  | nil => rw [memberAt?]
  | cons member rest =>
      obtain ⟨label, item, trail⟩ := member
      obtain ⟨hkey, hrest⟩ := not_or.mp (mt List.mem_cons.mpr h)
      rw [memberAt?, if_neg hrest, if_neg (Ne.symm hkey)]

mutual

/-- Paths into one value that differ have different segments: what stands at a
step tells whether it is a key or an index. -/
theorem eq_of_segments_eq (source : Source) {path other : List Step}
    (hpath : (source.at? path).isSome) (hother : (source.at? other).isSome)
    (h : path.map Step.segment = other.map Step.segment) : path = other := by
  match source, path, other with
  | _, [], [] => rfl
  | _, [], _ :: _ => cases h
  | _, _ :: _, [] => cases h
  | .scalar _ _, _ :: _, _ :: _ => simp at hpath
  | .string _ _, _ :: _, _ :: _ => simp at hpath
  | .array _ _, .key _ :: _, _ :: _ => simp at hpath
  | .array _ _, .index _ :: _, .key _ :: _ => simp at hother
  | .array _ items, .index n :: path, .index m :: other =>
      obtain ⟨hstep, hrest⟩ := List.cons.inj h
      rw [at?, Option.isSome_map] at hpath hother
      obtain ⟨n, rfl⟩ := exists_natCast_of_itemAt? (Option.some_get hpath).symm
      obtain ⟨m, rfl⟩ := exists_natCast_of_itemAt? (Option.some_get hother).symm
      obtain rfl := Step.segment_index_injective hstep
      rw [eq_of_itemAt?_segments_eq items hpath hother hrest]
  | .object _ _, .index _ :: _, _ :: _ => simp at hpath
  | .object _ _, .key _ :: _, .index _ :: _ => simp at hother
  | .object _ members, .key name :: path, .key name' :: other =>
      obtain ⟨hstep, hrest⟩ := List.cons.inj h
      obtain rfl : name = name' := hstep
      rw [at?, Option.isSome_map] at hpath hother
      rw [eq_of_memberAt?_segments_eq members hpath hother hrest]
  termination_by sizeOf source

theorem eq_of_itemAt?_segments_eq (items : List (List Char × Source × List Char))
    {comma : List Char} {n : Int} {path other : List Step}
    (hpath : (itemAt? comma n path items).isSome) (hother : (itemAt? comma n other items).isSome)
    (h : path.map Step.segment = other.map Step.segment) : path = other := by
  match items with
  | [] => simp [itemAt?] at hpath
  | (lead, item, trail) :: rest =>
      rw [itemAt?] at hpath hother
      by_cases hzero : n = 0
      · rw [if_pos hzero, Option.isSome_map] at hpath hother
        exact eq_of_segments_eq item hpath hother h
      · rw [if_neg hzero, Option.isSome_map] at hpath hother
        exact eq_of_itemAt?_segments_eq rest hpath hother h
  termination_by sizeOf items

theorem eq_of_memberAt?_segments_eq (members : List (Label × Source × List Char))
    {comma : List Char} {key : Text} {path other : List Step}
    (hpath : (memberAt? comma key path members).isSome)
    (hother : (memberAt? comma key other members).isSome)
    (h : path.map Step.segment = other.map Step.segment) : path = other := by
  match members with
  | [] => simp [memberAt?] at hpath
  | (label, item, trail) :: rest =>
      rw [memberAt?] at hpath hother
      by_cases hmem : key ∈ rest.map (·.1.key)
      · rw [if_pos hmem, Option.isSome_map] at hpath hother
        exact eq_of_memberAt?_segments_eq rest hpath hother h
      rw [if_neg hmem] at hpath hother
      by_cases hkey : label.key = key
      · rw [if_pos hkey, Option.isSome_map] at hpath hother
        exact eq_of_segments_eq item hpath hother h
      · rw [if_neg hkey] at hpath
        cases hpath
  termination_by sizeOf members

end

/-- Some path with given segments leads to a value on a line. -/
def Stands (place : List Step → Option (List Char × Source)) (line : Nat) (segments : List Text)
    (found : Nat) : Prop :=
  ∃ path before node, path.map Step.segment = segments ∧ place path = some (before, node) ∧
    found = line + lines before

theorem not_stands_memberAt? {members : List (Label × Source × List Char)} {key : Text}
    (hkey : key ∉ members.map (·.1.key)) (comma : List Char) (line : Nat) (segments : List Text)
    (found : Nat) : ¬Stands (memberAt? comma key · members) line segments found := by
  rintro ⟨path, before, node, _, hplace, _⟩
  have hnone : memberAt? comma key path members = none := memberAt?_eq_none hkey
  exact nomatch hnone.symm.trans hplace

theorem stands_map_iff {place : List Step → Option (List Char × Source)} {line : Nat}
    {segments : List Text} {found : Nat} (lead : List Char) :
    Stands (fun path => (place path).map fun (before, node) => (lead ++ before, node)) line segments
      found ↔ Stands place (line + lines lead) segments found := by
  constructor
  · rintro ⟨path, _, node, hpath, hplace, hfound⟩
    obtain ⟨⟨before, _⟩, hplace, heq⟩ := Option.map_eq_some_iff.mp hplace
    cases heq
    refine ⟨path, before, node, hpath, hplace, ?_⟩
    rw [hfound, lines_append]
    omega
  · rintro ⟨path, before, node, hpath, hplace, hfound⟩
    refine ⟨path, lead ++ before, node, hpath, by simp [hplace], ?_⟩
    rw [hfound, lines_append]
    omega

section Parts

variable {comma : List Char} (hcomma : lines comma = 0) (line : Nat) (segments : List Text)
  (found : Nat)

include hcomma

theorem stands_itemAt?_zero (lead : List Char) (item : Source) (trail : List Char)
    (others : List (List Char × Source × List Char)) :
    Stands (itemAt? comma (0 : Nat) · ((lead, item, trail) :: others)) line segments found ↔
      Stands item.at? (line + lines lead) segments found := by
  have hplace : (itemAt? comma (0 : Nat) · ((lead, item, trail) :: others)) = fun path =>
      (item.at? path).map fun (before, node) => (comma ++ lead ++ before, node) := by
    funext path
    rw [itemAt?, if_pos (by simp)]
  rw [hplace, stands_map_iff, lines_append, hcomma, Nat.zero_add]

theorem stands_itemAt?_succ (lead : List Char) (item : Source) (trail : List Char)
    (others : List (List Char × Source × List Char)) (m : Nat) :
    Stands (itemAt? comma (m + 1 : Nat) · ((lead, item, trail) :: others)) line segments found ↔
      Stands (itemAt? [','] m · others) (line + lines lead + lines item.chars + lines trail)
        segments found := by
  have hplace : (itemAt? comma (m + 1 : Nat) · ((lead, item, trail) :: others)) = fun path =>
      (itemAt? [','] m path others).map fun (before, node) =>
        (comma ++ lead ++ item.chars ++ trail ++ before, node) := by
    funext path
    rw [itemAt?, if_neg (by omega)]
    congr 2
    omega
  rw [hplace, stands_map_iff]
  simp only [lines_append, hcomma, Nat.zero_add, Nat.add_assoc]

theorem stands_memberAt?_of_mem {key : Text} (label : Label) (item : Source) (trail : List Char)
    {others : List (Label × Source × List Char)} (hmem : key ∈ others.map (·.1.key)) :
    Stands (memberAt? comma key · ((label, item, trail) :: others)) line segments found ↔
      Stands (memberAt? [','] key · others)
        (line + lines label.chars + lines item.chars + lines trail) segments found := by
  have hplace : (memberAt? comma key · ((label, item, trail) :: others)) = fun path =>
      (memberAt? [','] key path others).map fun (before, node) =>
        (comma ++ label.chars ++ item.chars ++ trail ++ before, node) := by
    funext path
    rw [memberAt?, if_pos hmem]
  rw [hplace, stands_map_iff]
  simp only [lines_append, hcomma, Nat.zero_add, Nat.add_assoc]

theorem stands_memberAt?_of_key {key : Text} {label : Label} (item : Source) (trail : List Char)
    {others : List (Label × Source × List Char)} (hmem : key ∉ others.map (·.1.key))
    (hkey : label.key = key) :
    Stands (memberAt? comma key · ((label, item, trail) :: others)) line segments found ↔
      Stands item.at? (line + lines label.chars) segments found := by
  have hplace : (memberAt? comma key · ((label, item, trail) :: others)) = fun path =>
      (item.at? path).map fun (before, node) => (comma ++ label.chars ++ before, node) := by
    funext path
    rw [memberAt?, if_neg hmem, if_pos hkey]
  rw [hplace, stands_map_iff, lines_append, hcomma, Nat.zero_add]

end Parts

mutual

/-- The line that the outline of a source has for some segments is the line on
which the value at a path with these segments starts. -/
theorem lineOf?_outline_iff (source : Source) (line : Nat) (segments : List Text) (found : Nat) :
    (source.outline line).lineOf? segments = some found ↔
      Stands source.at? line segments found := by
  match source, segments with
  | source, [] =>
      have hline : (source.outline line).lineOf? [] = some line := by
        cases source <;> rfl
      rw [hline]
      constructor
      · rintro ⟨⟩
        exact ⟨[], [], source, rfl, by rw [at?], rfl⟩
      · rintro ⟨path, before, node, hpath, hplace, rfl⟩
        obtain rfl := List.map_eq_nil_iff.mp hpath
        rw [at?] at hplace
        cases hplace
        rfl
  | .scalar cs content, segment :: rest =>
      constructor
      · intro h
        simp [outline, Outline.lineOf?] at h
      · rintro ⟨_ | ⟨step, path⟩, before, node, hpath, hplace, _⟩
        · cases hpath
        · rw [at?_scalar_cons] at hplace
          cases hplace
  | .string raw text, segment :: rest =>
      constructor
      · intro h
        simp [outline, Outline.lineOf?] at h
      · rintro ⟨_ | ⟨step, path⟩, before, node, hpath, hplace, _⟩
        · cases hpath
        · rw [at?_string_cons] at hplace
          cases hplace
  | .array blank items, segment :: rest =>
      have houtline : ((array blank items).outline line).lineOf? (segment :: rest) =
          ((itemOutlines (line + lines blank) 0 [] items).lookup segment).bind
            (·.lineOf? rest) := by
        rw [outline, Outline.lineOf?]
        cases (itemOutlines (line + lines blank) 0 [] items).lookup segment <;> rfl
      have hitem : ∀ n : Int, Stands (fun path => (array blank items).at? (.index n :: path)) line
          rest found ↔ Stands (itemAt? [] n · items) (line + lines blank) rest found := by
        intro n
        have hlead : lines ('[' :: blank) = lines blank := by simp
        simp only [at?]
        rw [stands_map_iff ('[' :: blank), hlead]
      rw [houtline, lineOf?_itemOutlines_iff items (line + lines blank) 0 lines_nil segment
        rest found (by simp)]
      constructor
      · rintro (⟨m, rfl, hstands⟩ | hfound)
        · obtain ⟨path, before, node, rfl, hplace, hfound⟩ := (hitem m).mpr hstands
          exact ⟨.index m :: path, before, node, by simp, hplace, hfound⟩
        · cases hfound
      · rintro ⟨_ | ⟨step, path⟩, before, node, hpath, hplace, hfound⟩
        · cases hpath
        · cases step with
          | key name =>
              rw [at?_array_key] at hplace
              cases hplace
          | index n =>
              obtain ⟨rfl, rfl⟩ := List.cons.inj hpath
              have hstands := (hitem n).mp ⟨path, before, node, rfl, hplace, hfound⟩
              -- A place that is found tells that the index is not negative.
              obtain ⟨path', before', node', _, hplace', _⟩ := id hstands
              obtain ⟨m, rfl⟩ := exists_natCast_of_itemAt? hplace'
              exact Or.inl ⟨m, by simp, hstands⟩
  | .object blank members, segment :: rest =>
      have houtline : ((object blank members).outline line).lineOf? (segment :: rest) =
          ((memberOutlines (line + lines blank) [] members).lookup segment).bind
            (·.lineOf? rest) := by
        rw [outline, Outline.lineOf?]
        cases (memberOutlines (line + lines blank) [] members).lookup segment <;> rfl
      have hmember : Stands (fun path => (object blank members).at? (.key segment :: path)) line
          rest found ↔ Stands (memberAt? [] segment · members) (line + lines blank) rest found := by
        have hlead : lines ('\x7b' :: blank) = lines blank := by simp
        simp only [at?]
        rw [stands_map_iff ('\x7b' :: blank), hlead]
      rw [houtline, lineOf?_memberOutlines_iff members (line + lines blank) lines_nil segment
        rest found, ← hmember]
      constructor
      · rintro (⟨path, before, node, rfl, hplace, hfound⟩ | ⟨_, hfound⟩)
        · exact ⟨.key segment :: path, before, node, rfl, hplace, hfound⟩
        · cases hfound
      · rintro ⟨_ | ⟨step, path⟩, before, node, hpath, hplace, hfound⟩
        · cases hpath
        · cases step with
          | index n =>
              rw [at?_object_index] at hplace
              cases hplace
          | key name =>
              obtain ⟨rfl, rfl⟩ := List.cons.inj hpath
              exact Or.inl ⟨path, before, node, rfl, hplace, hfound⟩
  termination_by sizeOf source

theorem lineOf?_itemOutlines_iff (items : List (List Char × Source × List Char))
    (line next : Nat) {comma : List Char} (hcomma : lines comma = 0)
    {known : List (Text × Outline)} (segment : Text) (rest : List Text) (found : Nat)
    (hnew : ∀ n : Nat, next ≤ n → (Step.index n).segment ∉ known.map (·.1)) :
    ((itemOutlines line next known items).lookup segment).bind (·.lineOf? rest) = some found ↔
      (∃ m : Nat, segment = (Step.index (next + m : Nat)).segment ∧
        Stands (itemAt? comma m · items) line rest found) ∨
      (known.lookup segment).bind (·.lineOf? rest) = some found := by
  match items with
  | [] =>
      have hnone : ∀ m : Nat, ¬Stands (itemAt? comma m · []) line rest found := by
        rintro m ⟨path, before, node, _, hplace, _⟩
        simp [itemAt?] at hplace
      simp [itemOutlines, hnone]
  | (lead, item, trail) :: others =>
      have hcomma' : lines [','] = 0 := rfl
      -- The indices from the next one on are new, so that no item hides another one.
      have hnone : known.lookup (Step.index next).segment = none :=
        Entries.lookup_eq_none_iff.mpr (hnew next (Nat.le_refl next))
      have hnew' : ∀ n : Nat, next + 1 ≤ n → (Step.index n).segment ∉
          ((Text.ofString (toString next), item.outline (line + lines lead)) :: known).map
            (·.1) := by
        intro n hn hmem
        rcases List.mem_cons.mp hmem with heq | hmem
        · have := Step.segment_index_injective heq
          omega
        · exact hnew n (by omega) hmem
      have hfirst : Stands (itemAt? comma (0 : Nat) · ((lead, item, trail) :: others)) line rest
          found ↔ (item.outline (line + lines lead)).lineOf? rest = some found :=
        (stands_itemAt?_zero hcomma line rest found lead item trail others).trans
          (lineOf?_outline_iff item (line + lines lead) rest found).symm
      have hlater := stands_itemAt?_succ hcomma line rest found lead item trail others
      have hhead : ((Text.ofString (toString next), item.outline (line + lines lead)) :: known).lookup
          (Step.index next).segment = some (item.outline (line + lines lead)) := by
        rw [segment_index_natCast, List.lookup_cons_self]
      have htail : segment ≠ (Step.index next).segment →
          ((Text.ofString (toString next), item.outline (line + lines lead)) :: known).lookup
            segment = known.lookup segment := by
        intro hne
        rw [List.lookup_cons, ← segment_index_natCast, beq_eq_false_iff_ne.mpr hne]
      rw [itemOutlines,
        lineOf?_itemOutlines_iff others _ (next + 1) hcomma' segment rest found hnew']
      constructor
      · rintro (⟨m, rfl, hstands⟩ | hfound)
        · exact Or.inl ⟨m + 1, by rw [Nat.add_assoc, Nat.add_comm 1], (hlater m).mpr hstands⟩
        · by_cases hsegment : segment = (Step.index next).segment
          · subst hsegment
            rw [hhead, Option.bind_some] at hfound
            exact Or.inl ⟨0, rfl, hfirst.mpr hfound⟩
          · rw [htail hsegment] at hfound
            exact Or.inr hfound
      · rintro (⟨_ | m, rfl, hstands⟩ | hfound)
        · refine Or.inr ?_
          rw [Nat.add_zero, hhead, Option.bind_some]
          exact hfirst.mp hstands
        · exact Or.inl ⟨m, by rw [Nat.add_assoc, Nat.add_comm 1], (hlater m).mp hstands⟩
        · refine Or.inr ?_
          rw [htail ?_]
          · exact hfound
          · rintro rfl
            rw [hnone] at hfound
            cases hfound
  termination_by sizeOf items

theorem lineOf?_memberOutlines_iff (members : List (Label × Source × List Char)) (line : Nat)
    {comma : List Char} (hcomma : lines comma = 0) {known : List (Text × Outline)} (key : Text)
    (rest : List Text) (found : Nat) :
    ((memberOutlines line known members).lookup key).bind (·.lineOf? rest) = some found ↔
      Stands (memberAt? comma key · members) line rest found ∨
      key ∉ members.map (·.1.key) ∧
        (known.lookup key).bind (·.lineOf? rest) = some found := by
  match members with
  | [] =>
      have hnone : ¬Stands (memberAt? comma key · []) line rest found :=
        not_stands_memberAt? (by simp) comma line rest found
      simp [memberOutlines, hnone]
  | (label, item, trail) :: others =>
      have hcomma' : lines [','] = 0 := rfl
      have hhere : key ∉ others.map (·.1.key) → label.key = key →
          (Stands (memberAt? comma key · ((label, item, trail) :: others)) line rest found ↔
            (item.outline (line + lines label.chars)).lineOf? rest = some found) :=
        fun hmem hkey =>
          (stands_memberAt?_of_key hcomma line rest found item trail hmem hkey).trans
            (lineOf?_outline_iff item (line + lines label.chars) rest found).symm
      rw [memberOutlines, lineOf?_memberOutlines_iff others _ hcomma' key rest found,
        Entries.lookup_put_of_lawful]
      -- A later member with the key wins; without one this member does, if it has the key.
      by_cases hmem : key ∈ others.map (·.1.key)
      · have hlater := stands_memberAt?_of_mem hcomma line rest found label item trail hmem
        simp [hmem, hlater]
      · by_cases hkey : label.key = key
        · have hnowhere := not_stands_memberAt? hmem [',']
            (line + lines label.chars + lines item.chars + lines trail) rest found
          simp [hmem, hkey, hnowhere, hhere hmem hkey]
        · have hboth : key ∉ ((label, item, trail) :: others).map (·.1.key) := by
            simp [Ne.symm hkey, hmem]
          have hnowhere := not_stands_memberAt? hmem [',']
            (line + lines label.chars + lines item.chars + lines trail) rest found
          have hnone := not_stands_memberAt? hboth comma line rest found
          simp [hmem, Ne.symm hkey, hnowhere, hnone]
  termination_by sizeOf members

end

mutual

/-- The characters of a value stand in those of the value around it. -/
theorem exists_chars_eq_of_at? (source : Source) {path : List Step} {before : List Char}
    {node : Source} (h : source.at? path = some (before, node)) :
    ∃ after, source.chars = before ++ node.chars ++ after := by
  match source, path with
  | source, [] =>
      rw [at?] at h
      cases h
      exact ⟨[], by simp⟩
  | .scalar _ _, step :: path =>
      rw [at?_scalar_cons] at h
      cases h
  | .string _ _, step :: path =>
      rw [at?_string_cons] at h
      cases h
  | .array blank items, .key name :: path =>
      rw [at?_array_key] at h
      cases h
  | .object blank members, .index n :: path =>
      rw [at?_object_index] at h
      cases h
  | .array blank items, .index n :: path =>
      rw [at?] at h
      obtain ⟨⟨inner, _⟩, hplace, heq⟩ := Option.map_eq_some_iff.mp h
      cases heq
      obtain ⟨after, hafter⟩ := exists_itemChars_eq_of_itemAt? items hplace
      exact ⟨after ++ [']'], by simp [chars, hafter]⟩
  | .object blank members, .key name :: path =>
      rw [at?] at h
      obtain ⟨⟨inner, _⟩, hplace, heq⟩ := Option.map_eq_some_iff.mp h
      cases heq
      obtain ⟨after, hafter⟩ := exists_memberChars_eq_of_memberAt? members hplace
      exact ⟨after ++ ['\x7d'], by simp [chars, hafter]⟩
  termination_by sizeOf source

theorem exists_itemChars_eq_of_itemAt? (items : List (List Char × Source × List Char))
    {comma : List Char} {n : Int} {path : List Step} {before : List Char} {node : Source}
    (h : itemAt? comma n path items = some (before, node)) :
    ∃ after, itemChars comma items = before ++ node.chars ++ after := by
  match items with
  | [] => simp [itemAt?] at h
  | (lead, item, trail) :: rest =>
      rw [itemAt?] at h
      split at h
      next =>
        obtain ⟨⟨inner, _⟩, hplace, heq⟩ := Option.map_eq_some_iff.mp h
        cases heq
        obtain ⟨after, hafter⟩ := exists_chars_eq_of_at? item hplace
        exact ⟨after ++ trail ++ itemChars [','] rest, by simp [itemChars, hafter]⟩
      next =>
        obtain ⟨⟨inner, _⟩, hplace, heq⟩ := Option.map_eq_some_iff.mp h
        cases heq
        obtain ⟨after, hafter⟩ := exists_itemChars_eq_of_itemAt? rest hplace
        exact ⟨after, by simp [itemChars, hafter]⟩
  termination_by sizeOf items

theorem exists_memberChars_eq_of_memberAt? (members : List (Label × Source × List Char))
    {comma : List Char} {key : Text} {path : List Step} {before : List Char} {node : Source}
    (h : memberAt? comma key path members = some (before, node)) :
    ∃ after, memberChars comma members = before ++ node.chars ++ after := by
  match members with
  | [] => simp [memberAt?] at h
  | (label, item, trail) :: rest =>
      rw [memberAt?] at h
      split at h
      next =>
        obtain ⟨⟨inner, _⟩, hplace, heq⟩ := Option.map_eq_some_iff.mp h
        cases heq
        obtain ⟨after, hafter⟩ := exists_memberChars_eq_of_memberAt? rest hplace
        exact ⟨after, by simp [memberChars, hafter]⟩
      next =>
        split at h
        next =>
          obtain ⟨⟨inner, _⟩, hplace, heq⟩ := Option.map_eq_some_iff.mp h
          cases heq
          obtain ⟨after, hafter⟩ := exists_chars_eq_of_at? item hplace
          exact ⟨after ++ trail ++ memberChars [','] rest, by simp [memberChars, hafter]⟩
        next => cases h
  termination_by sizeOf members

end

end Source

namespace Outline

/-- The pointers in a text with the lines that scanning finds for them. -/
def positions (text : String) : List (Text × Nat) := ((scan text).map entries).getD []

theorem mem_entries_outline_iff (source : Source) (lead : List Char) (pointer : Text)
    (line : Nat) :
    (pointer, line) ∈ (source.outline (1 + Source.lines lead)).entries ↔
      ∃ path before node, pointer = Pointer.ofPath path ∧
        source.at? path = some (before, node) ∧ line = 1 + Source.lines (lead ++ before) := by
  rw [mem_entries_iff (source.outline_distinct _)]
  simp only [Source.lineOf?_outline_iff, Source.Stands, Source.lines_append, Nat.add_assoc]
  constructor
  · rintro ⟨_, rfl, path, before, node, rfl, hplace, hline⟩
    exact ⟨path, before, node, rfl, hplace, hline⟩
  · rintro ⟨path, before, node, rfl, hplace, hline⟩
    exact ⟨_, rfl, path, before, node, rfl, hplace, hline⟩

/-- For a text that is written as a source, a pointer stands with a line where
it is the pointer of a path that leads to a value starting on this line. -/
theorem mem_positions_iff {source : Source} {lead : List Char} {text : String}
    (hwrites : source.Writes lead text.toList) (pointer : Text) (line : Nat) :
    (pointer, line) ∈ positions text ↔ ∃ path before node, pointer = Pointer.ofPath path ∧
      source.at? path = some (before, node) ∧ line = 1 + Source.lines (lead ++ before) := by
  rw [positions, scan, scanChars_of_writes hwrites]
  exact mem_entries_outline_iff source lead pointer line

theorem positions_distinct_of_writes {source : Source} {lead : List Char} {text : String}
    (hwrites : source.Writes lead text.toList) : Entries.Distinct (positions text) := by
  rw [positions, scan, scanChars_of_writes hwrites]
  exact entries_distinct (source.outline_distinct _)

/-- Looking up the pointer of a path gives the line on which the value there starts. -/
theorem lineAt?_ofPath_of_writes {source : Source} {lead : List Char} {text : String}
    (hwrites : source.Writes lead text.toList) {path : List Step} {before : List Char}
    {node : Source} (hplace : source.at? path = some (before, node)) :
    (scan text).bind (·.lineAt? (Pointer.ofPath path)) =
      some (1 + Source.lines (lead ++ before)) := by
  rw [scan, scanChars_of_writes hwrites, Option.bind_some, Pointer.ofPath, lineAt?_ofSegments,
    Source.lineOf?_outline_iff, Source.lines_append, ← Nat.add_assoc]
  exact ⟨path, before, node, rfl, hplace, rfl⟩

/-- The pointers that scanning a readable text finds are those of the paths in
the value that is read, once each. The value at a path starts behind some
characters of the text, and its line is counted off these: with `at?` choosing
the last occurrence of a repeated key, nothing of the other ones is left. -/
theorem positions_of_parse {text : String} {value : Json} (hparse : Json.parse text = .ok value) :
    Entries.Distinct (positions text) ∧
      (∀ pointer, pointer ∈ (positions text).map (·.1) ↔
        ∃ path inner, value.Leads path inner ∧ pointer = Pointer.ofPath path) ∧
      ∃ lead source, Source.Writes source lead text.toList ∧ source.value = value ∧
        ∀ path inner, value.Leads path inner →
          ∃ before node after, source.at? path = some (before, node) ∧ node.value = inner ∧
            text.toList = lead ++ before ++ node.chars ++ after ∧
            (positions text).lookup (Pointer.ofPath path) =
              some (1 + (lead ++ before).count '\n') := by
  obtain ⟨lead, source, hwrites, rfl⟩ := Json.exists_source_of_parse hparse
  have hdistinct := positions_distinct_of_writes hwrites
  refine ⟨hdistinct, ?_, lead, source, hwrites, rfl, ?_⟩
  · intro pointer
    rw [List.mem_map]
    constructor
    · rintro ⟨⟨_, line⟩, hmem, rfl⟩
      obtain ⟨path, before, node, hpointer, hplace, _⟩ := (mem_positions_iff hwrites _ _).mp hmem
      exact ⟨path, node.value, (source.leads_iff_at? hwrites.wellFormed path _).mpr
        ⟨before, node, hplace, rfl⟩, hpointer⟩
    · rintro ⟨path, inner, hleads, rfl⟩
      obtain ⟨before, node, hplace, _⟩ :=
        (source.leads_iff_at? hwrites.wellFormed path inner).mp hleads
      exact ⟨_, (mem_positions_iff hwrites _ _).mpr ⟨path, before, node, rfl, hplace, rfl⟩, rfl⟩
  · intro path inner hleads
    obtain ⟨before, node, hplace, hinner⟩ :=
      (source.leads_iff_at? hwrites.wellFormed path inner).mp hleads
    obtain ⟨after, hchars⟩ := source.exists_chars_eq_of_at? hplace
    obtain ⟨trail, _, htext⟩ := hwrites.text_eq
    refine ⟨before, node, after ++ trail, hplace, hinner, ?_, ?_⟩
    · rw [htext, hchars]
      simp
    · exact hdistinct.mem_iff_lookup.mp
        ((mem_positions_iff hwrites _ _).mpr ⟨path, before, node, rfl, hplace, rfl⟩)

/-- In this text a key stands twice, the first time with an object behind it. -/
theorem positions_of_parse_repeated :
    Json.parse "\x7b\"a\": \x7b\"b\": true\x7d,\n \"a\": [true]\x7d" =
        .ok (.record [("a", .arr [.bool true])]) ∧
      ∀ pointer,
        pointer ∈ (positions "\x7b\"a\": \x7b\"b\": true\x7d,\n \"a\": [true]\x7d").map (·.1) ↔
          ∃ path inner, (Json.record [("a", .arr [.bool true])]).Leads path inner ∧
            pointer = Pointer.ofPath path :=
  have hparse : Json.parse "\x7b\"a\": \x7b\"b\": true\x7d,\n \"a\": [true]\x7d" =
      .ok (.record [("a", .arr [.bool true])]) := by cbv
  ⟨hparse, (positions_of_parse hparse).2.1⟩

example : positions "\x7b\"a\": \x7b\"b\": true\x7d,\n \"a\": [true]\x7d" =
    [([], 1), (Text.ofString "/a", 2), (Text.ofString "/a/0", 2)] := by
  cbv

end Outline

end Conform
