import Conform.Json.Outline
import Conform.Proofs.Entries
import Conform.Proofs.Json.Pointers

/-! # The values of an outline

Where no segment stands twice among the children of a value, the pointers of an
outline are different from each other, and each of them stands with the line
that looking it up gives.
-/

namespace Conform

namespace Outline

/-- No segment stands twice among the children of any value. -/
inductive Distinct : Outline → Prop
  | node {line : Nat} {children : List (Text × Outline)} (hkeys : Entries.Distinct children)
      (hchildren : ∀ child ∈ children, Distinct child.2) : Distinct (.node line children)

mutual

/-- The segments that lead to each value, with its line. -/
def nodes : Outline → List (List Text × Nat)
  | .node line children => ([], line) :: childNodes children

/-- The segments that lead to each value of several children, with its line. -/
def childNodes : List (Text × Outline) → List (List Text × Nat)
  | [] => []
  | (segment, child) :: rest =>
    (nodes child).map (fun (segments, line) => (segment :: segments, line)) ++ childNodes rest

end

mutual

theorem entriesAt_eq_map_nodes (outline : Outline) (pointer : Text) :
    entriesAt pointer outline =
      outline.nodes.map fun (segments, line) => (pointer ++ Pointer.ofSegments segments, line) := by
  match outline with
  | .node line children =>
      rw [entriesAt, nodes, childEntries_eq_map_childNodes children pointer]
      simp [Pointer.ofSegments]
  termination_by sizeOf outline

theorem childEntries_eq_map_childNodes (children : List (Text × Outline)) (pointer : Text) :
    childEntries pointer children =
      (childNodes children).map fun (segments, line) =>
        (pointer ++ Pointer.ofSegments segments, line) := by
  match children with
  | [] => simp [childEntries, childNodes]
  | (segment, child) :: rest =>
      rw [childEntries, childNodes, entriesAt_eq_map_nodes child,
        childEntries_eq_map_childNodes rest pointer]
      simp [Pointer.ofSegments]
  termination_by sizeOf children

end

theorem exists_of_mem_childNodes {children : List (Text × Outline)} {segments : List Text}
    {line : Nat} (h : (segments, line) ∈ childNodes children) :
    ∃ segment rest, segments = segment :: rest ∧ segment ∈ children.map (·.1) := by
  induction children with
  | nil => simp [childNodes] at h
  | cons entry others ih =>
      obtain ⟨segment, child⟩ := entry
      rw [childNodes, List.mem_append, List.mem_map] at h
      rcases h with ⟨⟨rest, _⟩, _, heq⟩ | h
      · cases heq
        exact ⟨segment, rest, rfl, by simp⟩
      · obtain ⟨other, rest, rfl, hmem⟩ := ih h
        exact ⟨other, rest, rfl, List.mem_cons_of_mem _ hmem⟩

mutual

theorem mem_nodes_iff (outline : Outline) (hdistinct : outline.Distinct) (segments : List Text)
    (line : Nat) : (segments, line) ∈ outline.nodes ↔ outline.lineOf? segments = some line := by
  match outline, hdistinct with
  | .node start children, .node hkeys hchildren =>
      cases segments with
      | nil =>
          have hnot : ([], line) ∉ childNodes children := by
            intro hmem
            obtain ⟨_, _, hcons, _⟩ := exists_of_mem_childNodes hmem
            cases hcons
          simp [nodes, lineOf?, hnot, eq_comm]
      | cons segment rest =>
          rw [nodes, lineOf?, List.mem_cons,
            mem_childNodes_iff children hkeys hchildren segment rest line]
          cases children.lookup segment <;> simp
  termination_by sizeOf outline

theorem mem_childNodes_iff (children : List (Text × Outline)) (hkeys : Entries.Distinct children)
    (hchildren : ∀ child ∈ children, Distinct child.2) (segment : Text) (rest : List Text)
    (line : Nat) :
    (segment :: rest, line) ∈ childNodes children ↔
      (children.lookup segment).bind (·.lineOf? rest) = some line := by
  match children with
  | [] => simp [childNodes]
  | (other, child) :: others =>
      obtain ⟨hnot, hothers⟩ := Entries.distinct_cons.mp hkeys
      have hchild := hchildren (other, child) List.mem_cons_self
      have hrest := mem_childNodes_iff others hothers
        (fun entry hentry => hchildren entry (List.mem_cons_of_mem _ hentry)) segment rest line
      rw [childNodes, List.mem_append, List.mem_map, hrest]
      by_cases hsegment : segment = other
      · subst hsegment
        have hnone : others.lookup segment = none := Entries.lookup_eq_none_iff.mpr hnot
        rw [hnone, List.lookup_cons_self, Option.bind_some,
          ← mem_nodes_iff child hchild rest line]
        simp
      · rw [List.lookup_cons, beq_eq_false_iff_ne.mpr hsegment]
        simp [Ne.symm hsegment]
  termination_by sizeOf children

end

mutual

theorem nodes_nodup (outline : Outline) (hdistinct : outline.Distinct) :
    (outline.nodes.map (·.1)).Nodup := by
  match outline, hdistinct with
  | .node start children, .node hkeys hchildren =>
      rw [nodes, List.map_cons, List.nodup_cons]
      refine ⟨?_, childNodes_nodup children hkeys hchildren⟩
      intro hmem
      obtain ⟨⟨segments, line⟩, hmem, rfl⟩ := List.mem_map.mp hmem
      obtain ⟨_, _, hcons, _⟩ := exists_of_mem_childNodes hmem
      cases hcons
  termination_by sizeOf outline

theorem childNodes_nodup (children : List (Text × Outline)) (hkeys : Entries.Distinct children)
    (hchildren : ∀ child ∈ children, Distinct child.2) :
    ((childNodes children).map (·.1)).Nodup := by
  match children with
  | [] => simp [childNodes]
  | (segment, child) :: others =>
      obtain ⟨hnot, hothers⟩ := Entries.distinct_cons.mp hkeys
      have hchild := nodes_nodup child (hchildren (segment, child) List.mem_cons_self)
      have hrest := childNodes_nodup others hothers
        fun entry hentry => hchildren entry (List.mem_cons_of_mem _ hentry)
      have hmap : ((nodes child).map fun (segments, line) => (segment :: segments, line)).map
          (·.1) = (child.nodes.map (·.1)).map (segment :: ·) := by
        simp
      rw [childNodes, List.map_append, hmap, List.nodup_append]
      refine ⟨hchild.map fun _ _ heq => (List.cons.inj heq).2, hrest, ?_⟩
      -- Pointers below different children differ in their first segment.
      rintro first hfirst second hsecond rfl
      obtain ⟨segments, _, rfl⟩ := List.mem_map.mp hfirst
      obtain ⟨⟨_, line⟩, hsecond, rfl⟩ := List.mem_map.mp hsecond
      obtain ⟨_, _, hcons, hsegment⟩ := exists_of_mem_childNodes hsecond
      cases hcons
      exact hnot hsegment
  termination_by sizeOf children

end

/-- The pointers of an outline are different from each other. -/
theorem entries_distinct {outline : Outline} (hdistinct : outline.Distinct) :
    Entries.Distinct outline.entries := by
  have hmap : outline.entries.map (·.1) = (outline.nodes.map (·.1)).map Pointer.ofSegments := by
    simp [entries, entriesAt_eq_map_nodes]
  rw [Entries.Distinct, hmap]
  exact (nodes_nodup outline hdistinct).map Pointer.ofSegments_injective

/-- A pointer stands with a line where the segments it spells lead to that line. -/
theorem mem_entries_iff {outline : Outline} (hdistinct : outline.Distinct) {pointer : Text}
    {line : Nat} : (pointer, line) ∈ outline.entries ↔
      ∃ segments, pointer = Pointer.ofSegments segments ∧
        outline.lineOf? segments = some line := by
  rw [entries, entriesAt_eq_map_nodes, List.mem_map]
  constructor
  · rintro ⟨⟨segments, _⟩, hmem, heq⟩
    cases heq
    exact ⟨segments, rfl, (mem_nodes_iff outline hdistinct segments line).mp hmem⟩
  · rintro ⟨segments, rfl, hline⟩
    exact ⟨(segments, line), (mem_nodes_iff outline hdistinct segments line).mpr hline, rfl⟩

theorem lineAt?_ofSegments (outline : Outline) (segments : List Text) :
    outline.lineAt? (Pointer.ofSegments segments) = outline.lineOf? segments := by
  rw [lineAt?, Pointer.segments?_ofSegments, Option.bind_some]

end Outline

end Conform
