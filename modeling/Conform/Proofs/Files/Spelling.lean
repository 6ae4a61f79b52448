import Conform.FilePath
import Conform.Proofs.Json.Pointers

/-! # Paths and their written forms

No name of a path is empty or a single dot, and none holds a slash. Texts write only
such paths, and these are read back from their written forms.
-/

namespace Conform

/-- Pieces behind a separator each, but for the first one. -/
theorem intercalate_cons_eq {α : Type} (separator : α) (piece : List α) (pieces : List (List α)) :
    [separator].intercalate (piece :: pieces) = piece ++ pieces.flatMap (separator :: ·) := by
  induction pieces generalizing piece with
  | nil => simp [List.intercalate]
  | cons next rest ih =>
      rw [List.intercalate_cons_cons, ih, List.flatMap_cons]
      simp

theorem Text.not_mem_of_mem_splitOn {α : Type} [DecidableEq α] {separator : α} {piece : List α}
    {cs : List α} (h : piece ∈ splitOn separator cs) : separator ∉ piece := by
  induction cs generalizing piece with
  | nil =>
      rw [splitOn, List.mem_singleton] at h
      simp [h]
  | cons c rest ih =>
      rw [splitOn] at h
      split at h
      next =>
        rcases List.mem_cons.mp h with rfl | h
        · simp
        · exact ih h
      next hc =>
        have hcons : ∀ other, separator ∉ other → separator ∉ c :: other := fun other hother =>
          List.not_mem_cons_of_ne_of_not_mem (Ne.symm hc) hother
        split at h
        next =>
          rw [List.mem_singleton] at h
          exact h ▸ hcons [] (by simp)
        next first pieces hpieces =>
          rcases List.mem_cons.mp h with rfl | h
          · exact hcons first (ih (by simp [hpieces]))
          · exact ih (by simp [hpieces, h])

namespace FilePath

/-- What the names of paths are like. -/
structure WellFormed (p : FilePath) : Prop where
  empty_not_mem : "" ∉ p.names
  dot_not_mem : "." ∉ p.names
  slash_not_mem : ∀ name ∈ p.names, '/' ∉ name.toList

theorem ofString_wellFormed (s : String) : (ofString s).WellFormed := by
  have hname : ∀ name ∈ (ofString s).names, ∃ cs ∈ Text.splitOn '/' s.toList,
      cs ≠ [] ∧ cs ≠ ['.'] ∧ name = String.ofList cs := by
    intro name hmem
    obtain ⟨cs, hcs, rfl⟩ := List.mem_map.mp hmem
    rw [List.mem_filter] at hcs
    refine ⟨cs, hcs.1, ?_, ?_, rfl⟩
    · rintro rfl
      cases hcs.2
    · rintro rfl
      cases hcs.2
  refine ⟨fun hmem => ?_, fun hmem => ?_, fun name hmem => ?_⟩
  · obtain ⟨cs, -, hne, -, hcs⟩ := hname _ hmem
    exact hne (by simpa using (congrArg String.toList hcs).symm)
  · obtain ⟨cs, -, -, hne, hcs⟩ := hname _ hmem
    exact hne (by simpa using (congrArg String.toList hcs).symm)
  · obtain ⟨cs, hcs, -, -, rfl⟩ := hname _ hmem
    rw [String.toList_ofList]
    exact Text.not_mem_of_mem_splitOn hcs

/-! ## Reading a path back -/

theorem namesOf_slash (cs : List Char) : namesOf ('/' :: cs) = namesOf cs := by
  simp [namesOf, Text.splitOn]

theorem WellFormed.namesOf_intercalate {p : FilePath} (h : p.WellFormed) :
    namesOf (['/'].intercalate (p.names.map String.toList)) = p.names := by
  obtain ⟨start, names⟩ := p
  obtain ⟨hempty, hdot, hslash⟩ := h
  cases names with
  | nil => rfl
  | cons name rest =>
      have hpieces : ∀ other ∈ rest.map String.toList, '/' ∉ other := by
        intro other hother
        obtain ⟨name, hname, rfl⟩ := List.mem_map.mp hother
        exact hslash name (List.mem_cons_of_mem _ hname)
      have hkept : ∀ cs ∈ (name :: rest).map String.toList,
          (!cs.isEmpty && cs != ['.']) = true := by
        intro cs hcs
        obtain ⟨other, hother, rfl⟩ := List.mem_map.mp hcs
        have hne : other ≠ "" := fun heq => hempty (heq ▸ hother)
        have hnd : other.toList ≠ ['.'] := fun heq =>
          hdot ((String.toList_injective (heq.trans rfl : other.toList = ".".toList)) ▸ hother)
        simp [hne, hnd]
      rw [namesOf, List.map_cons, intercalate_cons_eq,
        Text.splitOn_append_flatMap (hslash name List.mem_cons_self) hpieces, ← List.map_cons,
        List.filter_eq_self.mpr hkept, List.map_map]
      simp [Function.comp_def]

theorem namesOf_text (start : PathStart) (body : List Char) :
    namesOf (start.text.toList ++ body) = namesOf body := by
  cases start with
  | here => rfl
  | root => exact namesOf_slash body
  | doubleRoot => exact (namesOf_slash _).trans (namesOf_slash body)

theorem startOf_text (start : PathStart) {body : List Char} (hbody : body.head? ≠ some '/') :
    startOf (start.text.toList ++ body) = start := by
  cases body with
  | nil => cases start <;> rfl
  | cons c rest =>
      have hc : c ≠ '/' := by simpa using hbody
      cases start <;> simp [PathStart.text, startOf, hc]

theorem WellFormed.head?_intercalate {p : FilePath} (h : p.WellFormed) :
    (['/'].intercalate (p.names.map String.toList)).head? ≠ some '/' := by
  obtain ⟨start, names⟩ := p
  cases names with
  | nil => simp [List.intercalate]
  | cons name rest =>
      have hslash := h.slash_not_mem name List.mem_cons_self
      have hempty : name ≠ "" := fun heq => h.empty_not_mem (heq ▸ List.mem_cons_self)
      rw [List.map_cons, intercalate_cons_eq]
      cases hname : name.toList with
      | nil => exact absurd (String.toList_injective (hname.trans rfl)) hempty
      | cons c cs =>
          rw [hname] at hslash
          rintro hhead
          simp only [List.cons_append, List.head?_cons, Option.some.injEq] at hhead
          exact hslash (hhead ▸ List.mem_cons_self)

/-- A path is read back from its written form. -/
theorem ofString_text {p : FilePath} (h : p.WellFormed) : ofString p.text = p := by
  unfold text
  split
  next hnowhere =>
    obtain ⟨start, names⟩ := p
    simp only [Bool.and_eq_true, decide_eq_true_eq, List.isEmpty_iff] at hnowhere
    obtain ⟨rfl, rfl⟩ := hnowhere
    rfl
  next =>
    have hchars : (p.start.text ++ "/".intercalate p.names).toList =
        p.start.text.toList ++ ['/'].intercalate (p.names.map String.toList) := by
      rw [String.toList_append, String.toList_intercalate]
      rfl
    rw [ofString, hchars, startOf_text p.start h.head?_intercalate, namesOf_text,
      h.namesOf_intercalate]

/-- Different paths have different written forms. -/
theorem text_injective {p q : FilePath} (hp : p.WellFormed) (hq : q.WellFormed)
    (h : p.text = q.text) : p = q := by
  rw [← ofString_text hp, h, ofString_text hq]

end FilePath

end Conform
