import Conform.Json.Pointer
import Mathlib.Data.List.Basic

/-! # Reading pointers back

Escaping loses nothing, and a slash inside a segment never stands in its
escaped form. The segments of a pointer can therefore be read back from it.
-/

namespace Conform

namespace Text

variable {α : Type} [DecidableEq α] {separator : α}

theorem splitOn_append_separator (separator : α) (cs rest : List α) :
    splitOn separator (cs ++ separator :: rest) =
      splitOn separator cs ++ splitOn separator rest := by
  induction cs with
  | nil => simp [splitOn]
  | cons c cs ih =>
      rw [List.cons_append, splitOn, splitOn, ih]
      by_cases hc : c = separator
      · rw [if_pos hc, if_pos hc, List.cons_append]
      · rw [if_neg hc, if_neg hc]
        cases hsplit : splitOn separator cs with
        | nil => exact absurd hsplit (splitOn_ne_nil separator cs)
        | cons piece pieces => rfl

theorem splitOn_of_not_mem {piece : List α} (hpiece : separator ∉ piece) :
    splitOn separator piece = [piece] := by
  induction piece with
  | nil => rfl
  | cons c piece ih =>
      obtain ⟨hne, hpiece⟩ := not_or.mp (mt List.mem_cons.mpr hpiece)
      simp [splitOn, Ne.symm hne, ih hpiece]

/-- Splitting at separators gives the pieces back that they were put between. -/
theorem splitOn_append_flatMap {piece : List α} (hpiece : separator ∉ piece)
    {pieces : List (List α)} (hpieces : ∀ other ∈ pieces, separator ∉ other) :
    splitOn separator (piece ++ pieces.flatMap (separator :: ·)) = piece :: pieces := by
  induction pieces generalizing piece with
  | nil => simpa using splitOn_of_not_mem hpiece
  | cons next pieces ih =>
      rw [List.flatMap_cons, List.cons_append, splitOn_append_separator,
        splitOn_of_not_mem hpiece, ih (hpieces next List.mem_cons_self) fun other hother =>
          hpieces other (List.mem_cons_of_mem _ hother)]
      rfl

end Text

namespace Pointer

theorem slash_not_mem_escape (segment : Text) : slash ∉ escape segment := by
  unfold escape
  rw [List.mem_flatMap]
  rintro ⟨c, _, hmem⟩
  unfold escapePoint at hmem
  split at hmem
  next => exact absurd hmem (by decide)
  next =>
    split at hmem
    next => exact absurd hmem (by decide)
    next hne => exact hne (List.mem_singleton.mp hmem).symm

theorem unescape?_cons {c : CodePoint} (hc : c ≠ tilde) (rest : Text) :
    unescape? (c :: rest) = (unescape? rest).map (c :: ·) := by
  cases rest <;> simp [unescape?, hc]

theorem unescape?_escape (segment : Text) : unescape? (escape segment) = some segment := by
  induction segment with
  | nil => rfl
  | cons c segment ih =>
      have hcons : escape (c :: segment) = escapePoint c ++ escape segment := rfl
      rw [hcons, escapePoint]
      split
      next htilde =>
        subst htilde
        simp [unescape?, ih]
      next htilde =>
        split
        next hslash =>
          subst hslash
          have hdigits : CodePoint.ofChar '1' ≠ CodePoint.ofChar '0' := by decide
          simp [unescape?, ih, hdigits]
        next =>
          rw [List.singleton_append, unescape?_cons htilde, ih]
          rfl

/-- Nothing stands before the first slash of a pointer, and behind each slash a segment. -/
theorem splitOn_ofSegments (segments : List Text) :
    Text.splitOn slash (ofSegments segments) = [] :: segments.map escape := by
  have hpieces : ∀ piece ∈ segments.map escape, slash ∉ piece := by
    intro piece hpiece
    obtain ⟨segment, _, rfl⟩ := List.mem_map.mp hpiece
    exact slash_not_mem_escape segment
  have hpointer : ofSegments segments = [] ++ (segments.map escape).flatMap (slash :: ·) := by
    rw [List.nil_append, List.flatMap_map, ofSegments]
  rw [hpointer, Text.splitOn_append_flatMap List.not_mem_nil hpieces]

/-- The segments of a pointer can be read back. -/
theorem segments?_ofSegments (segments : List Text) :
    segments? (ofSegments segments) = some segments := by
  cases segments with
  | nil => rfl
  | cons segment rest =>
      have hpointer : ofSegments (segment :: rest) = slash :: (escape segment ++ ofSegments rest) :=
        rfl
      have hpieces := splitOn_ofSegments (segment :: rest)
      rw [hpointer, Text.splitOn, if_pos rfl] at hpieces
      have hmapM : ∀ segments : List Text, (segments.map escape).mapM unescape? = some segments := by
        intro segments
        induction segments with
        | nil => rfl
        | cons segment segments ih => simp [unescape?_escape, ih]
      rw [hpointer, segments?, if_pos rfl, (List.cons.inj hpieces).2]
      exact hmapM (segment :: rest)

theorem ofSegments_injective : Function.Injective ofSegments := by
  intro first second h
  have hsegments := segments?_ofSegments first
  rw [h, segments?_ofSegments] at hsegments
  exact (Option.some.inj hsegments).symm

end Pointer

theorem Text.ofString_injective : Function.Injective Text.ofString := by
  intro s t h
  have hback := toString?_ofString s
  rw [h, toString?_ofString] at hback
  exact (Option.some.inj hback).symm

/-- Different indices have different segments. -/
theorem Step.segment_index_injective {m n : Nat}
    (h : (Step.index m).segment = (Step.index n).segment) : m = n := by
  have hrepr : Nat.repr m = Nat.repr n := Text.ofString_injective h
  have hdigits : Nat.toDigits 10 m = Nat.toDigits 10 n := by
    simpa only [Nat.toList_repr] using congrArg String.toList hrepr
  rw [← Nat.ofDigitChars_ten_toDigits (n := m), hdigits, Nat.ofDigitChars_ten_toDigits]

end Conform
