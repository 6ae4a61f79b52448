import Conform.Proofs.Json.Pointers

/-! # Pointers and the segments of their paths

A pointer says what the segments of its path are, and no more. Two paths have the
same pointer exactly if their segments are the same, and a pointer leads through
another one exactly if the segments of the one path begin those of the other.
Escaping and reading back are described here as replacements of parts of a text,
each made from the left over the whole of it.
-/

namespace Conform

namespace Text

variable {α : Type} [DecidableEq α]

/-! ## Replacing -/

/-- Puts a new part in the place of an old one, which is not empty. The first elements are
skipped because they belong to an occurrence of the old part. -/
def replaceFrom (old new : List α) (skipped : Nat) : List α → List α
  | [] => []
  | c :: rest =>
    match skipped with
    | n + 1 => replaceFrom old new n rest
    | 0 =>
      if old <+: c :: rest then new ++ replaceFrom old new (old.length - 1) rest
      else c :: replaceFrom old new 0 rest

/-- Puts a new part in the place of an old one, which is not empty, wherever it occurs. -/
def replace (old new cs : List α) : List α := replaceFrom old new 0 cs

variable {old new cs : List α} {c : α}

theorem replaceFrom_skipped (n : Nat) (cs : List α) :
    replaceFrom old new n cs = replace old new (cs.drop n) := by
  induction n generalizing cs with
  | zero => rfl
  | succ n ih =>
      cases cs with
      | nil => rfl
      | cons c rest => rw [replaceFrom, ih, List.drop_succ_cons]

theorem replace_append (c : α) (old new rest : List α) :
    replace (c :: old) new (c :: old ++ rest) = new ++ replace (c :: old) new rest := by
  have hprefix : c :: old <+: c :: (old ++ rest) := List.prefix_append (c :: old) rest
  rw [replace, List.cons_append, replaceFrom, if_pos hprefix, replaceFrom_skipped,
    List.length_cons, Nat.add_sub_cancel, List.drop_left]

theorem replace_cons (h : ¬old <+: c :: cs) :
    replace old new (c :: cs) = c :: replace old new cs := by
  rw [replace, replaceFrom, if_neg h, replace]

/-- Replacing a single element goes through the elements one by one. -/
theorem replace_singleton (c : α) (new cs : List α) :
    replace [c] new cs = cs.flatMap fun d => if d = c then new else [d] := by
  induction cs with
  | nil => rfl
  | cons d rest ih =>
      rw [List.flatMap_cons, ← ih]
      by_cases hd : d = c
      · rw [if_pos hd, hd]
        exact replace_append c [] new rest
      · have hprefix : ¬[c] <+: d :: rest := fun h => hd (List.cons_prefix_cons.mp h).1.symm
        rw [if_neg hd, replace_cons hprefix]
        rfl

end Text

namespace Pointer

/-! ## Escaping as replacing -/

/-- The written form of a tilde. -/
def escapedTilde : Text := [tilde, CodePoint.ofChar '0']

/-- The written form of a slash. -/
def escapedSlash : Text := [tilde, CodePoint.ofChar '1']

/-- A segment is written by replacing tildes first and slashes then. -/
theorem escape_eq_replace (segment : Text) :
    escape segment = Text.replace [slash] escapedSlash
      (Text.replace [tilde] escapedTilde segment) := by
  rw [Text.replace_singleton, Text.replace_singleton, List.flatMap_assoc, escape]
  refine List.flatMap_congr fun c _ => ?_
  unfold escapePoint
  split
  next => rfl
  next =>
    rw [List.flatMap_singleton]
    rfl

theorem escapedSlash_not_prefix {c d : CodePoint} (h : ¬(c = tilde ∧ d = CodePoint.ofChar '1'))
    (rest : Text) : ¬escapedSlash <+: c :: d :: rest := by
  intro hprefix
  obtain ⟨hc, hrest⟩ := List.cons_prefix_cons.mp hprefix
  exact h ⟨hc.symm, (List.cons_prefix_cons.mp hrest).1.symm⟩

/-- Replacing `~1` leaves the first code point of a text as it is, or makes a slash of it. -/
theorem head?_replace_escapedSlash (c : CodePoint) (rest : Text) :
    (Text.replace escapedSlash [slash] (c :: rest)).head? = some c ∨
      (Text.replace escapedSlash [slash] (c :: rest)).head? = some slash := by
  by_cases hprefix : escapedSlash <+: c :: rest
  · obtain ⟨after, hafter⟩ := hprefix
    have hreplace := Text.replace_append tilde [CodePoint.ofChar '1'] [slash] after
    rw [← hafter]
    exact Or.inr (congrArg List.head? hreplace)
  · rw [Text.replace_cons hprefix]
    exact Or.inl rfl

/-- A segment is read by replacing `~1` first and `~0` then. The first step makes no `~0` that was
not there, because it only makes slashes. -/
theorem unescapeAll_eq_replace (segment : Text) :
    unescapeAll segment = Text.replace escapedTilde [tilde]
      (Text.replace escapedSlash [slash] segment) := by
  induction segment using unescapeAll.induct with
  | case1 => rfl
  | case2 c =>
      have hshort : ∀ d : CodePoint, ¬[tilde, d] <+: [c] := fun d h =>
        absurd h.length_le (by simp)
      have hslash : ¬escapedSlash <+: [c] := hshort (CodePoint.ofChar '1')
      have htilde : ¬escapedTilde <+: [c] := hshort (CodePoint.ofChar '0')
      rw [Text.replace_cons hslash]
      exact (Text.replace_cons htilde).symm
  | case3 c d rest h ih =>
      obtain ⟨rfl, rfl⟩ : c = tilde ∧ d = CodePoint.ofChar '1' := by simpa using h
      have hreplace : Text.replace escapedSlash [slash] (tilde :: CodePoint.ofChar '1' :: rest)
          = slash :: Text.replace escapedSlash [slash] rest :=
        Text.replace_append tilde [CodePoint.ofChar '1'] [slash] rest
      have htilde : ∀ after, ¬escapedTilde <+: slash :: after := fun after hprefix =>
        absurd (List.cons_prefix_cons.mp hprefix).1 (by decide)
      rw [unescapeAll, if_pos h, ih, hreplace, Text.replace_cons (htilde _)]
  | case4 c d rest hslash h ih =>
      obtain ⟨rfl, rfl⟩ : c = tilde ∧ d = CodePoint.ofChar '0' := by simpa using h
      have hfirst : ¬escapedSlash <+: tilde :: CodePoint.ofChar '0' :: rest :=
        escapedSlash_not_prefix (by decide) rest
      have hsecond : ¬escapedSlash <+: CodePoint.ofChar '0' :: rest := fun hprefix =>
        absurd (List.cons_prefix_cons.mp hprefix).1 (by decide)
      rw [unescapeAll, if_neg hslash, if_pos h, ih, Text.replace_cons hfirst,
        Text.replace_cons hsecond]
      exact (Text.replace_append tilde [CodePoint.ofChar '0'] [tilde] _).symm
  | case5 c d rest hslash htilde ih =>
      have hfirst : ¬escapedSlash <+: c :: d :: rest :=
        escapedSlash_not_prefix (by simpa using hslash) rest
      have hsecond : ¬escapedTilde <+:
          c :: Text.replace escapedSlash [slash] (d :: rest) := by
        intro hprefix
        obtain ⟨hc, after, hafter⟩ := List.cons_prefix_cons.mp hprefix
        -- The zero behind `c` was there before slashes were made.
        have hd : d = CodePoint.ofChar '0' ∨ slash = CodePoint.ofChar '0' := by
          simpa [← hafter, eq_comm] using head?_replace_escapedSlash d rest
        rcases hd with hd | hd
        · exact htilde (by simp [← hc, hd])
        · exact absurd hd (by decide)
      rw [unescapeAll, if_neg hslash, if_neg htilde, ih, Text.replace_cons hfirst,
        Text.replace_cons hsecond]

theorem unescapeAll_cons {c : CodePoint} (hc : c ≠ tilde) (rest : Text) :
    unescapeAll (c :: rest) = c :: unescapeAll rest := by
  cases rest with
  | nil => rfl
  | cons d rest => simp [unescapeAll, hc]

/-- Where every tilde is followed by `0` or `1`, it does not matter that it need not be. -/
theorem unescapeAll_of_unescape? {escaped segment : Text}
    (h : unescape? escaped = some segment) : unescapeAll escaped = segment := by
  induction escaped using unescape?.induct generalizing segment with
  | case1 =>
      cases h
      rfl
  | case2 => cases h
  | case3 rest ih =>
      obtain ⟨inner, hinner, rfl⟩ := Option.map_eq_some_iff.mp h
      rw [unescapeAll, if_neg (by decide), if_pos (by decide), ih hinner]
  | case4 rest _ ih =>
      obtain ⟨inner, hinner, rfl⟩ := Option.map_eq_some_iff.mp h
      rw [unescapeAll, if_pos (by decide), ih hinner]
  | case5 d rest hzero hone => simp [unescape?, hzero, hone] at h
  | case6 c rest hc ih =>
      rw [unescape?_cons hc] at h
      obtain ⟨inner, hinner, rfl⟩ := Option.map_eq_some_iff.mp h
      rw [unescapeAll_cons hc, ih hinner]

theorem map_unescapeAll_escape (segments : List Text) :
    (segments.map escape).map unescapeAll = segments := by
  rw [List.map_map]
  refine (List.map_congr_left fun segment _ => ?_).trans (List.map_id segments)
  exact unescapeAll_of_unescape? (unescape?_escape segment)

/-! ## The pieces of a pointer -/

/-- A pointer and a slash begin another pointer exactly if that one leads further. -/
theorem ofSegments_slash_prefix_iff (first second : List Text) :
    ofSegments first ++ [slash] <+: ofSegments second ↔ first <+: second ∧ first ≠ second := by
  constructor
  · rintro ⟨after, hafter⟩
    have hpieces : first.map escape ++ Text.splitOn slash after = second.map escape := by
      have hsplit := congrArg (Text.splitOn slash) hafter
      rw [List.append_assoc, List.singleton_append, Text.splitOn_append_separator,
        splitOn_ofSegments, splitOn_ofSegments, List.cons_append] at hsplit
      exact (List.cons.inj hsplit).2
    have hsegments : first ++ (Text.splitOn slash after).map unescapeAll = second := by
      rw [← map_unescapeAll_escape second, ← hpieces, List.map_append, map_unescapeAll_escape]
    refine ⟨⟨_, hsegments⟩, fun heq => ?_⟩
    -- What stands behind the slash is a piece more, even if it is empty.
    rw [← heq, List.append_right_eq_self, List.map_eq_nil_iff] at hsegments
    exact Text.splitOn_ne_nil slash after hsegments
  · rintro ⟨⟨rest, rfl⟩, hne⟩
    cases rest with
    | nil => exact absurd (List.append_nil first).symm hne
    | cons segment rest =>
        refine ⟨escape segment ++ ofSegments rest, ?_⟩
        simp [ofSegments]

/-- A pointer holds the segments of its path, each written behind a slash with `~0` for `~` and
then `~1` for `/`. Equal pointers belong to equal segments, and a pointer followed by a slash begins
another one exactly if its segments are a proper start of those of the other. The segments are read
back from what stands behind the slashes, with `/` for `~1` and then `~` for `~0`. -/
theorem ofPath_lossless (p q : List Step) :
    ofPath p = (p.map Step.segment).flatMap (fun segment =>
        slash :: Text.replace [slash] escapedSlash (Text.replace [tilde] escapedTilde segment)) ∧
      (ofPath p = ofPath q ↔ p.map Step.segment = q.map Step.segment) ∧
      (ofPath p ++ [slash] <+: ofPath q ↔
        p.map Step.segment <+: q.map Step.segment ∧ p.map Step.segment ≠ q.map Step.segment) ∧
      (Text.splitOn slash (ofPath p)).map (fun piece =>
        Text.replace escapedTilde [tilde] (Text.replace escapedSlash [slash] piece)) =
          [] :: p.map Step.segment := by
  refine ⟨?_, ofSegments_injective.eq_iff, ofSegments_slash_prefix_iff _ _, ?_⟩
  · rw [ofPath, ofSegments]
    exact List.flatMap_congr fun segment _ => by rw [escape_eq_replace]
  · have hread : ∀ piece : Text, Text.replace escapedTilde [tilde]
        (Text.replace escapedSlash [slash] piece) = unescapeAll piece := fun piece =>
      (unescapeAll_eq_replace piece).symm
    rw [List.map_congr_left fun piece _ => hread piece, ofPath, splitOn_ofSegments, List.map_cons,
      map_unescapeAll_escape, unescapeAll]

end Pointer

end Conform
