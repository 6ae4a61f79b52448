import Conform.Proofs.Console.Pieces

/-! # Escaped texts

Escaping a text doubles the backslashes in front of its tags and adds one more, so
that the escaped text has the pieces of the text itself and no tag of it takes
effect. Escaped texts may be joined: the result is the escaped form of the joined
texts, unless a tag is opened by the first one and closed by the second one.
-/

namespace Conform.Markup

variable {cs other rest body : List Char} {c : Char} {n k : Nat}

/-- A text with its tags escaped, where some backslashes stand in front of the text. -/
def escapedFrom (n : Nat) (cs : List Char) : List Char :=
  (piecesFrom 0 n cs).flatMap Piece.escaped

@[simp] theorem escapedFrom_nil (n : Nat) : escapedFrom n [] = slashes n := by
  rw [escapedFrom, piecesFrom_nil, flatMap_consBackslashes fun _ => rfl, List.flatMap_nil,
    List.append_nil]

@[simp] theorem escapedFrom_backslash (n : Nat) (rest : List Char) :
    escapedFrom n ('\\' :: rest) = escapedFrom (n + 1) rest := by
  rw [escapedFrom, piecesFrom_backslash, escapedFrom]

theorem Piece.escaped_tag (n : Nat) (body : List Char) :
    (Piece.tag n body).escaped = slashes (2 * n + 1) ++ enclosed body := List.append_assoc ..

theorem escapedFrom_enclosed (h : IsBody body) (n : Nat) (rest : List Char) :
    escapedFrom n (enclosed body ++ rest) =
      slashes (2 * n + 1) ++ (enclosed body ++ escapedFrom 0 rest) := by
  rw [escapedFrom, piecesFrom_enclosed h, List.flatMap_cons, ← escapedFrom, Piece.escaped_tag,
    List.append_assoc]

theorem escapedFrom_other (hc : c ≠ '\\') (h : tagAt? (c :: rest) = none) (n : Nat) :
    escapedFrom n (c :: rest) = slashes n ++ c :: escapedFrom 0 rest := by
  rw [escapedFrom, piecesFrom_other hc h, flatMap_consBackslashes fun _ => rfl,
    flatMap_consText fun _ => rfl, escapedFrom]

theorem escapedFrom_slashes (n k : Nat) (rest : List Char) :
    escapedFrom n (slashes k ++ rest) = escapedFrom (n + k) rest := by
  rw [escapedFrom, piecesFrom_slashes, escapedFrom]

theorem slashes_append (n k : Nat) (rest : List Char) :
    slashes n ++ (slashes k ++ rest) = slashes (n + k) ++ rest := by
  rw [← List.append_assoc, slashes, slashes, List.replicate_append_replicate, slashes]

/-! ## What escaping leaves as it is -/

theorem closes_cons_iff : Closes (c :: rest) ↔ c = ']' ∨ c ≠ '[' ∧ Closes rest := by
  unfold Closes
  rw [List.find?_cons]
  by_cases hclose : c = ']'
  · simp [hclose, isBracket]
  · by_cases hopen : c = '['
    · simp [hopen, isBracket]
    · rw [isBracket_eq_false_iff.mpr ⟨hopen, hclose⟩]
      simp [hclose, hopen]

theorem closes_escapedFrom_iff : Closes (escapedFrom n cs) ↔ Closes cs := by
  induction cs using reading_induction generalizing n with
  | nil => rw [escapedFrom_nil, ← List.append_nil (slashes n), closes_slashes_append_iff]
  | backslash rest ih =>
      rw [escapedFrom_backslash, ih, closes_cons_iff]
      simp
  | tag body rest hbody ih =>
      rw [escapedFrom_enclosed hbody, closes_slashes_append_iff]
      exact iff_of_false (not_closes_enclosed body _) (not_closes_enclosed body rest)
  | other c rest hc htag ih =>
      rw [escapedFrom_other hc htag, closes_slashes_append_iff, closes_cons_iff, closes_cons_iff,
        ih]

theorem of_head?_slashes (h : c ∈ (slashes n ++ cs).head?) (hc : c ≠ '\\') :
    n = 0 ∧ c ∈ cs.head? := by
  cases n with
  | zero => exact ⟨rfl, h⟩
  | succ n =>
      cases h
      exact absurd rfl hc

/-- Escaping changes a character at the start of a text only to a backslash. -/
theorem of_head?_escapedFrom (h : c ∈ (escapedFrom n cs).head?) (hc : c ≠ '\\') :
    n = 0 ∧ c ∈ cs.head? := by
  induction cs using reading_induction generalizing n with
  | nil =>
      rw [escapedFrom_nil, ← List.append_nil (slashes n)] at h
      exact of_head?_slashes h hc
  | backslash rest ih =>
      rw [escapedFrom_backslash] at h
      exact absurd (ih h).1 n.succ_ne_zero
  | tag body rest hbody ih =>
      rw [escapedFrom_enclosed hbody] at h
      exact absurd (of_head?_slashes h hc).1 (2 * n).succ_ne_zero
  | other d rest hd htag ih =>
      rw [escapedFrom_other hd htag] at h
      obtain ⟨hn, hhead⟩ := of_head?_slashes h hc
      exact ⟨hn, hhead⟩

/-- A bracket that opens no tag opens none once the text behind it is escaped. -/
theorem tagAt?_escapedFrom (h : tagAt? (c :: rest) = none) :
    tagAt? (c :: escapedFrom 0 rest) = none := by
  rw [tagAt?_eq_none_iff] at h ⊢
  rintro ⟨rfl, ⟨first, hfirst, hstarts⟩, hcloses⟩
  have hne := ne_of_startsTag hstarts (not_startsTag_of_mem (c := '\\') (by decide))
  exact h ⟨rfl, ⟨first, (of_head?_escapedFrom hfirst hne).2, hstarts⟩,
    closes_escapedFrom_iff.mp hcloses⟩

/-- A piece with more backslashes, so that a tag takes no effect. -/
def Piece.disarmed : Piece → Piece
  | .text cs => .text cs
  | .tag n body => .tag (2 * n + 1) body

theorem map_consText (c : Char) (ps : List Piece) :
    (consText c ps).map Piece.disarmed = consText c (ps.map Piece.disarmed) := by
  rcases ps with _ | ⟨_ | _, ps⟩ <;> rfl

theorem map_consBackslashes (n : Nat) (ps : List Piece) :
    (consBackslashes n ps).map Piece.disarmed = consBackslashes n (ps.map Piece.disarmed) := by
  induction n with
  | zero => rfl
  | succ n ih => rw [consBackslashes, map_consText, ih, consBackslashes]

/-- The pieces of an escaped text are those of the text itself. -/
theorem piecesFrom_escapedFrom (n : Nat) (cs : List Char) :
    piecesFrom 0 0 (escapedFrom n cs) = (piecesFrom 0 n cs).map Piece.disarmed := by
  induction cs using reading_induction generalizing n with
  | nil =>
      rw [escapedFrom_nil, ← List.append_nil (slashes n), piecesFrom_slashes, Nat.zero_add,
        piecesFrom_nil, map_consBackslashes, List.map_nil]
  | backslash rest ih => rw [escapedFrom_backslash, ih, piecesFrom_backslash]
  | tag body rest hbody ih =>
      rw [escapedFrom_enclosed hbody, piecesFrom_slashes, Nat.zero_add, piecesFrom_enclosed hbody,
        ih, piecesFrom_enclosed hbody, List.map_cons, Piece.disarmed]
  | other c rest hc htag ih =>
      rw [escapedFrom_other hc htag, piecesFrom_slashes, Nat.zero_add,
        piecesFrom_other hc (tagAt?_escapedFrom htag), ih, piecesFrom_other hc htag,
        map_consBackslashes, map_consText]

/-! ## Joining escaped texts -/

/-- Backslashes in front of a text stay as they are, and no character at its start opens a tag. -/
structure Stands (cs : List Char) : Prop where
  head : ∀ c ∈ cs.head?, startsTag c = false
  escaped : ∀ n, escapedFrom n cs = slashes n ++ escapedFrom 0 cs

theorem stands_slashes (k : Nat) : Stands (slashes k) where
  head c hc := by
    cases k <;> cases hc
    rfl
  escaped n := by
    rw [← List.append_nil (slashes k), escapedFrom_slashes, escapedFrom_slashes, escapedFrom_nil,
      escapedFrom_nil, Nat.zero_add, slashes, slashes, slashes, List.replicate_append_replicate]

theorem stands_other (k : Nat) (hc : c ≠ '\\') (hstarts : startsTag c = false)
    (h : tagAt? (c :: rest) = none) : Stands (slashes k ++ c :: rest) where
  head d hd := by
    cases k <;> cases hd
    · exact hstarts
    · rfl
  escaped n := by
    rw [escapedFrom_slashes, escapedFrom_slashes, escapedFrom_other hc h, escapedFrom_other hc h,
      slashes_append, Nat.zero_add]

/-- Texts may be escaped one by one unless a tag crosses from one to the other. -/
theorem escapedFrom_append (hcross : ¬Crosses cs other) (hother : Stands other) (n : Nat) :
    escapedFrom n (cs ++ other) = escapedFrom n cs ++ escapedFrom 0 other := by
  induction cs using reading_induction generalizing n with
  | nil => rw [List.nil_append, escapedFrom_nil, hother.escaped]
  | backslash rest ih =>
      have hrest : ¬Crosses rest other := fun h => hcross (h.of_suffix ['\\'])
      rw [List.cons_append, escapedFrom_backslash, escapedFrom_backslash, ih hrest]
  | tag body rest hbody ih =>
      have hrest : ¬Crosses rest other := fun h => hcross (h.of_suffix (enclosed body))
      rw [List.append_assoc, escapedFrom_enclosed hbody, escapedFrom_enclosed hbody, ih hrest,
        List.append_assoc, List.append_assoc]
  | other c rest hc htag ih =>
      have hrest : ¬Crosses rest other := fun h => hcross (h.of_suffix [c])
      have htag' := tagAt?_append htag hother.head hcross
      rw [List.cons_append] at htag'
      rw [List.cons_append, escapedFrom_other hc htag', escapedFrom_other hc htag, ih hrest,
        List.append_assoc, List.cons_append]

/-- A text without brackets is its own escaped form. -/
theorem escapedFrom_unbracketed (h : ∀ c ∈ cs, isBracket c = false) (n : Nat) :
    escapedFrom n cs = slashes n ++ cs := by
  induction cs generalizing n with
  | nil => rw [escapedFrom_nil, List.append_nil]
  | cons c rest ih =>
      obtain ⟨hc, hrest⟩ := List.forall_mem_cons.mp h
      by_cases hslash : c = '\\'
      · rw [hslash, escapedFrom_backslash, ih hrest, slashes_succ_append]
      · have htag : tagAt? (c :: rest) = none :=
          tagAt?_eq_none_iff.mpr fun h => (isBracket_eq_false_iff.mp hc).1 h.1
        rw [escapedFrom_other hslash htag, ih hrest]
        rfl

theorem closes_iff :
    Closes cs ↔ ∃ before after, cs = before ++ ']' :: after ∧
      ∀ c ∈ before, isBracket c = false := by
  rw [Closes, List.find?_eq_some_iff_append]
  simp [isBracket]

/-- Up to a closing bracket that comes first, nothing is escaped. -/
theorem escapedFrom_closing {before : List Char} (h : ∀ c ∈ before, isBracket c = false)
    (after : List Char) :
    escapedFrom 0 (before ++ ']' :: after) = before ++ ']' :: escapedFrom 0 after := by
  have htag : tagAt? (']' :: after) = none :=
    tagAt?_eq_none_iff.mpr fun h => absurd h.1 (by decide)
  have hcross : ¬Crosses before (']' :: after) := by
    rintro ⟨⟨first, last, rfl, -⟩, -⟩
    exact absurd (h '[' (by simp)) (by decide)
  rw [escapedFrom_append hcross (stands_other 0 (by decide) (by decide) htag),
    escapedFrom_unbracketed h, escapedFrom_other (by decide) htag]
  rfl

/-- From a bracket on that is not closed, nothing is escaped. -/
theorem escapedFrom_opening (before : List Char) (k : Nat)
    (h : ∀ c ∈ rest, isBracket c = false) :
    escapedFrom 0 (before ++ (slashes k ++ '[' :: rest)) =
      escapedFrom 0 before ++ (slashes k ++ '[' :: rest) := by
  have htag : tagAt? ('[' :: rest) = none :=
    tagAt?_eq_none_iff.mpr fun htag => not_closes_of_unbracketed h htag.2.2
  have hcross : ¬Crosses before (slashes k ++ '[' :: rest) := by
    rintro ⟨-, hcloses⟩
    rw [closes_slashes_append_iff] at hcloses
    cases hcloses
  rw [escapedFrom_append hcross (stands_other k (by decide) (by decide) htag),
    escapedFrom_slashes, escapedFrom_other (by decide) htag, escapedFrom_unbracketed h,
    Nat.zero_add]
  rfl

/-! ## Backslashes at the end -/

theorem exists_eq_append_slashes (cs : List Char) :
    ∃ before k, cs = before ++ slashes k ∧ before.getLast? ≠ some '\\' := by
  induction cs using List.reverseRecOn with
  | nil => exact ⟨[], 0, rfl, by simp⟩
  | append_singleton cs c ih =>
      by_cases hc : c = '\\'
      · obtain ⟨before, k, rfl, hbefore⟩ := ih
        refine ⟨before, k + 1, ?_, hbefore⟩
        rw [hc, List.append_assoc, slashes, slashes, List.replicate_succ']
      · exact ⟨cs ++ [c], 0, (List.append_nil _).symm, by simpa using hc⟩

/-- A single backslash at the end is doubled, and several of them are left alone. -/
theorem guardEnd_slashes {before : List Char} (h : before.getLast? ≠ some '\\') (k : Nat) :
    guardEnd (before ++ slashes k) = before ++ slashes (if k = 1 then 2 else k) := by
  rw [← List.head?_reverse] at h
  have hreverse : (before ++ slashes k).reverse = slashes k ++ before.reverse := by
    rw [List.reverse_append, slashes, List.reverse_replicate]
  unfold guardEnd
  rw [hreverse]
  rcases k with _ | _ | k
  · rw [if_neg Nat.zero_ne_one, slashes, List.replicate_zero, List.append_nil, List.nil_append]
    split
    next heq =>
      rw [heq] at h
      exact absurd rfl h
    next heq =>
      rw [heq] at h
      exact absurd rfl h
    next => rfl
  · rw [Nat.zero_add, if_pos rfl, slashes, List.replicate_one, List.singleton_append]
    have htwo : before ++ ['\\'] ++ ['\\'] = before ++ slashes 2 := List.append_assoc ..
    cases hbefore : before.reverse with
    | nil => exact htwo
    | cons c rest =>
        rw [hbefore] at h
        have hc : ¬(c == '\\') = true := by simpa using h
        exact (if_neg hc).trans htwo
  · rfl

theorem getLast?_escapedFrom (h : cs ≠ []) (n : Nat) :
    (escapedFrom n cs).getLast? = cs.getLast? := by
  induction cs using reading_induction generalizing n with
  | nil => exact absurd rfl h
  | backslash rest ih =>
      rw [escapedFrom_backslash]
      by_cases hrest : rest = []
      · rw [hrest, escapedFrom_nil, slashes, List.getLast?_replicate]
        rfl
      · rw [ih hrest, List.getLast?_cons_of_ne_nil hrest]
  | tag body rest hbody ih =>
      rw [escapedFrom_enclosed hbody]
      have hlast : (enclosed body).getLast? = some ']' := List.getLast?_concat
      by_cases hrest : rest = []
      · rw [hrest, escapedFrom_nil]
        simp [slashes, hlast]
      · simp [List.getLast?_append, ih hrest, hlast]
  | other c rest hc htag ih =>
      rw [escapedFrom_other hc htag]
      by_cases hrest : rest = []
      · rw [hrest, escapedFrom_nil]
        simp [slashes]
      · simp [List.getLast?_append, List.getLast?_cons, ih hrest]

theorem getLast?_escapedFrom_ne (h : cs.getLast? ≠ some '\\') :
    (escapedFrom 0 cs).getLast? ≠ some '\\' := by
  by_cases hnil : cs = []
  · rw [hnil, escapedFrom_nil]
    nofun
  · rwa [getLast?_escapedFrom hnil]

theorem guardEnd_escapedFrom (cs : List Char) :
    guardEnd (escapedFrom 0 cs) = escapedFrom 0 (guardEnd cs) := by
  obtain ⟨before, k, rfl, hbefore⟩ := exists_eq_append_slashes cs
  have hsplit : ∀ k, escapedFrom 0 (before ++ slashes k) = escapedFrom 0 before ++ slashes k := by
    intro k
    have hslashes : escapedFrom 0 (slashes k) = slashes k :=
      escapedFrom_unbracketed (fun _ => isBracket_of_mem_slashes) 0
    have hcross : ¬Crosses before (slashes k) := fun h => not_closes_slashes k h.closes
    rw [escapedFrom_append hcross (stands_slashes k), hslashes]
  rw [hsplit, guardEnd_slashes (getLast?_escapedFrom_ne hbefore), guardEnd_slashes hbefore, hsplit]

theorem toList_escape (s : String) :
    (escape s).toList = escapedFrom 0 (guardEnd s.toList) := by
  rw [escape, String.toList_ofList, pieces, ← escapedFrom, guardEnd_escapedFrom]

end Conform.Markup
