import Conform.Console.Markup
import Mathlib.Data.List.Infix

/-! # The pieces of a text with markup

A text is read character by character: backslashes are counted until it is known
whether a tag follows, a tag is taken as a whole, and any other character is text.
Two texts can be read apart unless a bracket that is open at the end of the first
one is closed by the second one. Reading an escaped text gives the pieces of the
text itself, with more backslashes in front of the tags.
-/

namespace Conform.Markup

/-! ## Tags -/

/-- Characters between which a tag may stand. -/
def isBracket (c : Char) : Bool := c == '[' || c == ']'

/-- Characters that the brackets of a tag may enclose. -/
structure IsBody (body : List Char) : Prop where
  starts : ∃ c ∈ body.head?, startsTag c = true
  unbracketed : ∀ c ∈ body, isBracket c = false

/-- A tag as it is written. -/
def enclosed (body : List Char) : List Char := '[' :: body ++ [']']

/-- Backslashes. -/
def slashes (n : Nat) : List Char := List.replicate n '\\'

variable {cs rest body : List Char} {c : Char}

theorem slashes_succ_append (n : Nat) (cs : List Char) :
    slashes (n + 1) ++ cs = slashes n ++ '\\' :: cs := by
  rw [slashes, slashes, List.replicate_succ', List.append_assoc, List.singleton_append]

theorem not_startsTag_of_mem (hc : c ∈ ['\\', '[', ']', ':', ' ', '=', '\n']) :
    startsTag c = false := by
  have hall : (['\\', '[', ']', ':', ' ', '=', '\n'].all fun c => !startsTag c) = true := by decide
  simpa using List.all_eq_true.mp hall c hc

theorem ne_of_startsTag {d : Char} (hc : startsTag c = true) (hd : startsTag d = false) :
    c ≠ d := by
  rintro rfl
  rw [hc] at hd
  cases hd

theorem isBracket_eq_false_iff : isBracket c = false ↔ c ≠ '[' ∧ c ≠ ']' := by
  simp [isBracket]

theorem isBracket_of_startsTag (h : startsTag c = true) : isBracket c = false :=
  isBracket_eq_false_iff.mpr ⟨ne_of_startsTag h (not_startsTag_of_mem (by decide)),
    ne_of_startsTag h (not_startsTag_of_mem (by decide))⟩

theorem untilClose?_append (h : ∀ c ∈ body, isBracket c = false) (rest : List Char) :
    untilClose? (body ++ ']' :: rest) = some (body, rest) := by
  induction body with
  | nil => rfl
  | cons c body ih =>
      obtain ⟨hc, hbody⟩ := List.forall_mem_cons.mp h
      obtain ⟨hopen, hclose⟩ := isBracket_eq_false_iff.mp hc
      rw [List.cons_append, untilClose?, if_neg (by simpa using hclose),
        if_neg (by simpa using hopen), ih hbody]
      rfl

theorem eq_of_untilClose? (h : untilClose? cs = some (body, rest)) :
    cs = body ++ ']' :: rest ∧ ∀ c ∈ body, isBracket c = false := by
  induction cs generalizing body with
  | nil => cases h
  | cons c cs ih =>
      rw [untilClose?] at h
      split at h
      next hclose =>
        cases h
        exact ⟨by simpa using hclose, by simp⟩
      next hclose =>
        split at h
        next => cases h
        next hopen =>
          obtain ⟨⟨inner, after⟩, hinner, heq⟩ := Option.map_eq_some_iff.mp h
          cases heq
          obtain ⟨rfl, hfree⟩ := ih hinner
          refine ⟨rfl, List.forall_mem_cons.mpr ⟨?_, hfree⟩⟩
          exact isBracket_eq_false_iff.mpr ⟨by simpa using hopen, by simpa using hclose⟩

theorem tagAt?_enclosed (h : IsBody body) (rest : List Char) :
    tagAt? (enclosed body ++ rest) = some (body, rest) := by
  obtain ⟨c, hc, hstarts⟩ := h.starts
  cases body with
  | nil => cases hc
  | cons first inner =>
      cases hc
      obtain ⟨-, hinner⟩ := List.forall_mem_cons.mp h.unbracketed
      rw [enclosed, List.append_assoc, List.singleton_append, List.cons_append, List.cons_append,
        tagAt?, if_pos hstarts, untilClose?_append hinner]
      rfl

theorem eq_of_tagAt? (h : tagAt? cs = some (body, rest)) :
    cs = enclosed body ++ rest ∧ IsBody body := by
  unfold tagAt? at h
  split at h
  next c after =>
    split at h
    next hstarts =>
      obtain ⟨⟨inner, rest⟩, hinner, heq⟩ := Option.map_eq_some_iff.mp h
      cases heq
      obtain ⟨rfl, hfree⟩ := eq_of_untilClose? hinner
      exact ⟨by simp [enclosed],
        ⟨⟨c, rfl, hstarts⟩, List.forall_mem_cons.mpr ⟨isBracket_of_startsTag hstarts, hfree⟩⟩⟩
    next => cases h
  next => cases h

/-- The first bracket that comes is a closing one. -/
def Closes (cs : List Char) : Prop := cs.find? isBracket = some ']'

theorem isSome_untilClose?_iff : (untilClose? cs).isSome = true ↔ Closes cs := by
  unfold Closes
  induction cs with
  | nil => simp [untilClose?]
  | cons c rest ih =>
      rw [untilClose?, List.find?_cons]
      by_cases hclose : c = ']'
      · simp [hclose, isBracket]
      · by_cases hopen : c = '['
        · simp [hopen, isBracket]
        · rw [isBracket_eq_false_iff.mpr ⟨hopen, hclose⟩, if_neg (by simpa using hclose),
            if_neg (by simpa using hopen), ← ih]
          simp

theorem isSome_tagAt?_iff :
    (tagAt? (c :: rest)).isSome = true ↔
      c = '[' ∧ (∃ first ∈ rest.head?, startsTag first = true) ∧ Closes rest := by
  by_cases hc : c = '['
  · subst hc
    cases rest with
    | nil => simp [tagAt?]
    | cons first rest =>
        rw [tagAt?]
        by_cases hfirst : startsTag first = true
        · have hskip : Closes (first :: rest) ↔ Closes rest := by
            rw [Closes, List.find?_cons, isBracket_of_startsTag hfirst]
            exact Iff.rfl
          rw [if_pos hfirst, hskip, ← isSome_untilClose?_iff]
          simp [hfirst]
        · simp [hfirst]
  · have hnone : tagAt? (c :: rest) = none := by
      unfold tagAt?
      split
      next heq => exact absurd (List.cons.inj heq).1 hc
      next => rfl
    simp [hnone, hc]

theorem tagAt?_eq_none_iff :
    tagAt? (c :: rest) = none ↔
      ¬(c = '[' ∧ (∃ first ∈ rest.head?, startsTag first = true) ∧ Closes rest) := by
  rw [← isSome_tagAt?_iff, Bool.not_eq_true, Option.isSome_eq_false_iff, Option.isNone_iff_eq_none]

/-! ## Reading a text -/

theorem piecesFrom_skipped (n : Nat) (cs : List Char) :
    piecesFrom n 0 cs = piecesFrom 0 0 (cs.drop n) := by
  induction n generalizing cs with
  | zero => rfl
  | succ n ih =>
      cases cs with
      | nil => rfl
      | cons c rest => rw [piecesFrom, ih, List.drop_succ_cons]

@[simp] theorem piecesFrom_nil (n : Nat) : piecesFrom 0 n [] = consBackslashes n [] := by
  rw [piecesFrom]

@[simp] theorem piecesFrom_backslash (n : Nat) (rest : List Char) :
    piecesFrom 0 n ('\\' :: rest) = piecesFrom 0 (n + 1) rest := by
  rw [piecesFrom, if_pos (by decide)]

theorem piecesFrom_enclosed (h : IsBody body) (n : Nat) (rest : List Char) :
    piecesFrom 0 n (enclosed body ++ rest) = .tag n body :: piecesFrom 0 0 rest := by
  have htag := tagAt?_enclosed h rest
  rw [enclosed, List.append_assoc, List.singleton_append, List.cons_append] at htag ⊢
  rw [piecesFrom, if_neg (by decide), htag]
  dsimp only
  rw [piecesFrom_skipped, List.append_cons]
  exact congrArg _ (congrArg _ (List.drop_left' List.length_append))

theorem piecesFrom_other (hc : c ≠ '\\') (h : tagAt? (c :: rest) = none) (n : Nat) :
    piecesFrom 0 n (c :: rest) = consBackslashes n (consText c (piecesFrom 0 0 rest)) := by
  rw [piecesFrom, if_neg (by simpa using hc), h]

/-- A text is empty, or starts with a backslash, with a tag, or with another character. -/
theorem reading_induction {motive : List Char → Prop} (nil : motive [])
    (backslash : ∀ rest, motive rest → motive ('\\' :: rest))
    (tag : ∀ body rest, IsBody body → motive rest → motive (enclosed body ++ rest))
    (other : ∀ c rest, c ≠ '\\' → tagAt? (c :: rest) = none → motive rest → motive (c :: rest))
    (cs : List Char) : motive cs := by
  induction hn : cs.length using Nat.strong_induction_on generalizing cs with
  | _ n ih =>
      subst hn
      cases cs with
      | nil => exact nil
      | cons c rest =>
          have hrest := ih rest.length (Nat.lt_succ_self _) rest rfl
          by_cases hc : c = '\\'
          · rw [hc]
            exact backslash rest hrest
          · cases htag : tagAt? (c :: rest) with
            | none => exact other c rest hc htag hrest
            | some found =>
                obtain ⟨heq, hbody⟩ := eq_of_tagAt? htag
                rw [heq] at ih ⊢
                refine tag _ _ hbody (ih _ ?_ _ rfl)
                simp only [enclosed, List.length_append, List.length_cons]
                omega

/-! ## The pieces as characters -/

section Spelled

variable {f : Piece → List Char} (hf : ∀ cs, f (.text cs) = cs)

include hf

theorem flatMap_consText (c : Char) (ps : List Piece) :
    (consText c ps).flatMap f = c :: ps.flatMap f := by
  unfold consText
  split <;> simp [hf]

theorem flatMap_consBackslashes (n : Nat) (ps : List Piece) :
    (consBackslashes n ps).flatMap f = slashes n ++ ps.flatMap f := by
  induction n with
  | zero => rfl
  | succ n ih =>
      rw [consBackslashes, flatMap_consText hf, ih]
      rfl

end Spelled

/-- The characters of a piece. -/
def Piece.written : Piece → List Char
  | .text cs => cs
  | .tag n body => slashes n ++ enclosed body

/-- A text is made of its pieces. -/
theorem flatMap_written (n : Nat) (cs : List Char) :
    (piecesFrom 0 n cs).flatMap Piece.written = slashes n ++ cs := by
  induction cs using reading_induction generalizing n with
  | nil => rw [piecesFrom_nil, flatMap_consBackslashes fun _ => rfl, List.flatMap_nil]
  | backslash rest ih =>
      rw [piecesFrom_backslash, ih, slashes_succ_append]
  | tag body rest hbody ih =>
      rw [piecesFrom_enclosed hbody, List.flatMap_cons, ih]
      exact List.append_assoc ..
  | other c rest hc htag ih =>
      rw [piecesFrom_other hc htag, flatMap_consBackslashes fun _ => rfl,
        flatMap_consText fun _ => rfl, ih]
      rfl

/-- No tag starts in characters that are no opening brackets. -/
theorem enclosed_isInfix_of_append {before : List Char} (hbefore : '[' ∉ before)
    (h : enclosed body <:+: before ++ cs) : enclosed body <:+: cs := by
  induction before with
  | nil => exact h
  | cons c before ih =>
      rw [List.mem_cons, not_or] at hbefore
      rcases List.infix_cons_iff.mp h with h | h
      · exact absurd (List.cons_prefix_cons.mp h).1 hbefore.1
      · exact ih hbefore.2 h

theorem tag_mem_consText_iff {k : Nat} {ps : List Piece} :
    .tag k body ∈ consText c ps ↔ .tag k body ∈ ps := by
  rcases ps with _ | ⟨_ | _, ps⟩ <;> simp [consText]

theorem tag_mem_consBackslashes_iff {k : Nat} {ps : List Piece} (n : Nat) :
    .tag k body ∈ consBackslashes n ps ↔ .tag k body ∈ ps := by
  induction n with
  | zero => exact Iff.rfl
  | succ n ih => rw [consBackslashes, tag_mem_consText_iff, ih]

/-- A tag that was read stands in the text. -/
theorem enclosed_isInfix_of_mem {n k : Nat} (h : .tag k body ∈ piecesFrom 0 n cs) :
    enclosed body <:+: cs ∧ IsBody body := by
  induction cs using reading_induction generalizing n with
  | nil =>
      rw [piecesFrom_nil, tag_mem_consBackslashes_iff] at h
      cases h
  | backslash rest ih =>
      rw [piecesFrom_backslash] at h
      exact ⟨(ih h).1.trans (List.suffix_cons _ _).isInfix, (ih h).2⟩
  | tag inner rest hinner ih =>
      rw [piecesFrom_enclosed hinner] at h
      rcases List.mem_cons.mp h with heq | hrest
      · cases heq
        exact ⟨(List.prefix_append _ _).isInfix, hinner⟩
      · exact ⟨(ih hrest).1.trans (List.suffix_append _ _).isInfix, (ih hrest).2⟩
  | other c rest hc htag ih =>
      rw [piecesFrom_other hc htag, tag_mem_consBackslashes_iff, tag_mem_consText_iff] at h
      exact ⟨(ih h).1.trans (List.suffix_cons _ _).isInfix, (ih h).2⟩

/-! ## Reading two texts -/

/-- A bracket that may open a tag is open at the end of the first text, and the second text closes
it. -/
structure Crosses (cs other : List Char) : Prop where
  opens : ∃ before after, cs = before ++ '[' :: after ∧
    (∃ c ∈ after.head?, startsTag c = true) ∧ ∀ c ∈ after, isBracket c = false
  closes : Closes other

theorem Crosses.of_suffix {other : List Char} (before : List Char) (h : Crosses cs other) :
    Crosses (before ++ cs) other := by
  obtain ⟨⟨first, after, rfl, hafter⟩, hcloses⟩ := h
  exact ⟨⟨before ++ first, after, (List.append_assoc ..).symm, hafter⟩, hcloses⟩

theorem closes_append_iff {other : List Char} :
    Closes (cs ++ other) ↔ Closes cs ∨ (∀ c ∈ cs, isBracket c = false) ∧ Closes other := by
  unfold Closes
  rw [List.find?_append]
  cases hfind : cs.find? isBracket with
  | none =>
      have hfree : ∀ c ∈ cs, isBracket c = false := by simpa using hfind
      rw [Option.none_or]
      exact ⟨fun h => Or.inr ⟨hfree, h⟩, fun h => (h.resolve_left nofun).2⟩
  | some c =>
      have hmem := List.mem_of_find?_eq_some hfind
      have hbracket := List.find?_some hfind
      have hnot : ¬∀ c ∈ cs, isBracket c = false := fun h => by simp [h c hmem] at hbracket
      simp [hnot]

theorem isBracket_of_mem_slashes {n : Nat} (h : c ∈ slashes n) : isBracket c = false := by
  rw [List.eq_of_mem_replicate h]
  rfl

theorem not_closes_of_unbracketed (h : ∀ c ∈ cs, isBracket c = false) : ¬Closes cs := by
  rw [Closes, List.find?_eq_none.mpr fun c hc => by rw [h c hc]; exact Bool.false_ne_true]
  nofun

theorem not_closes_slashes (n : Nat) : ¬Closes (slashes n) :=
  not_closes_of_unbracketed fun _ => isBracket_of_mem_slashes

theorem closes_slashes_append_iff {n : Nat} : Closes (slashes n ++ cs) ↔ Closes cs := by
  rw [closes_append_iff]
  exact ⟨fun h => (h.resolve_left (not_closes_slashes n)).2,
    fun h => Or.inr ⟨fun _ => isBracket_of_mem_slashes, h⟩⟩

theorem closes_append_slashes_iff (n : Nat) : Closes (cs ++ slashes n) ↔ Closes cs := by
  rw [closes_append_iff]
  exact ⟨fun h => h.resolve_right fun h => not_closes_slashes n h.2, Or.inl⟩

theorem not_closes_enclosed (body rest : List Char) : ¬Closes (enclosed body ++ rest) := nofun

/-- A bracket that opens no tag opens none if a text is added that closes none. -/
theorem tagAt?_append {other : List Char} (h : tagAt? (c :: rest) = none)
    (hhead : ∀ c ∈ other.head?, startsTag c = false) (hcross : ¬Crosses (c :: rest) other) :
    tagAt? (c :: rest ++ other) = none := by
  rw [List.cons_append, tagAt?_eq_none_iff]
  rintro ⟨rfl, ⟨first, hfirst, hstarts⟩, hcloses⟩
  cases rest with
  | nil => simp [hhead first hfirst] at hstarts
  | cons second rest =>
      cases hfirst
      have hopen : ∃ c ∈ (first :: rest).head?, startsTag c = true := ⟨first, rfl, hstarts⟩
      rcases closes_append_iff.mp hcloses with hcloses | ⟨hfree, hcloses⟩
      · exact tagAt?_eq_none_iff.mp h ⟨rfl, hopen, hcloses⟩
      · exact hcross ⟨⟨[], first :: rest, rfl, hopen, hfree⟩, hcloses⟩

theorem piecesFrom_slashes (n k : Nat) (rest : List Char) :
    piecesFrom 0 n (slashes k ++ rest) = piecesFrom 0 (n + k) rest := by
  induction k generalizing n with
  | zero => rfl
  | succ k ih =>
      rw [slashes, List.replicate_succ, List.cons_append, piecesFrom_backslash, ← slashes, ih,
        Nat.add_right_comm, Nat.add_assoc]

theorem consText_append_tag (c : Char) (ps : List Piece) (k : Nat) (body : List Char)
    (qs : List Piece) :
    consText c (ps ++ .tag k body :: qs) = consText c ps ++ .tag k body :: qs := by
  rcases ps with _ | ⟨_ | _, ps⟩ <;> rfl

theorem consBackslashes_append_tag (n : Nat) (ps : List Piece) (k : Nat) (body : List Char)
    (qs : List Piece) :
    consBackslashes n (ps ++ .tag k body :: qs) = consBackslashes n ps ++ .tag k body :: qs := by
  induction n with
  | zero => rfl
  | succ n ih => rw [consBackslashes, ih, consText_append_tag, consBackslashes]

/-- A tag is read the same behind whatever stands in front of its backslashes. -/
theorem piecesFrom_append_enclosed {before : List Char} {n : Nat} (k : Nat)
    (hbefore : before.getLast? ≠ some '\\') (hn : before = [] → n = 0) (hbody : IsBody body)
    (rest : List Char) :
    piecesFrom 0 n (before ++ (slashes k ++ (enclosed body ++ rest))) =
      piecesFrom 0 n before ++ .tag k body :: piecesFrom 0 0 rest := by
  have hopen : ¬Closes (slashes k ++ (enclosed body ++ rest)) := by
    rw [closes_slashes_append_iff]
    exact not_closes_enclosed body rest
  have hhead : ∀ c ∈ (slashes k ++ (enclosed body ++ rest)).head?, startsTag c = false := by
    intro c hc
    cases k <;> cases hc <;> rfl
  induction before using reading_induction generalizing n with
  | nil =>
      rw [List.nil_append, hn rfl, piecesFrom_slashes, Nat.zero_add, piecesFrom_enclosed hbody]
      rfl
  | backslash before ih =>
      have hne : before ≠ [] := by
        rintro rfl
        exact hbefore rfl
      rw [List.cons_append, piecesFrom_backslash, piecesFrom_backslash]
      rw [List.getLast?_cons_of_ne_nil hne] at hbefore
      exact ih hbefore fun h => absurd h hne
  | tag inner before hinner ih =>
      have hlast : before.getLast? ≠ some '\\' := fun h => hbefore (by simp [h])
      rw [List.append_assoc, piecesFrom_enclosed hinner, piecesFrom_enclosed hinner,
        ih hlast fun _ => rfl]
      rfl
  | other c before hc htag ih =>
      have hlast : before.getLast? ≠ some '\\' := fun h => hbefore (by
        rw [List.getLast?_cons, h, Option.getD_some])
      have htag' := tagAt?_append htag hhead fun h => hopen h.closes
      rw [List.cons_append] at htag'
      rw [List.cons_append, piecesFrom_other hc htag', piecesFrom_other hc htag,
        ih hlast fun _ => rfl, consText_append_tag, consBackslashes_append_tag]

end Conform.Markup
