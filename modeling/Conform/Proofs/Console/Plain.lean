import Conform.Console.Layout
import Conform.Diagnostic
import Conform.Proofs.Console.Escaping

/-! # Texts that a console shows as they are

A console leaves out tags, and backslashes in front of brackets, puts emoji in the
place of their codes, leaves out some control characters and widens tabs. A text
without any of these is shown as it is.
-/

namespace Conform

namespace Text

variable {α : Type} [DecidableEq α] {separator : α}

/-- The pieces of a text with the separator behind each of them. -/
theorem flatMap_splitOn (separator : α) (cs : List α) :
    ((splitOn separator cs).flatMap fun piece => piece ++ [separator]) = cs ++ [separator] := by
  induction cs with
  | nil => simp [splitOn]
  | cons c rest ih =>
      rw [splitOn]
      by_cases hc : c = separator
      · rw [if_pos hc, List.flatMap_cons, ih, hc]
        rfl
      · rw [if_neg hc]
        cases hsplit : splitOn separator rest with
        | nil => exact absurd hsplit (splitOn_ne_nil separator rest)
        | cons piece pieces =>
            rw [hsplit, List.flatMap_cons] at ih
            rw [List.cons_append, ← ih]
            rfl

theorem mem_of_mem_splitOn {c : α} {piece cs : List α} (hpiece : piece ∈ splitOn separator cs)
    (hc : c ∈ piece) : c ∈ cs := by
  induction cs generalizing piece with
  | nil =>
      rw [splitOn, List.mem_singleton] at hpiece
      rwa [hpiece] at hc
  | cons d rest ih =>
      rw [splitOn] at hpiece
      split at hpiece
      next =>
        rcases List.mem_cons.mp hpiece with rfl | hpiece
        · cases hc
        · exact List.mem_cons_of_mem d (ih hpiece hc)
      next =>
        split at hpiece
        next hsplit => exact absurd hsplit (splitOn_ne_nil separator rest)
        next first pieces hsplit =>
          rw [hsplit] at ih
          rcases List.mem_cons.mp hpiece with rfl | hpiece
          · rcases List.mem_cons.mp hc with rfl | hc
            · exact List.mem_cons_self
            · exact List.mem_cons_of_mem d (ih List.mem_cons_self hc)
          · exact List.mem_cons_of_mem d (ih (List.mem_cons_of_mem _ hpiece) hc)

end Text

/-! ## Emoji -/

namespace Emoji

variable {cs rest : List Char} {c : Char}

/-- Every code between colons is unknown and stands for itself. -/
def IsFree (cs : List Char) : Prop :=
  ∀ code, ':' :: code ++ [':'] <:+: cs → (∀ c ∈ code, c ≠ ':' ∧ Text.isBlank c.toNat = false) →
    expand code = ':' :: code ++ [':']

theorem IsFree.of_isInfix {part : List Char} (h : IsFree cs) (hpart : part <:+: cs) :
    IsFree part :=
  fun code hcode => h code (hcode.trans hpart)

/-- Two colons are needed for a code. -/
theorem isFree_of_count (h : cs.count ':' ≤ 1) : IsFree cs := by
  intro code hcode
  have hcount := hcode.sublist.count_le ':'
  rw [List.count_append, List.count_cons_self, List.count_singleton_self] at hcount
  omega

theorem isFree_of_not_mem (h : ':' ∉ cs) : IsFree cs :=
  isFree_of_count (by rw [List.count_eq_zero_of_not_mem h]; exact Nat.zero_le 1)

theorem eq_of_code? {code : List Char} (h : code? cs = some code) :
    (∃ rest, cs = code ++ ':' :: rest) ∧ ∀ c ∈ code, c ≠ ':' ∧ Text.isBlank c.toNat = false := by
  induction cs generalizing code with
  | nil => cases h
  | cons c cs ih =>
      rw [code?] at h
      split at h
      next hcolon =>
        cases h
        exact ⟨⟨cs, by rw [List.nil_append, beq_iff_eq.mp hcolon]⟩, by simp⟩
      next hcolon =>
        split at h
        next => cases h
        next hblank =>
          obtain ⟨code, hcode, rfl⟩ := Option.map_eq_some_iff.mp h
          obtain ⟨⟨rest, rfl⟩, hfree⟩ := ih hcode
          refine ⟨⟨rest, rfl⟩, List.forall_mem_cons.mpr ⟨⟨?_, ?_⟩, hfree⟩⟩
          · simpa using hcolon
          · simpa using hblank

theorem replaceFrom_skipped (n : Nat) (cs : List Char) :
    replaceFrom n cs = replaceFrom 0 (cs.drop n) := by
  induction n generalizing cs with
  | zero => rfl
  | succ n ih =>
      cases cs with
      | nil => rfl
      | cons c rest => rw [replaceFrom, ih, List.drop_succ_cons]

theorem replace_cons (hc : c ≠ ':') (rest : List Char) :
    replace (c :: rest) = c :: replace rest := by
  rw [replace, replaceFrom, if_neg (by simpa using hc), replace]

theorem replace_eq_self (h : IsFree cs) : replace cs = cs := by
  induction hn : cs.length using Nat.strong_induction_on generalizing cs with
  | _ n ih =>
      subst hn
      cases cs with
      | nil => rfl
      | cons c rest =>
          have hrest := ih rest.length (Nat.lt_succ_self _)
            (h.of_isInfix (List.suffix_cons c rest).isInfix) rfl
          by_cases hc : c = ':'
          · subst hc
            rw [replace, replaceFrom, if_pos (by decide)]
            cases hcode : code? rest with
            | none => exact congrArg _ hrest
            | some code =>
                obtain ⟨⟨after, rfl⟩, hfree⟩ := eq_of_code? hcode
                have hinfix : ':' :: code ++ [':'] <:+: ':' :: (code ++ ':' :: after) :=
                  ⟨[], after, by simp⟩
                have hafter : after <:+ ':' :: (code ++ ':' :: after) :=
                  ⟨':' :: code ++ [':'], by simp⟩
                have hskip : (code ++ ':' :: after).drop (code.length + 1) = after := by
                  rw [List.append_cons]
                  exact List.drop_left' List.length_append
                have hlength : after.length < (':' :: (code ++ ':' :: after)).length := by
                  simp only [List.length_cons, List.length_append]
                  omega
                dsimp only
                rw [h code hinfix hfree, replaceFrom_skipped, hskip, ← replace,
                  ih _ hlength (h.of_isInfix hafter.isInfix) rfl]
                simp
          · rw [replace_cons hc, hrest]

end Emoji

namespace Markup

variable {cs rest body : List Char} {c : Char}

/-! ## Pieces without effect -/

/-- What is shown of a piece if its tag has no effect. -/
def Piece.shown : Piece → List Char
  | .text cs => Emoji.replace (plain cs)
  | .tag n body => slashes n ++ Emoji.replace (enclosed body)

theorem renderPieces_disarmed (openStyles : List String) (ps rest : List Piece) :
    renderPieces openStyles (ps.map Piece.disarmed ++ rest) =
      (renderPieces openStyles rest).map (ps.flatMap Piece.shown ++ ·) := by
  induction ps with
  | nil =>
      rw [List.map_nil, List.nil_append]
      cases renderPieces openStyles rest <;> rfl
  | cons piece ps ih =>
      rw [List.map_cons, List.cons_append]
      cases piece with
      | text cs =>
          rw [Piece.disarmed, renderPieces, ih, List.flatMap_cons, Piece.shown]
          cases renderPieces openStyles rest <;> simp [Except.map]
      | tag n body =>
          have hodd : (2 * n + 1) % 2 = 1 := by omega
          have hhalf : (2 * n + 1) / 2 = n := by omega
          rw [Piece.disarmed, renderPieces, hhalf, if_pos hodd, ih, List.flatMap_cons, Piece.shown]
          cases renderPieces openStyles rest <;> simp [Except.map, slashes, enclosed]

theorem renderPieces_text {ps : List Piece} (h : ∀ n body, .tag n body ∉ ps)
    (openStyles : List String) :
    renderPieces openStyles ps = .ok (ps.flatMap Piece.shown) := by
  induction ps with
  | nil => rfl
  | cons piece ps ih =>
      have hps : ∀ n body, .tag n body ∉ ps := fun n body hmem =>
        h n body (List.mem_cons_of_mem _ hmem)
      cases piece with
      | text cs =>
          rw [renderPieces, ih hps]
          rfl
      | tag n body => exact absurd List.mem_cons_self (h n body)

/-! ## Plain texts -/

/-- A backslash in front of an opening bracket stands in front of a tag. -/
def IsPaired (cs : List Char) : Prop :=
  ∀ before after, cs = before ++ '\\' :: '[' :: after → (tagAt? ('[' :: after)).isSome = true

/-- What a console shows as it is once tags have no effect. -/
structure IsPlain (cs : List Char) : Prop where
  paired : IsPaired cs
  emojiFree : Emoji.IsFree cs
  visible : ∀ c ∈ cs, isControl c = false ∧ c ≠ '\t'

/-- What a console shows as it is. -/
structure IsUnmarked (cs : List Char) : Prop extends IsPlain cs where
  tagless : ∀ body, IsBody body → ¬enclosed body <:+: cs

theorem IsPaired.of_suffix {before : List Char} (h : IsPaired (before ++ cs)) : IsPaired cs := by
  rintro first after rfl
  exact h (before ++ first) after (List.append_assoc ..).symm

theorem isPaired_of_not_mem (h : '\\' ∉ cs) : IsPaired cs := by
  rintro before after rfl
  exact absurd (by simp) h

theorem plain_backslash (h : cs.head? ≠ some '[') : plain ('\\' :: cs) = '\\' :: plain cs := by
  rw [plain]
  rintro rest - rfl
  exact h rfl

theorem plain_cons (hc : c ≠ '\\') (cs : List Char) : plain (c :: cs) = c :: plain cs := by
  rw [plain]
  rintro rest rfl
  exact absurd rfl hc

theorem plain_slashes (n : Nat) (h : n ≠ 0 → cs.head? ≠ some '[') :
    plain (slashes n ++ cs) = slashes n ++ plain cs := by
  induction n with
  | zero => rfl
  | succ n ih =>
      have hhead : (slashes n ++ cs).head? ≠ some '[' := by
        cases n with
        | zero => exact h Nat.one_ne_zero
        | succ n => simp [slashes, List.replicate_succ]
      rw [slashes, List.replicate_succ, List.cons_append, ← slashes, plain_backslash hhead,
        ih fun _ => h n.succ_ne_zero]
      rfl

theorem exists_consText_eq (c : Char) (ps : List Piece) :
    ∃ cs qs, consText c ps = .text (c :: cs) :: qs ∧ (cs = [] ∧ qs = ps ∨ ps = .text cs :: qs) := by
  rcases ps with _ | ⟨cs | ⟨n, body⟩, ps⟩
  · exact ⟨[], [], rfl, Or.inl ⟨rfl, rfl⟩⟩
  · exact ⟨cs, ps, rfl, Or.inr rfl⟩
  · exact ⟨[], .tag n body :: ps, rfl, Or.inl ⟨rfl, rfl⟩⟩

theorem consBackslashes_text (n : Nat) (cs : List Char) (ps : List Piece) :
    consBackslashes n (.text cs :: ps) = .text (slashes n ++ cs) :: ps := by
  induction n with
  | zero => rfl
  | succ n ih =>
      rw [consBackslashes, ih]
      rfl

theorem consBackslashes_succ_nil (n : Nat) :
    consBackslashes (n + 1) [] = [.text (slashes (n + 1))] := by
  induction n with
  | zero => rfl
  | succ n ih =>
      rw [consBackslashes, ih]
      rfl

/-- Nothing is left out between tags if the backslashes in front of brackets belong to tags. -/
theorem plain_eq_self {n : Nat} (h : IsPaired (slashes n ++ cs))
    (hmem : .text rest ∈ piecesFrom 0 n cs) : plain rest = rest := by
  induction cs using reading_induction generalizing n rest with
  | nil =>
      rw [piecesFrom_nil] at hmem
      cases n with
      | zero => cases hmem
      | succ n =>
          rw [consBackslashes_succ_nil] at hmem
          cases List.mem_singleton.mp hmem
          rw [← List.append_nil (slashes (n + 1)), plain_slashes (n + 1) (by simp), plain]
  | backslash cs ih =>
      rw [piecesFrom_backslash] at hmem
      rw [← slashes_succ_append] at h
      exact ih h hmem
  | tag body cs hbody ih =>
      rw [piecesFrom_enclosed hbody] at hmem
      rw [← List.append_assoc] at h
      exact ih (n := 0) h.of_suffix (List.mem_of_ne_of_mem (by simp) hmem)
  | other c cs hc htag ih =>
      have hrest : IsPaired ([c] ++ cs) := h.of_suffix
      have hcs : IsPaired (slashes 0 ++ cs) := hrest.of_suffix
      have hhead : n ≠ 0 → (c :: cs).head? ≠ some '[' := by
        rintro hn hbracket
        cases hbracket
        obtain ⟨n, rfl⟩ := Nat.exists_eq_succ_of_ne_zero hn
        have hsome := h (slashes n) cs (slashes_succ_append n _)
        rw [htag] at hsome
        cases hsome
      obtain ⟨text, ps, hcons, hps⟩ := exists_consText_eq c (piecesFrom 0 0 cs)
      rw [piecesFrom_other hc htag, hcons, consBackslashes_text] at hmem
      rcases List.mem_cons.mp hmem with heq | hmem
      · cases heq
        have htext : plain text = text := by
          rcases hps with ⟨rfl, -⟩ | hps
          · rfl
          · exact ih hcs (by rw [hps]; exact List.mem_cons_self)
        have hhead' : n ≠ 0 → (c :: text).head? ≠ some '[' := hhead
        rw [plain_slashes n hhead', plain_cons hc, htext]
      · refine ih hcs ?_
        rcases hps with ⟨-, rfl⟩ | hps
        · exact hmem
        · rw [hps]
          exact List.mem_cons_of_mem _ hmem

theorem written_isInfix_of_mem {piece : Piece} (hmem : piece ∈ piecesFrom 0 0 cs) :
    piece.written <:+: cs := by
  have hwritten := flatMap_written 0 cs
  rw [List.flatMap_def] at hwritten
  have hpart := List.infix_of_mem_flatten (List.mem_map_of_mem (f := Piece.written) hmem)
  rwa [hwritten] at hpart

theorem IsPlain.shown_eq_written (h : IsPlain cs) {piece : Piece}
    (hmem : piece ∈ piecesFrom 0 0 cs) : piece.shown = piece.written := by
  have hpart := written_isInfix_of_mem hmem
  cases piece with
  | text text =>
      rw [Piece.shown, plain_eq_self (n := 0) h.paired hmem]
      exact Emoji.replace_eq_self (h.emojiFree.of_isInfix hpart)
  | tag n body =>
      have hbody : enclosed body <:+: cs := (List.suffix_append _ _).isInfix.trans hpart
      rw [Piece.shown, Piece.written, Emoji.replace_eq_self (h.emojiFree.of_isInfix hbody)]

/-- A plain text is made of what is shown of its pieces. -/
theorem IsPlain.flatMap_shown (h : IsPlain cs) : (piecesFrom 0 0 cs).flatMap Piece.shown = cs := by
  rw [List.flatMap_congr fun piece hmem => h.shown_eq_written hmem]
  exact flatMap_written 0 cs

theorem IsPlain.tab_not_mem (h : IsPlain cs) : '\t' ∉ cs := fun hmem => (h.visible _ hmem).2 rfl

theorem IsPlain.filter_visible (h : IsPlain cs) : (cs.filter fun c => !isControl c) = cs :=
  List.filter_eq_self.mpr fun c hc => by rw [(h.visible c hc).1, Bool.not_false]

/-- A character that is shown as it is wherever it stands. -/
def isOrdinary (c : Char) : Bool :=
  c != '[' && c != '\\' && c != ':' && c != '\t' && !isControl c

theorem isOrdinary_iff :
    isOrdinary c = true ↔ (c ≠ '[' ∧ c ≠ '\\' ∧ c ≠ ':' ∧ c ≠ '\t') ∧ isControl c = false := by
  simp [isOrdinary, and_assoc]

/-- An ordinary character may stand in front of a text. -/
theorem IsUnmarked.cons (h : IsUnmarked cs) (hc : isOrdinary c = true) : IsUnmarked (c :: cs) := by
  obtain ⟨⟨hopen, hslash, hcolon, htab⟩, hcontrol⟩ := isOrdinary_iff.mp hc
  refine { paired := ?_, emojiFree := ?_, visible := ?_, tagless := ?_ }
  · intro before after heq
    cases before with
    | nil => exact absurd (List.cons.inj heq).1 hslash
    | cons d before => exact h.paired before after (List.cons.inj heq).2
  · intro code hcode hfree
    rcases List.infix_cons_iff.mp hcode with hcode | hcode
    · exact absurd (List.cons_prefix_cons.mp hcode).1.symm hcolon
    · exact h.emojiFree code hcode hfree
  · exact List.forall_mem_cons.mpr ⟨⟨hcontrol, htab⟩, h.visible⟩
  · intro body hbody hpart
    have hbefore : '[' ∉ [c] := fun hmem => hopen (List.mem_singleton.mp hmem).symm
    exact h.tagless body hbody (enclosed_isInfix_of_append hbefore hpart)

theorem IsUnmarked.nil : IsUnmarked [] where
  paired before after heq := by simp at heq
  emojiFree code hcode _ := by simp at hcode
  visible := by simp
  tagless body _ hpart := by simp [enclosed] at hpart

theorem IsUnmarked.append {before : List Char} (h : IsUnmarked cs)
    (hbefore : before.all isOrdinary = true) : IsUnmarked (before ++ cs) := by
  induction before with
  | nil => exact h
  | cons c before ih =>
      rw [List.all_cons, Bool.and_eq_true] at hbefore
      exact (ih hbefore.2).cons hbefore.1

theorem isUnmarked_of_all (h : cs.all isOrdinary = true) : IsUnmarked cs := by
  rw [← List.append_nil cs]
  exact IsUnmarked.nil.append h

theorem IsUnmarked.of_append {before : List Char} (h : IsUnmarked (before ++ cs)) :
    IsUnmarked cs where
  paired := h.paired.of_suffix
  emojiFree := h.emojiFree.of_isInfix (List.suffix_append _ _).isInfix
  visible c hc := h.visible c (List.mem_append_right _ hc)
  tagless body hbody hpart := h.tagless body hbody (hpart.trans (List.suffix_append _ _).isInfix)

theorem isDigit_of_mem_toString {n : Nat} (h : c ∈ (toString n).toList) : c.isDigit = true := by
  rw [Nat.toString_eq_repr, Nat.toList_repr] at h
  exact Nat.isDigit_of_mem_toDigits (by decide) (by decide) h

theorem isOrdinary_of_isDigit (h : c.isDigit = true) : isOrdinary c = true := by
  have hne : ∀ d : Char, d.isDigit = false → c ≠ d := by
    rintro d hd rfl
    rw [h] at hd
    cases hd
  have hvisible : isControl c = false := by
    by_contra hcontrol
    simp only [isControl, Bool.not_eq_false, List.contains_iff_mem] at hcontrol
    simp only [Char.isDigit, ge_iff_le, Bool.and_eq_true, decide_eq_true_eq,
      UInt32.le_iff_toNat_le] at h
    have hrange : 48 ≤ c.toNat := h.1
    simp only [List.mem_cons, List.not_mem_nil, or_false] at hcontrol
    omega
  exact isOrdinary_iff.mpr
    ⟨⟨hne _ (by decide), hne _ (by decide), hne _ (by decide), hne _ (by decide)⟩, hvisible⟩

theorem isUnmarked_toString (n : Nat) : IsUnmarked (toString n).toList :=
  isUnmarked_of_all (List.all_eq_true.mpr fun _ hc =>
    isOrdinary_of_isDigit (isDigit_of_mem_toString hc))

theorem all_isOrdinary_severity (severity : Severity) :
    severity.text.toList.all isOrdinary = true := by
  cases severity <;> decide

/-- A text without tags, emoji and the like is shown as it is. -/
theorem IsUnmarked.render_eq {s : String} (h : IsUnmarked s.toList) : render s = .ok s := by
  have htags : ∀ n body, .tag n body ∉ pieces s := fun n body hmem =>
    let ⟨hpart, hbody⟩ := enclosed_isInfix_of_mem hmem
    h.tagless body hbody hpart
  have hall : (String.ofList (s.toList.filter fun c => !isControl c)) = s := by
    rw [h.filter_visible, String.ofList_toList]
  unfold render
  split
  next =>
    rw [renderPieces_text htags, pieces, h.flatMap_shown]
    exact congrArg Except.ok hall
  next =>
    rw [Emoji.replace_eq_self h.emojiFree]
    exact congrArg Except.ok hall

end Markup

namespace Layout

theorem expandFrom_eq_self {line : List Char} (h : '\t' ∉ line) (column : Nat) :
    expandFrom column line = line := by
  induction line generalizing column with
  | nil => rfl
  | cons c rest ih =>
      rw [List.mem_cons, not_or] at h
      obtain ⟨hc, hrest⟩ := h
      rw [expandFrom, if_neg (by simpa using Ne.symm hc), ih hrest]

theorem expandedLines_eq {s : String} (h : '\t' ∉ s.toList) : expandedLines s = lines s := by
  rw [expandedLines]
  refine (List.map_congr_left fun line hline => ?_).trans (List.map_id _)
  exact expandFrom_eq_self (fun htab => h (Text.mem_of_mem_splitOn hline htab)) 0

/-- A text that is shown without tabs is printed and its line ended. -/
theorem printed_eq {s shown : String} (hshown : Markup.render s = .ok shown)
    (h : '\t' ∉ shown.toList) : printed s = .ok (shown ++ "\n") := by
  have hended : ended (lines shown) = shown ++ "\n" := by
    rw [ended, lines, Text.flatMap_splitOn, String.ofList_append, String.ofList_toList]
  rw [printed, hshown, Except.map, expandedLines_eq h, hended]

theorem printed_eq_self {s : String} (h : Markup.IsUnmarked s.toList) :
    printed s = .ok (s ++ "\n") :=
  printed_eq h.render_eq h.tab_not_mem

end Layout

end Conform
