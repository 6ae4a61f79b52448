import Conform.Json.Outline
import Conform.Json.Reader

/-! # How strings, words and numbers are spelled

The readers of tokens return what remains of a text. Here is said what they
take from it: the characters between the quotes of a string, and a run of
characters of a word or number, none of which could end it.
-/

namespace Conform.Json

open Outline.Scan (endsScalar)

/-- Characters between quotes spell a text. Before them, `found` was read, in
reverse; control characters are left out where the reading is strict. -/
inductive Spells (strict : Bool) : (found : Text) → (raw : List Char) → (text : Text) → Prop
  | done (found : Text) : Spells strict found [] found.reverse
  | unicode {found : Text} {a b c d : Char} {point : CodePoint} {raw : List Char} {text : Text}
      (hhex : hexFour? a b c d = some point) (hrest : Spells strict (push found point) raw text) :
      Spells strict found ('\\' :: 'u' :: a :: b :: c :: d :: raw) text
  | escape {found : Text} {e point : Char} {raw : List Char} {text : Text}
      (hescaped : escaped? e = some point)
      (hrest : Spells strict (CodePoint.ofChar point :: found) raw text) :
      Spells strict found ('\\' :: e :: raw) text
  | plain {found : Text} {c : Char} {raw : List Char} {text : Text} (hquote : c ≠ '"')
      (hslash : c ≠ '\\') (hcontrol : ¬(strict && c.toNat < 0x20) = true)
      (hrest : Spells strict (CodePoint.ofChar c :: found) raw text) :
      Spells strict found (c :: raw) text

/-- What is read of a string up to its closing quote spells the text that is
read. -/
theorem exists_spells_of_stringBody {strict : Bool} {found : Text} {cs : List Char} {text : Text}
    {rest : List Char} (h : stringBody strict found cs = .ok (text, rest)) :
    ∃ raw, cs = raw ++ '"' :: rest ∧ Spells strict found raw text := by
  fun_induction stringBody strict found cs with
  | case2 found after =>
      cases h
      exact ⟨[], rfl, .done found⟩
  | case3 found a b c d after point hhex _ ih =>
      obtain ⟨raw, rfl, hraw⟩ := ih h
      exact ⟨_, rfl, .unicode hhex hraw⟩
  | case7 found e after _ _ point hescaped ih =>
      obtain ⟨raw, rfl, hraw⟩ := ih h
      exact ⟨_, rfl, .escape hescaped hraw⟩
  | case10 found c after hquote hunicode hbad hescape hlone hcontrol ih =>
      obtain ⟨raw, rfl, hraw⟩ := ih h
      -- A backslash here would have started one of the escapes of the cases above.
      have hslash : c ≠ '\\' := by
        rintro rfl
        cases raw with
        | nil => exact hescape _ _ rfl rfl
        | cons e raw => exact hescape _ _ rfl rfl
      exact ⟨_, rfl, .plain hquote hslash hcontrol hraw⟩
  | case1 => cases h
  | case4 => cases h
  | case5 => cases h
  | case6 => cases h
  | case8 => cases h
  | case9 => cases h

theorem Spells.stringBody_eq {strict : Bool} {found : Text} {raw : List Char} {text : Text}
    (h : Spells strict found raw text) (rest : List Char) :
    stringBody strict found (raw ++ '"' :: rest) = .ok (text, rest) := by
  induction h with
  | done found => simp [stringBody]
  | @unicode found a b c d point raw text hhex _ ih =>
      have hmore : (raw ++ '"' :: rest).isEmpty = false := by simp
      simp only [List.cons_append]
      rw [stringBody.eq_3, hhex, hmore]
      exact ih
  | @escape found e point raw text hescaped _ ih =>
      have hne : e ≠ 'u' := by
        rintro rfl
        simp [escaped?] at hescaped
      simp only [List.cons_append]
      rw [stringBody.eq_5 _ _ _ _ (by simp [hne]) (by simp [hne]), hescaped]
      exact ih
  | @plain found c raw text hquote hslash hcontrol _ ih =>
      simp only [List.cons_append]
      rw [stringBody.eq_7 _ _ _ _ (by simp [hquote]) (by simp [hslash]) (by simp [hslash])
        (by simp [hslash]) (by simp [hslash]), if_neg hcontrol]
      exact ih

theorem Spells.relaxed {strict : Bool} {found : Text} {raw : List Char} {text : Text}
    (h : Spells strict found raw text) : Spells false found raw text := by
  induction h with
  | done found => exact .done found
  | unicode hhex _ ih => exact .unicode hhex ih
  | escape hescaped _ ih => exact .escape hescaped ih
  | plain hquote hslash _ _ ih => exact .plain hquote hslash (by simp) ih

/-! ## Words and numbers -/

theorem endsScalar_of_isDigit {c : Char} (h : c.isDigit = true) : endsScalar c = false := by
  simp only [Char.isDigit, ge_iff_le, Bool.and_eq_true, decide_eq_true_eq,
    UInt32.le_iff_toNat_le] at h
  have hrange : 48 ≤ c.toNat ∧ c.toNat ≤ 57 := h
  have hne : ∀ d : Char, d.toNat < 48 ∨ 57 < d.toNat → (c == d) = false := by
    intro d hd
    rw [beq_eq_false_iff_ne]
    rintro rfl
    omega
  have hblank : Text.isBlank c.toNat = false := by
    simp only [Text.isBlank, Bool.or_eq_false_iff, Bool.and_eq_false_iff, decide_eq_false_iff_not,
      beq_eq_false_iff_ne]
    omega
  simp only [endsScalar, hblank, Bool.false_or, Bool.or_eq_false_iff]
  refine ⟨⟨⟨⟨⟨⟨?_, ?_⟩, ?_⟩, ?_⟩, ?_⟩, ?_⟩, ?_⟩ <;> exact hne _ (by decide)

theorem digits_all_isDigit (cs : List Char) : ∀ c ∈ (digits cs).1, c.isDigit = true := by
  induction cs with
  | nil => simp [digits]
  | cons c rest ih =>
      simp only [digits]
      split
      next hdigit =>
        intro d hd
        rcases List.mem_cons.mp hd with rfl | hd
        · exact hdigit
        · exact ih d hd
      next => simp

/-- Characters of a word or number: there are some, and none of them could end it. -/
def Unbroken (cs : List Char) : Prop := ∀ c ∈ cs, endsScalar c = false

theorem unbroken_of_digits {cs : List Char} (h : ∀ c ∈ cs, c.isDigit = true) : Unbroken cs :=
  fun c hc => endsScalar_of_isDigit (h c hc)

theorem Unbroken.append {cs ds : List Char} (hcs : Unbroken cs) (hds : Unbroken ds) :
    Unbroken (cs ++ ds) := by
  intro c hc
  rcases List.mem_append.mp hc with hc | hc
  · exact hcs c hc
  · exact hds c hc

theorem Unbroken.cons {c : Char} {cs : List Char} (hc : endsScalar c = false)
    (hcs : Unbroken cs) : Unbroken (c :: cs) := by
  intro d hd
  rcases List.mem_cons.mp hd with rfl | hd
  · exact hc
  · exact hcs d hd

theorem unbroken_nil : Unbroken [] := by simp [Unbroken]

theorem exists_unbroken_of_wholePart? {cs whole rest : List Char}
    (h : wholePart? cs = some (whole, rest)) : cs = whole ++ rest ∧ whole ≠ [] ∧ Unbroken whole := by
  unfold wholePart? at h
  split at h
  next => cases h
  next c after =>
    split at h
    next hzero =>
      cases h
      rw [beq_iff_eq] at hzero
      subst hzero
      exact ⟨rfl, by simp, .cons (by decide) unbroken_nil⟩
    next =>
      split at h
      next hdigit =>
        have hdigits : digits (c :: after) = (whole, rest) := Option.some.inj h
        have hwhole : (digits (c :: after)).1 = whole := by rw [hdigits]
        have hrest : (digits (c :: after)).2 = rest := by rw [hdigits]
        rw [← hwhole, ← hrest]
        refine ⟨(digits_append _).symm, ?_, unbroken_of_digits (digits_all_isDigit _)⟩
        simp [digits, hdigit]
      next => cases h

theorem exists_unbroken_fractionPart (cs : List Char) :
    ∃ taken, cs = taken ++ (fractionPart cs).2 ∧ Unbroken taken := by
  unfold fractionPart
  split
  next after =>
    split
    next => exact ⟨[], rfl, unbroken_nil⟩
    next =>
      refine ⟨'.' :: (digits after).1, ?_,
        .cons (by decide) (unbroken_of_digits (digits_all_isDigit _))⟩
      rw [List.cons_append, digits_append]
  next => exact ⟨[], rfl, unbroken_nil⟩

theorem exists_unbroken_exponentSign (cs : List Char) :
    ∃ taken, cs = taken ++ (exponentSign cs).2 ∧ Unbroken taken := by
  unfold exponentSign
  split
  · exact ⟨['-'], rfl, .cons (by decide) unbroken_nil⟩
  · exact ⟨['+'], rfl, .cons (by decide) unbroken_nil⟩
  · exact ⟨[], rfl, unbroken_nil⟩

theorem exists_unbroken_exponentPart (cs : List Char) :
    ∃ taken, cs = taken ++ (exponentPart cs).2 ∧ Unbroken taken := by
  unfold exponentPart
  split
  next c after =>
    split
    next hletter =>
      dsimp only
      split
      next => exact ⟨[], rfl, unbroken_nil⟩
      next =>
        obtain ⟨sign, hsign, hunbroken⟩ := exists_unbroken_exponentSign after
        have hunended : endsScalar c = false := by
          simp only [Bool.or_eq_true, beq_iff_eq] at hletter
          rcases hletter with rfl | rfl <;> decide
        refine ⟨c :: (sign ++ (digits (exponentSign after).2).1), ?_,
          .cons hunended (hunbroken.append (unbroken_of_digits (digits_all_isDigit _)))⟩
        rw [List.cons_append, List.append_assoc, digits_append, ← hsign]
    next => exact ⟨[], rfl, unbroken_nil⟩
  next => exact ⟨[], rfl, unbroken_nil⟩

theorem exists_unbroken_of_unsigned {cs whole rest : List Char}
    (hwhole : wholePart? cs = some (whole, rest)) :
    ∃ taken, cs = taken ++ (exponentPart (fractionPart rest).2).2 ∧ taken ≠ [] ∧
      Unbroken taken := by
  obtain ⟨hcs, hne, hunbroken⟩ := exists_unbroken_of_wholePart? hwhole
  obtain ⟨fraction, hf, hfraction⟩ := exists_unbroken_fractionPart rest
  obtain ⟨exponent, he, hexponent⟩ := exists_unbroken_exponentPart (fractionPart rest).2
  refine ⟨whole ++ (fraction ++ exponent), ?_, by simp [hne],
    hunbroken.append (hfraction.append hexponent)⟩
  rw [hcs, List.append_assoc, List.append_assoc, ← he, ← hf]

/-- A number literal is a run of characters that do not end it. -/
theorem exists_unbroken_of_numberLexeme? {cs rest : List Char} {lexeme : NumberLexeme}
    (h : numberLexeme? cs = some (lexeme, rest)) :
    ∃ taken, cs = taken ++ rest ∧ taken ≠ [] ∧ Unbroken taken := by
  unfold numberLexeme? at h
  split at h
  next negative unsigned hsign =>
    split at h
    next => cases h
    next whole afterWhole hwhole =>
      obtain ⟨taken, hcs, hne, hunbroken⟩ := exists_unbroken_of_unsigned hwhole
      have hrest : (exponentPart (fractionPart afterWhole).2).2 = rest :=
        (Prod.mk.inj (Option.some.inj h)).2
      rw [hrest] at hcs
      split at hsign
      next =>
        cases hsign
        exact ⟨'-' :: taken, by rw [List.cons_append, ← hcs], by simp,
          .cons (by decide) hunbroken⟩
      next =>
        cases hsign
        exact ⟨taken, hcs, hne, hunbroken⟩

theorem eq_append_of_after? {word cs rest : List Char} (h : after? word cs = some rest) :
    cs = word ++ rest := by
  fun_induction after? word cs with
  | case1 cs => exact Option.some.inj h
  | case2 => cases h
  | case3 w word c cs hsame ih =>
      rw [List.cons_append, ← ih h, beq_iff_eq.mp hsame]
  | case4 => cases h

theorem words_unbroken : ∀ entry ∈ Document.words, entry.1 ≠ [] ∧ Unbroken entry.1 := by
  have hwords : Document.words.all (fun entry =>
      !entry.1.isEmpty && entry.1.all fun c => !endsScalar c) = true := by decide
  intro entry hentry
  have hword := List.all_eq_true.mp hwords entry hentry
  simp only [Bool.and_eq_true, Bool.not_eq_eq_eq_not, Bool.not_true, List.isEmpty_eq_false_iff,
    List.all_eq_true] at hword
  exact hword

/-- A word is a run of characters that do not end it. -/
theorem exists_unbroken_of_wordAt? {cs rest : List Char} {value : Json}
    (h : Document.wordAt? cs = some (value, rest)) :
    ∃ taken, cs = taken ++ rest ∧ taken ≠ [] ∧ Unbroken taken := by
  obtain ⟨entry, hentry, hafter⟩ := List.exists_of_findSome?_eq_some h
  obtain ⟨_, hafter, hvalue⟩ := Option.map_eq_some_iff.mp hafter
  cases hvalue
  exact ⟨entry.1, eq_append_of_after? hafter, words_unbroken entry hentry⟩

/-- A word or number is a run of characters that do not end it. -/
theorem exists_unbroken_of_readScalar {line : Nat} {cs : List Char} {document : Document}
    {position : Document.Position} (h : Document.readScalar line cs = .ok (document, position)) :
    ∃ taken content, cs = taken ++ position.2 ∧ document = .leaf line content ∧
      position.1 = line ∧ taken ≠ [] ∧ Unbroken taken := by
  unfold Document.readScalar at h
  split at h
  next value rest hword =>
    cases h
    obtain ⟨taken, hcs, hne, hunbroken⟩ := exists_unbroken_of_wordAt? hword
    exact ⟨taken, _, hcs, rfl, rfl, hne, hunbroken⟩
  next =>
    split at h
    next => cases h
    next lexeme rest hlexeme =>
      split at h
      next => cases h
      next n _ =>
        cases h
        obtain ⟨taken, hcs, hne, hunbroken⟩ := exists_unbroken_of_numberLexeme? hlexeme
        exact ⟨taken, _, hcs, rfl, rfl, hne, hunbroken⟩

/-- The characters of a word or number, of any length: a reader takes them from
the start of some text, even if it refuses the number then for its digits. -/
def IsScalar (cs : List Char) : Prop :=
  ∃ after, (∃ value, Document.wordAt? (cs ++ after) = some (value, after)) ∨
    ∃ lexeme, numberLexeme? (cs ++ after) = some (lexeme, after)

theorem IsScalar.unbroken {cs : List Char} (h : IsScalar cs) : cs ≠ [] ∧ Unbroken cs := by
  obtain ⟨after, ⟨value, hword⟩ | ⟨lexeme, hlexeme⟩⟩ := h
  · obtain ⟨taken, hcs, hunbroken⟩ := exists_unbroken_of_wordAt? hword
    rw [List.append_cancel_right hcs]
    exact hunbroken
  · obtain ⟨taken, hcs, hunbroken⟩ := exists_unbroken_of_numberLexeme? hlexeme
    rw [List.append_cancel_right hcs]
    exact hunbroken

theorem isScalar_of_readScalar {line : Nat} {cs after : List Char} {document : Document}
    (h : Document.readScalar line (cs ++ after) = .ok (document, (line, after))) :
    IsScalar cs := by
  unfold Document.readScalar at h
  split at h
  next value rest hword =>
    cases h
    exact ⟨after, Or.inl ⟨value, hword⟩⟩
  next =>
    split at h
    next => cases h
    next lexeme rest hlexeme =>
      split at h
      next => cases h
      next =>
        cases h
        exact ⟨after, Or.inr ⟨lexeme, hlexeme⟩⟩

/-! ## Line ends -/

/-- No line ends inside a word or number. -/
theorem Unbroken.count_newline {cs : List Char} (h : Unbroken cs) : cs.count '\n' = 0 := by
  rw [List.count_eq_zero]
  intro hmem
  have hends : endsScalar '\n' = true := by decide
  rw [h _ hmem] at hends
  cases hends

theorem hexFour?_ne {a b c d e : Char} {point : CodePoint} (hhex : hexFour? a b c d = some point)
    (he : hexValue? e = none) : a ≠ e ∧ b ≠ e ∧ c ≠ e ∧ d ≠ e := by
  simp only [hexFour?, Option.bind_eq_bind, Option.bind_eq_some_iff] at hhex
  obtain ⟨_, ha, _, hb, _, hc, _, hd, _⟩ := hhex
  refine ⟨?_, ?_, ?_, ?_⟩ <;> rintro rfl
  · rw [he] at ha
    cases ha
  · rw [he] at hb
    cases hb
  · rw [he] at hc
    cases hc
  · rw [he] at hd
    cases hd

/-- No line ends inside a string that was read strictly. -/
theorem Spells.count_newline {found : Text} {raw : List Char} {text : Text}
    (h : Spells true found raw text) : raw.count '\n' = 0 := by
  induction h with
  | done => rfl
  | unicode hhex _ ih =>
      obtain ⟨ha, hb, hc, hd⟩ := hexFour?_ne (e := '\n') hhex (by decide)
      simp [ih, ha, hb, hc, hd]
  | @escape _ e _ _ _ hescaped _ ih =>
      have hne : e ≠ '\n' := by
        rintro rfl
        simp [escaped?] at hescaped
      simp [ih, hne]
  | @plain _ c _ _ _ _ hcontrol _ ih =>
      have hne : c ≠ '\n' := by
        rintro rfl
        exact hcontrol (by decide)
      simp [ih, hne]

end Conform.Json
