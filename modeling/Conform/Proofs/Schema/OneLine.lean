import Conform.Schema.Cause
import Mathlib.Data.List.Basic

/-! # Messages stand on one line

Line breaks inside of a document are escaped where a message quotes them, and nothing
else in a message breaks a line. So each message is a single line, whatever values it
speaks of.
-/

namespace Conform

/-- What stands in several pieces with a separator between them stands in one of these. -/
theorem mem_or_mem_of_mem_intercalate {α : Type} {a : α} {separator : List α}
    {pieces : List (List α)} (h : a ∈ separator.intercalate pieces) :
    a ∈ separator ∨ ∃ piece ∈ pieces, a ∈ piece := by
  induction pieces with
  | nil => simp at h
  | cons piece rest ih =>
      cases rest with
      | nil =>
          rw [List.intercalate_singleton] at h
          exact Or.inr ⟨piece, List.mem_cons_self, h⟩
      | cons next rest =>
          rw [List.intercalate_cons_cons, List.mem_append, List.mem_append] at h
          rcases h with (h | h) | h
          · exact Or.inr ⟨piece, List.mem_cons_self, h⟩
          · exact Or.inl h
          · exact (ih h).imp_right fun ⟨other, hother, hmem⟩ =>
              ⟨other, List.mem_cons_of_mem _ hother, hmem⟩

namespace Text

/-- A string without line breaks. -/
def IsOneLine (s : String) : Prop := '\n' ∉ s.toList

instance (s : String) : Decidable (IsOneLine s) :=
  inferInstanceAs (Decidable ('\n' ∉ s.toList))

variable {s t : String} {cs : List Char}

theorem IsOneLine.ofList (h : '\n' ∉ cs) : IsOneLine (String.ofList cs) := by
  rwa [IsOneLine, String.toList_ofList]

theorem IsOneLine.append (hs : IsOneLine s) (ht : IsOneLine t) : IsOneLine (s ++ t) := by
  rw [IsOneLine, String.toList_append, List.mem_append]
  exact not_or.mpr ⟨hs, ht⟩

theorem IsOneLine.intercalate {texts : List String} (hs : IsOneLine s)
    (htexts : ∀ text ∈ texts, IsOneLine text) : IsOneLine (s.intercalate texts) := by
  rw [IsOneLine, String.toList_intercalate]
  intro hmem
  rcases mem_or_mem_of_mem_intercalate hmem with hmem | ⟨piece, hpiece, hmem⟩
  · exact hs hmem
  · obtain ⟨text, htext, rfl⟩ := List.mem_map.mp hpiece
    exact htexts text htext hmem

/-! ## Numbers -/

theorem newline_not_mem_toDigits {base : Nat} (hbase : 1 < base) (n : Nat) :
    '\n' ∉ Nat.toDigits base n := by
  induction n using Nat.strongRecOn with
  | _ n ih =>
      rw [Nat.toDigits_eq_if hbase]
      split
      next => simp
      next hn =>
        have hsmaller : n / base < n := Nat.div_lt_self (by omega) hbase
        simp [ih _ hsmaller]

theorem isOneLine_toString_nat (n : Nat) : IsOneLine (toString n) := by
  rw [Nat.toString_eq_ofList_toDigits]
  exact .ofList (newline_not_mem_toDigits (by decide) n)

theorem isOneLine_toString_int (n : Int) : IsOneLine (toString n) := by
  rw [Int.toString_eq_repr, Int.repr_eq_if]
  split
  next => exact isOneLine_toString_nat _
  next => exact .append (.ofList (by decide)) (isOneLine_toString_nat _)

end Text

namespace Double

open Text

theorem newline_not_mem_exponentText (layout : Layout) (e : Int) :
    '\n' ∉ exponentText layout e := by
  have hdigits : '\n' ∉ Nat.toDigits 10 e.natAbs := newline_not_mem_toDigits (by decide) _
  unfold exponentText
  split <;> simp [hdigits]

theorem newline_not_mem_layOut (layout : Layout) {digits : List Char} (hdigits : '\n' ∉ digits)
    (point : Int) : '\n' ∉ layOut layout digits point := by
  have htake : ∀ n, '\n' ∉ digits.take n := fun n hmem => hdigits (List.mem_of_mem_take hmem)
  have hdrop : ∀ n, '\n' ∉ digits.drop n := fun n hmem => hdigits (List.mem_of_mem_drop hmem)
  have htail : '\n' ∉ digits.tail := fun hmem => hdigits (List.mem_of_mem_tail hmem)
  have hexponent := newline_not_mem_exponentText layout (point - 1)
  unfold layOut
  split
  next =>
    split
    next => simp [hdigits]
    next =>
      dsimp only
      split <;> simp [htake, hdrop]
  next =>
    dsimp only
    split <;> simp [htake, htail, hexponent]

theorem newline_not_mem_shortestDigits (mantissa : Nat) (exponent : Int) :
    '\n' ∉ (shortestDigits mantissa exponent).1 := by
  intro hmem
  have hkept := (List.dropWhile_sublist _).subset (List.mem_reverse.mp hmem)
  exact newline_not_mem_toDigits (by decide) _ (List.mem_reverse.mp hkept)

theorem isOneLine_text (layout : Layout) (x : Double) : IsOneLine (x.text layout) := by
  cases x with
  | nan => exact .ofList (by decide)
  | infinite negative =>
      cases negative with
      | false => exact .ofList (by decide)
      | true => exact .ofList (by decide)
  | finite negative mantissa exponent =>
      have hbody := newline_not_mem_layOut layout
        (newline_not_mem_shortestDigits mantissa exponent) (shortestDigits mantissa exponent).2
      refine .ofList ?_
      split <;> split <;> simp [hbody]

end Double

namespace Text

/-! ## Quoted texts -/

theorem newline_not_mem_hexDigits (width n : Nat) : '\n' ∉ hexDigits width n := by
  have hdigits : '\n' ∉ Nat.toDigits 16 n := newline_not_mem_toDigits (by decide) n
  simp [hexDigits, hdigits]

theorem ofNat_ne_newline {n : Nat} (hn : n ≠ '\n'.toNat) : Char.ofNat n ≠ '\n' := by
  intro heq
  by_cases hvalid : n.isValidChar
  · rw [Char.ofNat, dif_pos hvalid] at heq
    exact hn (congrArg Char.toNat heq)
  · rw [Char.ofNat, dif_neg hvalid] at heq
    exact absurd heq (by decide)

/-- A line break is escaped, and what is not escaped is no line break. -/
theorem newline_not_mem_quotedPoint {quote : Char} (hquote : quote ≠ '\n') (c : CodePoint) :
    '\n' ∉ quotedPoint quote c := by
  unfold quotedPoint
  dsimp only
  split
  next h =>
    have hkept : Char.ofNat c.value ≠ '\n' := by
      rw [Bool.or_eq_true, decide_eq_true_eq, decide_eq_true_eq] at h
      rcases h with h | h
      · rw [h]
        decide
      · rwa [h, Char.ofNat_toNat]
    simp [hkept.symm]
  next =>
    split
    next => decide
    next hvalue =>
      split
      next => decide
      next =>
        split
        next => decide
        next =>
          split
          next => simp [(ofNat_ne_newline hvalue).symm]
          next => split_ifs <;> simp [newline_not_mem_hexDigits]

theorem isOneLine_quoted (t : Text) : IsOneLine (quoted t) := by
  have hquote : quoteFor t ≠ '\n' := by
    unfold quoteFor
    split <;> decide
  have hpoints : '\n' ∉ t.flatMap (quotedPoint (quoteFor t)) := by
    rw [List.mem_flatMap]
    rintro ⟨c, _, hmem⟩
    exact newline_not_mem_quotedPoint hquote c hmem
  refine .ofList ?_
  simp [hquote.symm, hpoints]

end Text

open Text

/-! ## Values -/

theorem Number.isOneLine_display (n : Number) : IsOneLine n.display := by
  cases n with
  | int n => exact isOneLine_toString_int n
  | real x => exact x.isOneLine_text .message

namespace Json

theorem isOneLine_commaSeparated {texts : List String} (h : ∀ text ∈ texts, IsOneLine text) :
    IsOneLine (commaSeparated texts) :=
  .intercalate (.ofList (by decide)) h

mutual

theorem isOneLine_display (value : Json) : IsOneLine value.display := by
  cases value with
  | null => exact .ofList (by decide)
  | bool b =>
      cases b with
      | false => exact .ofList (by decide)
      | true => exact .ofList (by decide)
  | num n => exact n.isOneLine_display
  | str s => exact isOneLine_quoted s
  | arr items =>
      rw [display]
      exact .append (.append (.ofList (by decide))
        (isOneLine_commaSeparated (isOneLine_displayItems items))) (.ofList (by decide))
  | obj members =>
      rw [display]
      exact .append (.append (.ofList (by decide))
        (isOneLine_commaSeparated (isOneLine_displayMembers members))) (.ofList (by decide))

theorem isOneLine_displayItems (items : List Json) : ∀ text ∈ displayItems items, IsOneLine text := by
  cases items with
  | nil => exact List.forall_mem_nil _
  | cons item rest =>
      exact List.forall_mem_cons.mpr ⟨isOneLine_display item, isOneLine_displayItems rest⟩

theorem isOneLine_displayMembers (members : List (Text × Json)) :
    ∀ text ∈ displayMembers members, IsOneLine text := by
  cases members with
  | nil => exact List.forall_mem_nil _
  | cons member rest =>
      obtain ⟨key, value⟩ := member
      exact List.forall_mem_cons.mpr
        ⟨.append (.append (isOneLine_quoted key) (.ofList (by decide))) (isOneLine_display value),
          isOneLine_displayMembers rest⟩

end

end Json

/-! ## Causes -/

namespace Cause

theorem isOneLine_listing {texts : List String} (h : ∀ text ∈ texts, IsOneLine text) :
    IsOneLine (listing texts) :=
  .intercalate (.ofList (by decide)) h

theorem isOneLine_values (found : List Json) : IsOneLine (values found) :=
  isOneLine_listing (by simp [Json.isOneLine_display])

theorem isOneLine_keysText (keys : List Text) : IsOneLine (keysText keys) :=
  isOneLine_listing (by simp [isOneLine_quoted])

theorem isOneLine_verb (count : Nat) {one more : String} (hone : IsOneLine one)
    (hmore : IsOneLine more) : IsOneLine (verb count one more) := by
  unfold verb
  split
  next => exact hone
  next => exact hmore

theorem isOneLine_wasWere (count : Nat) : IsOneLine (verb count "was" "were") :=
  isOneLine_verb count (.ofList (by decide)) (.ofList (by decide))

theorem isOneLine_unexpected {listed : String} (hlisted : IsOneLine listed) (count : Nat) :
    IsOneLine (unexpected listed count) :=
  .append (.append (.append (.append (.ofList (by decide)) hlisted) (.ofList (by decide)))
    (isOneLine_wasWere count)) (.ofList (by decide))

theorem isOneLine_typeText (type : Json) : IsOneLine (typeText type) := by
  unfold typeText
  split
  next name _ => exact name.isOneLine_display
  next => exact type.isOneLine_display

theorem isOneLine_tooFewText (count : Count) (limit : Number) :
    IsOneLine (tooFewText count limit) := by
  unfold tooFewText
  split
  next => exact .ofList (by decide)
  next => cases count <;> exact .ofList (by decide)

theorem isOneLine_tooManyText (count : Count) (limit : Number) :
    IsOneLine (tooManyText count limit) := by
  unfold tooManyText
  split
  next => exact .ofList (by decide)
  next => cases count <;> exact .ofList (by decide)

/-- A value is named before something that is said of it. -/
theorem isOneLine_said (found : Json) {said : String} (hsaid : IsOneLine said) :
    IsOneLine (found.display ++ said) :=
  .append found.isOneLine_display hsaid

/-- A value is named before and another one behind something that is said of the two. -/
theorem isOneLine_related (found other : Json) {said : String} (hsaid : IsOneLine said) :
    IsOneLine (found.display ++ said ++ other.display) :=
  .append (isOneLine_said found hsaid) other.isOneLine_display

/-- Whatever the cause of a violation is, it is worded on one line. -/
theorem isOneLine_message (cause : Cause) : IsOneLine cause.message := by
  cases cause with
  | nothingAllowed found => exact .append (.ofList (by decide)) found.isOneLine_display
  | wrongType found names =>
      exact .append (isOneLine_said found (.ofList (by decide)))
        (isOneLine_listing (by simp [isOneLine_typeText]))
  | notListed found options => exact isOneLine_related found options (.ofList (by decide))
  | notConstant wanted => exact isOneLine_said wanted (.ofList (by decide))
  | below found limit => exact isOneLine_related found limit (.ofList (by decide))
  | above found limit => exact isOneLine_related found limit (.ofList (by decide))
  | notAbove found limit => exact isOneLine_related found limit (.ofList (by decide))
  | notBelow found limit => exact isOneLine_related found limit (.ofList (by decide))
  | notMultiple found unit => exact isOneLine_related found unit (.ofList (by decide))
  | mismatch found pattern => exact isOneLine_related found pattern (.ofList (by decide))
  | wrongFormat found format => exact isOneLine_related found format (.ofList (by decide))
  | tooFew found count limit =>
      exact .append (isOneLine_said found (.ofList (by decide))) (isOneLine_tooFewText count limit)
  | tooMany found count limit =>
      exact .append (isOneLine_said found (.ofList (by decide)))
        (isOneLine_tooManyText count limit)
  | repeatedItems found => exact isOneLine_said found (.ofList (by decide))
  | itemsBeyond allowed rest =>
      have hverb : IsOneLine (verb allowed "item" "items") :=
        isOneLine_verb _ (.ofList (by decide)) (.ofList (by decide))
      refine .append (.append (.append (.append (.append (.append (.append (.ofList (by decide))
        (isOneLine_toString_nat allowed)) (.ofList (by decide))) hverb) (.ofList (by decide)))
        (isOneLine_toString_nat _)) (.ofList (by decide))) ?_
      split
      next item => exact item.isOneLine_display
      next => exact (Json.arr rest).isOneLine_display
  | moreItems rest =>
      exact .append (.ofList (by decide)) (isOneLine_unexpected (isOneLine_values rest) _)
  | nothingContained found => exact isOneLine_said found (.ofList (by decide))
  | noneFits found =>
      exact .append (.append (.ofList (by decide)) found.isOneLine_display) (.ofList (by decide))
  | tooManyContained limit =>
      exact .append (.append (.ofList (by decide)) limit.isOneLine_display) (.ofList (by decide))
  | tooFewContained limit matched =>
      exact .append (.append (.append (.append (.ofList (by decide)) limit.isOneLine_display)
        (.ofList (by decide))) (isOneLine_toString_nat matched)) (.ofList (by decide))
  | missing key => exact isOneLine_said key (.ofList (by decide))
  | moreProperties keys =>
      exact .append (.ofList (by decide)) (isOneLine_unexpected (isOneLine_keysText keys) _)
  | unmatchedProperties keys patterns =>
      have hverb : IsOneLine (verb keys.length "does" "do") :=
        isOneLine_verb _ (.ofList (by decide)) (.ofList (by decide))
      exact .append (.append (.append (.append (isOneLine_keysText keys) (.ofList (by decide)))
        hverb) (.ofList (by decide))) (isOneLine_keysText patterns)
  | missingDependency key of =>
      exact .append (isOneLine_said key (.ofList (by decide))) (isOneLine_quoted of)
  | noAlternative found => exact isOneLine_said found (.ofList (by decide))
  | severalAlternatives found schemas =>
      exact .append (isOneLine_said found (.ofList (by decide))) (isOneLine_values schemas)
  | excluded found schema => exact isOneLine_related found schema (.ofList (by decide))
  | disallowed found type => exact isOneLine_related type found (.ofList (by decide))
  | unevaluatedItems rest =>
      exact .append (.ofList (by decide)) (isOneLine_unexpected (isOneLine_values rest) _)
  | unevaluatedProperties keys =>
      exact .append (.ofList (by decide)) (isOneLine_unexpected (isOneLine_keysText keys) _)
  | invalidProperties keys =>
      exact .append (.append (.append (.append (.ofList (by decide)) (isOneLine_keysText keys))
        (.ofList (by decide))) (isOneLine_wasWere _)) (.ofList (by decide))

end Cause

end Conform
