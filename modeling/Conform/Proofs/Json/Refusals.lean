import Conform.Proofs.Json.Reading

/-! # Why a text is not read

A reader goes on no earlier than where it starts, and the defects it meets stand
on its line or on later ones. It refuses an integer for its length only where so
many digits stand one after the other.
-/

namespace Conform

open Json (skipSpace)

/-- A position is no earlier than some characters from a line on. -/
def Document.Position.Follows (line : Nat) (cs : List Char) (position : Document.Position) : Prop :=
  line ≤ position.1 ∧ position.2 <:+ cs

/-- An error that some characters from a line on may give. -/
inductive ReadError.Occurs (line : Nat) (cs : List Char) : ReadError → Prop
  | defect (fault : Json.Fault) {found : Nat} (h : line ≤ found) :
      Occurs line cs (.defect fault found)
  | tooDeep : Occurs line cs .tooDeep
  | tooManyDigits {ds : List Char} (hmem : ds <:+: cs) (hdigits : ∀ c ∈ ds, c.isDigit = true)
      (hlong : Json.digitLimit < ds.length) : Occurs line cs (.tooManyDigits ds.length)

namespace Document

variable {α : Type} {line : Nat} {cs : List Char}

theorem Position.Follows.trans {first second : Position} (hfirst : first.Follows line cs)
    (hsecond : second.Follows first.1 first.2) : second.Follows line cs :=
  ⟨Nat.le_trans hfirst.1 hsecond.1, hsecond.2.trans hfirst.2⟩

theorem follows_cons (line : Nat) (c : Char) (rest : List Char) :
    Position.Follows line (c :: rest) (line, rest) :=
  ⟨Nat.le_refl line, List.suffix_cons c rest⟩

theorem Position.Follows.rest {c : Char} {next : Nat} {rest : List Char}
    (h : Position.Follows line cs (next, c :: rest)) : Position.Follows line cs (next, rest) :=
  h.trans (follows_cons next c rest)

/-- What occurs later on occurs. -/
theorem Position.Follows.occurs {position : Position} {e : ReadError}
    (h : position.Follows line cs) (he : e.Occurs position.1 position.2) : e.Occurs line cs := by
  cases he with
  | defect fault hline => exact .defect fault (Nat.le_trans h.1 hline)
  | tooDeep => exact .tooDeep
  | tooManyDigits hmem hdigits hlong =>
      exact .tooManyDigits (hmem.trans h.2.isInfix) hdigits hlong

/-- How a reader may end that starts at some characters on a line. -/
def EndsIn (line : Nat) (cs : List Char) : Except ReadError (α × Position) → Prop
  | .ok (_, position) => position.Follows line cs
  | .error e => e.Occurs line cs

theorem EndsIn.of_follows {position : Position} {result : Except ReadError (α × Position)}
    (h : position.Follows line cs) (hresult : EndsIn position.1 position.2 result) :
    EndsIn line cs result := by
  cases result with
  | error e => exact h.occurs hresult
  | ok value => exact h.trans hresult

theorem skipSpace_follows (line : Nat) (cs : List Char) :
    Position.Follows line cs (skipSpace line cs) := by
  induction cs generalizing line with
  | nil => exact ⟨Nat.le_refl line, List.suffix_refl []⟩
  | cons c cs ih =>
      unfold skipSpace
      split
      next =>
        have hline : line ≤ if c == '\n' then line + 1 else line := by
          split
          next => exact Nat.le_succ line
          next => exact Nat.le_refl line
        exact ⟨Nat.le_trans hline (ih _).1, (ih _).2.trans (List.suffix_cons c cs)⟩
      next => exact ⟨Nat.le_refl line, List.suffix_refl _⟩

theorem follows_of_skipSpace {next : Nat} {rest : List Char}
    (h : skipSpace line cs = (next, rest)) : Position.Follows line cs (next, rest) :=
  h ▸ skipSpace_follows line cs

/-! ## Strings, numbers and words -/

theorem stringBody_follows {strict : Bool} {text : Text} {rest : List Char}
    (h : Json.stringBody strict [] cs = .ok (text, rest)) :
    Position.Follows line cs (line, rest) := by
  obtain ⟨raw, rfl, -⟩ := Json.exists_spells_of_stringBody h
  exact ⟨Nat.le_refl line, (List.suffix_cons '"' rest).trans (List.suffix_append raw _)⟩

theorem wholePart?_isDigit {whole rest : List Char} (h : Json.wholePart? cs = some (whole, rest)) :
    ∀ c ∈ whole, c.isDigit = true := by
  unfold Json.wholePart? at h
  split at h
  next => cases h
  next c after =>
    split at h
    next hzero =>
      cases h
      rw [beq_iff_eq] at hzero
      simp [hzero]
    next =>
      split at h
      next =>
        have hdigits := Json.digits_all_isDigit (c :: after)
        rw [Option.some.inj h] at hdigits
        exact hdigits
      next => cases h

/-- The digits before the point of a number stand in the text. -/
theorem whole_of_numberLexeme? {lexeme : Json.NumberLexeme} {rest : List Char}
    (h : Json.numberLexeme? cs = some (lexeme, rest)) :
    lexeme.whole <:+: cs ∧ ∀ c ∈ lexeme.whole, c.isDigit = true := by
  unfold Json.numberLexeme? at h
  split at h
  next negative unsigned hsign =>
    have hunsigned : unsigned <:+ cs := by
      split at hsign
      next => cases hsign; exact List.suffix_cons _ _
      next => cases hsign; exact List.suffix_refl _
    split at h
    next => cases h
    next whole after hwhole =>
      have hlexeme : lexeme.whole = whole := by rw [← (Prod.mk.inj (Option.some.inj h)).1]
      rw [hlexeme]
      have hstart : whole <+: unsigned :=
        ⟨after, (Json.exists_unbroken_of_wholePart? hwhole).1.symm⟩
      exact ⟨hstart.isInfix.trans hunsigned.isInfix, wholePart?_isDigit hwhole⟩

/-- A number is refused only as an integer, for the digits before its point. -/
theorem value_eq_error {lexeme : Json.NumberLexeme} {count : Nat}
    (h : lexeme.value = .error count) :
    count = lexeme.whole.length ∧ Json.digitLimit < lexeme.whole.length := by
  unfold Json.NumberLexeme.value at h
  split at h
  next =>
    split at h
    next hlong =>
      cases h
      exact ⟨rfl, hlong⟩
    next => cases h
  next => cases h

theorem readScalar_endsIn (line : Nat) (cs : List Char) : EndsIn line cs (readScalar line cs) := by
  cases hread : readScalar line cs with
  | ok value =>
      obtain ⟨document, position⟩ := value
      obtain ⟨taken, _, hcs, _, hline, _⟩ := Json.exists_unbroken_of_readScalar hread
      exact ⟨Nat.le_of_eq hline.symm, taken, hcs.symm⟩
  | error e =>
      unfold readScalar at hread
      split at hread
      next => cases hread
      next =>
        split at hread
        next =>
          cases hread
          exact .defect _ (Nat.le_refl line)
        next lexeme rest hlexeme =>
          split at hread
          next count hcount =>
            cases hread
            obtain ⟨hmem, hdigits⟩ := whole_of_numberLexeme? hlexeme
            obtain ⟨rfl, hlong⟩ := value_eq_error hcount
            exact .tooManyDigits hmem hdigits hlong
          next => cases hread

/-! ## Values, items and members -/

/-- How readers end that have so much fuel. -/
structure Reads (fuel : Nat) : Prop where
  value : ∀ depth line cs, EndsIn line cs (readValue fuel depth line cs)
  items : ∀ depth line cs found, EndsIn line cs (readItems fuel depth line cs found)
  members : ∀ depth line cs found, EndsIn line cs (readMembers fuel depth line cs found)

theorem Reads.value_succ {fuel : Nat} (h : Reads fuel) (depth line : Nat) (cs : List Char) :
    EndsIn line cs (readValue (fuel + 1) depth line cs) := by
  unfold readValue
  split
  next rest =>
    split
    next => exact .defect _ (Nat.le_refl line)
    next hstring => exact (follows_cons line _ rest).trans (stringBody_follows hstring)
  next rest =>
    split
    next => exact .tooDeep
    next depth =>
      split
      next hspace => exact (follows_cons line _ rest).trans (follows_of_skipSpace hspace).rest
      next next after _ hspace =>
        -- What the items give is seen from behind the bracket and the space after it.
        have hfollows := (follows_cons line '[' rest).trans (follows_of_skipSpace hspace)
        have hitems := EndsIn.of_follows hfollows (h.items depth next after [])
        split
        next hread => rwa [hread] at hitems
        next hread => rwa [hread] at hitems
  next rest =>
    split
    next => exact .tooDeep
    next depth =>
      split
      next hspace => exact (follows_cons line _ rest).trans (follows_of_skipSpace hspace).rest
      next next after _ hspace =>
        have hfollows := (follows_cons line '\x7b' rest).trans (follows_of_skipSpace hspace)
        have hmembers := EndsIn.of_follows hfollows (h.members depth next after [])
        split
        next hread => rwa [hread] at hmembers
        next hread => rwa [hread] at hmembers
  next => exact readScalar_endsIn line cs

theorem Reads.items_succ {fuel : Nat} (h : Reads fuel) (depth line : Nat) (cs : List Char)
    (found : List Document) : EndsIn line cs (readItems (fuel + 1) depth line cs found) := by
  have hvalue := h.value depth line cs
  unfold readItems
  split
  next hread => rwa [hread] at hvalue
  next item next rest hread =>
    rw [hread] at hvalue
    have hspaced := Position.Follows.trans hvalue (skipSpace_follows next rest)
    split
    next hspace =>
      rw [hspace] at hspaced
      exact hspaced.rest
    next after rest' hspace =>
      -- Behind a comma the next item is read as the first one was.
      rw [hspace] at hspaced
      exact EndsIn.of_follows (hspaced.rest.trans (skipSpace_follows _ _)) (h.items _ _ _ _)
    next hspace =>
      rw [hspace] at hspaced
      exact .defect _ hspaced.1

theorem Reads.members_succ {fuel : Nat} (h : Reads fuel) (depth line : Nat) (cs : List Char)
    (found : List (Text × Document)) :
    EndsIn line cs (readMembers (fuel + 1) depth line cs found) := by
  unfold readMembers
  split
  next rest =>
    split
    next => exact .defect _ (Nat.le_refl line)
    next key afterKey hkey =>
      have hstring := (follows_cons line '"' rest).trans (stringBody_follows hkey)
      have hcolon := hstring.trans (skipSpace_follows line afterKey)
      split
      next next rest' hspace =>
        rw [hspace] at hcolon
        have hstart := hcolon.rest.trans (skipSpace_follows next rest')
        have hvalue := EndsIn.of_follows hstart (h.value depth _ _)
        dsimp only
        split
        next hread => rwa [hread] at hvalue
        next document after remaining hread =>
          rw [hread] at hvalue
          have hspaced := Position.Follows.trans hvalue (skipSpace_follows after remaining)
          split
          next hend =>
            rw [hend] at hspaced
            exact hspaced.rest
          next hend =>
            rw [hend] at hspaced
            exact EndsIn.of_follows (hspaced.rest.trans (skipSpace_follows _ _))
              (h.members _ _ _ _)
          next hend =>
            rw [hend] at hspaced
            exact .defect _ hspaced.1
      next hspace =>
        rw [hspace] at hcolon
        exact .defect _ hcolon.1
  next => exact .defect _ (Nat.le_refl line)

/-- Each of the readers asks the others with less fuel. -/
theorem reads (fuel : Nat) : Reads fuel := by
  induction fuel with
  | zero =>
      refine ⟨fun _ _ _ => ?_, fun _ _ _ _ => ?_, fun _ _ _ _ => ?_⟩
      · rw [readValue]
        exact .tooDeep
      · rw [readItems]
        exact .tooDeep
      · rw [readMembers]
        exact .tooDeep
  | succ fuel ih => exact ⟨ih.value_succ, ih.items_succ, ih.members_succ⟩

theorem occurs_of_readChars {e : ReadError} (h : readChars cs = .error e) : e.Occurs 1 cs := by
  unfold readChars at h
  split at h
  next =>
    cases h
    exact .defect _ (Nat.le_refl 1)
  next =>
    dsimp only at h
    have hvalue := EndsIn.of_follows (skipSpace_follows 1 cs)
      ((reads (2 * cs.length + 2)).value nestingLimit _ _)
    split at h
    next hread =>
      cases h
      rwa [hread] at hvalue
    next document line rest hread =>
      rw [hread] at hvalue
      split at h
      next => cases h
      next hspace =>
        cases h
        exact .defect _ (Position.Follows.trans hvalue (follows_of_skipSpace hspace)).1

end Document

/-- What keeps a text from being read occurs in it. -/
theorem Json.occurs_of_parse {text : String} {e : ReadError} (h : Json.parse text = .error e) :
    e.Occurs 1 text.toList := by
  unfold Json.parse at h
  cases hread : Document.read text with
  | ok document =>
      rw [hread] at h
      cases h
  | error reason =>
      rw [hread] at h
      cases h
      exact Document.occurs_of_readChars hread

/-! ## Integers of too many digits -/

theorem Json.digits_eq_self {ds : List Char} (h : ∀ c ∈ ds, c.isDigit = true) :
    digits ds = (ds, []) := by
  induction ds with
  | nil => rfl
  | cons c rest ih =>
      rw [digits, if_pos (h c List.mem_cons_self), ih fun d hd => h d (List.mem_cons_of_mem c hd)]

theorem Json.numberLexeme?_digits {c : Char} {rest : List Char} (hzero : c ≠ '0')
    (hdigits : ∀ d ∈ c :: rest, d.isDigit = true) :
    numberLexeme? (c :: rest) = some (⟨false, c :: rest, [], none⟩, []) := by
  have hc : c.isDigit = true := hdigits c List.mem_cons_self
  have hwhole : wholePart? (c :: rest) = some (c :: rest, []) := by
    rw [wholePart?, if_neg (by simp [hzero]), if_pos hc, digits_eq_self hdigits]
  unfold numberLexeme?
  split
  next sign unsigned hsign =>
    split at hsign
    next heq =>
      cases heq
      exact absurd hc (by decide)
    next =>
      cases hsign
      rw [hwhole]
      rfl

theorem Document.wordAt?_digit {c : Char} (rest : List Char) (hc : c.isDigit = true) :
    wordAt? (c :: rest) = none := by
  have hfirst : ∀ w ∈ ['n', 't', 'f', 'N', 'I', '-'], (w == c) = false := by
    intro w hw
    rw [beq_eq_false_iff_ne]
    rintro rfl
    simp only [List.mem_cons, List.not_mem_nil, or_false] at hw
    rcases hw with rfl | rfl | rfl | rfl | rfl | rfl <;> exact absurd hc (by decide)
  simp only [List.forall_mem_cons] at hfirst
  obtain ⟨hn, ht, hf, hN, hI, hminus, -⟩ := hfirst
  simp [wordAt?, words, Json.after?, hn, ht, hf, hN, hI, hminus]

theorem Document.readScalar_digits {line : Nat} {c : Char} {rest : List Char} (hzero : c ≠ '0')
    (hdigits : ∀ d ∈ c :: rest, d.isDigit = true) (hlong : Json.digitLimit < (c :: rest).length) :
    readScalar line (c :: rest) = .error (.tooManyDigits (c :: rest).length) := by
  have hvalue : (⟨false, c :: rest, [], none⟩ : Json.NumberLexeme).value =
      .error (c :: rest).length := (if_pos rfl).trans (if_pos hlong)
  simp only [readScalar, wordAt?_digit rest (hdigits c List.mem_cons_self),
    Json.numberLexeme?_digits hzero hdigits, hvalue]

/-- An integer of too many digits is refused for their number. -/
theorem Json.parse_digits {ds : List Char} (hzero : ds.head? ≠ some '0')
    (hdigits : ∀ d ∈ ds, d.isDigit = true) (hlong : digitLimit < ds.length) :
    Json.parse (String.ofList ds) = .error (.tooManyDigits ds.length) := by
  cases ds with
  | nil => cases hlong
  | cons c rest =>
      -- No other reader than that of numbers takes a text that starts with a digit.
      have hc : c.isDigit = true := hdigits c List.mem_cons_self
      have hne : ∀ d : Char, d.isDigit = false → c ≠ d := by
        rintro d hd rfl
        rw [hd] at hc
        cases hc
      have hscalar := @Document.readScalar_digits 1 c rest (by simpa using hzero) hdigits hlong
      have hvalue : ∀ fuel depth, Document.readValue (fuel + 1) depth 1 (c :: rest) =
          .error (.tooManyDigits (c :: rest).length) := by
        intro fuel depth
        unfold Document.readValue
        split
        next heq => exact absurd (List.cons.inj heq).1 (hne _ (by decide))
        next heq => exact absurd (List.cons.inj heq).1 (hne _ (by decide))
        next heq => exact absurd (List.cons.inj heq).1 (hne _ (by decide))
        next => exact hscalar
      have hspace : skipSpace 1 (c :: rest) = (1, c :: rest) := by
        simp [skipSpace, isSpace, hne]
      have hread : Document.readChars (c :: rest) =
          .error (.tooManyDigits (c :: rest).length) := by
        unfold Document.readChars
        split
        next heq => exact absurd (List.cons.inj heq).1 (hne _ (by decide))
        next => simp only [hspace, hvalue]
      rw [Json.parse, Document.read, String.toList_ofList, hread]
      rfl

end Conform
