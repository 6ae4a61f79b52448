/-! # Text as a sequence of code points

A string inside a document may spell a lone surrogate, which no `Char` can hold. `Text` therefore
is a list of code points, surrogates included. Documents, messages and file names never hold one
and stay `String`s; `Text.ofString` embeds them and `Text.toString?` leads back.
-/

namespace Conform

/-- A Unicode code point, surrogates included. -/
structure CodePoint where
  /-- The number of the code point. -/
  value : Nat
  /-- Code points end before `0x110000`. -/
  isLt : value < 0x110000
  deriving DecidableEq, Repr

namespace CodePoint

/-- The code point of a number; numbers out of range give the replacement character. -/
def ofNat (n : Nat) : CodePoint :=
  if h : n < 0x110000 then ⟨n, h⟩ else ⟨0xFFFD, by decide⟩

/-- The code point of a character. -/
def ofChar (c : Char) : CodePoint :=
  ⟨c.toNat, by
    have h := c.valid
    simp only [UInt32.isValidChar, Nat.isValidChar] at h
    show c.val.toNat < 0x110000
    omega⟩

instance : Coe Char CodePoint := ⟨ofChar⟩

/-- The first half of a surrogate pair. -/
def isHighSurrogate (c : CodePoint) : Bool := 0xD800 ≤ c.value && c.value ≤ 0xDBFF

/-- The second half of a surrogate pair. -/
def isLowSurrogate (c : CodePoint) : Bool := 0xDC00 ≤ c.value && c.value ≤ 0xDFFF

/-- The character of a code point, unless it is a surrogate. -/
def toChar? (c : CodePoint) : Option Char :=
  if h : c.value.isValidChar then some (Char.ofNatAux c.value h) else none

/-- The code point that a high and a low surrogate spell together. -/
def joinSurrogates (high low : CodePoint) : CodePoint :=
  ofNat (0x10000 + (high.value - 0xD800) * 0x400 + (low.value - 0xDC00))

theorem ext {c d : CodePoint} (h : c.value = d.value) : c = d := by
  cases c
  cases d
  cases h
  rfl

theorem ofChar_injective {c d : Char} (h : ofChar c = ofChar d) : c = d := by
  have hvalue : c.toNat = d.toNat := congrArg value h
  exact Char.ext (UInt32.toNat_inj.mp hvalue)

@[simp] theorem toChar?_ofChar (c : Char) : toChar? (ofChar c) = some c := by
  have h : (ofChar c).value.isValidChar := by
    simpa [ofChar, UInt32.isValidChar] using c.valid
  rw [toChar?, dif_pos h]
  exact congrArg some (Char.ext (UInt32.toNat_inj.mp rfl))

end CodePoint

/-- A sequence of code points. -/
abbrev Text := List CodePoint

namespace Text

/-- A string as a text. -/
def ofString (s : String) : Text := s.toList.map CodePoint.ofChar

/-- The string of a text without surrogates. -/
def toString? (t : Text) : Option String :=
  (t.mapM CodePoint.toChar?).map String.ofList

instance : Coe String Text := ⟨ofString⟩

/-- Order by code point, a proper start coming first. -/
def compare : Text → Text → Ordering
  | [], [] => .eq
  | [], _ :: _ => .lt
  | _ :: _, [] => .gt
  | c :: s, d :: t =>
    if c.value < d.value then .lt else if d.value < c.value then .gt else compare s t

/-- Whether a text comes strictly before another. -/
def before (s t : Text) : Bool := compare s t == .lt

/-- The pieces between the occurrences of a separator; there is always one piece more. -/
def splitOn {α : Type} [DecidableEq α] (separator : α) : List α → List (List α)
  | [] => [[]]
  | c :: rest =>
    if c = separator then [] :: splitOn separator rest
    else
      match splitOn separator rest with
      | [] => [[c]]
      | piece :: pieces => (c :: piece) :: pieces

/-- The pieces, with the separator between neighbours. -/
def join (separator : Text) (pieces : List Text) : Text :=
  (pieces.intersperse separator).flatten

/-- The part before the first occurrence of a separator and the part after it, if it occurs. -/
def cut? {α : Type} [DecidableEq α] (separator : α) : List α → Option (List α × List α)
  | [] => none
  | c :: rest =>
    if c = separator then some ([], rest)
    else (cut? separator rest).map fun (head, tail) => (c :: head, tail)

/-- Whether a text holds another one in one piece. -/
def holds (part : Text) : Text → Bool
  | [] => part.isEmpty
  | c :: rest => part.isPrefixOf (c :: rest) || holds part rest

@[simp] theorem toString?_ofString (s : String) : (ofString s).toString? = some s := by
  have h : ∀ l : List Char, (l.map CodePoint.ofChar).mapM CodePoint.toChar? = some l := by
    intro l
    induction l with
    | nil => rfl
    | cons c rest ih => simp [List.mapM_cons, ih]
  simp [toString?, ofString, h]

theorem splitOn_ne_nil {α : Type} [DecidableEq α] (separator : α) (t : List α) :
    splitOn separator t ≠ [] := by
  cases t with
  | nil => simp [splitOn]
  | cons c rest =>
    simp only [splitOn]
    split
    · simp
    · split <;> simp

end Text

end Conform
