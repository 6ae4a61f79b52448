import Conform.Text.Class

/-! # Integers in text

An integer is spelled by decimal digits of any script behind a sign, with single underscores between
digits and white space around. The four separator characters of ASCII are no white space here.
-/

namespace Conform.Text

/-- White space around an integer. -/
def surroundsInteger (n : Nat) : Bool := isBlank n && !(0x1C ≤ n && n ≤ 0x1F)

/-- The number that decimal digits spell, in which single underscores may separate digits. -/
def natural? (found : Nat) : List Nat → Option Nat
  | [] => some found
  | n :: rest =>
    if n = '_'.toNat then
      match rest with
      | d :: _ => if isDigit d then natural? found rest else none
      | [] => none
    else (digitValue? n).bind fun d => natural? (found * 10 + d) rest

/-- The integer that characters spell. -/
def integer? (characters : List Nat) : Option Int :=
  let inner := characters.dropWhile surroundsInteger
  let body := (inner.reverse.dropWhile surroundsInteger).reverse
  let unsigned (digits : List Nat) : Option Nat :=
    match digits with
    | n :: _ => if isDigit n then natural? 0 digits else none
    | [] => none
  match body with
  | n :: rest =>
    if n = '-'.toNat then (unsigned rest).map fun m => -(m : Int)
    else if n = '+'.toNat then (unsigned rest).map fun m => (m : Int)
    else (unsigned body).map fun m => (m : Int)
  | [] => none

end Conform.Text
