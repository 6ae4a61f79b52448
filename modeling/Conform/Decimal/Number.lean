import Conform.Decimal.Double

/-! # Numbers

A number of a document is an integer of any size or a double. The two kinds are compared by their
exact values, so `1` equals `1.0` and `2 ^ 53 + 1` differs from `2.0 ^ 53`.
-/

namespace Conform

/-- A number of a document. -/
inductive Number
  | int (n : Int)
  | real (x : Double)
  deriving DecidableEq, Repr

namespace Number

/-- The place of a number on the line: below or above all finite numbers, or a fraction. -/
inductive Place
  | nowhere
  | bottom
  | at (num : Int) (den : Nat)
  | top

/-- The exact value of a number. -/
def place : Number → Place
  | .int n => .at n 1
  | .real .nan => .nowhere
  | .real (.infinite negative) => if negative then .bottom else .top
  | .real (.finite negative mantissa exponent) =>
    let (num, den) := Double.toRatio negative mantissa exponent
    .at num den

/-- The order of two integers. -/
def orderInt (a b : Int) : Ordering := if a < b then .lt else if b < a then .gt else .eq

/-- The order of two numbers by value; a value that is not a number is in no order. -/
def compare? (x y : Number) : Option Ordering :=
  match x.place, y.place with
  | .nowhere, _ => none
  | _, .nowhere => none
  | .bottom, .bottom => some .eq
  | .bottom, _ => some .lt
  | _, .bottom => some .gt
  | .top, .top => some .eq
  | .top, _ => some .gt
  | _, .top => some .lt
  | .at a b, .at c d => some (orderInt (a * d) (c * b))

/-- Strictly less. -/
def lt (x y : Number) : Bool := compare? x y == some .lt

/-- Less or equal. -/
def le (x y : Number) : Bool :=
  match compare? x y with
  | some .lt => true
  | some .eq => true
  | _ => false

/-- Equal in value. -/
def eq (x y : Number) : Bool := compare? x y == some .eq

end Number

end Conform
