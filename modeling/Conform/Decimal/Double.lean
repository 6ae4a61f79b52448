/-! # Doubles

Binary floating-point numbers of 64 bits, given by their exact values: a sign, a mantissa and a
power of two. A value comes only from `Double.ofRatio`, which rounds a fraction to the nearest
double and a tie to the even mantissa, so equal doubles have equal representations. All
arithmetic is exact arithmetic on natural numbers followed by one rounding.
-/

namespace Conform

/-- A double: not a number, an infinity, or `± mantissa * 2 ^ exponent`. A finite mantissa has at
most 53 bits, and has exactly 53 unless the exponent is the least one, `-1074`. -/
inductive Double
  | nan
  | infinite (negative : Bool)
  | finite (negative : Bool) (mantissa : Nat) (exponent : Int)
  deriving DecidableEq, Repr, Inhabited

namespace Double

/-- The least exponent of a finite double. -/
def minExponent : Int := -1074

/-- The greatest exponent of a finite double. -/
def maxExponent : Int := 971

/-- A zero of either sign. -/
def zero (negative : Bool) : Double := .finite negative 0 minExponent

/-- `numerator / denominator * 2 ^ (-exponent)` rounded to a natural number, ties to even. -/
def roundScaled (numerator denominator : Nat) (exponent : Int) : Nat :=
  let n := if exponent < 0 then numerator <<< exponent.natAbs else numerator
  let d := if exponent < 0 then denominator else denominator <<< exponent.natAbs
  let q := n / d
  let r := n % d
  if 2 * r < d then q else if d < 2 * r then q + 1 else if q % 2 = 0 then q else q + 1

/-- The double nearest to a fraction. The exponent is chosen so that the mantissa has 53 bits;
rounding up to 54 bits moves to the next exponent. -/
def ofRatio (negative : Bool) (numerator denominator : Nat) : Double :=
  if numerator = 0 || denominator = 0 then zero negative
  else
    let guess : Int := (numerator.log2 : Int) - (denominator.log2 : Int) - 52
    let tooSmall : Bool :=
      if guess < 0 then numerator <<< guess.natAbs < denominator <<< 52
      else numerator < (denominator <<< guess.natAbs) <<< 52
    let exponent := max (if tooSmall then guess - 1 else guess) minExponent
    let mantissa := roundScaled numerator denominator exponent
    let (mantissa, exponent) :=
      if mantissa = 1 <<< 53 then (1 <<< 52, exponent + 1) else (mantissa, exponent)
    if exponent > maxExponent then .infinite negative else .finite negative mantissa exponent

/-- A power of ten. -/
def powerOfTen (exponent : Nat) : Nat := Nat.pow 10 exponent

/-- The double nearest to `± digits * 10 ^ exponent`. Exponents far out of range decide the result
without computing the power. -/
def ofDecimal (negative : Bool) (digits : Nat) (exponent : Int) : Double :=
  if digits = 0 then zero negative
  else
    let size : Int := (digits.log2 : Int) * 30103 / 100000 + exponent
    if size > 330 then .infinite negative
    else if size < -400 then zero negative
    else if exponent < 0 then ofRatio negative digits (powerOfTen exponent.natAbs)
    else ofRatio negative (digits * powerOfTen exponent.natAbs) 1

/-- The double nearest to an integer, or `none` when the integer is too large for a finite one. -/
def ofInt? (n : Int) : Option Double :=
  match ofRatio (n < 0) n.natAbs 1 with
  | .infinite _ => none
  | d => some d

/-- The numerator and the denominator of a finite double. -/
def toRatio (negative : Bool) (mantissa : Nat) (exponent : Int) : Int × Nat :=
  let sign : Int := if negative then -1 else 1
  if exponent < 0 then (sign * mantissa, 1 <<< exponent.natAbs)
  else (sign * (mantissa <<< exponent.natAbs : Nat), 1)

/-- Whether the double is an integer. Infinities are none. -/
def isInteger : Double → Bool
  | .finite negative mantissa exponent =>
    let (n, d) := toRatio negative mantissa exponent
    n % d == 0
  | _ => false

/-- The quotient of two finite doubles of which the second is positive, rounded once. -/
def divide (a b : Double) : Double :=
  match a, b with
  | .nan, _ => .nan
  | _, .nan => .nan
  | .infinite _, .infinite _ => .nan
  | .infinite s, .finite t _ _ => .infinite (s != t)
  | .finite s _ _, .infinite t => zero (s != t)
  | .finite s m e, .finite t k f =>
    let shift := e - f
    if k = 0 then (if m = 0 then .nan else .infinite (s != t))
    else if shift < 0 then ofRatio (s != t) m (k <<< shift.natAbs)
    else ofRatio (s != t) (m <<< shift.natAbs) k

end Double

end Conform
