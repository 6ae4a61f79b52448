import Conform.Decimal.Double

/-! # Shortest decimal text of a double

A double is written with the fewest digits that read back as the same double, the nearest such
decimal if there are several. `shortestDigits` finds them with exact arithmetic: on the grid of
`n`-digit decimals only the two neighbours of the value can be the nearest, and the first grid on
which one of them lies in the rounding interval wins.
-/

namespace Conform.Double

/-- A positive fraction. -/
structure Fraction where
  /-- The numerator. -/
  num : Nat
  /-- The denominator, which is positive. -/
  den : Nat

namespace Fraction

/-- `a * 2 ^ e` as a fraction. -/
def dyadic (a : Nat) (e : Int) : Fraction :=
  if e < 0 then ⟨a, 1 <<< e.natAbs⟩ else ⟨a <<< e.natAbs, 1⟩

/-- `a * 10 ^ e` as a fraction. -/
def decimal (a : Nat) (e : Int) : Fraction :=
  if e < 0 then ⟨a, powerOfTen e.natAbs⟩ else ⟨a * powerOfTen e.natAbs, 1⟩

/-- Strictly less. -/
def lt (x y : Fraction) : Bool := x.num * y.den < y.num * x.den

/-- Less or equal. -/
def le (x y : Fraction) : Bool := x.num * y.den ≤ y.num * x.den

/-- The distance of two fractions. -/
def distance (x y : Fraction) : Fraction :=
  ⟨(x.num * y.den - y.num * x.den) + (y.num * x.den - x.num * y.den), x.den * y.den⟩

end Fraction

/-- Whether a decimal reads back as `mantissa * 2 ^ exponent`: it lies between the midpoints to the
neighbouring doubles, or on one of them when the mantissa is even. -/
def readsBack (mantissa : Nat) (exponent : Int) (x : Fraction) : Bool :=
  let low :=
    if mantissa = 1 <<< 52 && minExponent < exponent then
      Fraction.dyadic (4 * mantissa - 1) (exponent - 2)
    else Fraction.dyadic (2 * mantissa - 1) (exponent - 1)
  let high := Fraction.dyadic (2 * mantissa + 1) (exponent - 1)
  if mantissa % 2 = 0 then low.le x && x.le high else low.lt x && x.lt high

/-- The `p` with `10 ^ (p - 1) ≤ x < 10 ^ p`, found from a lower estimate in at most `fuel`
steps. -/
def pointPosition (x : Fraction) (estimate : Int) : Nat → Int
  | 0 => estimate
  | fuel + 1 =>
    if x.lt (Fraction.decimal 1 estimate) then estimate
    else pointPosition x (estimate + 1) fuel

/-- The nearest `count`-digit decimal that reads back, as a multiple of `10 ^ (point - count)`. -/
def candidate? (mantissa : Nat) (exponent : Int) (x : Fraction) (point : Int) (count : Nat) :
    Option Nat :=
  let unit := point - count
  let below :=
    if unit < 0 then x.num * powerOfTen unit.natAbs / x.den
    else x.num / (x.den * powerOfTen unit.natAbs)
  let lower := Fraction.decimal below unit
  let upper := Fraction.decimal (below + 1) unit
  match readsBack mantissa exponent lower, readsBack mantissa exponent upper with
  | false, false => none
  | true, false => some below
  | false, true => some (below + 1)
  | true, true =>
    if (x.distance lower).lt (x.distance upper) then some below
    else if (x.distance upper).lt (x.distance lower) then some (below + 1)
    else some (if below % 2 = 0 then below else below + 1)

/-- The first of the counts from `count` on that has a decimal, with that decimal. -/
def firstCandidate (mantissa : Nat) (exponent : Int) (x : Fraction) (point : Int) (count : Nat) :
    Nat → Nat × Nat
  | 0 => (0, count)
  | fuel + 1 =>
    match candidate? mantissa exponent x point count with
    | some digits => (digits, count)
    | none => firstCandidate mantissa exponent x point (count + 1) fuel

/-- The digits of the shortest decimal of `mantissa * 2 ^ exponent > 0`, without trailing zeros,
and the place of the point: the value is `0.d₁d₂… * 10 ^ point`. Seventeen digits always do. -/
def shortestDigits (mantissa : Nat) (exponent : Int) : List Char × Int :=
  let x := Fraction.dyadic mantissa exponent
  let estimate : Int := ((mantissa.log2 : Int) + exponent) * 30103 / 100000 - 1
  let point := pointPosition x estimate 8
  let (digits, count) := firstCandidate mantissa exponent x point 1 17
  let written := Nat.toDigits 10 digits
  let point := point + ((written.length : Int) - count)
  ((written.reverse.dropWhile (· == '0')).reverse, point)

/-- How a double is laid out. -/
structure Layout where
  /-- Positional notation is used while the point lies after this many digits at most. -/
  maxPoint : Int
  /-- Positional notation is used while the point lies before no more than this many zeros. -/
  minPoint : Int
  /-- The exponent has at least this many digits. -/
  exponentDigits : Nat

/-- Messages write `1.0`, `1e-05` and `1e+16`: positional from `0.0001` up to below `10 ^ 16`, an
exponent of two digits at least otherwise. -/
def Layout.message : Layout := ⟨16, -3, 2⟩

/-- The digits of an exponent with its sign. -/
def exponentText (layout : Layout) (e : Int) : List Char :=
  let digits := Nat.toDigits 10 e.natAbs
  (if e < 0 then '-' else '+') ::
    (List.replicate (layout.exponentDigits - digits.length) '0' ++ digits)

/-- Digits with a point laid out. A positional number shows at least one digit after the point. -/
def layOut (layout : Layout) (digits : List Char) (point : Int) : List Char :=
  if layout.minPoint ≤ point && point ≤ layout.maxPoint then
    if point ≤ 0 then '0' :: '.' :: (List.replicate point.natAbs '0' ++ digits)
    else
      let whole := digits.take point.natAbs
      let rest := digits.drop point.natAbs
      whole ++ List.replicate (point.natAbs - whole.length) '0' ++
        '.' :: (if rest.isEmpty then ['0'] else rest)
  else
    let tail := digits.drop 1
    digits.take 1 ++ (if tail.isEmpty then [] else '.' :: tail) ++
      'e' :: exponentText layout (point - 1)

/-- The shortest text of a double in a layout. -/
def text (layout : Layout) : Double → String
  | .nan => "nan"
  | .infinite negative => if negative then "-inf" else "inf"
  | .finite negative mantissa exponent =>
    let body :=
      if mantissa = 0 then ['0', '.', '0']
      else
        let (digits, point) := shortestDigits mantissa exponent
        layOut layout digits point
    String.ofList (if negative then '-' :: body else body)

end Conform.Double
