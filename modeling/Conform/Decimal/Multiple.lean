import Conform.Decimal.Number

/-! # Multiples

Whether a number is a multiple of another one. A unit that is a double divides in doubles, and the
quotient has to be an integer; where the quotient is beyond all doubles, the exact quotient decides.
An integer unit divides exactly.
-/

namespace Conform.Number

/-- Why it cannot be said whether a number is a multiple. -/
inductive QuotientFault
  /-- The quotient is not a number. -/
  | notANumber
  /-- A number has no finite double. -/
  | outOfRange
  /-- The unit is zero. -/
  | byZero
  deriving DecidableEq, Repr

/-- The double of a number. -/
def toDouble? : Number → Option Double
  | .int n => Double.ofInt? n
  | .real x => some x

/-- Whether a finite number is an exact multiple of a finite one that is not zero. -/
def isExactMultiple (x unit : Number) : Bool :=
  match x.place, unit.place with
  | .at a b, .at c d => (a * d) % (b * c) == 0
  | _, _ => false

/-- Whether a number is zero. -/
def isZero (x : Number) : Bool := x.eq (.int 0)

/-- Whether a number is a multiple of a double. -/
def isMultipleOfReal (x : Number) (unit : Double) : Except QuotientFault Bool :=
  match x.toDouble? with
  | none => .error .outOfRange
  | some dividend =>
    if (Number.real unit).isZero then .error .byZero
    else
      match dividend.divide unit with
      | .nan => .error .notANumber
      | .infinite _ =>
        match dividend with
        | .finite .. => .ok (isExactMultiple x (.real unit))
        | _ => .error .outOfRange
      | quotient => .ok quotient.isInteger

/-- Whether a number is a multiple of an integer. A double is divided by the double of the unit. -/
def isMultipleOfInt (x : Number) (unit : Int) : Except QuotientFault Bool :=
  if unit = 0 then .error .byZero
  else
    match x with
    | .int n => .ok (n % unit == 0)
    | .real _ =>
      match Double.ofInt? unit with
      | none => .error .outOfRange
      | some divisor => .ok (isExactMultiple x (.real divisor))

/-- Whether a number is a multiple of a unit. -/
def isMultipleOf (x unit : Number) : Except QuotientFault Bool :=
  match unit with
  | .real d => isMultipleOfReal x d
  | .int n => isMultipleOfInt x n

end Conform.Number
