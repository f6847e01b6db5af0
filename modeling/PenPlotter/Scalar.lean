import PenPlotter.Decimal.Basic

/-! # Scalars

The geometry of the plotter is written once, over a `Scalar` type: over doubles it is what the
program computes, and over the rationals it is the same computation without rounding.

The orders are Boolean because a double that is no number compares with nothing; `Scalar.min`
and `Scalar.max` then give the other operand. -/

namespace PenPlotter

/-- A number type with field operations, Boolean comparisons and a finiteness test. -/
class Scalar (α : Type) extends Add α, Sub α, Mul α, Div α, Neg α, BEq α, OfScientific α where
  /-- Strictly less. -/
  less : α → α → Bool
  /-- Less or equal. -/
  atMost : α → α → Bool
  /-- Neither infinite nor without a value. -/
  finite : α → Bool
  /-- The value of a numeral, rounded to the nearest scalar. -/
  ofDecimal : Decimal → α

instance : Scalar Float where
  less a b := decide (a < b)
  atMost a b := decide (a ≤ b)
  finite := Float.isFinite
  ofDecimal := Decimal.toFloat

instance : Scalar Rat where
  less a b := decide (a < b)
  atMost a b := decide (a ≤ b)
  finite _ := true
  ofDecimal := Decimal.toRat

namespace Scalar

variable {α : Type} [Scalar α]

/-- A value that differs from itself stands for no number. -/
def isNoNumber (a : α) : Bool := !(a == a)

/-- The smaller of two numbers, the first of two equal ones; an operand that is no number is
passed over. -/
def min (a b : α) : α :=
  if isNoNumber a then b else if isNoNumber b then a else if less b a then b else a

/-- The larger of two numbers, the first of two equal ones; an operand that is no number is
passed over. -/
def max (a b : α) : α :=
  if isNoNumber a then b else if isNoNumber b then a else if less a b then b else a

/-- Moves `x` to the nearer end when it lies outside of `low … high`. -/
def clamp (x low high : α) : α :=
  if less x low then low else if less high x then high else x

end Scalar

end PenPlotter
