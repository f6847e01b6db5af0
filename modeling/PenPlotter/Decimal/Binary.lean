import PenPlotter.Decimal.Basic

/-! # The exact value of a double

`Binary.ofFloat` takes a finite double apart into a sign, a whole significand and a power of
two.  Everything that writes a double as decimal text starts from this value and works in
exact whole-number arithmetic.

`fixedText p x` writes the exact value with `p` digits after the point, an exact half going to the
even neighbour.  The sign of the double is kept also where all digits are zero. -/

namespace PenPlotter

/-- The number `± significand · 2 ^ exponent`, as a finite double holds it. -/
structure Binary where
  negative : Bool
  significand : Nat
  exponent : Int
  /-- The gap to the next double toward zero is half the gap away from zero. -/
  narrowBelow : Bool
deriving Repr, DecidableEq, Inhabited

namespace Binary

/-- The sign bit, also of zeros and of values that are not numbers. -/
def signBit (x : Float) : Bool := x.toBits >>> 63 == 1

/-- The parts of a double; of an infinity or a value that is no number the answer is unused. -/
def ofFloat (x : Float) : Binary :=
  let bits := x.toBits.toNat
  let biased := bits / 0x10000000000000 % 0x800
  let fraction := bits % 0x10000000000000
  { negative := signBit x
    significand := if biased = 0 then fraction else fraction + 0x10000000000000
    exponent := ((max biased 1 : Nat) : Int) - 1075
    narrowBelow := fraction == 0 && decide (1 < biased) }

/-- The magnitude times `scale`, as a quotient of two whole numbers. -/
def scaled (b : Binary) (scale : Nat) : Nat × Nat :=
  if b.exponent < 0 then (b.significand * scale, Nat.pow 2 (-b.exponent).toNat)
  else (b.significand * scale * Nat.pow 2 b.exponent.toNat, 1)

/-- The quotient rounded to the nearest whole number, an exact half going to the even one. -/
def roundDivEven (num den : Nat) : Nat :=
  let q := num / den
  let r := num % den
  if 2 * r < den then q
  else if den < 2 * r then q + 1
  else if q % 2 = 0 then q else q + 1

/-- The magnitude in units of `10 ^ -places`, rounded half to even. -/
def fixedUnits (b : Binary) (places : Nat) : Nat :=
  let (num, den) := b.scaled (Nat.pow 10 places)
  roundDivEven num den

end Binary

/-- How numbers that are not finite are written in running text. -/
def nonFiniteText (x : Float) : String :=
  if x.isNaN then "NaN" else if x < 0.0 then "-inf" else "inf"

/-- A finite number with exactly `places` digits after the point. -/
def fixedText (places : Nat) (x : Float) : String :=
  if x.isFinite then
    let b := Binary.ofFloat x
    let sign := if b.negative then "-" else ""
    let ds := Nat.toDigits 10 (b.fixedUnits places)
    let padded := List.replicate (places + 1 - ds.length) '0' ++ ds
    if places = 0 then sign ++ String.ofList padded
    else sign ++ String.ofList (padded.take (padded.length - places)) ++ "."
      ++ String.ofList (padded.drop (padded.length - places))
  else nonFiniteText x

end PenPlotter
