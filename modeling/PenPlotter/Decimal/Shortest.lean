import PenPlotter.Decimal.Binary

/-! # Shortest decimal text of a double

`Shortest.ofFloat` finds the decimal with the fewest digits that reads back as the given
double.  The reals that round to a double form an interval, which contains its ends exactly
when the significand is even.  For one digit, two digits and so on, the two neighbours of the
value on that decimal grid are tested against the interval; the first grid with a hit wins,
and of two hits the nearer.

`Decimal.plainText`, `Decimal.markedText` and `Decimal.exponentText` are three ways of setting
such a decimal: positional without a point for whole numbers, positional with `.0`, and with
an exponent where the number is very large or very small. -/

namespace PenPlotter

/-- Which of two equally near decimals is taken. -/
inductive TieRule where
  | up
  | even
deriving Repr, DecidableEq

namespace Shortest

/-- The power of ten of the first digit of the positive quotient `num / den`. -/
def leadingExponent (num den : Nat) : Int :=
  if den ≤ num then (Decimal.digitCount (num / den) : Int) - 1
  else
    let l := Decimal.digitCount (den / num)
    if num * Nat.pow 10 (l - 1) = den then 1 - (l : Int) else -(l : Int)

/-- A positive value with the ends of its rounding interval, over one denominator. -/
structure Interval where
  value : Nat
  low : Nat
  high : Nat
  den : Nat
  /-- Whether the ends round to the value. -/
  closed : Bool

/-- The reals that round to the double: half a gap on both sides, a quarter below a power of two. -/
def Interval.ofBinary (b : Binary) : Interval :=
  let below := if b.narrowBelow then 1 else 2
  let m := 4 * b.significand
  let (up, den) : Nat × Nat :=
    if b.exponent - 2 < 0 then (1, Nat.pow 2 (2 - b.exponent).toNat)
    else (Nat.pow 2 (b.exponent - 2).toNat, 1)
  { value := m * up, low := (m - below) * up, high := (m + 2) * up, den := den
    closed := b.significand % 2 == 0 }

/-- Whether `num / den` (over the grid's scale) rounds to the value. -/
def Interval.contains (i : Interval) (num scale : Nat) : Bool :=
  if i.closed then decide (i.low * scale ≤ num) && decide (num ≤ i.high * scale)
  else decide (i.low * scale < num) && decide (num < i.high * scale)

/-- The neighbour to take on the grid of multiples of `10 ^ k`, if one rounds to the value. -/
def onGrid (tie : TieRule) (i : Interval) (k : Int) : Option Nat :=
  -- `scale` brings value and grid to whole numbers: value · scale against n · unit
  let scale := if k < 0 then Nat.pow 10 (-k).toNat else 1
  let unit := (if k < 0 then 1 else Nat.pow 10 k.toNat) * i.den
  let v := i.value * scale
  let n := v / unit
  let r := v % unit
  let lower := i.contains (n * unit) scale
  let upper := i.contains ((n + 1) * unit) scale
  if r = 0 then some n
  else if lower && upper then
    if 2 * r < unit then some n
    else if unit < 2 * r then some (n + 1)
    else match tie with
      | .up => some (n + 1)
      | .even => some (if n % 2 = 0 then n else n + 1)
  else if lower then some n
  else if upper then some (n + 1)
  else none

/-- Tries the grids of `count`, `count + 1`, … digits, `fuel` of them. -/
def search (tie : TieRule) (i : Interval) (top : Int) (count : Nat) : Nat → Nat × Int
  | 0 => (i.value / i.den, 0)
  | fuel + 1 =>
    let k := top + 1 - count
    match onGrid tie i k with
    | some n => (n, k)
    | none => search tie i top (count + 1) fuel

/-- Takes trailing zeros off the coefficient into the exponent. -/
def trim (n : Nat) (k : Int) : Nat → Nat × Int
  | 0 => (n, k)
  | fuel + 1 => if n ≠ 0 ∧ n % 10 = 0 then trim (n / 10) (k + 1) fuel else (n, k)

/-- The shortest decimal that reads back as the finite double `x`. -/
def ofFloat (tie : TieRule) (x : Float) : Decimal :=
  let b := Binary.ofFloat x
  if b.significand = 0 then ⟨b.negative, 0, 0⟩
  else
    let i := Interval.ofBinary b
    let (n, k) := search tie i (leadingExponent i.value i.den) 1 17
    let (n, k) := trim n k 20
    ⟨b.negative, n, k⟩

end Shortest

namespace Decimal

def zeros (n : Nat) : String := String.ofList (List.replicate n '0')

/-- The sign that stands before a magnitude. -/
def signText (d : Decimal) : String := if d.negative then "-" else ""

def digitText (d : Decimal) : List Char := Nat.toDigits 10 d.coefficient

/-- Positional notation of the magnitude, with `whole` after a number that has no fraction. -/
def positional (d : Decimal) (whole : String) : String :=
  let ds := d.digitText
  if d.exponent ≥ 0 then
    if d.coefficient = 0 then "0" ++ whole
    else String.ofList ds ++ zeros d.exponent.toNat ++ whole
  else
    let places := (-d.exponent).toNat
    if places < ds.length then
      String.ofList (ds.take (ds.length - places)) ++ "." ++ String.ofList (ds.drop (ds.length - places))
    else "0." ++ zeros (places - ds.length) ++ String.ofList ds

/-- Positional, with no point in a whole number: `800`, `0.25`, `-0`. -/
def plainText (d : Decimal) : String := d.signText ++ d.positional ""

/-- Positional, with a point in every number: `800.0`, `0.25`, `-0.0`. -/
def markedText (d : Decimal) : String := d.signText ++ d.positional ".0"

/-- The power of ten of the first digit. -/
def leading (d : Decimal) : Int := (d.digitText.length : Int) - 1 + d.exponent

/-- As `markedText` where the first digit stands between `10 ^ -5` and `10 ^ 15`, otherwise one
digit before the point and an exponent with its sign: `1e+16`, `1.5e-7`. -/
def exponentText (d : Decimal) : String :=
  let e := d.leading
  if d.coefficient = 0 ∨ (-6 < e ∧ e < 16) then d.markedText
  else
    let mantissa := match d.digitText with
      | c :: [] => String.ofList [c]
      | c :: cs => String.ofList (c :: '.' :: cs)
      | [] => ""
    let mark := if e < 0 then "e-" else "e+"
    d.signText ++ mantissa ++ mark ++ toString e.natAbs

end Decimal

/-- Numbers in running text: the fewest digits that read back, positional, no point in whole
numbers, and `NaN`, `inf` and `-inf`. -/
def numberText (x : Float) : String :=
  if x.isFinite then (Shortest.ofFloat .up x).plainText else nonFiniteText x

end PenPlotter
