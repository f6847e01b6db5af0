import PenPlotter.Decimal.Basic
import PenPlotter.Json.Basic

/-! # JSON numerals

A numeral is kept as it is written until its value is asked for.  A whole number that fits into
64 bits is read exactly.  Any other numeral is read as a double in single steps: as many digits
as fit into 64 bits form the significand, which is then multiplied or divided by a power of ten
that is itself a double.  The value is within a few units of the last place of the exact one,
and exact where significand and power are. -/

namespace PenPlotter.Json

/-- A number as it is written. -/
structure Numeral where
  negative : Bool
  whole : List Char
  fraction : Option (List Char)
  /-- The sign (true means minus) and the digits of the exponent. -/
  exponent : Option (Bool × List Char)
deriving Repr, DecidableEq, Inhabited

namespace Numeral

/-- The characters of which numerals are made. -/
def isPart (c : Char) : Bool :=
  c.isDigit || c == '-' || c == '+' || c == '.' || c == 'e' || c == 'E'

/-- Digits of the whole part: a zero stands alone. -/
def wholeOk : List Char → Bool
  | [] => false
  | ['0'] => true
  | c :: _ => c != '0'

/-- The exponent after its mark; the text must end with it. -/
def exponentOf? (cs : List Char) : Option (Bool × List Char) :=
  let (negative, ds) := Decimal.takeSign cs
  if !ds.isEmpty && ds.all Char.isDigit then some (negative, ds) else none

/-- Whether a character marks an exponent. -/
def isMark (c : Char) : Bool := c == 'e' || c == 'E'

/-- The exponent part that may follow the digits; the text must end with it. -/
def tail? : List Char → Option (Option (Bool × List Char))
  | [] => some none
  | c :: rest => if isMark c then (exponentOf? rest).map some else none

/-- Reads a numeral that makes up the whole text. -/
def ofChars? (cs : List Char) : Option Numeral := do
  let (negative, body) := match cs with
    | '-' :: r => (true, r)
    | r => (false, r)
  let whole := body.takeWhile Char.isDigit
  guard (wholeOk whole)
  match body.dropWhile Char.isDigit with
  | '.' :: r =>
    let fraction := r.takeWhile Char.isDigit
    guard !fraction.isEmpty
    let exponent ← tail? (r.dropWhile Char.isDigit)
    some ⟨negative, whole, some fraction, exponent⟩
  | r =>
    let exponent ← tail? r
    some ⟨negative, whole, none, exponent⟩

/-! ### Values -/

def maxSignificand : Nat := 0xFFFFFFFFFFFFFFFF

/-- Takes digits of the whole part in while the significand fits; each digit left out counts one
power of ten. -/
def takeWhole : Nat → List Char → Nat × Nat
  | n, [] => (n, 0)
  | n, c :: cs =>
    let n' := n * 10 + digitValue c
    if n' ≤ maxSignificand then takeWhole n' cs else (n, cs.length + 1)

/-- Takes digits of the fraction in while the significand fits; each digit taken in counts one
negative power of ten, and the others are left out. -/
def takeFraction : Nat → List Char → Nat × Nat
  | n, [] => (n, 0)
  | n, c :: cs =>
    let n' := n * 10 + digitValue c
    if n' ≤ maxSignificand then
      let (m, taken) := takeFraction n' cs
      (m, taken + 1)
    else (n, 0)

/-- The double nearest to a power of ten. -/
def powerOfTen (n : Nat) : Float := Float.ofScientific 1 false n

/-- The largest power of ten that is a finite double. -/
def maxPower : Nat := 308

/-- Multiplies or divides a significand by a power of ten; none where the result is too large. -/
def scale : Nat → Float → Int → Option Float
  | 0, x, _ => some x
  | fuel + 1, x, e =>
    if e.natAbs ≤ maxPower then
      if 0 ≤ e then
        let y := x * powerOfTen e.natAbs
        if y.isInf then none else some y
      else some (x / powerOfTen e.natAbs)
    else if x == 0.0 then some x
    else if 0 ≤ e then none
    else scale fuel (x / powerOfTen maxPower) (e + maxPower)

/-- The largest written exponent that is taken at its value. -/
def maxExponent : Nat := 0x7FFFFFFF

/-- The magnitude as a double, if it is not too large. -/
def magnitude? (n : Numeral) : Option Float :=
  let (significand, left) := takeWhole 0 n.whole
  let (significand, taken) := takeFraction significand (n.fraction.getD [])
  let start : Int := (left : Int) - taken
  match n.exponent with
  | none => scale 4 significand.toUInt64.toFloat start
  | some (negative, ds) =>
    let e := Decimal.digitsFrom 0 ds
    if e ≤ maxExponent then
      scale 4 significand.toUInt64.toFloat (if negative then start - e else start + e)
    else if significand ≠ 0 ∧ !negative then none
    else some 0.0

/-- The value of a numeral; none where it is too large.  A negative zero and whole numbers beyond
64 bits are floating-point numbers. -/
def value? (n : Numeral) : Option JsonNumber :=
  let whole := Decimal.digitsFrom 0 n.whole
  if n.fraction.isNone && n.exponent.isNone && !n.negative && decide (whole < 0x10000000000000000) then
    some (.integer whole)
  else if n.fraction.isNone && n.exponent.isNone && n.negative && decide (whole ≠ 0)
      && decide (whole ≤ 0x8000000000000000) then
    some (.integer (-(whole : Int)))
  else n.magnitude?.map fun x => .float (if n.negative then -x else x)

end Numeral

end PenPlotter.Json
