/-! # Decimal numerals

A `Decimal` is the exact value of a written number: a sign, a whole coefficient and a power
of ten.  `Decimal.ofPlain?` reads the plain notation (an optional sign, digits, at most one
point, no exponent), `Decimal.ofText?` also reads an exponent.  `Decimal.toFloat` is the
double nearest to the exact value, `Decimal.toRat` the value itself.

`floatOfText?` reads what an operator types for a number: decimal notation with or without an
exponent, or one of the words `nan`, `inf` and `infinity` in any letter case, with an optional
sign. -/

namespace PenPlotter

/-- The number `± coefficient · 10 ^ exponent`; the sign is kept also for zero. -/
structure Decimal where
  negative : Bool
  coefficient : Nat
  exponent : Int
deriving Repr, DecidableEq, Inhabited

def digitValue (c : Char) : Nat := c.toNat - '0'.toNat

namespace Decimal

/-- The whole number that a list of digits writes, continuing from `acc`. -/
def digitsFrom (acc : Nat) (ds : List Char) : Nat :=
  ds.foldl (fun n c => n * 10 + digitValue c) acc

/-- Cuts an optional sign off; true means minus. -/
def takeSign : List Char → Bool × List Char
  | '-' :: r => (true, r)
  | '+' :: r => (false, r)
  | r => (false, r)

/-- Reads `digits [. digits]` with at least one digit, and gives back what follows. -/
def takeUnsigned? (negative : Bool) (cs : List Char) : Option (Decimal × List Char) :=
  let whole := cs.takeWhile Char.isDigit
  let afterWhole := cs.dropWhile Char.isDigit
  let (fraction, rest) := match afterWhole with
    | '.' :: r => (r.takeWhile Char.isDigit, r.dropWhile Char.isDigit)
    | r => ([], r)
  if whole.isEmpty && fraction.isEmpty then none
  else some (⟨negative, digitsFrom 0 (whole ++ fraction), -(fraction.length : Int)⟩, rest)

/-- Plain notation: an optional sign, then digits with at most one point. -/
def ofPlain? (cs : List Char) : Option Decimal :=
  let (negative, body) := takeSign cs
  match takeUnsigned? negative body with
  | some (d, []) => some d
  | _ => none

/-- Reads the part after the exponent mark: an optional sign and at least one digit. -/
def exponentOf? (cs : List Char) : Option Int :=
  let (negative, ds) := takeSign cs
  if ds.isEmpty || !ds.all Char.isDigit then none
  else
    let n : Int := digitsFrom 0 ds
    some (if negative then -n else n)

/-- Plain notation, optionally followed by `e` or `E` and an exponent. -/
def ofText? (cs : List Char) : Option Decimal :=
  let (negative, body) := takeSign cs
  match takeUnsigned? negative body with
  | some (d, []) => some d
  | some (d, mark :: r) =>
    if mark = 'e' || mark = 'E' then
      (exponentOf? r).map fun e => { d with exponent := d.exponent + e }
    else none
  | none => none

/-- The number of decimal digits of a whole number (1 for zero). -/
def digitCount (n : Nat) : Nat := (Nat.toDigits 10 n).length

/-- The double nearest to the exact value, ties to even; beyond the range an infinity or zero.
Exponents that are far outside of the range are decided before any power of ten is taken. -/
def toFloat (d : Decimal) : Float :=
  let magnitude : Float :=
    if d.coefficient = 0 then 0.0
    else
      let top : Int := digitCount d.coefficient + d.exponent
      if top > 400 then 1.0 / 0.0
      else if top < -400 then 0.0
      else if d.exponent < 0 then Float.ofScientific d.coefficient true (-d.exponent).toNat
      else Float.ofScientific d.coefficient false d.exponent.toNat
  if d.negative then -magnitude else magnitude

def toRat (d : Decimal) : Rat :=
  let magnitude : Rat :=
    if d.exponent < 0 then mkRat d.coefficient (Nat.pow 10 (-d.exponent).toNat)
    else ((d.coefficient * Nat.pow 10 d.exponent.toNat : Nat) : Rat)
  if d.negative then -magnitude else magnitude

end Decimal

/-! ### Doubles from text -/

/-- The value of a word that stands for no finite number. -/
def wordValue? (cs : List Char) : Option Float :=
  let word := String.ofList (cs.map Char.toLower)
  if word = "nan" then some (0.0 / 0.0)
  else if word = "inf" ∨ word = "infinity" then some (1.0 / 0.0)
  else none

/-- The double nearest to the number that a text writes. -/
def floatOfText? (s : String) : Option Float :=
  let cs := s.toList
  match Decimal.ofText? cs with
  | some d => some d.toFloat
  | none =>
    let (negative, word) := Decimal.takeSign cs
    (wordValue? word).map fun x => if negative then -x else x

end PenPlotter
