import PenPlotter.Decimal.Basic
import PenPlotter.Toml.Basic
import PenPlotter.Toml.Quoted

/-! # TOML numbers

Single underscores may stand between digits.  Whole numbers are signed numbers of 64 bits,
written in decimal notation without leading zeros, or after `0x`, `0o` or `0b` without a sign.
A number with a fraction or an exponent is a double, and so are `inf` and `nan`. -/

namespace PenPlotter.Toml

/-- The digits of a group in which single underscores stand between digits. -/
def groupedDigits? (isDigit : Char → Bool) : List Char → Option (List Char)
  | [] => none
  | [c] => if isDigit c then some [c] else none
  | c :: '_' :: rest =>
    if isDigit c then (groupedDigits? isDigit rest).map (c :: ·) else none
  | c :: rest => if isDigit c then (groupedDigits? isDigit rest).map (c :: ·) else none

/-- Decimal digits without a leading zero. -/
def wholeDigits? (cs : List Char) : Option (List Char) :=
  match groupedDigits? Char.isDigit cs with
  | some ('0' :: _ :: _) => none
  | other => other

/-- A whole number, if 64 bits hold it. -/
def ofInt? (n : Int) : Option Toml := if isWord n then some (.integer n) else none

/-- The number that digits of a base write. -/
def based? (base : Nat) (cs : List Char) : Option Toml := do
  let isDigit := fun c => (hexValue? c).any (· < base)
  let ds ← groupedDigits? isDigit cs
  ofInt? (ds.foldl (fun n d => n * base + (hexValue? d).getD 0) 0 : Nat)

/-- A whole number in decimal notation. -/
def decimal? (cs : List Char) : Option Toml := do
  let (negative, body) := Decimal.takeSign cs
  let ds ← wholeDigits? body
  let n : Int := Decimal.digitsFrom 0 ds
  ofInt? (if negative then -n else n)

/-- The exponent of a double: the mark, an optional sign and digits. -/
def exponentDigits? : List Char → Option (List Char)
  | [] => some []
  | c :: rest =>
    if c = 'e' ∨ c = 'E' then
      let body := match rest with
        | '+' :: r => r
        | '-' :: r => r
        | r => r
      (groupedDigits? Char.isDigit body).map fun ds =>
        'e' :: (if rest.head? = some '-' then '-' :: ds else ds)
    else none

/-- A double in decimal notation; there is none above the greatest finite one. -/
def double? (cs : List Char) : Option Toml := do
  let (negative, body) := Decimal.takeSign cs
  let isMark := fun c : Char => c == '.' || c == 'e' || c == 'E'
  let whole ← wholeDigits? (body.takeWhile (!isMark ·))
  let rest := body.dropWhile (!isMark ·)
  let plain ← match rest with
    | '.' :: r => do
      let fraction ← groupedDigits? Char.isDigit (r.takeWhile (!isMark ·))
      let exponent ← exponentDigits? (r.dropWhile (!isMark ·))
      some (whole ++ '.' :: fraction ++ exponent)
    | [] => none
    | r => (exponentDigits? r).map (whole ++ ·)
  let x ← floatOfText? (String.ofList (if negative then '-' :: plain else plain))
  if x == 1.0 / 0.0 then none else some (.float x)

/-- The word for a double that is not finite. -/
def word? (cs : List Char) : Option Toml :=
  let (negative, body) := Decimal.takeSign cs
  let signed := fun x : Float => some (.float (if negative then -x else x))
  if body = ['i', 'n', 'f'] then signed (1.0 / 0.0)
  else if body = ['n', 'a', 'n'] then signed (0.0 / 0.0)
  else none

def number? : List Char → Option Toml
  | '0' :: 'x' :: ds => based? 16 ds
  | '0' :: 'o' :: ds => based? 8 ds
  | '0' :: 'b' :: ds => based? 2 ds
  | cs => (decimal? cs).or ((double? cs).or (word? cs))

end PenPlotter.Toml
