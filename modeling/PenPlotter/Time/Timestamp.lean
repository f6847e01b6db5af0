import PenPlotter.Decimal.Basic
import PenPlotter.Text.Basic

/-! # Timestamps

Log entries carry timestamps as text.  Two notations are understood: the Internet notation, with
fixed widths and an offset from universal time, and a local notation without an offset, with
optional leading zeros, a year of any length after a sign, and white space before numbers.
`Timestamp.clockText` shows the time of day, or the text itself where neither applies. -/

namespace PenPlotter.Timestamp

/-- A date of the Gregorian calendar with a time of day; the second 60 is a leap second. -/
structure DateTime where
  year : Int
  month : Nat
  day : Nat
  hour : Nat
  minute : Nat
  second : Nat
deriving Repr, DecidableEq, Inhabited

def isLeapYear (year : Int) : Bool :=
  year % 4 == 0 && (year % 100 != 0 || year % 400 == 0)

/-- The number of days of a month; zero where there is no such month. -/
def daysInMonth (year : Int) : Nat → Nat
  | 1 => 31
  | 2 => if isLeapYear year then 29 else 28
  | 3 => 31
  | 4 => 30
  | 5 => 31
  | 6 => 30
  | 7 => 31
  | 8 => 31
  | 9 => 30
  | 10 => 31
  | 11 => 30
  | 12 => 31
  | _ => 0

def inCalendar (year : Int) : Bool := -262143 ≤ year && year ≤ 262142

def DateTime.valid (t : DateTime) : Bool :=
  inCalendar t.year && 1 ≤ t.day && t.day ≤ daysInMonth t.year t.month && t.hour ≤ 23
    && t.minute ≤ 59 && t.second ≤ 60

/-- Reads a number of `least` to `most` digits, as many as there are. -/
def number? (least most : Nat) (cs : List Char) : Option (Nat × List Char) :=
  let ds := (cs.take most).takeWhile Char.isDigit
  if ds.length < least then none else some (Decimal.digitsFrom 0 ds, cs.drop ds.length)

/-- Reads one given character. -/
def char? (c : Char) : List Char → Option (List Char)
  | d :: rest => if d = c then some rest else none
  | [] => none

/-- Reads the fraction of a second, if there is one; it has at least one digit. -/
def fraction? : List Char → Option (List Char)
  | '.' :: rest =>
    let after := rest.dropWhile Char.isDigit
    if after.length < rest.length then some after else none
  | cs => some cs

/-- Reads the offset from universal time, which is less than a day. -/
def offset? : List Char → Option (List Char)
  | 'Z' :: rest => some rest
  | 'z' :: rest => some rest
  | sign :: rest => do
    guard (sign = '+' ∨ sign = '-' ∨ sign = '−')
    let (hours, rest) ← number? 2 2 rest
    let rest ← char? ':' rest
    let (minutes, rest) ← number? 2 2 rest
    guard (hours ≤ 23 ∧ minutes ≤ 59)
    some rest
  | [] => none

/-- Accepts a date and time that exists, when nothing follows it. -/
def accept? (t : DateTime) (rest : List Char) : Option DateTime :=
  if t.valid && rest.isEmpty then some t else none

/-- Reads the Internet notation. -/
def ofInternet? (cs : List Char) : Option DateTime := do
  let (year, cs) ← number? 4 4 cs
  let cs ← char? '-' cs
  let (month, cs) ← number? 2 2 cs
  let cs ← char? '-' cs
  let (day, cs) ← number? 2 2 cs
  let cs ← match cs with
    | c :: rest => if c = 'T' ∨ c = 't' ∨ c = ' ' then some rest else none
    | [] => none
  let (hour, cs) ← number? 2 2 cs
  let cs ← char? ':' cs
  let (minute, cs) ← number? 2 2 cs
  let cs ← char? ':' cs
  let (second, cs) ← number? 2 2 cs
  let cs ← fraction? cs
  let cs ← offset? cs
  accept? ⟨year, month, day, hour, minute, second⟩ cs

/-- Reads a number of at most two digits after white space. -/
def looseNumber? (cs : List Char) : Option (Nat × List Char) :=
  number? 1 2 (cs.dropWhile Text.isBlank)

/-- Reads a year after white space: of any length after a sign, otherwise of at most four
digits. -/
def looseYear? (cs : List Char) : Option (Int × List Char) :=
  match cs.dropWhile Text.isBlank with
  | '-' :: rest => (number? 1 rest.length rest).map fun r => (-(r.1 : Int), r.2)
  | '+' :: rest => (number? 1 rest.length rest).map fun r => ((r.1 : Int), r.2)
  | rest => (number? 1 4 rest).map fun r => ((r.1 : Int), r.2)

/-- Reads the local notation. -/
def ofLocal? (cs : List Char) : Option DateTime := do
  let (year, cs) ← looseYear? cs
  let cs ← char? '-' cs
  let (month, cs) ← looseNumber? cs
  let cs ← char? '-' cs
  let (day, cs) ← looseNumber? cs
  let cs ← char? 'T' cs
  let (hour, cs) ← looseNumber? cs
  let cs ← char? ':' cs
  let (minute, cs) ← looseNumber? cs
  let cs ← char? ':' cs
  let (second, cs) ← looseNumber? cs
  let cs ← fraction? cs
  accept? ⟨year, month, day, hour, minute, second⟩ cs

/-- A number below one hundred with two digits. -/
def twoDigits (n : Nat) : String :=
  String.ofList [Nat.digitChar (n / 10), Nat.digitChar (n % 10)]

/-- The time of day. -/
def DateTime.clockText (t : DateTime) : String :=
  twoDigits t.hour ++ ":" ++ twoDigits t.minute ++ ":" ++ twoDigits t.second

/-- The time of day that a timestamp names, or the timestamp itself. -/
def clockText (timestamp : String) : String :=
  let cs := timestamp.toList
  match (ofInternet? cs).or (ofLocal? cs) with
  | some t => t.clockText
  | none => timestamp

end PenPlotter.Timestamp
