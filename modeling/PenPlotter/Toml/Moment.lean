import PenPlotter.Decimal.Basic

/-! # Dates and times

The dates and times that a TOML text may hold: a date, a time of day, or both, and then possibly
an offset from universal time. -/

namespace PenPlotter.Toml

/-- Cuts `count` digits off. -/
def takeDigits? (count : Nat) (cs : List Char) : Option (Nat × List Char) :=
  let ds := cs.take count
  if ds.length = count ∧ ds.all Char.isDigit then
    some (Decimal.digitsFrom 0 ds, cs.drop count)
  else none

/-- Cuts a given character off. -/
def takeChar? (c : Char) : List Char → Option (List Char)
  | d :: rest => if d = c then some rest else none
  | [] => none

def daysOfMonth (year month : Nat) : Nat :=
  if month = 2 then
    if year % 4 = 0 ∧ (year % 100 ≠ 0 ∨ year % 400 = 0) then 29 else 28
  else if month = 4 ∨ month = 6 ∨ month = 9 ∨ month = 11 then 30
  else 31

/-- What follows a date, if a date stands here. -/
def afterDate? (cs : List Char) : Option (List Char) := do
  let (year, cs) ← takeDigits? 4 cs
  let (month, cs) ← takeDigits? 2 (← takeChar? '-' cs)
  let (day, cs) ← takeDigits? 2 (← takeChar? '-' cs)
  if 1 ≤ month ∧ month ≤ 12 ∧ 1 ≤ day ∧ day ≤ daysOfMonth year month then some cs else none

/-- What follows a time of day, if one stands here; a second may be a leap second. -/
def afterTime? (cs : List Char) : Option (List Char) := do
  let (hour, cs) ← takeDigits? 2 cs
  let (minute, cs) ← takeDigits? 2 (← takeChar? ':' cs)
  let (second, cs) ← takeDigits? 2 (← takeChar? ':' cs)
  if hour ≤ 23 ∧ minute ≤ 59 ∧ second ≤ 60 then
    match cs with
    | '.' :: d :: rest => if d.isDigit then some (rest.dropWhile Char.isDigit) else some cs
    | _ => some cs
  else none

/-- What follows an offset, if one stands here. -/
def afterOffset? : List Char → Option (List Char)
  | [] => none
  | c :: cs =>
    if c = 'Z' ∨ c = 'z' then some cs
    else if c = '+' ∨ c = '-' then do
      let (hour, cs) ← takeDigits? 2 cs
      let (minute, cs) ← takeDigits? 2 (← takeChar? ':' cs)
      if hour ≤ 23 ∧ minute ≤ 59 then some cs else none
    else none

/-- Whether a text is a time of day with an offset or without one. -/
def isTimeOfDate (cs : List Char) : Bool :=
  match afterTime? cs with
  | some [] => true
  | some rest => afterOffset? rest == some []
  | none => false

def isDate (cs : List Char) : Bool := afterDate? cs == some []

/-- Whether a text is a date, a time, or both with a `T` between them. -/
def isMoment (cs : List Char) : Bool :=
  match afterDate? cs with
  | some [] => true
  | some (c :: rest) => (c == 'T' || c == 't') && isTimeOfDate rest
  | none => afterTime? cs == some []

end PenPlotter.Toml
