/-! # Punycode

The form in which host names with characters outside ASCII are written in ASCII: after the ASCII
characters come, digit by digit, the places and values of the others. -/

namespace PenPlotter.Punycode

def digitValue? (c : Char) : Option Nat :=
  if 'a' ≤ c ∧ c ≤ 'z' then some (c.toNat - 'a'.toNat)
  else if 'A' ≤ c ∧ c ≤ 'Z' then some (c.toNat - 'A'.toNat)
  else if c.isDigit then some (c.toNat - '0'.toNat + 26)
  else none

/-- The least value of a digit after which a number goes on. -/
def threshold (place bias : Nat) : Nat :=
  if place ≤ bias then 1 else if bias + 26 ≤ place then 26 else place - bias

/-- Divides by 35 until at most 455 is left, and counts 36 each time. -/
def shrink (delta count : Nat) : Nat × Nat :=
  if 455 < delta then shrink (delta / 35) (count + 36) else (delta, count)
termination_by delta
decreasing_by exact Nat.div_lt_self (by omega) (by omega)

/-- The bias for the next number. -/
def adapt (delta count : Nat) (isFirst : Bool) : Nat :=
  let halved := if isFirst then delta / 700 else delta / 2
  let (left, shift) := shrink (halved + halved / count) 0
  shift + 36 * left / (left + 38)

/-- Reads a number whose digits have growing weights. -/
def takeNumber? (bias place weight total : Nat) : List Char → Option (Nat × List Char)
  | [] => none
  | c :: rest =>
    match digitValue? c with
    | none => none
    | some d =>
      let sum := total + d * weight
      let t := threshold place bias
      if 0x100000000 ≤ sum then none
      else if d < t then some (sum, rest)
      else if 0x100000000 ≤ weight * (36 - t) then none
      else takeNumber? bias (place + 36) (weight * (36 - t)) sum rest

/-- Puts the remaining characters in; `fuel` bounds their number. -/
def insertAll? (fuel code index bias : Nat) (isFirst : Bool) (found : List Char) :
    List Char → Option (List Char)
  | [] => some found
  | cs =>
    match fuel with
    | 0 => none
    | fuel + 1 =>
      match takeNumber? bias 36 1 0 cs with
      | none => none
      | some (delta, rest) =>
        let count := found.length + 1
        let position := index + delta
        let code := code + position / count
        let place := position % count
        if 0x110000 ≤ code ∨ (0xD800 ≤ code ∧ code < 0xE000) then none
        else
          let found := found.take place ++ Char.ofNat code :: found.drop place
          insertAll? fuel code (place + 1) (adapt delta count isFirst) false found rest

/-- The characters before the last hyphen, and those after it. -/
def splitAtHyphen (cs : List Char) : List Char × List Char :=
  let after := (cs.reverse.takeWhile (· != '-')).reverse
  if after.length = cs.length then ([], cs)
  else (cs.take (cs.length - after.length - 1), after)

/-- The characters that an encoded name stands for. -/
def decode? (cs : List Char) : Option (List Char) :=
  let (plain, encoded) := splitAtHyphen cs
  insertAll? cs.length 0x80 0 72 true plain encoded

end PenPlotter.Punycode
