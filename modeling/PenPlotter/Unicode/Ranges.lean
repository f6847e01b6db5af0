/-! # Sets of characters

A set of characters is given by the ranges of their numbers.  `isIn` decides membership by
halving, so that a set of a thousand ranges is searched in ten steps. -/

namespace PenPlotter.Unicode

/-- Inclusive ranges of numbers of characters, in increasing order. -/
abbrev Ranges := Array (Nat × Nat)

/-- Whether a range between the indices `lo` and `hi` contains `n`; each step halves the distance
of the indices. -/
def isBetween (ranges : Ranges) (n : Nat) (lo hi : Nat) : Bool :=
  if _h : lo < hi then
    let mid := (lo + hi) / 2
    match ranges[mid]? with
    | none => false
    | some (first, last) =>
      if n < first then isBetween ranges n lo mid
      else if last < n then isBetween ranges n (mid + 1) hi
      else true
  else false
termination_by hi - lo

/-- Whether a set contains a character. -/
def isIn (ranges : Ranges) (c : Char) : Bool := isBetween ranges c.toNat 0 ranges.size

end PenPlotter.Unicode
