import PenPlotter.Text.Basic

/-! # Runs of characters

A run lists what is written for each of several evenly spaced characters: one character, or a
word of several. -/

namespace PenPlotter.Unicode

/-- Evenly spaced characters, and what is written for each of them. -/
structure Run where
  first : Nat
  step : Nat
  /-- The characters that are written, or the words with a space between each two. -/
  targets : String

namespace Run

/-- The place of a character in a run that has as many as `size` of them. -/
def place? (r : Run) (size : Nat) (c : Char) : Option Nat :=
  let distance := c.toNat - r.first
  if c.toNat < r.first ∨ distance % r.step ≠ 0 ∨ size ≤ distance / r.step then none
  else some (distance / r.step)

/-- The character that is written for a character. -/
def character? (r : Run) (c : Char) : Option Char := do
  r.targets.toList[← r.place? r.targets.utf8ByteSize c]?

/-- The word that is written for a character. -/
def word? (r : Run) (c : Char) : Option (List Char) := do
  (Text.splitAt ' ' r.targets.toList)[← r.place? r.targets.utf8ByteSize c]?

end Run

/-- The character that one of several runs gives. -/
def character? (runs : List Run) (c : Char) : Option Char := runs.findSome? (·.character? c)

/-- The word that one of several runs gives. -/
def word? (runs : List Run) (c : Char) : Option (List Char) := runs.findSome? (·.word? c)

end PenPlotter.Unicode
