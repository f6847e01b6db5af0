import Mathlib.Data.List.DropRight
import PenPlotter.Proofs.Double.Bits
import PenPlotter.Toolpath.Program

/-! # The rules of motion programs

A motion program read by its rules, with no regard to how it is scanned: every rule looks at the
positions of a line from the left and takes the first one that fits.  `Reference.segments` are
the moves that a text commands by these rules; numbers are read exactly and then rounded once. -/

namespace PenPlotter
namespace Reference

/-! ### Lines -/

section lines

/-- A line without one carriage return at its end. -/
def withoutReturn (line : List Char) : List Char :=
  if line.getLast? = some '\r' then line.dropLast else line

/-- The lines that the parts between line feeds are.  Behind the last line feed there is a line
only if there is anything, and a carriage return is kept there. -/
def ofParts : List (List Char) → List (List Char)
  | [] => []
  | [last] => if last = [] then [] else [last]
  | part :: parts => withoutReturn part :: ofParts parts

/-- The lines of a text. -/
def lines (text : List Char) : List (List Char) := ofParts (text.splitOn '\n')

/-- What stands before the first semicolon, without white space on both sides. -/
def code (line : List Char) : List Char :=
  ((line.takeWhile (· ≠ ';')).dropWhile Text.isBlank).rdropWhile Text.isBlank

end lines

/-! ### Motion words -/

section motion

/-- The motion words, and whether they put the pen down. -/
def motionWords : List (List Char × Bool) :=
  [(['G', '0'], false), (['G', '0', '0'], false), (['g', '0'], false), (['g', '0', '0'], false),
    (['G', '1'], true), (['G', '0', '1'], true), (['g', '1'], true), (['g', '0', '1'], true)]

/-- Whether there is a word character at the position. -/
def wordAt (cs : List Char) (i : ℕ) : Bool := cs[i]?.any Text.isWord

/-- Whether there is a word character on one side of the position and none on the other. -/
def boundary (cs : List Char) (i : ℕ) : Bool := (i != 0 && wordAt cs (i - 1)) != wordAt cs i

/-- What the motion word at the position commands. -/
def motionAt? (cs : List Char) (i : ℕ) : Option Bool :=
  motionWords.findSome? fun w =>
    if w.1 <+: cs.drop i ∧ boundary cs i ∧ boundary cs (i + w.1.length) then some w.2 else none

/-- What the leftmost motion word commands. -/
def motion? (cs : List Char) : Option Bool := (List.range cs.length).findSome? (motionAt? cs)

end motion

/-! ### Coordinates -/

section coordinates

/-- The characters of which a coordinate is made. -/
def numerals : List Char := "-+.0123456789".toList

/-- The longest run of coordinate characters behind the position. -/
def runBehind (cs : List Char) (i : ℕ) : List Char := (cs.drop (i + 1)).takeWhile (· ∈ numerals)

/-- The run behind the leftmost one of the letters that has any. -/
def axisText? (letters : List Char) (cs : List Char) : Option (List Char) :=
  (List.range cs.length).findSome? fun i =>
    if cs[i]?.any (· ∈ letters) ∧ runBehind cs i ≠ [] then some (runBehind cs i) else none

/-- A run without its sign. -/
def unsigned : List Char → List Char
  | '-' :: run => run
  | '+' :: run => run
  | run => run

/-- Digits with at most one point and at least one digit. -/
def IsUnsigned (body : List Char) : Prop :=
  (∀ c ∈ body, c.isDigit ∨ c = '.') ∧ body.count '.' ≤ 1 ∧ ∃ c ∈ body, c.isDigit

instance (body : List Char) : Decidable (IsUnsigned body) :=
  inferInstanceAs (Decidable ((∀ c ∈ body, c.isDigit ∨ c = '.') ∧ body.count '.' ≤ 1 ∧
    ∃ c ∈ body, c.isDigit))

/-- The number of digits behind the point. -/
def places (body : List Char) : ℕ := (body.dropWhile (· ≠ '.')).length - 1

/-- The exact magnitude that digits and a point write. -/
def magnitude (body : List Char) : ℚ :=
  Nat.ofDigitChars 10 (body.filter Char.isDigit) 0 / 10 ^ places body

/-- The double nearest to what a run writes, if it is a number in the range. -/
def number? (run : List Char) : Option Float :=
  let v := Double.ofBits (run.head? = some '-') (Double.nearest (magnitude (unsigned run)))
  if IsUnsigned (unsigned run) ∧ ¬ v.isInf then some v else none

/-- The coordinate on an axis, which is the current one if the line does not give it. -/
def coordinate? (letters : List Char) (current : Float) (cs : List Char) : Option Float :=
  match axisText? letters cs with
  | none => some current
  | some run => number? run

end coordinates

/-! ### Moves -/

section moves

/-- The point to which a line leads, if it is not void. -/
def target? (cursor : Point Float) (cs : List Char) : Option (Point Float) := do
  let x ← coordinate? ['X', 'x'] cursor.x cs
  let y ← coordinate? ['Y', 'y'] cursor.y cs
  some ⟨x, y⟩

/-- The moves that the lines command, from the cursor on. -/
def interpret (cursor : Point Float) : List (List Char) → List (Segment Float)
  | [] => []
  | line :: rest =>
    match motion? (code line), target? cursor (code line) with
    | some penDown, some target =>
      if target.x == cursor.x && target.y == cursor.y then interpret cursor rest
      else ⟨cursor, target, penDown⟩ :: interpret target rest
    | _, _ => interpret cursor rest

/-- The moves that a text commands. -/
def segments (text : String) : List (Segment Float) := interpret ⟨0, 0⟩ (lines text.toList)

end moves

end Reference
end PenPlotter
