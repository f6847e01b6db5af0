import PenPlotter.Text.Basic
import PenPlotter.Text.Word
import PenPlotter.Toolpath.Basic

/-! # Motion programs

A program is a text of lines.  A line is read without its comment, which starts at the first
`;`, and without white space around it.  It moves the pen when one of its words is `G0`, `G00`
(a travel move), `G1` or `G01` (a drawing move), in either letter case; the first such word
decides.  A coordinate is the run of signs, points and digits after the first axis letter that
such a run follows.  An axis that is not given keeps its position, and a coordinate that is no
finite number makes the whole line void.

`Move.ofLine?` reads one line, `walk` leads the pen through a list of moves, and
`Toolpath.ofProgram` does both for a text. -/

namespace PenPlotter

/-- The commanded end of a move, on the axes that are given. -/
structure Move (α : Type) where
  penDown : Bool
  x : Option α
  y : Option α
deriving Repr, Inhabited

namespace Program

/-- A line without its comment and surrounding white space. -/
def code (line : List Char) : List Char := Text.trim (line.takeWhile (· != ';'))

/-- The kind of move that a word commands: true with the pen down. -/
def motionWord? : List Char → Option Bool
  | [g, d] => if g.toLower = 'g' then digit? d else none
  | [g, '0', d] => if g.toLower = 'g' then digit? d else none
  | _ => none
where
  /-- The digit of the motion word. -/
  digit? (d : Char) : Option Bool :=
    if d = '0' then some false else if d = '1' then some true else none

/-- The kind of move that the first motion word of a line commands. -/
def motion? (cs : List Char) : Option Bool := (Text.words cs).findSome? motionWord?

/-- The characters of which a coordinate is made. -/
def isCoordinate (c : Char) : Bool := c == '-' || c == '+' || c == '.' || c.isDigit

/-- The run of coordinate characters after the first occurrence of the axis letter, in either
case, that such a run follows. -/
def coordinateText? (axis : Char) : List Char → Option (List Char)
  | [] => none
  | c :: rest =>
    if c.toLower = axis ∧ (rest.head?.any isCoordinate) then some (rest.takeWhile isCoordinate)
    else coordinateText? axis rest

/-- What a line says about one axis. -/
inductive Coordinate (α : Type) where
  /-- The axis is not mentioned. -/
  | absent
  | value (v : α)
  /-- The axis is mentioned with what is no finite number. -/
  | malformed
deriving Repr

variable {α : Type} [Scalar α]

/-- What a line says about the axis of the given lower-case letter. -/
def coordinate (axis : Char) (cs : List Char) : Coordinate α :=
  match coordinateText? axis cs with
  | none => .absent
  | some run =>
    match Decimal.ofPlain? run with
    | none => .malformed
    | some d =>
      let v : α := Scalar.ofDecimal d
      if Scalar.finite v then .value v else .malformed

/-- The given position of an axis, if the line is not void. -/
def Coordinate.given? : Coordinate α → Option (Option α)
  | .absent => some none
  | .value v => some (some v)
  | .malformed => none

end Program

namespace Move

variable {α : Type} [Scalar α]

/-- The move that a line commands. -/
def ofLine? (line : List Char) : Option (Move α) := do
  let cs := Program.code line
  let penDown ← Program.motion? cs
  let x ← (Program.coordinate 'x' cs : Program.Coordinate α).given?
  let y ← (Program.coordinate 'y' cs : Program.Coordinate α).given?
  some ⟨penDown, x, y⟩

/-- Where the move ends when it starts at the given point. -/
def target (m : Move α) (cursor : Point α) : Point α := ⟨m.x.getD cursor.x, m.y.getD cursor.y⟩

end Move

/-- The moves made from a starting point; a move to the point where the pen already is makes no
segment and does not count as a step. -/
def walk {α : Type} [Scalar α] (cursor : Point α) : List (Move α) → List (Segment α)
  | [] => []
  | m :: ms =>
    let target := m.target cursor
    if target == cursor then walk cursor ms
    else ⟨cursor, target, m.penDown⟩ :: walk target ms

/-- The moves that the lines of a text command. -/
def Program.moves {α : Type} [Scalar α] (text : String) : List (Move α) :=
  (Text.lines text.toList).filterMap Move.ofLine?

/-- The toolpath of a program that starts at the origin. -/
def Toolpath.ofProgram {α : Type} [Scalar α] (text : String) : Toolpath α :=
  .ofSegments (walk Point.origin (Program.moves text))

end PenPlotter
