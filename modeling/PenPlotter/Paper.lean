import PenPlotter.Decimal.Shortest
import PenPlotter.Scalar

/-! # Paper sizes

A sheet has a name and its sides in millimetres, upright.  `Paper.ofName?` finds one of the
standard sizes, in any ASCII letter case. -/

namespace PenPlotter

/-- A named sheet of paper. -/
structure Paper (α : Type) where
  name : String
  width : α
  height : α
deriving Repr, Inhabited

/-- Two texts that differ at most in the case of ASCII letters. -/
def sameIgnoringCase (s t : String) : Bool :=
  s.toList.map Char.toLower == t.toList.map Char.toLower

namespace Paper

variable {α : Type} [Scalar α]

/-- Sheets are equal when their names and, numerically, their sides are. -/
instance : BEq (Paper α) where
  beq p q := p.name == q.name && p.width == q.width && p.height == q.height

def standardSizes : List (Paper α) :=
  [⟨"A5", 148.0, 210.0⟩, ⟨"A4", 210.0, 297.0⟩, ⟨"A3", 297.0, 420.0⟩, ⟨"Letter", 215.9, 279.4⟩]

def ofName? (name : String) : Option (Paper α) :=
  standardSizes.find? fun p => sameIgnoringCase p.name name

/-- The sheet turned on its side. -/
def landscape (p : Paper α) : Paper α := { p with width := p.height, height := p.width }

def halfExtents (p : Paper α) : α × α := (p.width / 2.0, p.height / 2.0)

/-- The sheet as it is shown to the operator. -/
def text (p : Paper Float) : String :=
  p.name ++ " (" ++ numberText p.width ++ " x " ++ numberText p.height ++ " mm)"

end Paper

end PenPlotter
