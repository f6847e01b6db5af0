import PenPlotter.Text.Basic

/-! # Locations of files

A location is a text of names with slashes between them.  Empty names and single points say
nothing; two points lead one directory up. -/

namespace PenPlotter

/-- A location in the file system. -/
structure Location where
  text : String
deriving Repr, DecidableEq, Inhabited

namespace Location

/-- What stands between slashes. -/
def parts (l : Location) : List String := (Text.splitAt '/' l.text.toList).map String.ofList

/-- Whether a location starts at the root of the file system. -/
def isAbsolute (l : Location) : Bool := l.text.toList.head? = some '/'

/-- Whether a location can only be a directory. -/
def endsInSlash (l : Location) : Bool := l.text.toList.getLast? = some '/'

/-- The steps that lead to a location. -/
def steps (l : Location) : List String := l.parts.filter (!·.isEmpty)

/-- The steps without those that stay where they are. -/
def names (l : Location) : List String := l.steps.filter (· != ".")

/-- Whether the part with the given number is a step; a single point is one at the beginning. -/
def leads (l : Location) (i : Nat) : Bool :=
  match l.parts[i]? with
  | some part => part != "" && (part != "." || i == 0)
  | none => false

/-- The beginnings of a location that end with a step, the longest first. -/
def beginnings (l : Location) : List Location :=
  ((List.range l.parts.length).reverse.filter l.leads).map fun i =>
    ⟨"/".intercalate (l.parts.take (i + 1))⟩

/-- The directories on the way to a location, from the innermost. -/
def above (l : Location) : List Location := l.beginnings.tail

/-- The name of the file or directory itself. -/
def fileName? (l : Location) : Option String := l.names.getLast?.filter (· != "..")

/-- What follows the last point of the name, unless the name starts with it. -/
def extension? (l : Location) : Option String := do
  let name ← l.fileName?
  let cs := name.toList
  let after := (cs.reverse.takeWhile (· != '.')).reverse
  if cs.length ≤ after.length + 1 then none else some (String.ofList after)

/-- A name under a location. -/
def join (l : Location) (name : String) : Location :=
  if l.text.isEmpty ∨ l.endsInSlash then ⟨l.text ++ name⟩ else ⟨l.text ++ "/" ++ name⟩

end Location

end PenPlotter
