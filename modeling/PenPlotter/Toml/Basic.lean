import PenPlotter.Decimal.Shortest
import PenPlotter.Toml.Quoted

/-! # TOML values

Tables keep their members in order.  Dates and times are kept as they are written.

A document of sections is written with a header for each, one pair a line, and an empty line before
every further header. -/

namespace PenPlotter

/-- A TOML value. -/
inductive Toml where
  | string (s : String)
  | integer (n : Int)
  | float (x : Float)
  | boolean (b : Bool)
  | moment (text : String)
  | array (items : List Toml)
  | table (members : List (String × Toml))
deriving Repr, Inhabited

namespace Toml

/-- Whether a whole number is one of 64 bits with a sign, as all whole numbers in TOML are. -/
def isWord (n : Int) : Bool := -0x8000000000000000 ≤ n && n < 0x8000000000000000

/-! ### Writing -/

/-- Doubles are written without an exponent, whole ones with `.0`. -/
def floatText (x : Float) : String :=
  if x.isNaN then (if x.toBits >>> 63 = 1 then "-nan" else "nan")
  else if x == 1.0 / 0.0 then "inf"
  else if x == -1.0 / 0.0 then "-inf"
  else
    let text := numberText x
    if text.toList.contains '.' then text else text ++ ".0"

/-- The text of a value that stands on one line, unless it is a whole number of more than 64
bits. -/
def scalarText? : Toml → Option String
  | .string s => some (quoted s)
  | .integer n => if isWord n then some (toString n) else none
  | .float x => some (floatText x)
  | .boolean b => some (if b then "true" else "false")
  | .moment text => some text
  | _ => none

def sectionText? (name : String) (members : List (String × Toml)) : Option String := do
  let lines ← members.mapM fun (key, v) => (scalarText? v).map fun text =>
    key ++ " = " ++ text ++ "\n"
  some ("[" ++ name ++ "]\n" ++ String.join lines)

def sectionsText? (sections : List (String × List (String × Toml))) : Option String := do
  let texts ← sections.mapM fun (name, members) => sectionText? name members
  some ("\n".intercalate texts)

end Toml

end PenPlotter
