import PenPlotter.Decimal.Shortest
import PenPlotter.Json.Basic

/-! # Printing JSON

`Json.quoted` writes a text between quotation marks.  Quotation marks, backslashes and control
characters are escaped, the common ones by a letter and the others by four hexadecimal digits;
all other characters stand for themselves.

`Json.compact` writes a value without white space, `Json.pretty` with one member or item on a
line and an indentation of two spaces.  A floating-point number has the fewest digits that read
back, always with a point or an exponent; one that is not finite is written as null. -/

namespace PenPlotter

def JsonNumber.text : JsonNumber → String
  | .integer n => toString n
  | .float x => if x.isFinite then (Shortest.ofFloat .even x).exponentText else "null"

namespace Json

/-! ### Texts -/

/-- The written form of one character inside quotation marks. -/
def escape (c : Char) : List Char :=
  if c = '"' then ['\\', '"']
  else if c = '\\' then ['\\', '\\']
  else if c.toNat = 8 then ['\\', 'b']
  else if c.toNat = 9 then ['\\', 't']
  else if c.toNat = 10 then ['\\', 'n']
  else if c.toNat = 12 then ['\\', 'f']
  else if c.toNat = 13 then ['\\', 'r']
  else if c.toNat < 32 then
    ['\\', 'u', '0', '0', Nat.digitChar (c.toNat / 16), Nat.digitChar (c.toNat % 16)]
  else [c]

/-- The text between quotation marks. -/
def quoted (s : String) : String :=
  String.ofList ('"' :: s.toList.flatMap escape ++ ['"'])

/-! ### Values -/

mutual

/-- The value without white space. -/
def compact : Json → String
  | .null => "null"
  | .bool true => "true"
  | .bool false => "false"
  | .number n => n.text
  | .string s => quoted s
  | .array items => "[" ++ compactItems items ++ "]"
  | .object members => "\x7b" ++ compactMembers members ++ "\x7d"

/-- Items separated by commas. -/
def compactItems : List Json → String
  | [] => ""
  | [v] => compact v
  | v :: rest => compact v ++ "," ++ compactItems rest

/-- Members separated by commas. -/
def compactMembers : List (String × Json) → String
  | [] => ""
  | [(k, v)] => quoted k ++ ":" ++ compact v
  | (k, v) :: rest => quoted k ++ ":" ++ compact v ++ "," ++ compactMembers rest

end

/-- A line break with the indentation of a nesting level. -/
def newLine (level : Nat) : String := "\n" ++ String.ofList (List.replicate (2 * level) ' ')

mutual

/-- The value with one item on a line, at a nesting level. -/
def prettyAt (level : Nat) : Json → String
  | .array [] => "[]"
  | .array items =>
    "[" ++ newLine (level + 1) ++ prettyItems (level + 1) items ++ newLine level ++ "]"
  | .object [] => "\x7b\x7d"
  | .object members =>
    "\x7b" ++ newLine (level + 1) ++ prettyMembers (level + 1) members ++ newLine level ++ "\x7d"
  | v => compact v

/-- Items on lines of their own. -/
def prettyItems (level : Nat) : List Json → String
  | [] => ""
  | [v] => prettyAt level v
  | v :: rest => prettyAt level v ++ "," ++ newLine level ++ prettyItems level rest

/-- Members on lines of their own. -/
def prettyMembers (level : Nat) : List (String × Json) → String
  | [] => ""
  | [(k, v)] => quoted k ++ ": " ++ prettyAt level v
  | (k, v) :: rest =>
    quoted k ++ ": " ++ prettyAt level v ++ "," ++ newLine level ++ prettyMembers level rest

end

/-- The value with one member or item on a line. -/
def pretty (v : Json) : String := prettyAt 0 v

end Json

end PenPlotter
