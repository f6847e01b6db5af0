/-! # Texts as lists of characters

`isBlank` is the White_Space property of Unicode, and `trim` removes such characters from both
ends of a text.  `splitAt` cuts a text at every occurrence of a character, so that there is one
part more than there are occurrences.  `lines` cuts a text at line feeds; a carriage return
directly before a line feed belongs to the line end, and a text that ends with a line feed has no
empty last line. -/

namespace PenPlotter.Text

/-! ### White space -/

/-- Unicode white space. -/
def isBlank (c : Char) : Bool :=
  let n := c.toNat
  (9 ≤ n && n ≤ 13) || n == 0x20 || n == 0x85 || n == 0xA0 || n == 0x1680
    || (0x2000 ≤ n && n ≤ 0x200A) || n == 0x2028 || n == 0x2029 || n == 0x202F
    || n == 0x205F || n == 0x3000

/-- Drops white space at the end. -/
def trimEnd (cs : List Char) : List Char := (cs.reverse.dropWhile isBlank).reverse

/-- Drops white space at both ends. -/
def trim (cs : List Char) : List Char := trimEnd (cs.dropWhile isBlank)

/-- Drops white space at both ends of a string. -/
def trimString (s : String) : String := String.ofList (trim s.toList)

/-! ### Parts -/

/-- Cuts a text at every occurrence of a character. -/
def splitAt (mark : Char) : List Char → List (List Char)
  | [] => [[]]
  | c :: rest =>
    if c = mark then [] :: splitAt mark rest
    else
      match splitAt mark rest with
      | [] => [[c]]
      | part :: parts => (c :: part) :: parts

/-! ### Lines -/

/-- Drops one carriage return at the end of a line that a line feed closed. -/
def dropReturn (cs : List Char) : List Char :=
  match cs.reverse with
  | '\r' :: r => r.reverse
  | _ => cs

/-- The lines of a text, continuing a line whose characters so far are `acc` in reverse. -/
def linesFrom (acc : List Char) : List Char → List (List Char)
  | [] => if acc.isEmpty then [] else [acc.reverse]
  | '\n' :: rest => dropReturn acc.reverse :: linesFrom [] rest
  | c :: rest => linesFrom (c :: acc) rest

def lines (cs : List Char) : List (List Char) := linesFrom [] cs

def linesOf (s : String) : List String := (lines s.toList).map String.ofList

end PenPlotter.Text
