import PenPlotter.Unicode.Direction
import PenPlotter.Unicode.Joining
import PenPlotter.Unicode.Normal
import PenPlotter.Url.Domain.Allowed
import PenPlotter.Url.Domain.Mapping
import PenPlotter.Url.Punycode

/-! # Domain names

`Domain.ofChars?` reads a name as it is typed: it is written in small letters and in normal form,
and every one of its labels has to be a good one.  Names of ASCII characters are looked at for
forbidden characters only, unless a label stands for others.

A label is what stands between the points of a name.  One that holds characters outside ASCII has
to be readable: it begins with no mark, and its joiners stand where they make a difference.  It
may be written in ASCII, after `xn--`.  In a name in which anything runs from right to left, every
label has to keep to one direction. -/

namespace PenPlotter.Domain

open Unicode

/-! ### Characters -/

/-- What is written for a character: nothing if it is left out. -/
def written? (c : Char) : Option (List Char) :=
  if c.toNat < 0x80 then some [c.toLower]
  else
    match character? variants c with
    | some other => some [other]
    | none =>
      match word? expansions c with
      | some others => some others
      | none =>
        if isIn ignored c then some []
        else if isIn allowed c then some [c]
        else none

/-- The characters of ASCII that may not stand in a name. -/
def isForbidden (c : Char) : Bool :=
  c.toNat ≤ 0x20 || c.toNat == 0x7F || "%#/:<>?@[\\]^|".toList.contains c

def isAscii (c : Char) : Bool := c.toNat < 0x80

/-! ### Joiners -/

/-- The character that keeps letters from being joined. -/
def nonJoiner : Char := '\u200c'

/-- The character that joins letters. -/
def joiner : Char := '\u200d'

/-- Whether the first character that is not passed over has a property. -/
def meets (has : Char → Bool) : List Char → Bool
  | [] => false
  | c :: rest => has c || (isTransparent c && meets has rest)

/-- Whether a joiner stands after a mark that joins consonants; `before` is what stands before it,
in reverse. -/
def followsVirama (before : List Char) : Bool :=
  before.head?.any fun c => combiningClass c == viramaClass

/-- Whether joiners stand only where they may; `before` is what stands before the text, in
reverse. -/
def joinersFit (before : List Char) : List Char → Bool
  | [] => true
  | c :: rest =>
    (if c = joiner then followsVirama before
      else if c = nonJoiner then
        followsVirama before || (meets joinsAfter before && meets joinsBefore rest)
      else true) &&
    joinersFit (c :: before) rest

/-! ### Labels -/

/-- The greatest length of a label that is not written in ASCII. -/
def maxLabelLength : Nat := 1000

/-- The greatest length of what follows `xn--`. -/
def maxEncodedLength : Nat := 2000

/-- Whether characters, some of them outside ASCII, can be read as a label. -/
def isReadable (cs : List Char) : Bool := !cs.head?.any isMark && joinersFit [] cs

/-- The label that is written in ASCII; it has to be one that is written as it stands. -/
def decode? (encoded : List Char) : Option (List Char) :=
  if !encoded.all isAscii ∨ encoded.getLast? = some '-' ∨ maxEncodedLength < encoded.length then
    none
  else
    (Punycode.decode? encoded).filter fun cs =>
      !cs.all isAscii && cs.all (fun c => written? c == some [c] && !isForbidden c && c != '.') &&
        normalize cs == cs && isReadable cs

/-- The characters of a label as they are read. -/
def readLabel? (cs : List Char) : Option (List Char) :=
  match cs with
  | 'x' :: 'n' :: '-' :: '-' :: encoded => decode? encoded
  | _ =>
    if cs.all isAscii ∨ (isReadable cs ∧ cs.length ≤ maxLabelLength) then some cs else none

/-! ### Directions -/

def isRightToLeft (c : Char) : Bool :=
  0x590 ≤ c.toNat && [.rightToLeft, .arabicLetter, .arabicNumber].contains (direction c)

/-- What may stand in a label that runs from left to right. -/
def inLeftToRight : List Direction :=
  [.leftToRight, .europeanNumber, .europeanSeparator, .commonSeparator, .europeanTerminator,
    .otherNeutral, .boundaryNeutral, .nonspacingMark]

/-- What may stand in a label that runs from right to left. -/
def inRightToLeft : List Direction :=
  [.rightToLeft, .arabicLetter, .arabicNumber, .europeanNumber, .europeanSeparator,
    .commonSeparator, .europeanTerminator, .otherNeutral, .boundaryNeutral, .nonspacingMark]

/-- Whether a label begins with a letter, and all of it keeps to that letter's direction up to its
end.  Two kinds of digits do not go together in a label that runs from right to left. -/
def keepsDirection (cs : List Char) : Bool :=
  let ds := cs.map direction
  let last := (ds.reverse.dropWhile (· == .nonspacingMark)).head?
  match ds.head? with
  | some .leftToRight =>
    ds.all inLeftToRight.contains && last.any [.leftToRight, .europeanNumber].contains
  | some .rightToLeft | some .arabicLetter =>
    ds.all inRightToLeft.contains &&
      last.any [.rightToLeft, .arabicLetter, .europeanNumber, .arabicNumber].contains &&
      !(ds.contains .europeanNumber && ds.contains .arabicNumber)
  | _ => false

/-! ### Names -/

def readLabels? (name : List Char) : Option (List (List Char)) := do
  let labels ← (Text.splitAt '.' name).mapM readLabel?
  if labels.any (·.any isRightToLeft) ∧ !labels.all fun cs => cs.isEmpty || keepsDirection cs then
    none
  else some labels

/-- The way in which a name is written. -/
def ofChars? (cs : List Char) : Option (List Char) := do
  let name := Unicode.normalize (← cs.mapM written?).flatten
  if name.any isForbidden then none
  else
    let _ ← readLabels? name
    some name

end PenPlotter.Domain
