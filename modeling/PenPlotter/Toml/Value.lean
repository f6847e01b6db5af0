import PenPlotter.Toml.Numeral
import PenPlotter.Toml.Moment
import PenPlotter.Toml.Table

/-! # Written TOML values

`takeValue?` cuts a value off.  Arrays may run over several lines with comments between them,
inline tables stand on one line; `nestingLimit` bounds how deep the two may stand in one another,
and how many names a dotted key may have. -/

namespace PenPlotter.Toml

/-- The first depth that is too deep. -/
def nestingLimit : Nat := 80

/-- Passes spaces and tabs over. -/
def skipSpace (cs : List Char) : List Char := cs.dropWhile isSpace

/-- What follows a comment. -/
def skipComment : List Char → List Char
  | '#' :: rest => rest.dropWhile isPlain
  | cs => cs

/-- Passes white space, line ends and comments over; a comment has to end with its line. -/
def skipBlank (inComment : Bool) : List Char → List Char
  | [] => []
  | '\n' :: rest => skipBlank false rest
  | '\r' :: '\n' :: rest => skipBlank false rest
  | c :: rest =>
    if inComment then if isPlain c then skipBlank true rest else c :: rest
    else if isSpace c then skipBlank false rest
    else if c = '#' then skipBlank true rest
    else c :: rest

/-- The characters of a key without quotation marks. -/
def isKeyChar (c : Char) : Bool := c.isAlphanum || c == '-' || c == '_'

/-- Cuts one name of a key off. -/
def takeName? (cs : List Char) : Option (String × List Char) :=
  match takeLineText? cs with
  | some (text, rest) => some (String.ofList text, rest)
  | none =>
    let name := cs.takeWhile isKeyChar
    if name.isEmpty then none else some (String.ofList name, cs.dropWhile isKeyChar)

/-- Cuts a key off: names with points between them; `fuel` bounds their number. -/
def takeKey? (fuel : Nat) (cs : List Char) : Option (List String × List Char) :=
  match fuel with
  | 0 => none
  | fuel + 1 => do
    let (name, rest) ← takeName? (skipSpace cs)
    match skipSpace rest with
    | '.' :: more => do
      let (names, after) ← takeKey? fuel more
      some (name :: names, after)
    | after => some ([name], after)

/-- Splits the last name of a key off. -/
def splitKey? (names : List String) : Option (List String × String) :=
  names.getLast?.map fun name => (names.dropLast, name)

/-- Cuts a key, an equals sign and a value off. -/
def takePair? (value : List Char → Option (Toml × List Char)) (cs : List Char) :
    Option ((List String × String × Toml) × List Char) := do
  let (names, rest) ← takeKey? (nestingLimit - 1) cs
  let (path, name) ← splitKey? names
  let (v, after) ← value (skipSpace (← takeChar? '=' rest))
  some ((path, name, v), after)

/-- The characters of numbers, dates and words. -/
def isRunChar (c : Char) : Bool :=
  c.isAlphanum || c == '_' || c == '+' || c == '-' || c == '.' || c == ':'

/-- A value that is written by one word. -/
def wordValue? (run : List Char) : Option Toml :=
  if run = "true".toList then some (.boolean true)
  else if run = "false".toList then some (.boolean false)
  else if isMoment run then some (.moment (String.ofList run))
  else number? run

/-- Cuts a text, a number, a date, a time or a truth value off.  A time may follow its date after
a space. -/
def takeScalar? (cs : List Char) : Option (Toml × List Char) :=
  match takeText? cs with
  | some (text, rest) => some (.string (String.ofList text), rest)
  | none =>
    let run := cs.takeWhile isRunChar
    let rest := cs.dropWhile isRunChar
    match rest with
    | ' ' :: d :: more =>
      if isDate run ∧ d.isDigit then
        let time := (d :: more).takeWhile isRunChar
        if isTimeOfDate time then
          some (.moment (String.ofList (run ++ ' ' :: time)), (d :: more).dropWhile isRunChar)
        else none
      else (wordValue? run).map fun v => (v, rest)
    | _ => (wordValue? run).map fun v => (v, rest)

/-- The items of an array up to its closing bracket; `fuel` bounds their number. -/
def takeItems? (value : List Char → Option (Toml × List Char)) (fuel : Nat) (cs : List Char) :
    Option (List Toml × List Char) :=
  match fuel with
  | 0 => none
  | fuel + 1 =>
    match skipBlank false cs with
    | ']' :: rest => some ([], rest)
    | start => do
      let (v, after) ← value start
      match skipBlank false after with
      | ']' :: rest => some ([v], rest)
      | ',' :: more => do
        let (vs, rest) ← takeItems? value fuel more
        some (v :: vs, rest)
      | _ => none

/-- The pairs of an inline table up to its closing brace, added to `ms`. -/
def takePairs? (value : List Char → Option (Toml × List Char)) (fuel : Nat) (ms : Members)
    (cs : List Char) : Option (Members × List Char) :=
  match fuel with
  | 0 => none
  | fuel + 1 => do
    let ((path, name, v), after) ← takePair? value cs
    let (_, ms') ← ms.put? path name v .defined
    match skipSpace after with
    | ',' :: more => takePairs? value fuel ms' more
    | '\x7d' :: rest => some (ms', rest)
    | _ => none

/-- Cuts a value off in which `depth` arrays and inline tables may stand in one another. -/
def takeNested? : Nat → List Char → Option (Toml × List Char)
  | 0, cs => takeScalar? cs
  | depth + 1, cs =>
    match cs with
    | '[' :: rest => (takeItems? (takeNested? depth) (rest.length + 1) rest).map fun (vs, after) =>
        (.array vs, after)
    | '\x7b' :: rest =>
      match skipSpace rest with
      | '\x7d' :: after => some (.table [], after)
      | start => (takePairs? (takeNested? depth) (start.length + 1) [] start).map
          fun (ms, after) => (.table (Node.finishMembers ms), after)
    | cs => takeScalar? cs

def takeValue? (cs : List Char) : Option (Toml × List Char) := takeNested? (nestingLimit - 1) cs

end PenPlotter.Toml
