import PenPlotter.Decimal.Basic

/-! # Quoted TOML texts

A text is written in one of four ways: between quotation marks with escapes, between apostrophes
as it is, or between three of either, where line ends may stand in it.  `quoted` takes the first
way that needs no escapes; `takeText?` reads all four. -/

namespace PenPlotter.Toml

/-! ### Writing -/

/-- Whether a character must be escaped and cannot stand for itself anywhere. -/
def needsCode (c : Char) : Bool :=
  c != '\t' && c != '\n' && (c.toNat ≤ 0x1f || c.toNat == 0x7f)

def longestRun (c : Char) (cs : List Char) : Nat :=
  (cs.foldl (fun (best, run) d => if d = c then (max best (run + 1), run + 1) else (best, 0))
    (0, 0)).1

/-- Four upper-case hexadecimal digits. -/
def hexFour (n : Nat) : List Char :=
  [n / 4096 % 16, n / 256 % 16, n / 16 % 16, n % 16].map fun d => (Nat.digitChar d).toUpper

/-- The escaped form of a character other than a quotation mark. -/
def escape (multiLine : Bool) (c : Char) : List Char :=
  match c.toNat with
  | 8 => ['\\', 'b']
  | 9 => ['\\', 't']
  | 10 => if multiLine then ['\n'] else ['\\', 'n']
  | 12 => ['\\', 'f']
  | 13 => ['\\', 'r']
  | 92 => ['\\', '\\']
  | n => if n ≤ 0x1f ∨ n = 0x7f then '\\' :: 'u' :: hexFour n else [c]

/-- The body of a text with escapes; `allowed` quotation marks may stand in a row, `run` of which
were just written. -/
def escapeAll (multiLine : Bool) (allowed run : Nat) : List Char → List Char
  | [] => []
  | c :: rest =>
    if c = '"' then
      if run < allowed then '"' :: escapeAll multiLine allowed (run + 1) rest
      else '\\' :: '"' :: escapeAll multiLine allowed 0 rest
    else escape multiLine c ++ escapeAll multiLine allowed 0 rest

/-- A text between quotation marks. -/
def basic (cs : List Char) : List Char := '"' :: escapeAll false 0 0 cs ++ ['"']

/-- A line end where a text over several lines begins. -/
def opening (cs : List Char) : List Char := if cs.contains '\n' then ['\n'] else []

/-- A text between three quotation marks. -/
def basicLines (cs : List Char) : List Char :=
  ['"', '"', '"'] ++ opening cs ++ escapeAll true 2 0 cs ++ ['"', '"', '"']

/-- A text between apostrophes. -/
def literal (cs : List Char) : List Char := '\'' :: cs ++ ['\'']

/-- A text between three apostrophes. -/
def literalLines (cs : List Char) : List Char :=
  ['\'', '\'', '\''] ++ opening cs ++ cs ++ ['\'', '\'', '\'']

/-- The written form of a text. -/
def quoted (s : String) : String :=
  let cs := s.toList
  let codes := cs.any needsCode
  let escapes := cs.contains '\\'
  let lines := cs.contains '\n'
  let doubles := longestRun '"' cs
  let singles := longestRun '\'' cs
  String.ofList <|
    if !codes && !escapes && doubles == 0 && !lines then basic cs
    else if !codes && singles == 0 && !lines then literal cs
    else if !codes && !escapes && doubles ≤ 2 then basicLines cs
    else if !codes && singles ≤ 2 then literalLines cs
    else if lines then basicLines cs
    else basic cs

/-! ### Reading -/

/-- The characters that may stand in a comment or between apostrophes. -/
def isPlain (c : Char) : Bool := c == '\t' || (0x20 ≤ c.toNat && c.toNat != 0x7f)

def hexValue? (c : Char) : Option Nat :=
  if c.isDigit then some (digitValue c)
  else if 'a' ≤ c ∧ c ≤ 'f' then some (c.toNat - 'a'.toNat + 10)
  else if 'A' ≤ c ∧ c ≤ 'F' then some (c.toNat - 'A'.toNat + 10)
  else none

/-- The character that hexadecimal digits stand for. -/
def charOfHex? (ds : List Char) : Option Char := do
  let n ← ds.foldlM (fun n d => (hexValue? d).map (n * 16 + ·)) 0
  if n < 0xD800 ∨ (0xE000 ≤ n ∧ n < 0x110000) then some (Char.ofNat n) else none

/-- The character that an escape letter stands for. -/
def escaped? : Char → Option Char
  | 'b' => some (Char.ofNat 8)
  | 't' => some '\t'
  | 'n' => some '\n'
  | 'f' => some (Char.ofNat 12)
  | 'r' => some '\r'
  | '"' => some '"'
  | '\\' => some '\\'
  | _ => none

/-- Space and tab. -/
def isSpace (c : Char) : Bool := c == ' ' || c == '\t'

/-- Cuts a line end off. -/
def takeNewline? : List Char → Option (List Char)
  | '\n' :: rest => some rest
  | '\r' :: '\n' :: rest => some rest
  | _ => none

/-- The text up to a closing quotation mark on the same line. -/
def takeBasic? : List Char → Option (List Char × List Char)
  | [] => none
  | '"' :: rest => some ([], rest)
  | '\\' :: 'u' :: a :: b :: c :: d :: rest => do
    let x ← charOfHex? [a, b, c, d]
    let (text, after) ← takeBasic? rest
    some (x :: text, after)
  | '\\' :: 'U' :: a :: b :: c :: d :: e :: f :: g :: h :: rest => do
    let x ← charOfHex? [a, b, c, d, e, f, g, h]
    let (text, after) ← takeBasic? rest
    some (x :: text, after)
  | '\\' :: e :: rest => do
    let x ← escaped? e
    let (text, after) ← takeBasic? rest
    some (x :: text, after)
  | c :: rest =>
    if c = '\\' ∨ !isPlain c then none
    else do
      let (text, after) ← takeBasic? rest
      some (c :: text, after)

/-- The text up to a closing apostrophe on the same line. -/
def takeLiteral? : List Char → Option (List Char × List Char)
  | [] => none
  | '\'' :: rest => some ([], rest)
  | c :: rest =>
    if !isPlain c then none
    else do
      let (text, after) ← takeLiteral? rest
      some (c :: text, after)

/-- How a text over several lines goes on after a backslash at a line end: white space and line
ends are passed over. -/
inductive LineMode where
  | text
  /-- After a backslash that only spaces have followed so far. -/
  | pending
  /-- After a backslash and a line end. -/
  | skipping
deriving Repr, DecidableEq

/-- Three to five marks close a text; those before the last three belong to it. -/
def closing? (mark : Char) : List Char → Option (List Char × List Char)
  | a :: b :: c :: rest =>
    if a = mark ∧ b = mark ∧ c = mark then
      match rest with
      | d :: e :: more =>
        if d = mark ∧ e = mark then some ([mark, mark], more)
        else if d = mark then some ([mark], e :: more)
        else some ([], rest)
      | [d] => if d = mark then some ([mark], []) else some ([], rest)
      | [] => some ([], [])
    else none
  | _ => none

/-- The text up to three closing quotation marks. -/
def takeBasicLines? (mode : LineMode) (cs : List Char) : Option (List Char × List Char) :=
  match cs with
  | [] => none
  | '\\' :: 'u' :: a :: b :: c :: d :: rest =>
    if mode = .pending then none
    else do
      let x ← charOfHex? [a, b, c, d]
      let (text, after) ← takeBasicLines? .text rest
      some (x :: text, after)
  | '\\' :: 'U' :: a :: b :: c :: d :: e :: f :: g :: h :: rest =>
    if mode = .pending then none
    else do
      let x ← charOfHex? [a, b, c, d, e, f, g, h]
      let (text, after) ← takeBasicLines? .text rest
      some (x :: text, after)
  | '\\' :: e :: rest =>
    if mode = .pending then none
    else
      match escaped? e with
      | some x => do
        let (text, after) ← takeBasicLines? .text rest
        some (x :: text, after)
      | none =>
        if isSpace e then takeBasicLines? .pending rest
        else if e = '\n' then takeBasicLines? .skipping rest
        else if e = '\r' then
          match rest with
          | '\n' :: rest' => takeBasicLines? .skipping rest'
          | _ => none
        else none
  | '\r' :: '\n' :: rest =>
    if mode = .text then do
      let (text, after) ← takeBasicLines? .text rest
      some ('\n' :: text, after)
    else takeBasicLines? .skipping rest
  | '\n' :: rest =>
    if mode = .text then do
      let (text, after) ← takeBasicLines? .text rest
      some ('\n' :: text, after)
    else takeBasicLines? .skipping rest
  | c :: rest =>
    if mode ≠ .text ∧ isSpace c then takeBasicLines? mode rest
    else if mode = .pending then none
    else
      match (if c = '"' then closing? '"' (c :: rest) else none) with
      | some closed => some closed
      | none =>
        if c = '\\' ∨ !isPlain c then none
        else do
          let (text, after) ← takeBasicLines? .text rest
          some (c :: text, after)

/-- The text up to three closing apostrophes. -/
def takeLiteralLines? (cs : List Char) : Option (List Char × List Char) :=
  match cs with
  | [] => none
  | '\r' :: '\n' :: rest => do
    let (text, after) ← takeLiteralLines? rest
    some ('\n' :: text, after)
  | '\n' :: rest => do
    let (text, after) ← takeLiteralLines? rest
    some ('\n' :: text, after)
  | c :: rest =>
    match (if c = '\'' then closing? '\'' (c :: rest) else none) with
    | some closed => some closed
    | none =>
      if !isPlain c then none
      else do
        let (text, after) ← takeLiteralLines? rest
        some (c :: text, after)

/-- A text over several lines may begin with a line end that does not belong to it. -/
def skipOpening (cs : List Char) : List Char := (takeNewline? cs).getD cs

/-- A text on one line, as keys are quoted. -/
def takeLineText? : List Char → Option (List Char × List Char)
  | '"' :: rest => takeBasic? rest
  | '\'' :: rest => takeLiteral? rest
  | _ => none

/-- A text in any of the four ways. -/
def takeText? : List Char → Option (List Char × List Char)
  | '"' :: '"' :: '"' :: rest => takeBasicLines? .text (skipOpening rest)
  | '\'' :: '\'' :: '\'' :: rest => takeLiteralLines? (skipOpening rest)
  | cs => takeLineText? cs

end PenPlotter.Toml
