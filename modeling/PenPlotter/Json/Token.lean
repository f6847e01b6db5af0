import PenPlotter.Json.Numeral

/-! # JSON tokens

`scan` cuts a text into brackets, separators, numerals, quoted texts and the three words.  The
text comes as a list of characters, with `none` wherever its bytes write no character.  A quoted
text may hold such places, and escapes that pair up to no character; it is well-formed then but
has no value, and is kept as `none`. -/

namespace PenPlotter.Json

/-- A quoted text, if all of it stands for characters. -/
abbrev Literal := Option String

/-- The smallest parts of a JSON text. -/
inductive Token where
  | openBracket
  | closeBracket
  | openBrace
  | closeBrace
  | comma
  | colon
  | null
  | bool (b : Bool)
  | number (n : Numeral)
  | string (s : Literal)
deriving Repr, DecidableEq, Inhabited

/-- A part of a quoted text: a character, one unit given by four hexadecimal digits, or bytes
that write no character. -/
inductive Piece where
  | char (c : Char)
  | unit (n : Nat)
  | broken
deriving Repr, DecidableEq, Inhabited

def hexDigit? (c : Char) : Option Nat :=
  if c.isDigit then some (digitValue c)
  else if 'a' ≤ c ∧ c ≤ 'f' then some (c.toNat - 'a'.toNat + 10)
  else if 'A' ≤ c ∧ c ≤ 'F' then some (c.toNat - 'A'.toNat + 10)
  else none

/-- The character of an escape letter. -/
def escaped? (c : Char) : Option Char :=
  match c with
  | '"' => some '"'
  | '\\' => some '\\'
  | '/' => some '/'
  | 'b' => some (Char.ofNat 8)
  | 'f' => some (Char.ofNat 12)
  | 'n' => some '\n'
  | 'r' => some '\r'
  | 't' => some '\t'
  | _ => none

/-- The pieces of a quoted text up to its closing quotation mark, and what follows it.  Control
characters have to be escaped. -/
def takeQuoted? : List (Option Char) → Option (List Piece × List (Option Char))
  | [] => none
  | none :: rest => do
    let (pieces, after) ← takeQuoted? rest
    some (.broken :: pieces, after)
  | some '"' :: rest => some ([], rest)
  | some '\\' :: some 'u' :: some a :: some b :: some c :: some d :: rest => do
    let a ← hexDigit? a
    let b ← hexDigit? b
    let c ← hexDigit? c
    let d ← hexDigit? d
    let (pieces, after) ← takeQuoted? rest
    some (.unit (((a * 16 + b) * 16 + c) * 16 + d) :: pieces, after)
  | some '\\' :: some e :: rest => do
    let c ← escaped? e
    let (pieces, after) ← takeQuoted? rest
    some (.char c :: pieces, after)
  | some c :: rest =>
    if c.toNat < 32 ∨ c = '\\' then none
    else do
      let (pieces, after) ← takeQuoted? rest
      some (.char c :: pieces, after)

/-- Joins the pieces of a quoted text; surrogate units have to come in pairs. -/
def joinPieces : List Piece → Option (List Char)
  | [] => some []
  | .char c :: rest => (joinPieces rest).map (c :: ·)
  | .unit high :: .unit low :: rest =>
    if 0xD800 ≤ high ∧ high < 0xDC00 then
      if 0xDC00 ≤ low ∧ low < 0xE000 then
        (joinPieces rest).map
          (Char.ofNat (0x10000 + (high - 0xD800) * 0x400 + (low - 0xDC00)) :: ·)
      else none
    else if 0xDC00 ≤ high ∧ high < 0xE000 then none
    else (joinPieces (.unit low :: rest)).map (Char.ofNat high :: ·)
  | .unit n :: rest =>
    if 0xD800 ≤ n ∧ n < 0xE000 then none else (joinPieces rest).map (Char.ofNat n :: ·)
  | .broken :: _ => none

/-- The text that the pieces stand for. -/
def literal (pieces : List Piece) : Literal := (joinPieces pieces).map String.ofList

/-- Space, tab and line ends may stand between tokens. -/
def isSpace (c : Char) : Bool := c == ' ' || c == '\n' || c == '\t' || c == '\r'

/-- The token that is one character. -/
def punctuation? (c : Char) : Option Token :=
  match c with
  | '[' => some .openBracket
  | ']' => some .closeBracket
  | '\x7b' => some .openBrace
  | '\x7d' => some .closeBrace
  | ',' => some .comma
  | ':' => some .colon
  | _ => none

def word? (cs : List Char) : Option Token :=
  if cs = ['n', 'u', 'l', 'l'] then some .null
  else if cs = ['t', 'r', 'u', 'e'] then some (.bool true)
  else if cs = ['f', 'a', 'l', 's', 'e'] then some (.bool false)
  else none

/-- The characters of a kind that a text begins with, and what follows them. -/
def span (p : Char → Bool) : List (Option Char) → List Char × List (Option Char)
  | some c :: rest =>
    if p c then
      let (found, after) := span p rest
      (c :: found, after)
    else ([], some c :: rest)
  | rest => ([], rest)

/-- The token at the beginning of a text that starts with no space, and what follows it. -/
def token? : List (Option Char) → Option (Token × List (Option Char))
  | some c :: rest =>
    match punctuation? c with
    | some t => some (t, rest)
    | none =>
      if c = '"' then (takeQuoted? rest).map fun r => (.string (literal r.1), r.2)
      else if c.isAlpha then
        let (letters, after) := span Char.isAlpha rest
        (word? (c :: letters)).map fun t => (t, after)
      else
        let (digits, after) := span Numeral.isPart rest
        (Numeral.ofChars? (c :: digits)).map fun n => (.number n, after)
  | _ => none

section progress

theorem takeQuoted?_length : ∀ {cs : List (Option Char)} {pieces : List Piece}
    {after : List (Option Char)}, takeQuoted? cs = some (pieces, after) →
    after.length < cs.length := by
  intro cs
  fun_induction takeQuoted? cs with
  | case1 => intro _ _ h; simp at h
  | case3 rest => intro _ _ h; simp at h; simp [h.2]
  | case4 a b c d rest ih =>
    intro _ _ h
    simp only [Option.bind_eq_bind, Option.bind_eq_some_iff, Option.some.injEq,
      Prod.mk.injEq] at h
    obtain ⟨_, _, _, _, _, _, _, _, ⟨p, q⟩, h5, _, rfl⟩ := h
    have := ih h5
    simp only [List.length_cons]
    omega
  | case5 e rest _ ih =>
    intro _ _ h
    simp only [Option.bind_eq_bind, Option.bind_eq_some_iff, Option.some.injEq,
      Prod.mk.injEq] at h
    obtain ⟨_, _, ⟨p, q⟩, h5, _, rfl⟩ := h
    have := ih h5
    simp only [List.length_cons]
    omega
  | case6 => intro _ _ h; simp at h
  | case2 rest ih | case7 c rest _ _ _ _ ih =>
    intro _ _ h
    simp only [Option.bind_eq_bind, Option.bind_eq_some_iff, Option.some.injEq,
      Prod.mk.injEq] at h
    obtain ⟨⟨p, q⟩, h5, _, rfl⟩ := h
    have := ih h5
    simp only [List.length_cons]
    omega

theorem span_length_le (p : Char → Bool) (cs : List (Option Char)) :
    (span p cs).2.length ≤ cs.length := by
  fun_induction span p cs with
  | case1 c rest _ found after _ ih => simp_all only [List.length_cons]; omega
  | case2 => simp
  | case3 => simp

theorem token?_length {cs : List (Option Char)} {t : Token} {after : List (Option Char)}
    (h : token? cs = some (t, after)) : after.length < cs.length := by
  match cs with
  | [] => simp [token?] at h
  | none :: _ => simp [token?] at h
  | some c :: rest =>
    simp only [token?] at h
    split at h
    · simp only [Option.some.injEq, Prod.mk.injEq] at h
      simp [← h.2]
    · split at h
      · simp only [Option.map_eq_some_iff, Prod.mk.injEq] at h
        obtain ⟨⟨p, q⟩, hq, _, rfl⟩ := h
        have := takeQuoted?_length hq
        simp only [List.length_cons]
        omega
      · split at h
        · simp only [Option.map_eq_some_iff, Prod.mk.injEq] at h
          obtain ⟨_, _, _, rfl⟩ := h
          have := span_length_le Char.isAlpha rest
          simp only [List.length_cons]
          omega
        · simp only [Option.map_eq_some_iff, Prod.mk.injEq] at h
          obtain ⟨_, _, _, rfl⟩ := h
          have := span_length_le Numeral.isPart rest
          simp only [List.length_cons]
          omega

end progress

def scan (cs : List (Option Char)) : Option (List Token) :=
  match cs with
  | [] => some []
  | c :: rest =>
    if c.any isSpace then scan rest
    else
      match _h : token? (c :: rest) with
      | none => none
      | some (t, after) => (scan after).map (t :: ·)
termination_by cs.length
decreasing_by
  · simp
  · exact token?_length _h

end PenPlotter.Json
