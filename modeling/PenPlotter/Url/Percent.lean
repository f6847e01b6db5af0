import PenPlotter.Text.Utf8

/-! # Percent-encoding

A byte that may not stand in a part of an address is written as a percent sign and two
hexadecimal digits.  What may stand depends on the part; bytes outside ASCII never do. -/

namespace PenPlotter.Percent

/-- An upper-case hexadecimal digit. -/
def hexDigit (n : Nat) : Char := (Nat.digitChar n).toUpper

def hexValue? (b : UInt8) : Option Nat :=
  let n := b.toNat
  if 0x30 ≤ n ∧ n ≤ 0x39 then some (n - 0x30)
  else if 0x41 ≤ n ∧ n ≤ 0x46 then some (n - 0x41 + 10)
  else if 0x61 ≤ n ∧ n ≤ 0x66 then some (n - 0x61 + 10)
  else none

def encodeByte (escapes : UInt8 → Bool) (b : UInt8) : List Char :=
  if 0x80 ≤ b ∨ escapes b then ['%', hexDigit (b.toNat / 16), hexDigit (b.toNat % 16)]
  else [Char.ofNat b.toNat]

/-- The written form of a text in a part where the bytes `escapes` may not stand. -/
def encode (escapes : UInt8 → Bool) (s : String) : String :=
  String.ofList ((Utf8.bytes s).flatMap (encodeByte escapes))

/-- The bytes that an encoded text stands for; a percent sign without two digits stands for
itself. -/
def decodeBytes : List UInt8 → List UInt8
  | 0x25 :: h :: l :: rest =>
    match hexValue? h, hexValue? l with
    | some x, some y => UInt8.ofNat (x * 16 + y) :: decodeBytes rest
    | _, _ => 0x25 :: decodeBytes (h :: l :: rest)
  | b :: rest => b :: decodeBytes rest
  | [] => []

def isControl (b : UInt8) : Bool := b < 0x20 || b == 0x7F

/-- The characters of a text as bytes. -/
def isAnyOf (s : String) (b : UInt8) : Bool := (Utf8.bytes s).contains b

/-- What may not stand in a path. -/
def escapesInPath (b : UInt8) : Bool := isControl b || isAnyOf " \"#<>?`\x7b\x7d" b

/-- What may not stand in a query. -/
def escapesInQuery (b : UInt8) : Bool := isControl b || isAnyOf " \"#<>'" b

end PenPlotter.Percent
