import PenPlotter.Text.Utf8

/-! # Addresses of event streams

An event stream's address begins with `ws://` or `wss://` in lower case.  It is checked byte by
byte and used as it is written: nothing is trimmed, resolved or encoded. -/

namespace PenPlotter.StreamAddress

/-- A byte as a character. -/
def charOf (b : UInt8) : Char := Char.ofNat b.toNat

/-- The bytes that may stand between the scheme and the path, apart from a percent sign. -/
def isAuthorityByte (b : UInt8) : Bool :=
  b < 0x80 && ((charOf b).isAlphanum || "!$&'()*+,-.:;=@[]_~".toList.contains (charOf b))

/-- Where a check of the authority stands. -/
structure Progress where
  colons : Nat
  opened : Bool
  closed : Bool
  percent : Bool
  /-- Whether the latest byte was an at sign. -/
  atSign : Bool

/-- Takes one byte in.  What stands before an at sign or a closing bracket has no port, so its
colons and percent signs do not count. -/
def Progress.next? (p : Progress) (b : UInt8) : Option Progress :=
  let p' := { p with atSign := false }
  if b = 0x3A then (if 8 ≤ p.colons then none else some { p' with colons := p.colons + 1 })
  else if b = 0x5B then (if p.percent ∨ p.opened then none else some { p' with opened := true })
  else if b = 0x5D then
    if !p.opened ∨ p.closed then none
    else some { p' with closed := true, colons := 0, percent := false }
  else if b = 0x40 then some { p with colons := 0, percent := false, atSign := true }
  else if b = 0x25 then some { p' with percent := true }
  else if isAuthorityByte b then some p'
  else none

/-- Whether bytes are a host with an optional user and an optional port. -/
def isAuthority (bytes : List UInt8) : Bool :=
  match bytes.foldlM Progress.next? ⟨0, false, false, false, false⟩ with
  | some p => !bytes.isEmpty && p.opened == p.closed && p.colons ≤ 1 && !p.atSign && !p.percent
  | none => false

def isPathByte (b : UInt8) : Bool :=
  b == 0x21 || b == 0x22 || (0x24 ≤ b && b ≤ 0x3B) || b == 0x3D || (0x40 ≤ b && b ≤ 0x5F) ||
    (0x61 ≤ b && b != 0x7F)

def isQueryByte (b : UInt8) : Bool :=
  b == 0x21 || (0x24 ≤ b && b ≤ 0x3B) || b == 0x3D || (0x3F ≤ b && b != 0x7F)

def endsAuthority (b : UInt8) : Bool := b == 0x2F || b == 0x3F || b == 0x23

/-- What follows the scheme of a stream's address. -/
def afterScheme? : List UInt8 → Option (List UInt8)
  | 0x77 :: 0x73 :: 0x3A :: 0x2F :: 0x2F :: rest => some rest
  | 0x77 :: 0x73 :: 0x73 :: 0x3A :: 0x2F :: 0x2F :: rest => some rest
  | _ => none

def maxLength : Nat := 65534

/-- Whether a text is a stream's address. -/
def isValid (s : String) : Bool :=
  let bytes := Utf8.bytes s
  match afterScheme? bytes with
  | none => false
  | some rest =>
    let after := (rest.dropWhile (!endsAuthority ·)).takeWhile (· != 0x23)
    bytes.length ≤ maxLength && isAuthority (rest.takeWhile (!endsAuthority ·)) &&
      (after.takeWhile (· != 0x3F)).all isPathByte &&
      ((after.dropWhile (· != 0x3F)).drop 1).all isQueryByte

end PenPlotter.StreamAddress
