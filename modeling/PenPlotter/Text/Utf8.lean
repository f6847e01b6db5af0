/-! # UTF-8

Bytes and the characters they write.  `Utf8.decode` gives a character for each well-formed
sequence and nothing for each longest beginning of one that is broken off; `Utf8.lossy` puts the
replacement character there, `Utf8.text?` accepts well-formed bytes only. -/

namespace PenPlotter.Utf8

/-- A sequence that has begun: the bits so far, how many bytes are missing, and the range of the
next one. -/
structure Begun where
  bits : Nat
  missing : Nat
  low : UInt8
  high : UInt8

/-- A first byte: the character it is, or the sequence it begins. -/
def first? (b : UInt8) : Option (Char ⊕ Begun) :=
  let n := b.toNat
  if n < 0x80 then some (.inl (Char.ofNat n))
  else if n < 0xC2 then none
  else if n < 0xE0 then some (.inr ⟨n - 0xC0, 1, 0x80, 0xBF⟩)
  else if n = 0xE0 then some (.inr ⟨0, 2, 0xA0, 0xBF⟩)
  else if n = 0xED then some (.inr ⟨0xD, 2, 0x80, 0x9F⟩)
  else if n < 0xF0 then some (.inr ⟨n - 0xE0, 2, 0x80, 0xBF⟩)
  else if n = 0xF0 then some (.inr ⟨0, 3, 0x90, 0xBF⟩)
  else if n < 0xF4 then some (.inr ⟨n - 0xF0, 3, 0x80, 0xBF⟩)
  else if n = 0xF4 then some (.inr ⟨4, 3, 0x80, 0x8F⟩)
  else none

/-- The characters of bytes, and nothing for each broken sequence. -/
def decodeFrom (begun : Option Begun) : List UInt8 → List (Option Char)
  | [] => if begun.isSome then [none] else []
  | b :: rest =>
    let start := fun _ : Unit => match first? b with
      | none => none :: decodeFrom none rest
      | some (.inl c) => some c :: decodeFrom none rest
      | some (.inr s) => decodeFrom (some s) rest
    match begun with
    | none => start ()
    | some s =>
      if s.low ≤ b ∧ b ≤ s.high then
        let bits := s.bits * 64 + (b.toNat - 0x80)
        if s.missing = 1 then some (Char.ofNat bits) :: decodeFrom none rest
        else decodeFrom (some ⟨bits, s.missing - 1, 0x80, 0xBF⟩) rest
      else none :: start ()

/-- The characters of bytes, and nothing for each broken sequence. -/
def decode (bytes : List UInt8) : List (Option Char) := decodeFrom none bytes

/-- What stands for a broken sequence. -/
def replacement : Char := '\uFFFD'

/-- The text of bytes, with the replacement character for each broken sequence. -/
def lossy (bytes : List UInt8) : String :=
  String.ofList ((decode bytes).map (·.getD replacement))

/-- The text of well-formed bytes. -/
def text? (bytes : List UInt8) : Option String := ((decode bytes).mapM id).map String.ofList

def bytes (s : String) : List UInt8 := s.toUTF8.toList

end PenPlotter.Utf8
