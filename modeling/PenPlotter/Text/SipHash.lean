/-! # SipHash-1-3

The keyed hash with one round for each eight-byte word and three at the end, here with both
keys zero.  `ofString` hashes the UTF-8 bytes of a text and one byte `0xff` that ends it, so
that no text is hashed like the beginning of another. -/

namespace PenPlotter.SipHash

/-- The four words of the hash state. -/
structure State where
  v0 : UInt64
  v1 : UInt64
  v2 : UInt64
  v3 : UInt64

/-- The state for the key of zeros. -/
def State.start : State :=
  ⟨0x736f6d6570736575, 0x646f72616e646f6d, 0x6c7967656e657261, 0x7465646279746573⟩

/-- Rotates a word to the left. -/
def rotate (x : UInt64) (n : UInt64) : UInt64 := (x <<< n) ||| (x >>> (64 - n))

/-- One round of mixing. -/
def State.round (s : State) : State :=
  let v0 := s.v0 + s.v1
  let v1 := rotate s.v1 13 ^^^ v0
  let v0 := rotate v0 32
  let v2 := s.v2 + s.v3
  let v3 := rotate s.v3 16 ^^^ v2
  let v0 := v0 + v3
  let v3 := rotate v3 21 ^^^ v0
  let v2 := v2 + v1
  let v1 := rotate v1 17 ^^^ v2
  let v2 := rotate v2 32
  ⟨v0, v1, v2, v3⟩

/-- Takes one word in. -/
def State.absorb (s : State) (word : UInt64) : State :=
  let s := State.round { s with v3 := s.v3 ^^^ word }
  { s with v0 := s.v0 ^^^ word }

/-- The word that a list of bytes writes, least significant byte first. -/
def word (bytes : List UInt8) : UInt64 :=
  bytes.foldr (fun b w => (w <<< 8) ||| b.toUInt64) 0

/-- Absorbs all whole words, then the remaining bytes below the byte count. -/
def absorbAll (count : UInt64) (s : State) : List UInt8 → State
  | a :: b :: c :: d :: e :: f :: g :: h :: rest =>
    absorbAll count (s.absorb (word [a, b, c, d, e, f, g, h])) rest
  | rest => s.absorb (word rest ||| (count <<< 56))

/-- The last three rounds and the sum of the state. -/
def State.finish (s : State) : UInt64 :=
  let s := State.round (State.round (State.round { s with v2 := s.v2 ^^^ 0xff }))
  s.v0 ^^^ s.v1 ^^^ s.v2 ^^^ s.v3

def ofBytes (bytes : List UInt8) : UInt64 :=
  (absorbAll bytes.length.toUInt64 State.start bytes).finish

def ofString (s : String) : UInt64 := ofBytes (s.toUTF8.toList ++ [0xff])

end PenPlotter.SipHash
