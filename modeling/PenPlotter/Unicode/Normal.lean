import PenPlotter.Unicode.CombiningClass
import PenPlotter.Unicode.Decomposition

/-! # Normal form

Texts that mean the same have one normal form.  `normalize` takes all characters apart, puts the
marks after each letter into their canonical order, and composes again what can be composed. -/

namespace PenPlotter.Unicode

/-! ### Syllables of Hangul

A syllable has a leading consonant, a vowel and at most one trailing consonant; the numbers of
the syllables count through all combinations. -/

def syllableParts? (c : Char) : Option (List Char) :=
  let n := c.toNat
  if 0xAC00 ≤ n ∧ n < 0xD7A4 then
    let k := n - 0xAC00
    let lead := Char.ofNat (0x1100 + k / 588)
    let vowel := Char.ofNat (0x1161 + k % 588 / 28)
    if k % 28 = 0 then some [lead, vowel]
    else some [lead, vowel, Char.ofNat (0x11A7 + k % 28)]
  else none

/-- The syllable of a leading consonant and a vowel, or of a syllable and a trailing consonant. -/
def syllable? (a b : Char) : Option Char :=
  let m := a.toNat
  let n := b.toNat
  if 0x1100 ≤ m ∧ m < 0x1113 ∧ 0x1161 ≤ n ∧ n < 0x1176 then
    some (Char.ofNat (0xAC00 + ((m - 0x1100) * 21 + (n - 0x1161)) * 28))
  else if 0xAC00 ≤ m ∧ m < 0xD7A4 ∧ (m - 0xAC00) % 28 = 0 ∧ 0x11A8 ≤ n ∧ n < 0x11C3 then
    some (Char.ofNat (m + (n - 0x11A7)))
  else none

/-! ### Taking characters apart -/

/-- The pairs that a list of characters consists of. -/
def pairUp : List Char → List (Char × Char)
  | a :: b :: rest => (a, b) :: pairUp rest
  | _ => []

/-- All composites: the first character, the second one and the composite. -/
def compositeList : List (Char × Char × Char) :=
  composites.flatMap fun row =>
    (pairUp row.pairs.toList).map fun (first, whole) => (first, Char.ofNat row.second, whole)

/-- The characters that a character is made of, or the ones that are written for it. -/
def apart? (c : Char) : Option (List Char) :=
  match syllableParts? c with
  | some parts => some parts
  | none =>
    match compositeList.find? (·.2.2 == c) with
    | some (first, second, _) => some [first, second]
    | none =>
      match character? substitutes c with
      | some other => some [other]
      | none => word? spellings c

/-- How often a part can be taken apart again. -/
def maxDepth : Nat := 4

/-- Takes characters apart, and their parts again at most `depth` times. -/
def decomposeWithin : Nat → Char → List Char
  | 0, c => [c]
  | depth + 1, c =>
    if c.toNat < 0xC0 then [c]
    else match apart? c with
      | some parts => parts.flatMap (decomposeWithin depth)
      | none => [c]

/-- The smallest parts of a character. -/
def decompose (c : Char) : List Char := decomposeWithin maxDepth c

/-! ### Order -/

/-- Puts a character in front of a text, behind the marks of lower classes. -/
def insertMark (c : Char) : List Char → List Char
  | [] => [c]
  | d :: rest =>
    if combiningClass d ≠ 0 ∧ combiningClass d < combiningClass c then d :: insertMark c rest
    else c :: d :: rest

/-- Puts marks that follow one another into the order of their classes. -/
def reorder (cs : List Char) : List Char := cs.foldr insertMark []

/-! ### Composing -/

/-- The character that two others make up. -/
def composite? (a b : Char) : Option Char :=
  match syllable? a b with
  | some whole => some whole
  | none => (compositeList.find? fun entry => entry.1 == a && entry.2.1 == b).map (·.2.2)

/-- Whether a character is kept from the letter before it by a mark in between, the latest of
which comes first. -/
def isBlocked (c : Char) : List Char → Bool
  | [] => false
  | d :: _ => combiningClass c ≤ combiningClass d

/-- Composes a letter with what follows; `between` are the marks after it that were left, in
reverse. -/
def composeAfter (letter : Char) (between : List Char) : List Char → List Char
  | [] => letter :: between.reverse
  | c :: rest =>
    match if isBlocked c between then none else composite? letter c with
    | some whole => composeAfter whole between rest
    | none =>
      if combiningClass c = 0 then letter :: between.reverse ++ composeAfter c [] rest
      else composeAfter letter (c :: between) rest

def compose : List Char → List Char
  | [] => []
  | c :: rest => if combiningClass c = 0 then composeAfter c [] rest else c :: compose rest

/-- The normal form of a text.  Texts of ASCII characters are normal. -/
def normalize (cs : List Char) : List Char :=
  if cs.all (·.toNat < 0x80) then cs else compose (reorder (cs.flatMap decompose))

end PenPlotter.Unicode
