import PenPlotter.Proofs.Decimal.Digits
import PenPlotter.Proofs.Toolpath.Scanning

/-! # The case of letters

Programs are read alike in both cases of the ASCII letters.  What the scanners ask of a character
has the same answer for its small form (`traits_toLower`), so every scanner of a line gives the
small form of what it gave (`code_map_toLower`, `words_map_toLower`), or just the same, where only
the kind of a word or the characters of a number are left (`motion?_map_toLower`,
`coordinateText?_map_toLower`).  `ofLine?_map_toLower` puts them together. -/

namespace PenPlotter
namespace Program

/-! ### Characters -/

section characters

/-- What the scanners ask of a character. -/
structure Traits where
  word : Bool
  blank : Bool
  coordinate : Bool
  code : Bool
  newline : Bool
  zero : Bool
  digit : Option Bool
  small : Char
deriving DecidableEq

/-- The answers for a character. -/
def traits (c : Char) : Traits :=
  ⟨Text.isWord c, Text.isBlank c, isCoordinate c, c != ';', c == '\n', c == '0',
    motionWord?.digit? c, c.toLower⟩

theorem toLower_of_not_capital {c : Char} (h : ¬ (65 ≤ c.toNat ∧ c.toNat ≤ 90)) :
    c.toLower = c := by
  rw [← Char.toNat_inj, toNat_toLower, if_neg h]

theorem traits_toLower (c : Char) : traits c.toLower = traits c := by
  have hascii : ∀ n < 128, traits (Char.ofNat n).toLower = traits (Char.ofNat n) := by
    decide +kernel
  by_cases hc : c.toNat < 128
  · have hn := hascii c.toNat hc
    rwa [Char.ofNat_toNat] at hn
  · rw [toLower_of_not_capital (by omega)]

theorem isWord_toLower (c : Char) : Text.isWord c.toLower = Text.isWord c :=
  congrArg Traits.word (traits_toLower c)

theorem isBlank_toLower (c : Char) : Text.isBlank c.toLower = Text.isBlank c :=
  congrArg Traits.blank (traits_toLower c)

theorem isCoordinate_toLower (c : Char) : isCoordinate c.toLower = isCoordinate c :=
  congrArg Traits.coordinate (traits_toLower c)

theorem bne_semicolon_toLower (c : Char) : (c.toLower != ';') = (c != ';') :=
  congrArg Traits.code (traits_toLower c)

theorem beq_newline_toLower (c : Char) : (c.toLower == '\n') = (c == '\n') :=
  congrArg Traits.newline (traits_toLower c)

theorem beq_zero_toLower (c : Char) : (c.toLower == '0') = (c == '0') :=
  congrArg Traits.zero (traits_toLower c)

theorem digit?_toLower (c : Char) : motionWord?.digit? c.toLower = motionWord?.digit? c :=
  congrArg Traits.digit (traits_toLower c)

theorem toLower_toLower (c : Char) : c.toLower.toLower = c.toLower :=
  congrArg Traits.small (traits_toLower c)

theorem toLower_of_isCoordinate {c : Char} (h : isCoordinate c) : c.toLower = c := by
  refine toLower_of_not_capital ?_
  simp only [isCoordinate, Bool.or_eq_true, beq_iff_eq, isDigit_iff] at h
  rcases h with ((rfl | rfl) | rfl) | h
  · decide
  · decide
  · decide
  · omega

end characters

/-! ### Lists of characters -/

section lists

variable {p : Char → Bool} (h : ∀ c, p c.toLower = p c) (cs : List Char)

include h

theorem takeWhile_map_toLower :
    (cs.map Char.toLower).takeWhile p = (cs.takeWhile p).map Char.toLower := by
  rw [List.takeWhile_map, show p ∘ Char.toLower = p from funext h]

theorem dropWhile_map_toLower :
    (cs.map Char.toLower).dropWhile p = (cs.dropWhile p).map Char.toLower := by
  rw [List.dropWhile_map, show p ∘ Char.toLower = p from funext h]

end lists

theorem takeWhile_isCoordinate_map_toLower (cs : List Char) :
    (cs.map Char.toLower).takeWhile isCoordinate = cs.takeWhile isCoordinate := by
  rw [takeWhile_map_toLower isCoordinate_toLower]
  have hsame : ∀ c ∈ cs.takeWhile isCoordinate, c.toLower = id c :=
    fun c hc => toLower_of_isCoordinate (List.mem_takeWhile_imp hc)
  rw [List.map_congr_left hsame, List.map_id]

theorem any_head?_map_toLower (cs : List Char) :
    (cs.map Char.toLower).head?.any isCoordinate = cs.head?.any isCoordinate := by
  cases cs with
  | nil => rfl
  | cons c rest => exact isCoordinate_toLower c

/-! ### Lines -/

section lines

theorem code_map_toLower (line : List Char) :
    code (line.map Char.toLower) = (code line).map Char.toLower := by
  unfold code Text.trim Text.trimEnd
  rw [takeWhile_map_toLower bne_semicolon_toLower, dropWhile_map_toLower isBlank_toLower,
    ← List.map_reverse, dropWhile_map_toLower isBlank_toLower, List.map_reverse]

theorem wordsFrom_map_toLower (acc cs : List Char) :
    Text.wordsFrom (acc.map Char.toLower) (cs.map Char.toLower) =
      (Text.wordsFrom acc cs).map (List.map Char.toLower) := by
  have hclose (acc : List Char) : Text.closeWord (acc.map Char.toLower) =
      (Text.closeWord acc).map (List.map Char.toLower) := by
    cases acc <;> simp [Text.closeWord]
  induction cs generalizing acc with
  | nil => exact hclose acc
  | cons c rest ih =>
      rw [List.map_cons, Text.wordsFrom, Text.wordsFrom, isWord_toLower]
      by_cases hc : Text.isWord c
      · rw [if_pos hc, if_pos hc]
        exact ih (c :: acc)
      · rw [if_neg hc, if_neg hc, List.map_append, hclose, ← ih []]
        rfl

theorem words_map_toLower (cs : List Char) :
    Text.words (cs.map Char.toLower) = (Text.words cs).map (List.map Char.toLower) :=
  wordsFrom_map_toLower [] cs

theorem motionWord?_pair_toLower (g d : Char) :
    motionWord? [g.toLower, d.toLower] = motionWord? [g, d] := by
  simp only [motionWord?, toLower_toLower, digit?_toLower]

/-- A word of three letters is a motion word if it is one without the zero in its middle. -/
theorem motionWord?_triple (g z d : Char) :
    motionWord? [g, z, d] = if z = '0' then motionWord? [g, d] else none := by
  unfold motionWord?
  split <;> simp_all

theorem motionWord?_map_toLower (word : List Char) :
    motionWord? (word.map Char.toLower) = motionWord? word := by
  match word with
  | [] => rfl
  | [_] => rfl
  | [g, d] => exact motionWord?_pair_toLower g d
  | [g, z, d] =>
      have hz : z.toLower = '0' ↔ z = '0' := by
        simpa using Bool.eq_iff_iff.mp (beq_zero_toLower z)
      show motionWord? [g.toLower, z.toLower, d.toLower] = _
      rw [motionWord?_triple, motionWord?_triple, motionWord?_pair_toLower]
      simp only [hz]
  | _ :: _ :: _ :: _ :: _ => rfl

theorem motion?_map_toLower (cs : List Char) : motion? (cs.map Char.toLower) = motion? cs := by
  unfold motion?
  rw [words_map_toLower, List.findSome?_map]
  congr 1
  funext word
  exact motionWord?_map_toLower word

theorem coordinateText?_map_toLower (axis : Char) (cs : List Char) :
    coordinateText? axis (cs.map Char.toLower) = coordinateText? axis cs := by
  induction cs with
  | nil => rfl
  | cons c rest ih =>
      rw [List.map_cons, coordinateText?, coordinateText?, ih, toLower_toLower,
        takeWhile_isCoordinate_map_toLower, any_head?_map_toLower]

variable {α : Type} [Scalar α]

/-- **A line commands the same move** in either case of its letters. -/
theorem ofLine?_map_toLower (line : List Char) :
    (Move.ofLine? (line.map Char.toLower) : Option (Move α)) = Move.ofLine? line := by
  have hcoordinate (axis : Char) (cs : List Char) :
      (coordinate axis (cs.map Char.toLower) : Coordinate α) = coordinate axis cs := by
    unfold coordinate
    rw [coordinateText?_map_toLower]
  unfold Move.ofLine?
  dsimp only
  rw [code_map_toLower, motion?_map_toLower, hcoordinate, hcoordinate]

end lines

end Program
end PenPlotter
