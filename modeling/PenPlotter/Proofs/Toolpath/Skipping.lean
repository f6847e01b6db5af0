import PenPlotter.Proofs.Double.Order
import PenPlotter.Proofs.Toolpath.Path
import PenPlotter.Proofs.Toolpath.Printing

/-! # Lines that may be removed

A line may be removed from every program if it commands no move, or a move that gives no axis.  If
it gives an axis, there is a place from which the pen is led elsewhere.

Which of this is so depends on the first run of coordinate characters behind a letter of each axis
(`removable_iff`).  A word that begins with the letter of an axis and is no coordinate is not judged
as a whole: it is taken for the run it begins with, or passed over if there is none
(`axisText?_word`).  So a line with such a word is void only if the run is no finite decimal, and
may well lead the pen somewhere else (`faulty_lines_move_pen`). -/

namespace PenPlotter
namespace Program

open Reference

/-! ### Faulty words -/

def axes : List (List Char) := [['X', 'x'], ['Y', 'y']]

/-- The word begins with the letter of an axis, and no finite decimal follows. -/
def FaultyWord (word : List Char) : Prop :=
  ∃ letters ∈ axes, ∃ letter ∈ letters, ∃ rest, word = letter :: rest ∧ number? rest = none

/-- A line that commands a move, with a faulty word between its white space. -/
structure FaultyLine (line : List Char) : Prop where
  single : '\n' ∉ line
  motion : (Reference.motion? (Reference.code line)).isSome = true
  faulty : ∃ word ∈ (Reference.code line).splitOnP Text.isBlank, FaultyWord word

/-- To remove the line changes the toolpath of no program. -/
def Removable (line : List Char) : Prop :=
  ∀ before after : List (List Char),
    (Toolpath.ofProgram (String.ofList (unlines (before ++ line :: after))) : Toolpath Float) =
      Toolpath.ofProgram (String.ofList (unlines (before ++ after)))

/-- The run of one of the axes is no finite decimal. -/
def Refused (cs : List Char) : Prop :=
  ∃ letters ∈ axes, ∃ run, axisText? letters cs = some run ∧ number? run = none

/-- There is no run for any axis. -/
def Placeless (cs : List Char) : Prop := ∀ letters ∈ axes, axisText? letters cs = none

/-! ### Words and runs -/

section runs

variable {letters front rest back : List Char} {letter : Char}

theorem notMem_numerals_of_mem_axes (hletters : letters ∈ axes) (hletter : letter ∈ letters) :
    letter ∉ numerals := by
  have hall : ∀ letters ∈ axes, ∀ letter ∈ letters, letter ∉ numerals := by
    simp [axes, mem_numerals_iff]
  exact hall letters hletters letter hletter

theorem notMem_numerals_of_isBlank {c : Char} (h : Text.isBlank c = true) : c ∉ numerals := by
  intro hc
  have hcoordinate : isCoordinate c = true := by
    rw [isCoordinate_eq]
    exact decide_eq_true hc
  exact absurd (h.symm.trans (PrintedMove.isBlank_of_isCoordinate hcoordinate)) (by decide)

/-- A letter in front of which no run is found is behind all runs that were looked at. -/
theorem axisText?_append (hletter : letter ∉ numerals) (hfront : axisText? letters front = none)
    (cs : List Char) :
    axisText? letters (front ++ letter :: cs) = axisText? letters (letter :: cs) := by
  induction front with
  | nil => rfl
  | cons c front ih =>
      have hrun : (front ++ letter :: cs).takeWhile (· ∈ numerals) =
          front.takeWhile (· ∈ numerals) :=
        Text.takeWhile_append_of_stop (by simpa using hletter)
      rw [axisText?_cons] at hfront
      split at hfront
      · cases hfront
      · rename_i hnot
        rw [List.cons_append, axisText?_cons, hrun, if_neg hnot, ih hfront]

/-- **A word is judged by the run it begins with**, if the letter of the axis is the first one that
counts: without such a run it is passed over, and what follows the run does not matter. -/
theorem axisText?_word (hletter : letter ∈ letters) (hnumeral : letter ∉ numerals)
    (hfront : axisText? letters front = none) (hback : ∀ c ∈ back.head?, c ∉ numerals) :
    axisText? letters (front ++ letter :: (rest ++ back)) =
      if rest.takeWhile (· ∈ numerals) = [] then axisText? letters (rest ++ back)
      else some (rest.takeWhile (· ∈ numerals)) := by
  have hrun : (rest ++ back).takeWhile (· ∈ numerals) = rest.takeWhile (· ∈ numerals) :=
    Text.takeWhile_append_of_stop fun c hc => by simpa using hback c hc
  rw [axisText?_append hnumeral hfront, axisText?_cons, hrun]
  by_cases h : rest.takeWhile (· ∈ numerals) = []
  · rw [if_neg fun hc => hc.2 h, if_pos h]
  · rw [if_pos ⟨hletter, h⟩, if_neg h]

end runs

/-! ### What a line commands -/

section commands

variable {line : List Char}

/-- A line with a motion word is void if one of its axes is refused. -/
theorem ofLine?_eq_none_iff (hmotion : (Reference.motion? (Reference.code line)).isSome = true) :
    (Move.ofLine? line : Option (Move Float)) = none ↔ Refused (Reference.code line) := by
  obtain ⟨penDown, hpen⟩ := Option.isSome_iff_exists.mp hmotion
  simp only [Refused, axes, List.exists_mem_cons_iff, List.not_mem_nil, false_and, exists_false,
    or_false, ← given?_eq_none_iff]
  rw [ofLine?_eq_bind, hpen, Option.bind_some]
  cases given? ['X', 'x'] (Reference.code line) <;> simp

/-- It commands a move without a place if neither axis is given. -/
theorem ofLine?_placeless_iff (hmotion : (Reference.motion? (Reference.code line)).isSome = true) :
    (∃ m : Move Float, Move.ofLine? line = some m ∧ m.x = none ∧ m.y = none) ↔
      Placeless (Reference.code line) := by
  obtain ⟨penDown, hpen⟩ := Option.isSome_iff_exists.mp hmotion
  simp only [Placeless, axes, List.forall_mem_cons, List.not_mem_nil, false_imp_iff, implies_true,
    and_true, ← given?_eq_some_none_iff]
  rw [ofLine?_eq_bind, hpen, Option.bind_some]
  cases given? ['X', 'x'] (Reference.code line) with
  | none => simp
  | some x => cases given? ['Y', 'y'] (Reference.code line) <;> simp

end commands

/-! ### Removing a line -/

section removing

variable {line : List Char} {m : Move Float} {p q : Point Float}

theorem finite_end {segments : List (Segment Float)} (h : Path p segments q) (hp : p.IsFinite)
    (hsegments : ∀ s ∈ segments, s.start.IsFinite ∧ s.stop.IsFinite) : q.IsFinite := by
  induction h with
  | nil => exact hp
  | cons _ _ ih =>
      rw [List.forall_mem_cons] at hsegments
      exact ih hsegments.1.2 hsegments.2

theorem walk_placeless (hx : m.x = none) (hy : m.y = none) (hp : p.IsFinite)
    (ms : List (Move Float)) : walk p (m :: ms) = walk p ms := by
  have htarget : m.target p = p := by
    unfold Move.target
    rw [hx, hy]
    rfl
  have hsame : (p == p) = true := by
    show (p.x == p.x && p.y == p.y) = true
    rw [Double.beq_self (Double.isNaN_of_isFinite hp.x),
      Double.beq_self (Double.isNaN_of_isFinite hp.y)]
    rfl
  rw [walk, htarget, hsame]
  rfl

theorem not_zero_and_one {v : Float} (hv : v.isFinite = true) (h0 : (v == 0) = true)
    (h1 : (v == 1) = true) : False := by
  rw [Double.beq_eq hv (by decide), decide_eq_true_iff] at h0 h1
  exact absurd (h0.symm.trans h1) (by decide)

/-- A move that gives an axis does not stay both at the origin and away from it. -/
theorem placeless_of_stays (hm : m.IsFinite) (horigin : (m.target ⟨0, 0⟩ == ⟨0, 0⟩) = true)
    (hone : (m.target ⟨1, 1⟩ == ⟨1, 1⟩) = true) : m.x = none ∧ m.y = none := by
  obtain ⟨hx0, hy0⟩ := Bool.and_eq_true_iff.mp horigin
  obtain ⟨hx1, hy1⟩ := Bool.and_eq_true_iff.mp hone
  constructor
  · cases hx : m.x with
    | none => rfl
    | some v =>
        simp only [Move.target, hx, Option.getD_some] at hx0 hx1
        exact (not_zero_and_one (hm.x v hx) hx0 hx1).elim
  · cases hy : m.y with
    | none => rfl
    | some v =>
        simp only [Move.target, hy, Option.getD_some] at hy0 hy1
        exact (not_zero_and_one (hm.y v hy) hy0 hy1).elim

theorem moves_unlines (before after : List (List Char)) (hline : '\n' ∉ line) :
    (moves (String.ofList (unlines (before ++ line :: after))) : List (Move Float)) =
      before.flatMap movesOf ++ (Move.ofLine? line).toList ++ after.flatMap movesOf := by
  rw [moves_eq_movesOf, String.toList_ofList, movesOf_unlines, List.flatMap_append,
    List.flatMap_cons, movesOf_line hline, List.append_assoc]

theorem moves_unlines_without (before after : List (List Char)) :
    (moves (String.ofList (unlines (before ++ after))) : List (Move Float)) =
      before.flatMap movesOf ++ after.flatMap movesOf := by
  rw [moves_eq_movesOf, String.toList_ofList, movesOf_unlines, List.flatMap_append]

theorem finite_of_mem_movesOf {lines : List (List Char)} :
    ∀ m ∈ (lines.flatMap movesOf : List (Move Float)), m.IsFinite := by
  intro m hm
  obtain ⟨_, _, hmoves⟩ := List.mem_flatMap.mp hm
  obtain ⟨_, _, hline⟩ := List.mem_filterMap.mp hmoves
  exact finite_of_ofLine? hline

theorem walk_singleton_eq_nil_iff : walk p [m] = [] ↔ (m.target p == p) = true := by
  rw [walk]
  split <;> simp_all [walk]

/-- A line whose move may be removed makes no segment from the origin, nor from another place. -/
theorem Removable.stays (h : Removable line) (hline : '\n' ∉ line)
    (hm : Move.ofLine? line = some m) :
    (m.target ⟨0, 0⟩ == ⟨0, 0⟩) = true ∧ (m.target ⟨1, 1⟩ == ⟨1, 1⟩) = true := by
  have hwalk (before : List (List Char)) :
      walk Point.origin (before.flatMap movesOf ++ [m]) =
        walk Point.origin (before.flatMap movesOf) := by
    have hsegments := congrArg Toolpath.segments (h before [])
    rw [Toolpath.ofProgram, Toolpath.ofProgram, Toolpath.segments_ofSegments,
      Toolpath.segments_ofSegments, moves_unlines _ _ hline, moves_unlines_without, hm] at hsegments
    simpa using hsegments
  constructor
  · exact walk_singleton_eq_nil_iff.mp (hwalk [])
  · let first : PrintedMove := ⟨.g1, 1, 1, by decide, by decide⟩
    have hfirst : ([first.line.toList].flatMap movesOf : List (Move Float)) = [first.move] := by
      rw [List.flatMap_singleton, movesOf_line (first.notMem_line (by decide) (by decide)),
        first.ofLine?_line]
      rfl
    have hleads (ms : List (Move Float)) :
        walk Point.origin (first.move :: ms) = ⟨Point.origin, ⟨1, 1⟩, true⟩ :: walk ⟨1, 1⟩ ms := by
      have hnew : (first.move.target Point.origin == Point.origin) = false := by decide
      rw [walk, hnew]
      rfl
    have hsecond := hwalk [first.line.toList]
    rw [hfirst, List.singleton_append, hleads, hleads] at hsecond
    exact walk_singleton_eq_nil_iff.mp (List.cons.inj hsecond).2

/-- A line may be removed if and only if its move, if it commands one, gives no axis. -/
theorem removable_iff_placeless (hline : '\n' ∉ line) :
    Removable line ↔ ∀ m : Move Float, Move.ofLine? line = some m → m.x = none ∧ m.y = none := by
  constructor
  · intro hremovable m hm
    obtain ⟨horigin, hone⟩ := hremovable.stays hline hm
    exact placeless_of_stays (finite_of_ofLine? hm) horigin hone
  · intro hplaceless before after
    have hwalk : (walk Point.origin (moves (String.ofList (unlines (before ++ line :: after)))) :
        List (Segment Float)) =
        walk Point.origin (moves (String.ofList (unlines (before ++ after)))) := by
      obtain ⟨q, hpath, hon⟩ := exists_path_walk (Point.origin : Point Float)
        (before.flatMap movesOf)
      rw [moves_unlines before after hline, moves_unlines_without, List.append_assoc, hon, hon]
      cases hm : (Move.ofLine? line : Option (Move Float)) with
      | none => rfl
      | some m =>
          obtain ⟨hx, hy⟩ := hplaceless m hm
          have hq : q.IsFinite :=
            finite_end hpath finite_origin (finite_walk finite_origin finite_of_mem_movesOf)
          exact congrArg _ (walk_placeless hx hy hq _)
    unfold Toolpath.ofProgram
    rw [hwalk]

end removing

/-! ### Lines with faulty words -/

/-- **Which lines may be removed.**  A line with a motion word may be removed from every program if
and only if the run of one of the axes is no finite decimal, or there is no run for either axis.  A
word behind which white space stands, and whose letter is the first that counts for its axis, is
judged by the run it begins with; so a faulty word makes its line void only if the run is faulty. -/
theorem removable_iff {line : List Char} (hline : '\n' ∉ line)
    (hmotion : (Reference.motion? (Reference.code line)).isSome = true) :
    (Removable line ↔ Refused (Reference.code line) ∨ Placeless (Reference.code line)) ∧
    ∀ letters ∈ axes, ∀ letter ∈ letters, ∀ front rest back : List Char,
      Reference.code line = front ++ letter :: (rest ++ back) → axisText? letters front = none →
      (∀ c ∈ back.head?, Text.isBlank c = true) →
      axisText? letters (Reference.code line) =
        if rest.takeWhile (· ∈ numerals) = [] then axisText? letters (rest ++ back)
        else some (rest.takeWhile (· ∈ numerals)) := by
  constructor
  · rw [removable_iff_placeless hline, ← ofLine?_eq_none_iff hmotion,
      ← ofLine?_placeless_iff hmotion]
    cases (Move.ofLine? line : Option (Move Float)) with
    | none => simp
    | some m => simp
  · intro letters hletters letter hletter front rest back hcode hfront hback
    rw [hcode]
    exact axisText?_word hletter (notMem_numerals_of_mem_axes hletters hletter) hfront
      fun c hc => notMem_numerals_of_isBlank (hback c hc)

/-- A number with two points makes its line void. -/
theorem removable_iff_two_points :
    '\n' ∉ "G1 X1.2.3 Y5".toList ∧
      (Reference.motion? (Reference.code "G1 X1.2.3 Y5".toList)).isSome = true ∧
      Removable "G1 X1.2.3 Y5".toList := by
  have hpoints : ¬ IsUnsigned (unsigned "1.2.3".toList) := fun h => absurd h.2.1 (by decide)
  have hline : '\n' ∉ "G1 X1.2.3 Y5".toList := by decide
  have hmotion : (Reference.motion? (Reference.code "G1 X1.2.3 Y5".toList)).isSome = true := by
    decide
  refine ⟨hline, hmotion, (removable_iff hline hmotion).1.mpr (Or.inl ?_)⟩
  exact ⟨['X', 'x'], by decide, "1.2.3".toList, by decide,
    number?_of_not_isUnsigned hpoints⟩

/-- A number with an exponent, one with a unit and a letter without a number are faulty words.  Yet
their lines lead the pen to 1, to 5 and again to 5. -/
theorem faulty_lines_move_pen :
    (FaultyLine "G1 X1e3".toList ∧ ¬ Removable "G1 X1e3".toList) ∧
      (FaultyLine "G1 X5mm".toList ∧ ¬ Removable "G1 X5mm".toList) ∧
      FaultyLine "G1 X Y5".toList ∧ ¬ Removable "G1 X Y5".toList := by
  have hmoves {line : List Char}
      (h : (Toolpath.ofProgram (String.ofList line) : Toolpath Float).size ≠ 0) :
      ¬ Removable line := by
    intro hremovable
    have hnone : (Toolpath.ofProgram (String.ofList line) : Toolpath Float) =
        Toolpath.ofProgram "" := by
      simpa [unlines] using hremovable [] []
    exact h (by rw [hnone]; decide)
  have hfaulty {line : List Char} (rest : List Char) (hsingle : '\n' ∉ line)
      (hmotion : (Reference.motion? (Reference.code line)).isSome = true)
      (hnumber : ¬ IsUnsigned (unsigned rest))
      (hword : 'X' :: rest ∈ (Reference.code line).splitOnP Text.isBlank) : FaultyLine line :=
    ⟨hsingle, hmotion, 'X' :: rest, hword, ['X', 'x'], by decide, 'X', by decide, rest, rfl,
      number?_of_not_isUnsigned hnumber⟩
  have hexponent : FaultyLine "G1 X1e3".toList :=
    hfaulty "1e3".toList (by decide) (by decide)
      (fun h => absurd (h.1 'e' (by decide)) (by decide)) (by decide)
  have hunit : FaultyLine "G1 X5mm".toList :=
    hfaulty "5mm".toList (by decide) (by decide)
      (fun h => absurd (h.1 'm' (by decide)) (by decide)) (by decide)
  have hnothing : FaultyLine "G1 X Y5".toList :=
    hfaulty [] (by decide) (by decide)
      (fun h => h.2.2.elim fun c hc => absurd hc.1 List.not_mem_nil) (by decide)
  exact ⟨⟨hexponent, hmoves (by decide)⟩, ⟨hunit, hmoves (by decide)⟩,
    ⟨hnothing, hmoves (by decide)⟩⟩

end Program
end PenPlotter
