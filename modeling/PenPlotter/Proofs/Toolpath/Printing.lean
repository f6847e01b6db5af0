import Mathlib.Data.Bool.AllAny
import PenPlotter.Proofs.Decimal.Shortest
import PenPlotter.Proofs.Decimal.Text
import PenPlotter.Proofs.Text.Spans
import PenPlotter.Proofs.Toolpath.Rewriting

/-! # Printed programs

A list of moves is printed as a program, one line for each move, and the program is read again.
The coordinates are written with as few digits as read back (`numberText`), so that nothing is
lost: the toolpath of the program is the trace of the moves (`segments_ofProgram_text`).

A printed number is a run of coordinate characters, and so each of the scanners of a line finds
its part: the motion word ends at the blank behind it (`motion?_line`), and a run ends at the
blank or the end of the line behind it (`coordinateText?_run`). -/

namespace PenPlotter

open Decimal

/-- The motion words with which moves are printed. -/
inductive MotionWord where
  | g0
  | g00
  | g1
  | g01
deriving Repr, DecidableEq, Inhabited

namespace MotionWord

/-- How the word is written. -/
def text : MotionWord → String
  | g0 => "G0"
  | g00 => "G00"
  | g1 => "G1"
  | g01 => "G01"

/-- Whether the word commands to draw. -/
def penDown : MotionWord → Bool
  | g0 | g00 => false
  | g1 | g01 => true

end MotionWord

/-- A move to a point, of which both coordinates are finite. -/
structure PrintedMove where
  word : MotionWord
  x : Float
  y : Float
  finite_x : x.isFinite = true
  finite_y : y.isFinite = true

namespace PrintedMove

def line (m : PrintedMove) : String :=
  m.word.text ++ " X" ++ numberText m.x ++ " Y" ++ numberText m.y

def text (ms : List PrintedMove) : String := "\n".intercalate (ms.map line)

/-- The way through the points of the moves.  A point that is numerically the one where the pen
already is, is passed over, and the pen stays where it is. -/
def trace (cursor : Point Float) : List PrintedMove → List (Segment Float)
  | [] => []
  | m :: ms =>
    if m.x == cursor.x && m.y == cursor.y then trace cursor ms
    else ⟨cursor, ⟨m.x, m.y⟩, m.word.penDown⟩ :: trace ⟨m.x, m.y⟩ ms

/-- The move that the line should be read as. -/
def move (m : PrintedMove) : Move Float := ⟨m.word.penDown, some m.x, some m.y⟩

end PrintedMove

/-! ### The text of a number -/

section number

variable {x : Float}

/-- The text of a finite double is read as a decimal of which it is the nearest double. -/
theorem exists_ofPlain?_numberText (hx : x.isFinite = true) :
    ∃ d, ofPlain? (numberText x).toList = some d ∧ d.toFloat = x := by
  obtain ⟨whole, fraction, hwritten, htext⟩ := exists_numberText hx
  refine ⟨_, htext ▸ hwritten.ofPlain?_eq, ?_⟩
  rw [hwritten.toFloat_eq, Shortest.toFloat_ofFloat .up hx]

theorem isCoordinate_of_isDigit {c : Char} (h : c.isDigit) : Program.isCoordinate c = true := by
  rw [Program.isCoordinate, h, Bool.or_true]

theorem isCoordinate_numberText (hx : x.isFinite = true) :
    ∀ c ∈ (numberText x).toList, Program.isCoordinate c = true := by
  obtain ⟨whole, fraction, hwritten, htext⟩ := exists_numberText hx
  have hsign : ∀ c ∈ signChars (Shortest.ofFloat .up x).negative,
      Program.isCoordinate c = true := by
    refine List.all_eq_true.mp ?_
    cases (Shortest.ofFloat .up x).negative <;> decide
  have hfraction : ∀ c ∈ if fraction = [] then [] else '.' :: fraction,
      Program.isCoordinate c = true := by
    split
    · simp
    · exact List.forall_mem_cons.mpr
        ⟨rfl, fun c hc => isCoordinate_of_isDigit (hwritten.digits c hc)⟩
  rw [htext, List.forall_mem_append, List.forall_mem_append]
  exact ⟨hsign, fun c hc => isCoordinate_of_isDigit (hwritten.isWhole.digits c hc), hfraction⟩

theorem toList_numberText_ne_nil (hx : x.isFinite = true) : (numberText x).toList ≠ [] := by
  obtain ⟨whole, fraction, hwritten, htext⟩ := exists_numberText hx
  rw [htext]
  simp [hwritten.isWhole.ne_nil]

end number

namespace Program

/-! ### Scanning a printed line -/

section scanning

variable {axis c : Char} {before run rest : List Char}

theorem coordinateText?_append (h : ∀ c ∈ before, c.toLower ≠ axis) (rest : List Char) :
    coordinateText? axis (before ++ rest) = coordinateText? axis rest := by
  induction before with
  | nil => rfl
  | cons c before ih =>
      rw [List.forall_mem_cons] at h
      rw [List.cons_append, coordinateText?, if_neg fun hc => h.1 hc.1, ih h.2]

theorem coordinateText?_run (hc : c.toLower = axis) (hrun : ∀ c ∈ run, isCoordinate c = true)
    (hne : run ≠ []) (hrest : ∀ c ∈ rest.head?, isCoordinate c = false) :
    coordinateText? axis (c :: (run ++ rest)) = some run := by
  obtain ⟨d, ds, rfl⟩ := List.exists_cons_of_ne_nil hne
  have hd := hrun d List.mem_cons_self
  rw [coordinateText?, if_pos ⟨hc, by simpa using hd⟩, Text.takeWhile_append_stop hrun hrest]

theorem coordinate_of_numberText {cs : List Char} {x : Float} (hx : x.isFinite = true)
    (h : coordinateText? axis cs = some (numberText x).toList) :
    (coordinate axis cs : Coordinate Float) = .value x := by
  obtain ⟨d, hread, rfl⟩ := exists_ofPlain?_numberText hx
  unfold coordinate
  rw [h]
  dsimp only
  rw [hread]
  exact if_pos hx

theorem trimEnd_append_solid (hne : run ≠ []) (h : ∀ c ∈ run, Text.isBlank c = false)
    (cs : List Char) : Text.trimEnd (cs ++ run) = cs ++ run := by
  have hlast : ∀ c ∈ (run.reverse ++ cs.reverse).head?, Text.isBlank c = false := by
    rw [List.head?_append_of_ne_nil _ (by simpa using hne)]
    exact fun c hc => h c (List.mem_reverse.mp (List.mem_of_mem_head? hc))
  unfold Text.trimEnd
  rw [List.reverse_append, Text.dropWhile_of_stop hlast, List.reverse_append, List.reverse_reverse,
    List.reverse_reverse]

/-- A line without semicolon and without white space at its ends is all code. -/
theorem code_eq_self (hfirst : ∀ c ∈ (before ++ run).head?, Text.isBlank c = false)
    (hsemicolon : ';' ∉ before ++ run) (hne : run ≠ [])
    (hrun : ∀ c ∈ run, Text.isBlank c = false) : code (before ++ run) = before ++ run := by
  have htake : (before ++ run).takeWhile (· != ';') = before ++ run := by
    rw [List.takeWhile_eq_self_iff]
    intro c hc
    rw [bne_iff_ne]
    rintro rfl
    exact hsemicolon hc
  rw [code, htake, Text.trim, Text.dropWhile_of_stop hfirst, trimEnd_append_solid hne hrun]

theorem words_append_blank (hword : ∀ c ∈ run, Text.isWord c = true) (hne : run ≠ [])
    (rest : List Char) : Text.words (run ++ ' ' :: rest) = run :: Text.words (' ' :: rest) := by
  obtain ⟨c, cs, rfl⟩ := List.exists_cons_of_ne_nil hne
  rw [List.forall_mem_cons] at hword
  have hstop : ∀ d ∈ (' ' :: rest).head?, Text.isWord d = false := by
    rw [List.head?_cons]
    rintro d ⟨⟩
    decide
  rw [List.cons_append, words_cons_of_word hword.1, Text.takeWhile_append_stop hword.2 hstop,
    Text.dropWhile_append_stop hword.2 hstop]

end scanning

end Program

/-! ### Reading a printed line -/

namespace PrintedMove

open Program

variable (m : PrintedMove)

/-- The line up to the letter of the second axis. -/
def front : List Char := m.word.text.toList ++ ' ' :: 'X' :: ((numberText m.x).toList ++ [' '])

theorem toList_line : m.line.toList = m.front ++ 'Y' :: (numberText m.y).toList := by
  simp [line, front]

theorem mem_front : ∀ c ∈ m.front, isCoordinate c = true ∨ c ∈ ['G', 'X', ' '] := by
  have hword : ∀ w : MotionWord, ∀ c ∈ w.text.toList,
      isCoordinate c = true ∨ c ∈ ['G', 'X', ' '] := by
    refine fun w => List.all_iff_forall_prop.mp ?_
    cases w <;> decide
  rw [front, List.forall_mem_append, List.forall_mem_cons, List.forall_mem_cons,
    List.forall_mem_append]
  exact ⟨hword m.word, .inr (by decide), .inr (by decide),
    fun c hc => .inl (isCoordinate_numberText m.finite_x c hc),
    List.forall_mem_singleton.mpr (.inr (by decide))⟩

theorem mem_line : ∀ c ∈ m.line.toList, isCoordinate c = true ∨ c ∈ ['G', 'X', 'Y', ' '] := by
  rw [toList_line, List.forall_mem_append, List.forall_mem_cons]
  have hletters : ['G', 'X', ' '] ⊆ ['G', 'X', 'Y', ' '] := by decide
  exact ⟨fun c hc => (m.mem_front c hc).imp_right fun h => hletters h, .inr (by decide),
    fun c hc => .inl (isCoordinate_numberText m.finite_y c hc)⟩

theorem notMem_line {c : Char} (hc : isCoordinate c = false) (hletter : c ∉ ['G', 'X', 'Y', ' ']) :
    c ∉ m.line.toList := by
  intro hmem
  rcases m.mem_line c hmem with h | h
  · rw [hc] at h
    cases h
  · exact hletter h

theorem isBlank_of_isCoordinate {c : Char} (h : isCoordinate c = true) :
    Text.isBlank c = false := by
  simp only [isCoordinate, Bool.or_eq_true, beq_iff_eq, isDigit_iff] at h
  rcases h with ((rfl | rfl) | rfl) | h
  · decide
  · decide
  · decide
  · simp only [Text.isBlank, Bool.or_eq_false_iff, Bool.and_eq_false_iff, beq_eq_false_iff_ne,
      decide_eq_false_iff_not]
    omega

theorem code_line : code m.line.toList = m.line.toList := by
  have hsemicolon := m.notMem_line (c := ';') (by decide) (by decide)
  have hfirst : m.line.toList.head? = some 'G' := by
    rw [toList_line, front]
    cases m.word <;> rfl
  have hsplit : m.line.toList = (m.front ++ ['Y']) ++ (numberText m.y).toList := by
    rw [toList_line, List.append_assoc, List.singleton_append]
  rw [hsplit] at hsemicolon hfirst ⊢
  refine code_eq_self ?_ hsemicolon (toList_numberText_ne_nil m.finite_y) ?_
  · rw [hfirst]
    rintro c ⟨⟩
    decide
  · exact fun c hc => isBlank_of_isCoordinate (isCoordinate_numberText m.finite_y c hc)

theorem motion?_line : motion? m.line.toList = some m.word.penDown := by
  have hword : ∀ w : MotionWord, w.text.toList ≠ [] ∧ w.text.toList.all Text.isWord = true ∧
      motionWord? w.text.toList = some w.penDown := by
    intro w
    cases w <;> decide
  obtain ⟨hne, hchars, hmotion⟩ := hword m.word
  rw [toList_line, front, List.append_assoc, List.cons_append, motion?,
    words_append_blank (List.all_eq_true.mp hchars) hne, List.findSome?_cons, hmotion]

theorem coordinate_x_line : (coordinate 'x' m.line.toList : Coordinate Float) = .value m.x := by
  refine coordinate_of_numberText m.finite_x ?_
  have hword : ∀ w : MotionWord, ∀ c ∈ w.text.toList ++ [' '], c.toLower ≠ 'x' := by
    refine fun w => List.all_iff_forall_prop.mp ?_
    cases w <;> decide
  have hsplit : m.line.toList = (m.word.text.toList ++ [' ']) ++ 'X' ::
      ((numberText m.x).toList ++ ' ' :: 'Y' :: (numberText m.y).toList) := by
    simp [line]
  have hstop : ∀ c ∈ (' ' :: 'Y' :: (numberText m.y).toList).head?, isCoordinate c = false := by
    rintro c ⟨⟩
    decide
  rw [hsplit, coordinateText?_append (hword m.word)]
  exact coordinateText?_run rfl (isCoordinate_numberText m.finite_x)
    (toList_numberText_ne_nil m.finite_x) hstop

theorem coordinate_y_line : (coordinate 'y' m.line.toList : Coordinate Float) = .value m.y := by
  refine coordinate_of_numberText m.finite_y ?_
  have hletters : ∀ c ∈ ['G', 'X', ' '], c.toLower ≠ 'y' := List.all_iff_forall_prop.mp (by decide)
  have hfront : ∀ c ∈ m.front, c.toLower ≠ 'y' := by
    intro c hc
    rcases m.mem_front c hc with h | h
    · rw [toLower_of_isCoordinate h]
      rintro rfl
      exact absurd h (by decide)
    · exact hletters c h
  have hrun : coordinateText? 'y' ('Y' :: ((numberText m.y).toList ++ [])) =
      some (numberText m.y).toList :=
    coordinateText?_run (by decide) (isCoordinate_numberText m.finite_y)
      (toList_numberText_ne_nil m.finite_y) nofun
  rw [List.append_nil] at hrun
  rw [toList_line, coordinateText?_append hfront, hrun]

/-- A printed line is read as the move that was printed. -/
theorem ofLine?_line : (Move.ofLine? m.line.toList : Option (Move Float)) = some m.move := by
  unfold Move.ofLine?
  dsimp only
  rw [code_line, motion?_line, coordinate_x_line, coordinate_y_line]
  rfl

/-- The moves of a printed program are those that were printed. -/
theorem moves_text (ms : List PrintedMove) :
    (moves (text ms) : List (Move Float)) = ms.map move := by
  have hlines : (text ms).toList = unlines (ms.map fun m => m.line.toList) := by
    rw [text, String.toList_intercalate, List.map_map]
    rfl
  have hline (m : PrintedMove) : (movesOf m.line.toList : List (Move Float)) = [m.move] := by
    rw [movesOf_line (m.notMem_line (by decide) (by decide)), ofLine?_line]
    rfl
  rw [moves_eq_movesOf, hlines, movesOf_unlines, List.flatMap_map, List.map_eq_flatMap]
  simp only [hline]

theorem walk_map_move (cursor : Point Float) (ms : List PrintedMove) :
    walk cursor (ms.map move) = trace cursor ms := by
  induction ms generalizing cursor with
  | nil => rfl
  | cons m ms ih =>
      rw [List.map_cons, walk, trace]
      show (if (m.x == cursor.x && m.y == cursor.y) then walk cursor (ms.map move)
        else ⟨cursor, ⟨m.x, m.y⟩, m.word.penDown⟩ :: walk ⟨m.x, m.y⟩ (ms.map move)) = _
      rw [ih, ih]

/-- **Printing and reading is lossless.**  The toolpath of the program that is printed for a list
of moves is the way through their points, from the origin on and with every coordinate as it was. -/
theorem segments_ofProgram_text (ms : List PrintedMove) :
    (Toolpath.ofProgram (text ms) : Toolpath Float).segments = trace ⟨0, 0⟩ ms := by
  unfold Toolpath.ofProgram
  rw [Toolpath.segments_ofSegments, moves_text, walk_map_move]
  rfl

/-- A move to the negative origin makes no segment, and the smallest double is not lost. -/
example :
    let ms : List PrintedMove := [⟨.g01, -0.0, 0.0, by decide +kernel, by decide +kernel⟩,
      ⟨.g00, 2.5, -5e-324, by decide +kernel, by decide +kernel⟩]
    ((trace ⟨0, 0⟩ ms).map fun s => (s.stop.x, s.stop.y, s.penDown)) = [(2.5, -5e-324, false)] ∧
      (text ms).startsWith "G01 X-0 Y0\nG00 X2.5 Y-0.000" = true := by
  decide +kernel

end PrintedMove
end PenPlotter
