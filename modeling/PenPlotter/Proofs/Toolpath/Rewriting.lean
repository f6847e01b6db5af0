import Mathlib.Logic.Relation
import PenPlotter.Proofs.Toolpath.LetterCase
import PenPlotter.Proofs.Toolpath.Refinement

/-! # Lines without effect

What may be changed in a program without changing its drawing.  A text is taken apart at its line
feeds, and its moves are those of its lines in order (`movesOf_unlines`); so a rewriting of a line
is judged by that line alone (`LineRewrite.ofLine?_eq`), a void line commands nothing at any place
(`Void.ofLine?_eq_none`), and what changes every line is followed along the lines
(`movesOf_withReturns`, `movesOf_map_toLower`).  `ofProgram_eq_of_rewrites` is for any number of
such changes, forwards and backwards. -/

namespace PenPlotter
namespace Program

/-! ### Rewriting programs -/

section rewriting

/-- The text of the given lines. -/
def unlines (lines : List (List Char)) : List Char := ['\n'].intercalate lines

/-- White space that does not end a line. -/
def IsSpace (cs : List Char) : Prop := ∀ c ∈ cs, Text.isBlank c ∧ c ≠ '\n'

/-- What may stand between a line and its line feed. -/
def IsEnding (cs : List Char) : Prop := cs = [] ∨ cs = ['\r']

/-- Lines that have no effect. -/
inductive Void (line : List Char) : Prop where
  /-- There is only white space before the first semicolon. -/
  | blank (h : ∀ c ∈ line.takeWhile (· ≠ ';'), Text.isBlank c)
  /-- No motion word stands before the comment, if there is one. -/
  | motionless (h : Reference.motion? (Reference.code line) = none)
  /-- The number run of one of the axes, which is behind the first of its letters that has any, is
  no finite decimal. -/
  | malformed {letters run : List Char} (hletters : letters = ['X', 'x'] ∨ letters = ['Y', 'y'])
      (hrun : Reference.axisText? letters (Reference.code line) = some run)
      (hnumber : Reference.number? run = none)

/-- Rewritings of one line, with the carriage return that may end it. -/
inductive LineRewrite : List Char → List Char → Prop where
  /-- The line is cut at its first semicolon. -/
  | uncomment {code comment ending : List Char} (hcode : ';' ∉ code) (hending : IsEnding ending) :
      LineRewrite (code ++ ';' :: comment ++ ending) (code ++ ending)
  /-- White space is added at the ends of the line. -/
  | pad {before line after ending : List Char} (hbefore : IsSpace before) (hafter : IsSpace after)
      (hending : IsEnding ending) :
      LineRewrite (line ++ ending) (before ++ line ++ after ++ ending)

/-- The text with a carriage return before each line feed. -/
def withReturns (cs : List Char) : List Char :=
  cs.flatMap fun c => if c = '\n' then ['\r', '\n'] else [c]

/-- Rewritings of a text. -/
inductive Rewrite : List Char → List Char → Prop where
  /-- One line is rewritten. -/
  | line {line line' : List Char} (before after : List (List Char)) (hline : '\n' ∉ line)
      (h : LineRewrite line line') :
      Rewrite (unlines (before ++ line :: after)) (unlines (before ++ line' :: after))
  /-- A line without effect is inserted. -/
  | insert {line : List Char} (before after : List (List Char)) (hline : '\n' ∉ line)
      (h : Void line) : Rewrite (unlines (before ++ after)) (unlines (before ++ line :: after))
  /-- Every line feed gets a carriage return. -/
  | returns (cs : List Char) : Rewrite cs (withReturns cs)
  /-- The letter case of any ASCII letters is changed. -/
  | letterCase {cs cs' : List Char} (h : cs.map Char.toLower = cs'.map Char.toLower) :
      Rewrite cs cs'

end rewriting

/-! ### White space around lines -/

section space

variable {space line : List Char}

theorem isBlank_of_isEnding (h : IsEnding space) : ∀ c ∈ space, Text.isBlank c := by
  rcases h with rfl | rfl
  · exact fun c hc => absurd hc List.not_mem_nil
  · exact fun c hc => by rw [List.mem_singleton.mp hc]; decide

theorem isSpace_nil : IsSpace [] := fun _ hc => absurd hc List.not_mem_nil

theorem isSpace_singleton {c : Char} (hblank : Text.isBlank c) (hc : c ≠ '\n') : IsSpace [c] := by
  intro d hd
  rw [List.mem_singleton.mp hd]
  exact ⟨hblank, hc⟩

theorem IsSpace.isBlank (h : IsSpace space) : ∀ c ∈ space, Text.isBlank c := fun c hc => (h c hc).1

theorem IsSpace.newline_notMem (h : IsSpace space) : '\n' ∉ space := fun hc => (h _ hc).2 rfl

theorem bne_semicolon_of_isBlank {c : Char} (h : Text.isBlank c) : (c != ';') = true := by
  rw [bne_iff_ne]
  rintro rfl
  exact absurd h (by decide)

theorem trimEnd_append_blanks (h : ∀ c ∈ space, Text.isBlank c) (cs : List Char) :
    Text.trimEnd (cs ++ space) = Text.trimEnd cs := by
  unfold Text.trimEnd
  rw [List.reverse_append, List.dropWhile_append_of_pos fun c hc => h c (List.mem_reverse.mp hc)]

theorem trim_append_blanks (h : ∀ c ∈ space, Text.isBlank c) (cs : List Char) :
    Text.trim (cs ++ space) = Text.trim cs := by
  unfold Text.trim
  rw [List.dropWhile_append]
  split
  · rename_i hempty
    have hspace : space.dropWhile Text.isBlank = [] := List.dropWhile_eq_nil_iff.mpr h
    rw [List.isEmpty_iff.mp hempty, hspace]
  · exact trimEnd_append_blanks h _

/-- White space behind a line is no part of its code, nor is it behind a comment. -/
theorem code_append_blanks (h : ∀ c ∈ space, Text.isBlank c) (line : List Char) :
    code (line ++ space) = code line := by
  unfold code
  rw [List.takeWhile_append]
  split
  · rename_i hall
    have hline : line.takeWhile (· != ';') = line :=
      (List.takeWhile_prefix _).eq_of_length hall
    have hspace : space.takeWhile (· != ';') = space := by
      rw [List.takeWhile_eq_self_iff]
      exact fun c hc => bne_semicolon_of_isBlank (h c hc)
    rw [hline, hspace, trim_append_blanks h]
  · rfl

theorem code_blanks_append (h : ∀ c ∈ space, Text.isBlank c) (line : List Char) :
    code (space ++ line) = code line := by
  unfold code Text.trim
  rw [List.takeWhile_append_of_pos fun c hc => bne_semicolon_of_isBlank (h c hc),
    List.dropWhile_append_of_pos h]

theorem code_append_comment (hline : ';' ∉ line) (comment : List Char) :
    code (line ++ ';' :: comment) = code line := by
  have hpos : ∀ c ∈ line, (c != ';') = true := by
    intro c hc
    rw [bne_iff_ne]
    exact fun he => hline (he ▸ hc)
  have htake : line.takeWhile (· != ';') = line := List.takeWhile_eq_self_iff.mpr hpos
  unfold code
  rw [List.takeWhile_append_of_pos hpos, htake]
  simp

end space

/-! ### Single lines -/

section line

variable {α : Type} [Scalar α] {line line' : List Char}

theorem ofLine?_congr (h : code line = code line') :
    (Move.ofLine? line : Option (Move α)) = Move.ofLine? line' := by
  unfold Move.ofLine?
  rw [h]

theorem LineRewrite.code_eq (h : LineRewrite line line') : code line = code line' := by
  cases h with
  | uncomment hcode hending =>
      rw [code_append_blanks (isBlank_of_isEnding hending),
        code_append_blanks (isBlank_of_isEnding hending), code_append_comment hcode]
  | pad hbefore hafter hending =>
      rw [code_append_blanks (isBlank_of_isEnding hending),
        code_append_blanks (isBlank_of_isEnding hending), code_append_blanks hafter.isBlank,
        code_blanks_append hbefore.isBlank]

theorem LineRewrite.newline_notMem (h : LineRewrite line line') (hline : '\n' ∉ line) :
    '\n' ∉ line' := by
  cases h with
  | uncomment hcode hending =>
      simp only [List.mem_append, List.mem_cons, not_or] at hline ⊢
      exact ⟨hline.1.1, hline.2⟩
  | pad hbefore hafter hending =>
      simp only [List.mem_append, not_or] at hline ⊢
      exact ⟨⟨⟨hbefore.newline_notMem, hline.1⟩, hafter.newline_notMem⟩, hline.2⟩

theorem void_comment (comment : List Char) : Void (';' :: comment) := .blank (by simp)

theorem number?_of_not_isUnsigned {run : List Char}
    (h : ¬ Reference.IsUnsigned (Reference.unsigned run)) : Reference.number? run = none := by
  unfold Reference.number?
  exact if_neg fun hnumber => h hnumber.1

/-- **Void lines** command no move, even if only one of their coordinates is malformed. -/
theorem Void.ofLine?_eq_none (h : Void line) :
    (Move.ofLine? line : Option (Move Float)) = none := by
  rw [ofLine?_eq_bind]
  cases h with
  | blank h =>
      have hcode : Reference.code line = [] := by
        unfold Reference.code
        rw [List.dropWhile_eq_nil_iff.mpr h]
        rfl
      rw [hcode]
      rfl
  | motionless h => rw [h, Option.bind_none]
  | malformed hletters hrun hnumber =>
      have hgiven := given?_eq_none_iff.mpr ⟨_, hrun, hnumber⟩
      rcases hletters with rfl | rfl
      · simp [hgiven]
      · simp [hgiven]

end line

/-! ### Texts -/

section texts

variable {α : Type} [Scalar α]

/-- The moves of a text of lines, with no regard to how lines end. -/
def movesOf (cs : List Char) : List (Move α) := (cs.splitOn '\n').filterMap Move.ofLine?

theorem movesOf_line {line : List Char} (h : '\n' ∉ line) :
    (movesOf line : List (Move α)) = (Move.ofLine? line).toList := by
  unfold movesOf
  rw [List.splitOn_eq_singleton h]
  cases ho : (Move.ofLine? line : Option (Move α)) <;> simp [ho]

theorem movesOf_append (cs cs' : List Char) :
    (movesOf (cs ++ '\n' :: cs') : List (Move α)) = movesOf cs ++ movesOf cs' := by
  unfold movesOf
  rw [List.splitOn_append_cons_self, List.filterMap_append]

theorem movesOf_unlines (ls : List (List Char)) :
    (movesOf (unlines ls) : List (Move α)) = ls.flatMap movesOf := by
  induction ls with
  | nil => rfl
  | cons line rest ih =>
      cases rest with
      | nil => rw [unlines, List.intercalate_singleton, List.flatMap_singleton]
      | cons next rest =>
          rw [unlines, List.intercalate_cons_cons, List.append_assoc, List.singleton_append,
            movesOf_append, List.flatMap_cons, ← ih, unlines]

/-- Every text is one line, or a line and the text behind its line feed. -/
theorem text_induction {motive : List Char → Prop} (line : ∀ cs, '\n' ∉ cs → motive cs)
    (cons : ∀ cs rest, '\n' ∉ cs → motive rest → motive (cs ++ '\n' :: rest))
    (text : List Char) : motive text := by
  induction h : text.length using Nat.strong_induction_on generalizing text with
  | _ n ih =>
      by_cases hmem : '\n' ∈ text
      · obtain ⟨cs, rest, rfl, hcs⟩ := List.eq_append_cons_of_mem hmem
        refine cons cs rest hcs (ih rest.length ?_ rest rfl)
        rw [← h, List.length_append, List.length_cons]
        omega
      · exact line text hmem

theorem ofLine?_append_return (line : List Char) :
    (Move.ofLine? (line ++ ['\r']) : Option (Move α)) = Move.ofLine? line :=
  ofLine?_congr (code_append_blanks (isBlank_of_isEnding (Or.inr rfl)) line)

theorem ofLine?_withoutReturn (line : List Char) :
    (Move.ofLine? (Reference.withoutReturn line) : Option (Move α)) = Move.ofLine? line := by
  unfold Reference.withoutReturn
  split_ifs with hlast
  · rw [← ofLine?_append_return, List.dropLast_append_getLast? _ hlast]
  · rfl

theorem moves_eq_movesOf (text : String) :
    (moves text : List (Move α)) = movesOf text.toList := by
  -- The returns that are taken off, and an empty part at the end, command nothing.
  have hparts (parts : List (List Char)) :
      (Reference.ofParts parts).filterMap (Move.ofLine? : List Char → Option (Move α)) =
        parts.filterMap Move.ofLine? := by
    induction parts using Reference.ofParts.induct with
    | case1 => rfl
    | case2 => rfl
    | case3 last hne => rw [Reference.ofParts, if_neg hne]
    | case4 part parts hne ih =>
        have hcons : Reference.ofParts (part :: parts) =
            Reference.withoutReturn part :: Reference.ofParts parts := by
          rw [Reference.ofParts]
          exact hne
        rw [hcons, List.filterMap_cons, List.filterMap_cons, ofLine?_withoutReturn, ih]
  unfold moves movesOf
  rw [lines_eq, Reference.lines, hparts]

theorem withReturns_line {line : List Char} (h : '\n' ∉ line) : withReturns line = line := by
  have hsame : ∀ c ∈ line, (if c = '\n' then ['\r', '\n'] else [c]) = [c] := by
    intro c hc
    refine if_neg ?_
    rintro rfl
    exact h hc
  unfold withReturns
  rw [List.flatMap_congr hsame, List.flatMap_singleton']

theorem withReturns_append (cs cs' : List Char) :
    withReturns (cs ++ cs') = withReturns cs ++ withReturns cs' := List.flatMap_append

theorem movesOf_withReturns (cs : List Char) :
    (movesOf (withReturns cs) : List (Move α)) = movesOf cs := by
  induction cs using text_induction with
  | line cs hcs => rw [withReturns_line hcs]
  | cons cs rest hcs ih =>
      have hreturn : '\n' ∉ cs ++ ['\r'] := by simpa using hcs
      have hfeed : withReturns (cs ++ '\n' :: rest) =
          (cs ++ ['\r']) ++ '\n' :: withReturns rest := by
        rw [withReturns_append, withReturns_line hcs, List.append_assoc]
        rfl
      rw [hfeed, movesOf_append, movesOf_append, movesOf_line hreturn, movesOf_line hcs,
        ofLine?_append_return, ih]

theorem movesOf_map_toLower (cs : List Char) :
    (movesOf (cs.map Char.toLower) : List (Move α)) = movesOf cs := by
  -- Small forms do not move the line feeds.
  have hline {line : List Char} (h : '\n' ∉ line) : '\n' ∉ line.map Char.toLower := by
    intro hmem
    obtain ⟨c, hc, he⟩ := List.mem_map.mp hmem
    have heq := beq_newline_toLower c
    rw [he] at heq
    exact h (eq_of_beq heq.symm ▸ hc)
  induction cs using text_induction with
  | line cs hcs => rw [movesOf_line (hline hcs), movesOf_line hcs, ofLine?_map_toLower]
  | cons cs rest hcs ih =>
      have hfeed : (cs ++ '\n' :: rest).map Char.toLower =
          cs.map Char.toLower ++ '\n' :: rest.map Char.toLower := List.map_append
      rw [hfeed, movesOf_append, movesOf_append, movesOf_line (hline hcs), movesOf_line hcs,
        ofLine?_map_toLower, ih]

end texts

/-! ### Rewritten programs -/

theorem Rewrite.movesOf_eq {cs cs' : List Char} (h : Rewrite cs cs') :
    (movesOf cs : List (Move Float)) = movesOf cs' := by
  cases h with
  | line before after hline h =>
      rw [movesOf_unlines, movesOf_unlines, List.flatMap_append, List.flatMap_append,
        List.flatMap_cons, List.flatMap_cons, movesOf_line hline,
        movesOf_line (h.newline_notMem hline), ofLine?_congr h.code_eq]
  | insert before after hline h =>
      rw [movesOf_unlines, movesOf_unlines, List.flatMap_append, List.flatMap_append,
        List.flatMap_cons, movesOf_line hline, h.ofLine?_eq_none]
      rfl
  | returns => rw [movesOf_withReturns]
  | letterCase h => rw [← movesOf_map_toLower cs, h, movesOf_map_toLower]

theorem movesOf_eq_of_eqvGen {cs cs' : List Char} (h : Relation.EqvGen Rewrite cs cs') :
    (movesOf cs : List (Move Float)) = movesOf cs' := by
  induction h with
  | rel _ _ h => exact h.movesOf_eq
  | refl _ => rfl
  | symm _ _ _ ih => exact ih.symm
  | trans _ _ _ _ _ ih₁ ih₂ => exact ih₁.trans ih₂

/-- **Lines without effect** are without effect everywhere: two texts have the same toolpath when
rewritings lead from one to the other, in any number and order, and each of them forwards or
backwards. -/
theorem ofProgram_eq_of_rewrites {s t : String} (h : Relation.EqvGen Rewrite s.toList t.toList) :
    (Toolpath.ofProgram s : Toolpath Float) = Toolpath.ofProgram t := by
  unfold Toolpath.ofProgram
  rw [moves_eq_movesOf, moves_eq_movesOf, movesOf_eq_of_eqvGen h]

/-- A program with a comment, and the same two moves from other lines, line ends and letters. -/
theorem ofProgram_eq_of_rewrites_header :
    (Toolpath.ofProgram "G1 X5; pen\nG1 Y7" : Toolpath Float) =
        Toolpath.ofProgram "; header\r\ng1 x5\r\nG1 X1.2.3 Y5\r\n\tG1 y7" ∧
      (Toolpath.ofProgram "G1 X5; pen\nG1 Y7" : Toolpath Float).size = 2 := by
  have hcut : Rewrite (unlines ["G1 X5; pen".toList, "G1 Y7".toList])
      (unlines ["G1 X5".toList, "G1 Y7".toList]) :=
    .line [] ["G1 Y7".toList] (by decide)
      (@LineRewrite.uncomment "G1 X5".toList " pen".toList [] (by decide) (Or.inl rfl))
  have hpad : Rewrite (unlines ["G1 X5".toList, "G1 Y7".toList])
      (unlines ["G1 X5".toList, "\tG1 Y7".toList]) :=
    .line ["G1 X5".toList] [] (by decide)
      (@LineRewrite.pad ['\t'] "G1 Y7".toList [] [] (isSpace_singleton (by decide) (by decide))
        isSpace_nil (Or.inl rfl))
  have hpoints : ¬ Reference.IsUnsigned (Reference.unsigned "1.2.3".toList) :=
    fun h => absurd h.2.1 (by decide)
  have hvoid : Rewrite (unlines ["G1 X5".toList, "\tG1 Y7".toList])
      (unlines ["G1 X5".toList, "G1 X1.2.3 Y5".toList, "\tG1 Y7".toList]) :=
    .insert ["G1 X5".toList] ["\tG1 Y7".toList] (by decide)
      (@Void.malformed _ ['X', 'x'] "1.2.3".toList (Or.inl rfl) (by decide)
        (number?_of_not_isUnsigned hpoints))
  have hheader : Rewrite (unlines ["G1 X5".toList, "G1 X1.2.3 Y5".toList, "\tG1 Y7".toList])
      (unlines ["; header".toList, "G1 X5".toList, "G1 X1.2.3 Y5".toList, "\tG1 Y7".toList]) :=
    .insert [] ["G1 X5".toList, "G1 X1.2.3 Y5".toList, "\tG1 Y7".toList] (by decide)
      (void_comment " header".toList)
  have hreturns := Rewrite.returns
    (unlines ["; header".toList, "G1 X5".toList, "G1 X1.2.3 Y5".toList, "\tG1 Y7".toList])
  have hcase : Rewrite
      (withReturns (unlines ["; header".toList, "G1 X5".toList, "G1 X1.2.3 Y5".toList,
        "\tG1 Y7".toList]))
      "; header\r\ng1 x5\r\nG1 X1.2.3 Y5\r\n\tG1 y7".toList :=
    .letterCase (by decide)
  refine ⟨ofProgram_eq_of_rewrites ?_, by decide⟩
  exact .trans _ _ _ (.rel _ _ hcut) <| .trans _ _ _ (.rel _ _ hpad) <|
    .trans _ _ _ (.rel _ _ hvoid) <| .trans _ _ _ (.rel _ _ hheader) <|
    .trans _ _ _ (.rel _ _ hreturns) (.rel _ _ hcase)

end Program
end PenPlotter
