import Mathlib.Data.List.Infix
import Mathlib.Data.Nat.Notation
import Mathlib.Tactic.SplitIfs
import PenPlotter.Toml.Quoted

/-! # Quoted TOML texts read back

Each of the four ways of writing a text is read back.  With escapes this is so for every text;
a text between apostrophes must not need codes, and a row of marks inside three marks has to be
shorter than three.  `quoted` chooses accordingly (`takeText?_quoted`). -/

namespace PenPlotter.Toml

variable {c mark : Char} {cs body rest after : List Char} {multiLine : Bool}

/-! ### Escapes -/

theorem charOfHex?_hexFour : ∀ n < 0x80, charOfHex? (hexFour n) = some (Char.ofNat n) := by
  decide

/-- What is written for a character other than a quotation mark. -/
inductive Escaped (multiLine : Bool) (c : Char) : List Char → Prop where
  | letter {e : Char} (he : escaped? e = some c) : Escaped multiLine c ['\\', e]
  | code (h : c.toNat < 0x80) : Escaped multiLine c ('\\' :: 'u' :: hexFour c.toNat)
  | lineEnd (hlines : multiLine) (hc : c = '\n') : Escaped multiLine c ['\n']
  | plain (hslash : c ≠ '\\') (hc : isPlain c) : Escaped multiLine c [c]

theorem escaped_escape (multiLine : Bool) (c : Char) :
    Escaped multiLine c (escape multiLine c) := by
  have hchar (n : ℕ) (h : c.toNat = n) : c = Char.ofNat n := by rw [← h, Char.ofNat_toNat]
  unfold escape
  split
  next h => exact .letter (by rw [hchar 8 h]; rfl)
  next h => exact .letter (by rw [hchar 9 h]; rfl)
  next h =>
    cases multiLine with
    | true => exact .lineEnd rfl (hchar 10 h)
    | false => exact .letter (by rw [hchar 10 h]; rfl)
  next h => exact .letter (by rw [hchar 12 h]; rfl)
  next h => exact .letter (by rw [hchar 13 h]; rfl)
  next h => exact .letter (by rw [hchar 92 h]; rfl)
  next h8 h9 h10 h12 h13 h92 =>
    split_ifs with hcode
    · exact .code (by omega)
    · refine .plain (by rintro rfl; exact h92 rfl) ?_
      simp only [isPlain, Bool.or_eq_true, Bool.and_eq_true, decide_eq_true_eq, bne_iff_ne]
      omega

theorem escaped_letter {e : Char} (he : escaped? e = some c) : e ≠ 'u' ∧ e ≠ 'U' := by
  constructor <;> rintro rfl <;> exact absurd he (by simp [escaped?])

/-- What is written for a character is no quotation mark and begins with none. -/
theorem Escaped.head (h : Escaped multiLine c body) (hc : c ≠ '"') :
    ∃ d ds, body = d :: ds ∧ d ≠ '"' := by
  cases h with
  | letter => exact ⟨_, _, rfl, by decide⟩
  | code => exact ⟨_, _, rfl, by decide⟩
  | lineEnd => exact ⟨_, _, rfl, by decide⟩
  | plain => exact ⟨_, _, rfl, hc⟩

theorem escapeAll_eq_nil {allowed run : ℕ} (h : escapeAll multiLine allowed run cs = []) :
    cs = [] := by
  cases cs with
  | nil => rfl
  | cons c cs =>
      rw [escapeAll] at h
      split_ifs at h with hquote
      obtain ⟨d, ds, hescape, -⟩ := (escaped_escape multiLine c).head hquote
      simp [hescape] at h

/-- Only a quotation mark of the text that is not the last allowed one stands unescaped. -/
theorem escapeAll_quote {allowed run : ℕ} (h : escapeAll multiLine allowed run cs = '"' :: body) :
    ∃ cs', cs = '"' :: cs' ∧ run < allowed ∧ body = escapeAll multiLine allowed (run + 1) cs' := by
  cases cs with
  | nil => exact absurd h (by simp [escapeAll])
  | cons c cs =>
      rw [escapeAll] at h
      split_ifs at h with hquote hrow
      · exact ⟨cs, by rw [hquote], hrow, (List.cons.inj h).2.symm⟩
      · exact absurd (List.cons.inj h).1 (by decide)
      · obtain ⟨d, ds, hescape, hd⟩ := (escaped_escape multiLine c).head hquote
        rw [hescape] at h
        exact absurd (List.cons.inj h).1 hd

/-! ### On one line -/

theorem takeBasic?_letter {e : Char} (he : escaped? e = some c) (rest : List Char) :
    takeBasic? ('\\' :: e :: rest) = (takeBasic? rest).map fun r => (c :: r.1, r.2) := by
  obtain ⟨hu, hU⟩ := escaped_letter he
  rw [takeBasic?.eq_5 _ _ (fun _ _ _ _ _ h _ => hu h) (fun _ _ _ _ _ _ _ _ _ h _ => hU h), he]
  cases takeBasic? rest <;> rfl

example : takeBasic? ['\\', 't', 'a', '"', ' '] = some (['\t', 'a'], [' ']) := by cbv

theorem takeBasic?_plain (hquote : c ≠ '"') (hslash : c ≠ '\\') (hc : isPlain c)
    (rest : List Char) :
    takeBasic? (c :: rest) = (takeBasic? rest).map fun r => (c :: r.1, r.2) := by
  have hplain : ¬(c = '\\' ∨ (!isPlain c) = true) := by simp [hslash, hc]
  rw [takeBasic?.eq_6 _ _ hquote (fun _ _ _ _ _ h _ => hslash h)
    (fun _ _ _ _ _ _ _ _ _ h _ => hslash h) (fun _ _ h _ => hslash h), if_neg hplain]
  cases takeBasic? rest <;> rfl

theorem takeBasic?_code (h : c.toNat < 0x80) (rest : List Char) :
    takeBasic? ('\\' :: 'u' :: (hexFour c.toNat ++ rest)) =
      (takeBasic? rest).map fun r => (c :: r.1, r.2) := by
  have hcode := charOfHex?_hexFour c.toNat h
  rw [Char.ofNat_toNat] at hcode
  unfold hexFour at hcode ⊢
  simp only [List.map_cons, List.map_nil, List.cons_append, List.nil_append] at hcode ⊢
  rw [takeBasic?, hcode]
  cases takeBasic? rest <;> rfl

theorem takeBasic?_escaped (h : Escaped false c body) (hc : c ≠ '"') (rest : List Char) :
    takeBasic? (body ++ rest) = (takeBasic? rest).map fun r => (c :: r.1, r.2) := by
  cases h with
  | letter he => exact takeBasic?_letter he rest
  | code h => exact takeBasic?_code h rest
  | lineEnd hlines => exact absurd hlines (by decide)
  | plain hslash hplain => exact takeBasic?_plain hc hslash hplain rest

theorem takeBasic?_escapeAll (cs rest : List Char) :
    takeBasic? (escapeAll false 0 0 cs ++ '"' :: rest) = some (cs, rest) := by
  induction cs with
  | nil => rw [escapeAll, List.nil_append, takeBasic?]
  | cons c cs ih =>
      rw [escapeAll]
      split_ifs with hquote hrow
      · exact absurd hrow (by decide)
      · rw [List.cons_append, List.cons_append, takeBasic?_letter (c := '"') rfl, ih, hquote]
        rfl
      · rw [List.append_assoc, takeBasic?_escaped (escaped_escape false c) hquote, ih]
        rfl

theorem takeLiteral?_append (hmark : '\'' ∉ cs) (hplain : ∀ c ∈ cs, isPlain c) (rest : List Char) :
    takeLiteral? (cs ++ '\'' :: rest) = some (cs, rest) := by
  induction cs with
  | nil => rfl
  | cons c cs ih =>
      rw [List.forall_mem_cons] at hplain
      rw [List.mem_cons, not_or] at hmark
      rw [List.cons_append, takeLiteral?.eq_3 _ _ (fun h => hmark.1 h.symm),
        if_neg (by simp [hplain.1]), ih hmark.2 hplain.2]
      rfl

/-! ### Marks in a row -/

/-- The row of marks at the end is cut off. -/
theorem closing?_end (hafter : after.head? ≠ some mark) :
    closing? mark (mark :: mark :: mark :: after) = some ([], after) := by
  cases after with
  | nil => simp [closing?]
  | cons d after =>
      have hd : d ≠ mark := by simpa using hafter
      cases after <;> simp [closing?, hd]

/-- A mark that belongs to the text, unless two more of the text follow, is not the beginning of
the end, or is cut off together with it. -/
theorem closing?_body (hafter : after.head? ≠ some mark) (hbody : ¬[mark, mark] <+: body) :
    closing? mark (mark :: (body ++ mark :: mark :: mark :: after)) =
      if body = [] then some ([mark], after)
      else if body = [mark] then some ([mark, mark], after)
      else none := by
  match body with
  | [] =>
      cases after with
      | nil => simp [closing?]
      | cons d after =>
          have hd : d ≠ mark := by simpa using hafter
          simp [closing?, hd]
  | [a] =>
      by_cases ha : a = mark
      · subst ha
        simp [closing?]
      · simp [closing?, ha]
  | a :: b :: body =>
      have hab : a = mark → b ≠ mark := by
        rintro rfl rfl
        exact hbody ⟨body, rfl⟩
      rw [if_neg (by simp), if_neg (by simp), List.cons_append, List.cons_append]
      simp only [closing?]
      exact if_neg fun h => hab h.2.1 h.2.2

/-! ### Over several lines, with escapes -/

theorem takeBasicLines?_letter {e : Char} (he : escaped? e = some c) (rest : List Char) :
    takeBasicLines? .text ('\\' :: e :: rest) =
      (takeBasicLines? .text rest).map fun r => (c :: r.1, r.2) := by
  obtain ⟨hu, hU⟩ := escaped_letter he
  have hmode : ¬LineMode.text = .pending := by decide
  by_cases hrest : ∃ rest', rest = '\n' :: rest'
  · obtain ⟨rest', rfl⟩ := hrest
    rw [takeBasicLines?.eq_4 _ _ _ (fun _ _ _ _ _ h _ => hu h)
      (fun _ _ _ _ _ _ _ _ _ h _ => hU h), if_neg hmode, he]
    cases takeBasicLines? .text ('\n' :: rest') <;> rfl
  · rw [takeBasicLines?.eq_5 _ _ _ (fun _ _ _ _ _ h _ => hu h)
      (fun _ _ _ _ _ _ _ _ _ h _ => hU h) (fun rest' h => hrest ⟨rest', h⟩), if_neg hmode, he]
    cases takeBasicLines? .text rest <;> rfl

example : takeBasicLines? .text ['\\', '"', '"', '"', '"', ' '] = some (['"'], [' ']) := by cbv

theorem takeBasicLines?_code (h : c.toNat < 0x80) (rest : List Char) :
    takeBasicLines? .text ('\\' :: 'u' :: (hexFour c.toNat ++ rest)) =
      (takeBasicLines? .text rest).map fun r => (c :: r.1, r.2) := by
  have hcode := charOfHex?_hexFour c.toNat h
  rw [Char.ofNat_toNat] at hcode
  unfold hexFour at hcode ⊢
  simp only [List.map_cons, List.map_nil, List.cons_append, List.nil_append] at hcode ⊢
  rw [takeBasicLines?, hcode, if_neg (by decide)]
  cases takeBasicLines? .text rest <;> rfl

theorem takeBasicLines?_lineEnd (rest : List Char) :
    takeBasicLines? .text ('\n' :: rest) =
      (takeBasicLines? .text rest).map fun r => ('\n' :: r.1, r.2) := by
  rw [takeBasicLines?, if_pos rfl]
  cases takeBasicLines? .text rest <;> rfl

theorem isPlain_ne (hc : isPlain c) : c ≠ '\n' ∧ c ≠ '\r' := by
  constructor <;> rintro rfl <;> exact absurd hc (by decide)

theorem takeBasicLines?_plain (hslash : c ≠ '\\') (hc : isPlain c) (rest : List Char) :
    takeBasicLines? .text (c :: rest) =
      (if c = '"' then closing? '"' (c :: rest) else none).or
        ((takeBasicLines? .text rest).map fun r => (c :: r.1, r.2)) := by
  have hplain : ¬(c = '\\' ∨ (!isPlain c) = true) := by simp [hslash, hc]
  obtain ⟨hline, hreturn⟩ := isPlain_ne hc
  rw [takeBasicLines?.eq_8 _ _ _ (fun _ _ _ _ _ h _ => hslash h)
    (fun _ _ _ _ _ _ _ _ _ h _ => hslash h) (fun _ _ h _ => hslash h) (fun _ h _ => hreturn h)
    hline, if_neg (by simp), if_neg (by decide), if_neg hplain]
  generalize (if c = '"' then closing? '"' (c :: rest) else none) = closed
  cases closed with
  | some closed => rfl
  | none => cases takeBasicLines? .text rest <;> rfl

theorem takeBasicLines?_escaped (h : Escaped true c body) (hc : c ≠ '"') (rest : List Char) :
    takeBasicLines? .text (body ++ rest) =
      (takeBasicLines? .text rest).map fun r => (c :: r.1, r.2) := by
  cases h with
  | letter he => exact takeBasicLines?_letter he rest
  | code h => exact takeBasicLines?_code h rest
  | lineEnd _ hc =>
      rw [hc]
      exact takeBasicLines?_lineEnd rest
  | plain hslash hplain =>
      change takeBasicLines? .text (c :: rest) = _
      rw [takeBasicLines?_plain hslash hplain, if_neg hc, Option.none_or]

theorem takeBasicLines?_escapeAll (hafter : after.head? ≠ some '"') (cs : List Char) {run : ℕ}
    (hrun : run ≤ 2) :
    takeBasicLines? .text (escapeAll true 2 run cs ++ '"' :: '"' :: '"' :: after) =
      some (cs, after) := by
  have hquote (rest : List Char) := takeBasicLines?_plain (c := '"') (by decide) rfl rest
  induction cs generalizing run with
  | nil =>
      rw [escapeAll, List.nil_append, hquote, if_pos rfl, closing?_end hafter, Option.some_or]
  | cons c cs ih =>
      rw [escapeAll]
      split_ifs with hc hrow
      · -- an unescaped quotation mark: behind it no two more stand in the text
        have hshort : ¬['"', '"'] <+: escapeAll true 2 (run + 1) cs := by
          rintro ⟨rest, hrest⟩
          obtain ⟨cs', -, -, hbody⟩ := escapeAll_quote hrest.symm
          obtain ⟨-, -, hlt, -⟩ := escapeAll_quote hbody.symm
          omega
        rw [List.cons_append, hquote, if_pos rfl, closing?_body hafter hshort]
        split_ifs with hnil hone
        · rw [escapeAll_eq_nil hnil, hc, Option.some_or]
        · obtain ⟨cs', rfl, -, hbody⟩ := escapeAll_quote hone
          rw [escapeAll_eq_nil hbody.symm, hc, Option.some_or]
        · rw [ih (by omega), hc, Option.none_or]
          rfl
      · rw [List.cons_append, List.cons_append, takeBasicLines?_letter (c := '"') rfl,
          ih (by omega), hc]
        rfl
      · rw [List.append_assoc, takeBasicLines?_escaped (escaped_escape true c) hc, ih (by omega)]
        rfl

/-! ### Over several lines, between apostrophes -/

theorem takeLiteralLines?_lineEnd (rest : List Char) :
    takeLiteralLines? ('\n' :: rest) =
      (takeLiteralLines? rest).map fun r => ('\n' :: r.1, r.2) := by
  rw [takeLiteralLines?]
  cases takeLiteralLines? rest <;> rfl

theorem takeLiteralLines?_plain (hc : isPlain c) (rest : List Char) :
    takeLiteralLines? (c :: rest) =
      (if c = '\'' then closing? '\'' (c :: rest) else none).or
        ((takeLiteralLines? rest).map fun r => (c :: r.1, r.2)) := by
  obtain ⟨hline, hreturn⟩ := isPlain_ne hc
  rw [takeLiteralLines?.eq_4 _ _ (fun _ h _ => hreturn h) hline]
  generalize (if c = '\'' then closing? '\'' (c :: rest) else none) = closed
  cases closed with
  | some closed => rfl
  | none =>
      simp only [hc, Bool.not_true, Bool.false_eq_true, if_false]
      cases takeLiteralLines? rest <;> rfl

theorem takeLiteralLines?_append (hafter : after.head? ≠ some '\'')
    (hplain : ∀ c ∈ cs, c = '\n' ∨ isPlain c) (hrow : ¬['\'', '\'', '\''] <:+: cs) :
    takeLiteralLines? (cs ++ '\'' :: '\'' :: '\'' :: after) = some (cs, after) := by
  induction cs with
  | nil =>
      rw [List.nil_append, takeLiteralLines?_plain rfl, if_pos rfl, closing?_end hafter,
        Option.some_or]
  | cons c cs ih =>
      rw [List.forall_mem_cons] at hplain
      have hrest := ih hplain.2 fun h => hrow (h.trans (List.suffix_cons c cs).isInfix)
      rw [List.cons_append]
      rcases hplain.1 with rfl | hc
      · rw [takeLiteralLines?_lineEnd, hrest]
        rfl
      rw [takeLiteralLines?_plain hc]
      split_ifs with hmark
      · subst hmark
        have hshort : ¬['\'', '\''] <+: cs := fun h =>
          hrow (List.prefix_cons_iff.2 (.inr ⟨_, rfl, h⟩)).isInfix
        rw [closing?_body hafter hshort]
        split_ifs with hnil hone
        · rw [hnil, Option.some_or]
        · rw [hone, Option.some_or]
        · rw [hrest, Option.none_or]
          rfl
      · rw [hrest, Option.none_or]
        rfl

/-! ### The longest row of a mark -/

/-- One character of the count of rows. -/
def countRow (c : Char) (acc : ℕ × ℕ) (d : Char) : ℕ × ℕ :=
  if d = c then (max acc.1 (acc.2 + 1), acc.2 + 1) else (acc.1, 0)

theorem longestRun_eq (c : Char) (cs : List Char) :
    longestRun c cs = (cs.foldl (countRow c) (0, 0)).1 := rfl

theorem le_countRow (c : Char) (cs : List Char) (acc : ℕ × ℕ) :
    acc.1 ≤ (cs.foldl (countRow c) acc).1 := by
  induction cs generalizing acc with
  | nil => exact Nat.le_refl _
  | cons d cs ih =>
      refine Nat.le_trans ?_ (ih _)
      unfold countRow
      split_ifs
      · exact Nat.le_max_left _ _
      · exact Nat.le_refl _

theorem countRow_replicate (c : Char) (k : ℕ) (acc : ℕ × ℕ) (h : acc.2 ≤ acc.1) :
    acc.2 + k ≤ ((List.replicate k c).foldl (countRow c) acc).1 := by
  induction k generalizing acc with
  | zero => exact h
  | succ k ih =>
      have hstep : countRow c acc c = (max acc.1 (acc.2 + 1), acc.2 + 1) := if_pos rfl
      rw [List.replicate_succ, List.foldl_cons, hstep]
      have := ih (max acc.1 (acc.2 + 1), acc.2 + 1) (Nat.le_max_right _ _)
      simp only at this
      omega

theorem countRow_le (c : Char) (cs : List Char) (acc : ℕ × ℕ) (h : acc.2 ≤ acc.1) :
    (cs.foldl (countRow c) acc).2 ≤ (cs.foldl (countRow c) acc).1 := by
  induction cs generalizing acc with
  | nil => exact h
  | cons d cs ih =>
      refine ih _ ?_
      unfold countRow
      split_ifs
      · exact Nat.le_max_right _ _
      · exact Nat.zero_le _

theorem le_longestRun {k : ℕ} (h : List.replicate k c <:+: cs) : k ≤ longestRun c cs := by
  obtain ⟨before, behind, rfl⟩ := h
  rw [longestRun_eq, List.foldl_append, List.foldl_append]
  have hrow := countRow_replicate c k _ (countRow_le c before (0, 0) (Nat.le_refl 0))
  exact Nat.le_trans (by omega) (le_countRow c behind _)

/-! ### The four ways -/

theorem takeText?_basic (hrest : rest.head? ≠ some '"') :
    takeText? (basic cs ++ rest) = some (cs, rest) := by
  have hbasic : basic cs ++ rest = '"' :: (escapeAll false 0 0 cs ++ '"' :: rest) := by
    simp [basic]
  have hthree : ∀ rest', escapeAll false 0 0 cs ++ '"' :: rest ≠ '"' :: '"' :: rest' := by
    intro rest' heq
    cases hbody : escapeAll false 0 0 cs with
    | nil =>
        rw [hbody, List.nil_append] at heq
        exact hrest (by rw [(List.cons.inj heq).2, List.head?_cons])
    | cons d ds =>
        rw [hbody, List.cons_append] at heq
        rw [(List.cons.inj heq).1] at hbody
        obtain ⟨_, _, hlt, _⟩ := escapeAll_quote hbody
        omega
  rw [hbasic, takeText?.eq_3 _ (fun rest' h => hthree rest' (List.cons.inj h).2)
    (fun _ h => absurd (List.cons.inj h).1 (by decide)), takeLineText?, takeBasic?_escapeAll]

theorem takeText?_literal (hne : cs ≠ []) (hmark : '\'' ∉ cs) (hplain : ∀ c ∈ cs, isPlain c) :
    takeText? (literal cs ++ rest) = some (cs, rest) := by
  have hliteral : literal cs ++ rest = '\'' :: (cs ++ '\'' :: rest) := by simp [literal]
  have htwo : ∀ rest', cs ++ '\'' :: rest ≠ '\'' :: rest' := by
    intro rest' heq
    obtain ⟨d, ds, rfl⟩ := List.exists_cons_of_ne_nil hne
    exact hmark ((List.cons.inj heq).1 ▸ List.mem_cons_self)
  rw [hliteral, takeText?.eq_3 _ (fun _ h => absurd (List.cons.inj h).1 (by decide))
    (fun _ h => htwo _ (List.cons.inj h).2), takeLineText?, takeLiteral?_append hmark hplain]

theorem takeNewline?_of_ne (hline : c ≠ '\n') (hreturn : c ≠ '\r') (rest : List Char) :
    takeNewline? (c :: rest) = none := by
  unfold takeNewline?
  split <;> simp_all

/-- The line end before a text over several lines is passed over, and no other is. -/
theorem skipOpening_opening (h : '\n' ∉ cs → takeNewline? body = none) :
    skipOpening (opening cs ++ body) = body := by
  unfold opening
  split_ifs with hlines
  · rfl
  · rw [List.nil_append, skipOpening, h (by simpa using hlines), Option.getD_none]

theorem takeNewline?_escapeAll (hlines : '\n' ∉ cs) (rest : List Char) :
    takeNewline? (escapeAll true 2 0 cs ++ '"' :: rest) = none := by
  cases cs with
  | nil => rfl
  | cons c cs =>
      rw [List.mem_cons, not_or] at hlines
      rw [escapeAll]
      split_ifs with hc
      · rfl
      · rfl
      · rw [List.append_assoc]
        have hescaped := escaped_escape true c
        generalize escape true c = body at hescaped
        cases hescaped with
        | letter => rfl
        | code => rfl
        | lineEnd _ hline => exact absurd hline.symm hlines.1
        | plain _ hplain => exact takeNewline?_of_ne (isPlain_ne hplain).1 (isPlain_ne hplain).2 _

theorem takeText?_basicLines (hrest : rest.head? ≠ some '"') :
    takeText? (basicLines cs ++ rest) = some (cs, rest) := by
  have hbasic : basicLines cs ++ rest = '"' :: '"' :: '"' ::
      (opening cs ++ (escapeAll true 2 0 cs ++ '"' :: '"' :: '"' :: rest)) := by
    simp [basicLines]
  rw [hbasic, takeText?, skipOpening_opening fun h => takeNewline?_escapeAll h _,
    takeBasicLines?_escapeAll hrest cs (by decide)]

theorem takeText?_literalLines (hrest : rest.head? ≠ some '\'')
    (hplain : ∀ c ∈ cs, c = '\n' ∨ isPlain c) (hrow : ¬['\'', '\'', '\''] <:+: cs) :
    takeText? (literalLines cs ++ rest) = some (cs, rest) := by
  have hliteral : literalLines cs ++ rest =
      '\'' :: '\'' :: '\'' :: (opening cs ++ (cs ++ '\'' :: '\'' :: '\'' :: rest)) := by
    simp [literalLines]
  have hopening : '\n' ∉ cs → takeNewline? (cs ++ '\'' :: '\'' :: '\'' :: rest) = none := by
    intro hlines
    cases cs with
    | nil => rfl
    | cons c cs =>
        rw [List.mem_cons, not_or] at hlines
        have hc := (hplain c List.mem_cons_self).resolve_left fun h => hlines.1 h.symm
        exact takeNewline?_of_ne (isPlain_ne hc).1 (isPlain_ne hc).2 _
  rw [hliteral, takeText?, skipOpening_opening hopening,
    takeLiteralLines?_append hrest hplain hrow]

theorem isPlain_of_needsCode (h : needsCode c = false) : c = '\n' ∨ isPlain c := by
  simp only [needsCode, isPlain, Bool.and_eq_false_iff, bne_eq_false_iff_eq, Bool.or_eq_false_iff,
    decide_eq_false_iff_not, beq_eq_false_iff_ne, Bool.or_eq_true, beq_iff_eq, Bool.and_eq_true,
    decide_eq_true_eq, bne_iff_ne] at h ⊢
  rcases h with (rfl | rfl) | h
  · exact .inr (.inl rfl)
  · exact .inl rfl
  · exact .inr (.inr ⟨by omega, h.2⟩)

theorem notMem_of_longestRun (h : longestRun c cs = 0) : c ∉ cs := by
  intro hmem
  obtain ⟨before, behind, rfl⟩ := List.append_of_mem hmem
  have hone : List.replicate 1 c <:+: before ++ c :: behind := ⟨before, behind, by simp⟩
  have := le_longestRun hone
  omega

/-- **A quoted text** is read back, whichever way it is written. -/
theorem takeText?_quoted (s : String) (hdouble : rest.head? ≠ some '"')
    (hsingle : rest.head? ≠ some '\'') :
    takeText? ((quoted s).toList ++ rest) = some (s.toList, rest) := by
  have hplain (h : s.toList.any needsCode = false) : ∀ c ∈ s.toList, c = '\n' ∨ isPlain c :=
    fun c hc => isPlain_of_needsCode (by simpa using List.any_eq_false.1 h c hc)
  unfold quoted
  simp only [String.toList_ofList]
  split_ifs with hbasic hliteral hbasicLines hliteralLines hlines
  · exact takeText?_basic hdouble
  · simp only [Bool.and_eq_true, Bool.not_eq_true', beq_iff_eq] at hliteral
    obtain ⟨⟨hcodes, hmarks⟩, hlines⟩ := hliteral
    refine takeText?_literal ?_ (notMem_of_longestRun hmarks) fun c hc => ?_
    · intro hnil
      simp [hnil, longestRun] at hbasic
    · refine (hplain hcodes c hc).resolve_left ?_
      rintro rfl
      simp [hc] at hlines
  · exact takeText?_basicLines hdouble
  · simp only [Bool.and_eq_true, Bool.not_eq_true', decide_eq_true_eq] at hliteralLines
    refine takeText?_literalLines hsingle (hplain hliteralLines.1) fun hrow => ?_
    have := le_longestRun (k := 3) hrow
    omega
  · exact takeText?_basicLines hdouble
  · exact takeText?_basic hdouble

end PenPlotter.Toml
