import PenPlotter.Proofs.Toml.Numeral
import PenPlotter.Proofs.Toml.Quoted
import PenPlotter.Toml.Value

/-! # Written TOML values read back

In front of a line end a text, a whole number or a double from zero up is cut off as it was
(`takeValue?_scalarText`). -/

namespace PenPlotter.Toml

variable {cs rest : List Char} {v : Toml}

/-- Texts, whole numbers, and doubles from zero up. -/
inductive Simple : Toml → Prop where
  | string (s : String) : Simple (.string s)
  | integer (n : ℤ) : Simple (.integer n)
  | float {x : Float} (h : 0.0 ≤ x) : Simple (.float x)

/-- A value that begins neither an array nor an inline table. -/
theorem takeValue?_of_scalar (harray : cs.head? ≠ some '[') (htable : cs.head? ≠ some '\x7b') :
    takeValue? cs = takeScalar? cs := by
  refine takeNested?.eq_4 _ _ ?_ ?_ <;> rintro rest rfl
  · exact harray rfl
  · exact htable rfl

/-! ### Words -/

theorem takeText?_of_ne (hdouble : cs.head? ≠ some '"') (hsingle : cs.head? ≠ some '\'') :
    takeText? cs = none := by
  rw [takeText?.eq_3 cs (by rintro _ rfl; exact hdouble rfl) (by rintro _ rfl; exact hsingle rfl)]
  unfold takeLineText?
  split
  · exact absurd rfl hdouble
  · exact absurd rfl hsingle
  · rfl

theorem takeScalar?_word (hne : cs ≠ []) (hrun : ∀ c ∈ cs, isRunChar c)
    (h : wordValue? cs = some v) :
    takeScalar? (cs ++ '\n' :: rest) = some (v, '\n' :: rest) := by
  have hcut : (cs ++ '\n' :: rest).takeWhile isRunChar = cs ∧
      (cs ++ '\n' :: rest).dropWhile isRunChar = '\n' :: rest := by
    rw [List.takeWhile_append_of_pos hrun, List.dropWhile_append_of_pos hrun]
    exact ⟨List.append_nil cs, rfl⟩
  obtain ⟨c, ds, rfl⟩ := List.exists_cons_of_ne_nil hne
  have hc := hrun c List.mem_cons_self
  have htext : takeText? (c :: ds ++ '\n' :: rest) = none := by
    refine takeText?_of_ne ?_ ?_ <;> rintro heq <;> cases Option.some.inj heq <;>
      exact absurd hc (by decide)
  simp only [takeScalar?, htext, hcut, h, Option.map_some]
  rfl

section signed

variable {body : List Char} (negative : Bool)

theorem mem_signed {c : Char} (hbody : ∀ c ∈ body, c.isDigit ∨ c = '.')
    (hc : c ∈ Decimal.signChars negative ++ body) : c = '-' ∨ c.isDigit ∨ c = '.' := by
  rw [List.mem_append] at hc
  rcases hc with hc | hc
  · cases negative with
    | true => exact .inl (List.mem_singleton.1 hc)
    | false => cases hc
  · exact .inr (hbody c hc)

theorem takeValue?_signed (hne : body ≠ []) (hbody : ∀ c ∈ body, c.isDigit ∨ c = '.')
    (h : number? (Decimal.signChars negative ++ body) = some v) :
    takeValue? (Decimal.signChars negative ++ body ++ '\n' :: rest) = some (v, '\n' :: rest) := by
  have hnot {c : Char} (hc : (c = '-' ∨ c.isDigit ∨ c = '.') → False) :
      c ∉ Decimal.signChars negative ++ body := fun hmem => hc (mem_signed negative hbody hmem)
  have hrun : ∀ c ∈ Decimal.signChars negative ++ body, isRunChar c := by
    intro c hc
    rcases mem_signed negative hbody hc with rfl | hdigit | rfl
    · rfl
    · simp [isRunChar, Char.isAlphanum, hdigit]
    · rfl
  have hword : wordValue? (Decimal.signChars negative ++ body) = some v := by
    have htrue : Decimal.signChars negative ++ body ≠ "true".toList :=
      fun heq => hnot (c := 't') (by decide) (heq ▸ by decide)
    have hfalse : Decimal.signChars negative ++ body ≠ "false".toList :=
      fun heq => hnot (c := 'f') (by decide) (heq ▸ by decide)
    rw [wordValue?, if_neg htrue, if_neg hfalse, isMoment_signed hbody, if_neg (by decide), h]
  have hhead {c : Char} (hc : (c = '-' ∨ c.isDigit ∨ c = '.') → False) :
      (Decimal.signChars negative ++ body ++ '\n' :: rest).head? ≠ some c := by
    intro heq
    rw [List.head?_append_of_ne_nil _ (by simp [hne])] at heq
    exact hnot hc (List.mem_of_mem_head? heq)
  rw [takeValue?_of_scalar (hhead (by decide)) (hhead (by decide)),
    takeScalar?_word (by simp [hne]) hrun hword]

end signed

/-! ### Texts -/

theorem exists_quoted (s : String) :
    ∃ c cs, (quoted s).toList = c :: cs ∧ (c = '"' ∨ c = '\'') := by
  unfold quoted
  simp only [String.toList_ofList]
  split_ifs
  · exact ⟨_, _, rfl, .inl rfl⟩
  · exact ⟨_, _, rfl, .inr rfl⟩
  · exact ⟨_, _, rfl, .inl rfl⟩
  · exact ⟨_, _, rfl, .inr rfl⟩
  · exact ⟨_, _, rfl, .inl rfl⟩
  · exact ⟨_, _, rfl, .inl rfl⟩

theorem takeValue?_quoted (s : String) :
    takeValue? ((quoted s).toList ++ '\n' :: rest) = some (.string s, '\n' :: rest) := by
  have hread : takeText? ((quoted s).toList ++ '\n' :: rest) = some (s.toList, '\n' :: rest) :=
    takeText?_quoted s (by simp) (by simp)
  obtain ⟨c, cs, htext, hmark⟩ := exists_quoted s
  have hhead {d : Char} (hd : d ≠ '"' ∧ d ≠ '\'') :
      ((quoted s).toList ++ '\n' :: rest).head? ≠ some d := by
    rw [htext, List.cons_append, List.head?_cons, ne_eq, Option.some.injEq]
    rintro rfl
    exact hmark.elim hd.1 hd.2
  rw [takeValue?_of_scalar (hhead (by decide)) (hhead (by decide)), takeScalar?, hread]
  simp only [String.ofList_toList]

/-! ### All values -/

theorem takeValue?_infinity :
    takeValue? ("inf".toList ++ '\n' :: rest) = some (.float (1.0 / 0.0), '\n' :: rest) := by
  rw [takeValue?_of_scalar (by simp) (by simp)]
  exact takeScalar?_word (by decide) (List.all_eq_true.1 rfl) rfl

/-- **A value on a line** is read back. -/
theorem takeValue?_scalarText (hv : Simple v) {text : String} (h : scalarText? v = some text) :
    takeValue? (text.toList ++ '\n' :: rest) = some (v, '\n' :: rest) := by
  cases hv with
  | string s =>
      rw [← Option.some.inj h]
      exact takeValue?_quoted s
  | integer n =>
      rw [scalarText?] at h
      split_ifs at h with hword
      have hdigits := isWhole_toDigits n.natAbs
      have hread := number?_toString hword
      rw [← Option.some.inj h]
      rw [Decimal.toList_toString] at hread ⊢
      exact takeValue?_signed _ hdigits.ne_nil (fun c hc => .inl (hdigits.digits c hc)) hread
  | @float x hx =>
      rw [← Option.some.inj h]
      by_cases hfinite : x.isFinite = true
      · have hread := number?_floatText hfinite
        obtain ⟨negative, body, htext, hne, hbody⟩ := exists_signed hfinite
        rw [htext] at hread ⊢
        exact takeValue?_signed negative hne hbody hread
      · rw [Double.eq_infinity (by simpa using hfinite) hx]
        exact takeValue?_infinity

theorem isSpace_signed {negative : Bool} {body : List Char} (hne : body ≠ [])
    (hbody : ∀ c ∈ body, c.isDigit ∨ c = '.') :
    ∃ c ds, Decimal.signChars negative ++ body = c :: ds ∧ isSpace c = false := by
  obtain ⟨c, ds, heq⟩ := List.exists_cons_of_ne_nil (l := Decimal.signChars negative ++ body)
    (by simp [hne])
  refine ⟨c, ds, heq, ?_⟩
  have hc := mem_signed negative hbody (c := c) (heq ▸ List.mem_cons_self)
  by_contra hspace
  simp only [isSpace, Bool.not_eq_false, Bool.or_eq_true, beq_iff_eq] at hspace
  rcases hspace with rfl | rfl <;> exact absurd hc (by decide)

theorem exists_scalarText (hv : Simple v) {text : String} (h : scalarText? v = some text) :
    ∃ c cs, text.toList = c :: cs ∧ isSpace c = false := by
  cases hv with
  | string s =>
      obtain ⟨c, cs, htext, rfl | rfl⟩ := exists_quoted s <;> rw [← Option.some.inj h]
      · exact ⟨_, cs, htext, rfl⟩
      · exact ⟨_, cs, htext, rfl⟩
  | integer n =>
      rw [scalarText?] at h
      split_ifs at h
      have hdigits := isWhole_toDigits n.natAbs
      rw [← Option.some.inj h, Decimal.toList_toString]
      exact isSpace_signed hdigits.ne_nil fun c hc => .inl (hdigits.digits c hc)
  | @float x hx =>
      rw [← Option.some.inj h]
      by_cases hfinite : x.isFinite = true
      · obtain ⟨negative, body, htext, hne, hbody⟩ := exists_signed hfinite
        rw [htext]
        exact isSpace_signed hne hbody
      · rw [Double.eq_infinity (by simpa using hfinite) hx]
        exact ⟨'i', ['n', 'f'], rfl, rfl⟩

end PenPlotter.Toml
