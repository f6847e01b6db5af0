import PenPlotter.Proofs.Decimal.Digits
import PenPlotter.Proofs.Double.Numeral
import PenPlotter.Proofs.Toolpath.Scanning

/-! # Reading coordinates

The scanner for the text of a coordinate, and the reading of a numeral in plain notation.
`ofPlain?_eq` says which runs are numerals and what they stand for, and `given?_eq` that a line
gives for an axis what the rules say. -/

namespace PenPlotter

open Reference

/-! ### The text of a coordinate -/

section text

theorem mem_numerals_iff (c : Char) :
    c ∈ numerals ↔ c = '-' ∨ c = '+' ∨ c = '.' ∨ (48 ≤ c.toNat ∧ c.toNat ≤ 57) := by
  have hall : numerals.all fun d =>
      d = '-' ∨ d = '+' ∨ d = '.' ∨ (48 ≤ d.toNat ∧ d.toNat ≤ 57) := by decide
  have hdigits : ∀ n < 58, 48 ≤ n → Char.ofNat n ∈ numerals := by decide
  constructor
  · intro hc
    exact of_decide_eq_true (List.all_eq_true.mp hall c hc)
  · rintro (rfl | rfl | rfl | ⟨hlow, hhigh⟩)
    · decide
    · decide
    · decide
    · rw [← Char.ofNat_toNat c]
      exact hdigits c.toNat (by omega) hlow

theorem isCoordinate_eq : Program.isCoordinate = fun c => decide (c ∈ numerals) := by
  funext c
  rw [Bool.eq_iff_iff, decide_eq_true_iff, mem_numerals_iff]
  simp only [Program.isCoordinate, Bool.or_eq_true, beq_iff_eq, isDigit_iff, or_assoc]

theorem axisText?_cons (letters : List Char) (c : Char) (rest : List Char) :
    axisText? letters (c :: rest) =
      if c ∈ letters ∧ rest.takeWhile (· ∈ numerals) ≠ [] then some (rest.takeWhile (· ∈ numerals))
      else axisText? letters rest := by
  have hzero : runBehind (c :: rest) 0 = rest.takeWhile (· ∈ numerals) := rfl
  unfold axisText?
  rw [List.length_cons, List.range_succ_eq_map, List.findSome?_cons, List.findSome?_map, hzero]
  simp only [List.getElem?_cons_zero, Option.any_some, decide_eq_true_iff]
  by_cases h : c ∈ letters ∧ rest.takeWhile (· ∈ numerals) ≠ []
  · rw [if_pos h, if_pos h]
  · rw [if_neg h, if_neg h]
    rfl

/-- The scanner of a coordinate finds the leftmost run. -/
theorem coordinateText?_eq {axis : Char} {letters : List Char}
    (h : ∀ c : Char, c.toLower = axis ↔ c ∈ letters) (cs : List Char) :
    Program.coordinateText? axis cs = axisText? letters cs := by
  induction cs with
  | nil => rfl
  | cons c rest ih =>
      have hrun : rest.head?.any Program.isCoordinate ↔ rest.takeWhile (· ∈ numerals) ≠ [] := by
        rw [isCoordinate_eq]
        cases rest with
        | nil => simp
        | cons d rest => by_cases hd : d ∈ numerals <;> simp [hd]
      rw [axisText?_cons, Program.coordinateText?, ih]
      simp only [h, hrun]
      rw [isCoordinate_eq]

end text

/-! ### Plain numerals -/

section numerals

variable {whole r : List Char}

theorem takeSign_eq (run : List Char) :
    Decimal.takeSign run = (decide (run.head? = some '-'), unsigned run) := by
  unfold Decimal.takeSign unsigned
  split
  · rfl
  · rfl
  · rename_i hminus hplus
    cases run with
    | nil => rfl
    | cons c rest =>
        have hc : c ≠ '-' := fun h => hminus rest (by rw [h])
        simp [hc]

/-- A text is made of digits, or its leading digits end before something else. -/
theorem digits_cases (body : List Char) : (∀ c ∈ body, c.isDigit) ∨
    ∃ whole c r, body = whole ++ c :: r ∧ (∀ c ∈ whole, c.isDigit) ∧ c.isDigit = false := by
  have hwhole : ∀ c ∈ body.takeWhile Char.isDigit, c.isDigit :=
    fun c hc => List.mem_takeWhile_imp hc
  have hsplit : body.takeWhile Char.isDigit ++ body.dropWhile Char.isDigit = body :=
    List.takeWhile_append_dropWhile
  cases hrest : body.dropWhile Char.isDigit with
  | nil =>
      rw [hrest, List.append_nil] at hsplit
      rw [hsplit] at hwhole
      exact Or.inl hwhole
  | cons c r =>
      have hc := List.head_dropWhile_not Char.isDigit (l := body) (by simp [hrest])
      simp only [hrest, List.head_cons] at hc
      rw [hrest] at hsplit
      exact Or.inr ⟨_, c, r, hsplit.symm, hwhole, hc⟩

/-- Digits, and something that is neither a digit nor a point. -/
theorem takeUnsigned?_other (negative : Bool) (h : ∀ c ∈ whole, c.isDigit) {c : Char}
    (hc : c.isDigit = false) (hpoint : c ≠ '.') :
    Decimal.takeUnsigned? negative (whole ++ c :: r) = none ∨
      ∃ d, Decimal.takeUnsigned? negative (whole ++ c :: r) = some (d, c :: r) := by
  obtain ⟨htake, hdrop⟩ := takeWhile_whole h (r := r) hc
  unfold Decimal.takeUnsigned?
  simp only [htake, hdrop]
  split
  · rename_i heq
    exact absurd (List.cons.inj heq).1 hpoint
  · dsimp only
    split
    · exact Or.inl rfl
    · exact Or.inr ⟨_, rfl⟩

theorem count_point (h : ∀ c ∈ whole, c.isDigit) : whole.count '.' = 0 :=
  List.count_eq_zero.mpr fun hmem => ne_point_of_isDigit (h _ hmem) rfl

theorem isUnsigned_digits (h : ∀ c ∈ whole, c.isDigit) : IsUnsigned whole ↔ whole ≠ [] := by
  constructor
  · rintro ⟨_, _, c, hc, _⟩
    exact List.ne_nil_of_mem hc
  · intro hne
    obtain ⟨c, rest, rfl⟩ := List.exists_cons_of_ne_nil hne
    exact ⟨fun d hd => Or.inl (h d hd), by rw [count_point h]; exact Nat.zero_le 1, c,
      List.mem_cons_self, h c List.mem_cons_self⟩

theorem isUnsigned_point (h : ∀ c ∈ whole, c.isDigit) :
    IsUnsigned (whole ++ '.' :: r) ↔ (∀ c ∈ r, c.isDigit) ∧ ¬ (whole = [] ∧ r = []) := by
  constructor
  · rintro ⟨hall, hcount, c, hc, hdigit⟩
    rw [List.count_append, count_point h, List.count_cons_self] at hcount
    have hnone : '.' ∉ r := List.count_eq_zero.mp (by omega)
    refine ⟨fun d hd => ?_, ?_⟩
    · rcases hall d (by simp [hd]) with hd' | rfl
      · exact hd'
      · exact absurd hd hnone
    · rintro ⟨rfl, rfl⟩
      obtain rfl := List.mem_singleton.mp hc
      exact absurd hdigit (by decide)
  · rintro ⟨hr, hne⟩
    refine ⟨fun d hd => ?_, ?_, ?_⟩
    · rcases List.mem_append.mp hd with hd | hd
      · exact Or.inl (h d hd)
      · rcases List.mem_cons.mp hd with rfl | hd
        · exact Or.inr rfl
        · exact Or.inl (hr d hd)
    · rw [List.count_append, List.count_cons_self, count_point h, count_point hr]
    · rcases whole with _ | ⟨c, rest⟩
      · obtain ⟨c, rest, rfl⟩ := List.exists_cons_of_ne_nil fun hr => hne ⟨rfl, hr⟩
        exact ⟨c, by simp, hr c List.mem_cons_self⟩
      · exact ⟨c, by simp, h c List.mem_cons_self⟩

theorem places_point (h : ∀ c ∈ whole, c.isDigit) : places (whole ++ '.' :: r) = r.length := by
  have hdrop : (whole ++ '.' :: r).dropWhile (· ≠ '.') = '.' :: r := by
    rw [List.dropWhile_append_of_pos]
    · simp
    · intro c hc
      exact decide_eq_true (ne_point_of_isDigit (h c hc))
  unfold places
  rw [hdrop]
  rfl

theorem places_digits (h : ∀ c ∈ whole, c.isDigit) : places whole = 0 := by
  have hdrop : whole.dropWhile (· ≠ '.') = [] := by
    rw [List.dropWhile_eq_nil_iff]
    intro c hc
    exact decide_eq_true (ne_point_of_isDigit (h c hc))
  unfold places
  rw [hdrop]
  rfl

theorem point_of_isUnsigned {c : Char} (h : IsUnsigned (whole ++ c :: r))
    (hc : c.isDigit = false) : c = '.' := by
  rcases h.1 c (by simp) with hd | hp
  · rw [hc] at hd
    cases hd
  · exact hp

/-- Digits with at most one point are read to their end, as the number that they write. -/
theorem takeUnsigned?_of_isUnsigned (negative : Bool) {body : List Char} (h : IsUnsigned body) :
    Decimal.takeUnsigned? negative body =
      some (⟨negative, Nat.ofDigitChars 10 (body.filter Char.isDigit) 0, -(places body : ℤ)⟩,
        []) := by
  rcases digits_cases body with hbody | ⟨whole, c, r, rfl, hwhole, hc⟩
  · rw [takeUnsigned?_digits negative hbody, if_neg ((isUnsigned_digits hbody).mp h),
      List.filter_eq_self.mpr hbody, places_digits hbody]
    rfl
  · obtain rfl := point_of_isUnsigned h hc
    obtain ⟨hr, hnil⟩ := (isUnsigned_point hwhole).mp h
    have htake : r.takeWhile Char.isDigit = r := by simpa using hr
    have hdrop : r.dropWhile Char.isDigit = [] := by simpa using hr
    have hfilter : (whole ++ '.' :: r).filter Char.isDigit = whole ++ r := by
      rw [List.filter_append, List.filter_eq_self.mpr hwhole, List.filter_cons_of_neg (by decide),
        List.filter_eq_self.mpr hr]
    rw [takeUnsigned?_point negative hwhole, htake, hdrop, if_neg hnil, hfilter,
      places_point hwhole]

theorem takeUnsigned?_of_not_isUnsigned (negative : Bool) {body : List Char}
    (h : ¬ IsUnsigned body) (d : Decimal) : Decimal.takeUnsigned? negative body ≠ some (d, []) := by
  rcases digits_cases body with hbody | ⟨whole, c, r, rfl, hwhole, hc⟩
  · have hnil : body = [] := not_not.mp (mt (isUnsigned_digits hbody).mpr h)
    rw [takeUnsigned?_digits negative hbody, if_pos hnil]
    exact (Option.some_ne_none _).symm
  · by_cases hpoint : c = '.'
    · subst hpoint
      rw [takeUnsigned?_point negative hwhole]
      split_ifs with hnil
      · exact (Option.some_ne_none _).symm
      · intro heq
        have hdrop : r.dropWhile Char.isDigit = [] := (Prod.mk.inj (Option.some.inj heq)).2
        have hr : ∀ c ∈ r, c.isDigit := by simpa using hdrop
        have htake : r.takeWhile Char.isDigit = r := by simpa using hr
        rw [htake] at hnil
        exact h ((isUnsigned_point hwhole).mpr ⟨hr, hnil⟩)
    · rcases takeUnsigned?_other negative hwhole hc hpoint (r := r) with hread | ⟨d', hread⟩ <;>
        simp [hread]

/-- **Plain numerals** are an optional sign and digits with at most one point, and at least one
digit; they stand for the number that the digits write. -/
theorem ofPlain?_eq (run : List Char) :
    Decimal.ofPlain? run =
      if IsUnsigned (unsigned run) then
        some ⟨decide (run.head? = some '-'),
          Nat.ofDigitChars 10 ((unsigned run).filter Char.isDigit) 0, -(places (unsigned run) : ℤ)⟩
      else none := by
  unfold Decimal.ofPlain?
  rw [takeSign_eq]
  dsimp only
  by_cases h : IsUnsigned (unsigned run)
  · rw [takeUnsigned?_of_isUnsigned _ h, if_pos h]
  · have hnot := takeUnsigned?_of_not_isUnsigned (decide (run.head? = some '-')) h
    rw [if_neg h]
    rcases hread : Decimal.takeUnsigned? (decide (run.head? = some '-')) (unsigned run) with
      _ | ⟨d, _ | ⟨c, rest⟩⟩
    · rfl
    · exact absurd hread (hnot d)
    · rfl

end numerals

/-! ### Coordinates -/

section coordinates

theorem magnitude_eq (negative : Bool) (body : List Char) :
    Decimal.magnitude ⟨negative, Nat.ofDigitChars 10 (body.filter Char.isDigit) 0,
      -(places body : ℤ)⟩ = magnitude body := by
  unfold Decimal.magnitude magnitude
  rw [zpow_neg, zpow_natCast, div_eq_mul_inv]

/-- A numeral in plain notation stands for the nearest double, and is void out of the range. -/
theorem number?_eq (run : List Char) : number? run = (Decimal.ofPlain? run).bind fun d =>
    if Scalar.finite (Scalar.ofDecimal d : Float) then some (Scalar.ofDecimal d) else none := by
  rw [ofPlain?_eq]
  unfold number?
  by_cases h : IsUnsigned (unsigned run)
  · rw [if_pos h, Option.bind_some]
    have hv (d : Decimal) : (Scalar.ofDecimal d : Float) =
        Double.ofBits d.negative (Double.nearest d.magnitude) := d.toFloat_eq
    have hfinite (x : Float) : Scalar.finite x = x.isFinite := rfl
    simp only [h, true_and, hv, hfinite, magnitude_eq,
      Double.isFinite_ofBits (Double.nearest_le_infinity _),
      Bool.not_eq_true, Bool.not_eq_eq_eq_not, Bool.not_true]
  · rw [if_neg h]
    simp [h]

/-- What a line gives for the axis of the letters: nothing, or a number.  The line is void if the
run that it gives is none. -/
def given? (letters : List Char) (cs : List Char) : Option (Option Float) :=
  match axisText? letters cs with
  | none => some none
  | some run => (number? run).map some

theorem given?_eq_none_iff {letters cs : List Char} :
    given? letters cs = none ↔ ∃ run, axisText? letters cs = some run ∧ number? run = none := by
  unfold given?
  cases axisText? letters cs <;> simp

theorem given?_eq_some_none_iff {letters cs : List Char} :
    given? letters cs = some none ↔ axisText? letters cs = none := by
  unfold given?
  cases axisText? letters cs <;> simp

/-- **The coordinate on an axis** is the one that the rules give. -/
theorem given?_eq {axis : Char} {letters : List Char}
    (h : ∀ c : Char, c.toLower = axis ↔ c ∈ letters) (cs : List Char) :
    (Program.coordinate axis cs : Program.Coordinate Float).given? = given? letters cs := by
  unfold Program.coordinate given?
  rw [coordinateText?_eq h]
  cases axisText? letters cs with
  | none => rfl
  | some run =>
      dsimp only
      rw [number?_eq]
      cases Decimal.ofPlain? run with
      | none => rfl
      | some d =>
          dsimp only [Option.bind_some]
          split <;> rfl

theorem coordinate?_eq (letters : List Char) (current : Float) (cs : List Char) :
    coordinate? letters current cs = (given? letters cs).map (·.getD current) := by
  unfold given? coordinate?
  cases axisText? letters cs with
  | none => rfl
  | some run => cases h : number? run <;> simp [h]

end coordinates

end PenPlotter
