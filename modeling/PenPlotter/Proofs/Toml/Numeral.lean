import PenPlotter.Proofs.Decimal.Shortest
import PenPlotter.Proofs.Decimal.Text
import PenPlotter.Toml.Basic
import PenPlotter.Toml.Moment
import PenPlotter.Toml.Numeral

/-! # TOML numbers read back

Whole numbers and doubles are read back as they were (`number?_toString`, `number?_floatText`),
and the text of a number is no date and no time (`isMoment_signed`). -/

namespace PenPlotter.Toml

open Decimal Double
open Float.Model (UnpackedFloat)

variable {cs ds body whole fraction : List Char} {c mark : Char}

/-! ### Digits -/

theorem groupedDigits?_digits (hne : ds ≠ []) (h : ∀ c ∈ ds, c.isDigit) :
    groupedDigits? Char.isDigit ds = some ds := by
  induction ds with
  | nil => exact absurd rfl hne
  | cons c ds ih =>
      rw [List.forall_mem_cons] at h
      cases ds with
      | nil => rw [groupedDigits?, if_pos h.1]
      | cons d ds =>
          have hbar : d ≠ '_' := by
            rintro rfl
            exact absurd (h.2 '_' List.mem_cons_self) (by decide)
          rw [groupedDigits?.eq_4 _ _ _ (by simp) (fun _ heq => hbar (List.cons.inj heq).1),
            if_pos h.1, ih (by simp) h.2, Option.map_some]

theorem isDigit_of_groupedDigits? {isDigit : Char → Bool}
    (h : groupedDigits? isDigit cs = some ds) : ∀ c ∈ cs, isDigit c ∨ c = '_' := by
  fun_induction groupedDigits? isDigit cs generalizing ds with
  | case1 => simp
  | case2 c hc => simp [hc]
  | case3 | case5 | case7 => cases h
  | case4 c rest hc ih =>
      obtain ⟨ds', h', -⟩ := Option.map_eq_some_iff.1 h
      exact List.forall_mem_cons.2 ⟨.inl hc, List.forall_mem_cons.2 ⟨.inr rfl, ih h'⟩⟩
  | case6 c rest _ _ hc ih =>
      obtain ⟨ds', h', -⟩ := Option.map_eq_some_iff.1 h
      exact List.forall_mem_cons.2 ⟨.inl hc, ih h'⟩

theorem wholeDigits?_isWhole (h : IsWhole ds) : wholeDigits? ds = some ds := by
  rw [wholeDigits?, groupedDigits?_digits h.ne_nil h.digits]
  split
  · rename_i heq
    have hzero := h.zero (by rw [Option.some.inj heq, List.head?_cons])
    rw [Option.some.inj heq] at hzero
    exact absurd hzero (by simp)
  · rfl

theorem wholeDigits?_eq_none (hmem : c ∈ cs) (hdigit : c.isDigit = false) (hbar : c ≠ '_') :
    wholeDigits? cs = none := by
  have hnone : groupedDigits? Char.isDigit cs = none := by
    rw [Option.eq_none_iff_forall_ne_some]
    intro ds h
    rcases isDigit_of_groupedDigits? h c hmem with h | h
    · rw [hdigit] at h
      cases h
    · exact hbar h
  rw [wholeDigits?, hnone]

/-! ### No dates and times -/

theorem takeChar?_of_notMem (h : c ∉ cs) : takeChar? c cs = none := by
  cases cs with
  | nil => rfl
  | cons d cs =>
      rw [List.mem_cons, not_or] at h
      rw [takeChar?, if_neg fun heq => h.1 heq.symm]

theorem takeDigits?_of_notMem (count : ℕ) (h : c ∉ cs) :
    ((takeDigits? count cs).bind fun r => takeChar? c r.2) = none := by
  simp only [takeDigits?]
  split_ifs
  · exact takeChar?_of_notMem fun hmem => h (List.mem_of_mem_drop hmem)
  · rfl

theorem takeDigits?_minus (count : ℕ) : takeDigits? (count + 1) ('-' :: cs) = none := by
  rw [takeDigits?]
  exact if_neg (by simp)

theorem afterDate?_of_notMem (h : '-' ∉ cs) : afterDate? cs = none := by
  have hnone := takeDigits?_of_notMem 4 h
  unfold afterDate?
  cases hdigits : takeDigits? 4 cs with
  | none => rfl
  | some r =>
      rw [hdigits, Option.bind_some] at hnone
      simp only [Option.bind_eq_bind, Option.bind_some, hnone, Option.bind_none]

theorem afterTime?_of_notMem (h : ':' ∉ cs) : afterTime? cs = none := by
  have hnone := takeDigits?_of_notMem 2 h
  unfold afterTime?
  cases hdigits : takeDigits? 2 cs with
  | none => rfl
  | some r =>
      rw [hdigits, Option.bind_some] at hnone
      simp only [Option.bind_eq_bind, Option.bind_some, hnone, Option.bind_none]

theorem isMoment_signed (hbody : ∀ c ∈ body, c.isDigit ∨ c = '.') (negative : Bool) :
    isMoment (signChars negative ++ body) = false := by
  have hminus : '-' ∉ body := fun h => absurd (hbody '-' h) (by decide)
  have hcolon : ':' ∉ signChars negative ++ body := by
    rw [List.mem_append, not_or]
    exact ⟨by cases negative <;> decide, fun h => absurd (hbody ':' h) (by decide)⟩
  have hdate : afterDate? (signChars negative ++ body) = none := by
    cases negative with
    | false => exact afterDate?_of_notMem hminus
    | true =>
        change afterDate? ('-' :: body) = none
        rw [afterDate?, takeDigits?_minus]
        rfl
  rw [isMoment, hdate, afterTime?_of_notMem hcolon]
  rfl

/-! ### Whole numbers -/

theorem number?_signed (hbody : ∀ c ∈ body, c.isDigit ∨ c = '.') (negative : Bool) :
    number? (signChars negative ++ body) = (decimal? (signChars negative ++ body)).or
      ((double? (signChars negative ++ body)).or (word? (signChars negative ++ body))) := by
  have hletter : ∀ {d : Char} {rest : List Char}, (d.isDigit ∨ d = '.') = False →
      signChars negative ++ body = '0' :: d :: rest → False := by
    intro d rest hd heq
    cases negative with
    | true => exact absurd (List.cons.inj heq).1 (by decide)
    | false =>
        change body = _ at heq
        have := hbody d (by rw [heq]; simp)
        rwa [hd] at this
  exact number?.eq_4 _ (fun _ => hletter (by decide)) (fun _ => hletter (by decide))
    (fun _ => hletter (by decide))

theorem decimal?_signed (h : IsWhole ds) (negative : Bool) :
    decimal? (signChars negative ++ ds) = ofInt?
      (if negative then -(Nat.ofDigitChars 10 ds 0 : ℤ) else (Nat.ofDigitChars 10 ds 0 : ℤ)) := by
  have hsign := IsWhole.takeSign_append h negative []
  rw [List.append_nil] at hsign
  simp only [decimal?, hsign, wholeDigits?_isWhole h, Option.bind_eq_bind, Option.bind_some,
    digitsFrom_eq]

/-- **A whole number** is read back. -/
theorem number?_toString {n : ℤ} (h : isWord n) :
    number? (toString n).toList = some (.integer n) := by
  have hwhole := isWhole_toDigits n.natAbs
  have hvalue : (if decide (n < 0) then -(n.natAbs : ℤ) else (n.natAbs : ℤ)) = n := by
    simp only [decide_eq_true_eq]
    split_ifs <;> omega
  rw [toList_toString, number?_signed (fun c hc => .inl (hwhole.digits c hc)),
    decimal?_signed hwhole, Nat.ofDigitChars_ten_toDigits, hvalue, ofInt?, if_pos h, Option.some_or]

/-! ### Doubles -/

theorem not_mark_of_isDigit (h : ∀ c ∈ ds, c.isDigit) :
    ∀ c ∈ ds, (!(c == '.' || c == 'e' || c == 'E')) = true := by
  intro c hc
  have hdigit := h c hc
  rw [Bool.not_eq_true', Bool.or_eq_false_iff, Bool.or_eq_false_iff]
  refine ⟨⟨beq_false_of_ne ?_, beq_false_of_ne ?_⟩, beq_false_of_ne ?_⟩ <;> rintro rfl <;>
    exact absurd hdigit (by decide)

theorem double?_signed {d : Decimal} (h : d.Written whole fraction) (hne : fraction ≠ [])
    (hfinite : (d.toFloat == 1.0 / 0.0) = false) :
    double? (signChars d.negative ++ (whole ++ '.' :: fraction)) = some (.float d.toFloat) := by
  have hwhole := not_mark_of_isDigit h.isWhole.digits
  have hfraction := not_mark_of_isDigit h.digits
  have hcut : (whole ++ '.' :: fraction).takeWhile
      (fun c => !(c == '.' || c == 'e' || c == 'E')) = whole ∧ (whole ++ '.' :: fraction).dropWhile
      (fun c => !(c == '.' || c == 'e' || c == 'E')) = '.' :: fraction := by
    rw [List.takeWhile_append_of_pos hwhole, List.dropWhile_append_of_pos hwhole]
    simp
  have hrest : fraction.takeWhile (fun c => !(c == '.' || c == 'e' || c == 'E')) = fraction ∧
      fraction.dropWhile (fun c => !(c == '.' || c == 'e' || c == 'E')) = [] :=
    ⟨List.takeWhile_eq_self_iff.2 hfraction, List.dropWhile_eq_nil_iff.2 hfraction⟩
  have hread : floatOfText? (String.ofList (signChars d.negative ++ (whole ++ '.' :: fraction))) =
      some d.toFloat := by
    rw [floatOfText?, String.toList_ofList, h.ofText?_eq]
    exact congrArg some h.toFloat_eq
  have hsigned : (if d.negative then '-' :: (whole ++ '.' :: fraction)
      else whole ++ '.' :: fraction) = signChars d.negative ++ (whole ++ '.' :: fraction) := by
    cases d.negative <;> rfl
  simp only [double?, IsWhole.takeSign_append h.isWhole, hcut, hrest,
    wholeDigits?_isWhole h.isWhole, groupedDigits?_digits hne h.digits, exponentDigits?,
    Option.bind_eq_bind, Option.bind_some, List.append_nil, hsigned, hread, hfinite,
    Bool.false_eq_true, if_false]

/-- A finite double is neither an infinity nor without a value. -/
theorem not_special_of_finite {x : Float} (hx : x.isFinite = true) :
    x.isNaN = false ∧ (x == 1.0 / 0.0) = false ∧ (x == -1.0 / 0.0) = false := by
  have hfinite : x.toModel.unpack.isFinite = true := hx
  have hnan : x.isNaN = x.toModel.unpack.isNaN := rfl
  have hpos : (x == 1.0 / 0.0) = UnpackedFloat.beq x.toModel.unpack (.infinity .positive) := rfl
  have hneg : (x == -1.0 / 0.0) = UnpackedFloat.beq x.toModel.unpack (.infinity .negative) := rfl
  rw [hnan, hpos, hneg]
  revert hfinite
  cases x.toModel.unpack with
  | infinity => intro h; cases h
  | notANumber => intro h; cases h
  | zero => intro _; exact ⟨rfl, rfl, rfl⟩
  | finite s => intro _; cases s <;> exact ⟨rfl, rfl, rfl⟩

theorem floatText_of_finite {x : Float} (hx : x.isFinite = true) :
    floatText x = (Shortest.ofFloat .up x).markedText := by
  obtain ⟨hnan, hinf, hneg⟩ := not_special_of_finite hx
  obtain ⟨whole, fraction, hwritten, htext⟩ := (Shortest.ofFloat .up x).exists_positional
  have hplain : (numberText x).toList = signChars (Shortest.ofFloat .up x).negative ++
      (whole ++ if fraction = [] then [] else '.' :: fraction) := by
    rw [numberText, if_pos hx, plainText, String.toList_append, toList_signText, htext]
    rfl
  have hnone : '.' ∉ signChars (Shortest.ofFloat .up x).negative ++ whole := by
    rw [List.mem_append, not_or]
    refine ⟨by cases (Shortest.ofFloat .up x).negative <;> decide, fun h => ?_⟩
    exact absurd (hwritten.isWhole.digits '.' h) (by decide)
  rw [← List.append_assoc] at hplain
  simp only [floatText, hnan, hinf, hneg, Bool.false_eq_true, if_false]
  apply String.toList_inj.1
  rw [markedText, String.toList_append, toList_signText, htext, ← List.append_assoc]
  by_cases hnil : fraction = []
  · rw [if_pos hnil, List.append_nil] at hplain
    rw [if_neg (by simpa [hplain] using hnone), String.toList_append, hplain, if_pos hnil]
  · rw [if_neg hnil] at hplain
    rw [if_pos (by simp [hplain]), hplain, if_neg hnil]

theorem digit_or_point {d : Decimal} (h : d.Written whole fraction) :
    ∀ c ∈ whole ++ '.' :: fraction, c.isDigit ∨ c = '.' := by
  intro c hc
  rw [List.mem_append, List.mem_cons] at hc
  rcases hc with hc | rfl | hc
  · exact .inl (h.isWhole.digits c hc)
  · exact .inr rfl
  · exact .inl (h.digits c hc)

/-- **A finite double** is read back. -/
theorem number?_floatText {x : Float} (hx : x.isFinite = true) :
    number? (floatText x).toList = some (.float x) := by
  obtain ⟨whole, fraction, hwritten, hne, htext⟩ := (Shortest.ofFloat .up x).exists_marked
  have hnone : wholeDigits? (whole ++ '.' :: fraction) = none :=
    wholeDigits?_eq_none (c := '.') (by simp) rfl (by decide)
  have hdecimal : decimal? (signChars (Shortest.ofFloat .up x).negative ++
      (whole ++ '.' :: fraction)) = none := by
    simp only [decimal?, IsWhole.takeSign_append hwritten.isWhole, hnone, Option.bind_eq_bind,
      Option.bind_none]
  have hvalue := Shortest.toFloat_ofFloat .up hx
  have hinf := (not_special_of_finite hx).2.1
  rw [← hvalue] at hinf
  rw [floatText_of_finite hx, htext, List.append_assoc, number?_signed (digit_or_point hwritten),
    hdecimal, Option.none_or, double?_signed hwritten hne hinf, hvalue, Option.some_or]

theorem exists_signed {x : Float} (hx : x.isFinite = true) :
    ∃ negative body, (floatText x).toList = signChars negative ++ body ∧ body ≠ [] ∧
      ∀ c ∈ body, c.isDigit ∨ c = '.' := by
  obtain ⟨whole, fraction, hwritten, -, htext⟩ := (Shortest.ofFloat .up x).exists_marked
  refine ⟨(Shortest.ofFloat .up x).negative, whole ++ '.' :: fraction, ?_, by simp,
    digit_or_point hwritten⟩
  rw [floatText_of_finite hx, htext, List.append_assoc]

end PenPlotter.Toml
