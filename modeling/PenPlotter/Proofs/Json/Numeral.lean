import PenPlotter.Json.Numeral
import PenPlotter.Json.Printer
import PenPlotter.Proofs.Decimal.Text

/-! # The numbers that are printed are numerals

Whole numbers, and doubles with a point or an exponent, are written as numerals
(`exists_numeral`), and the value of a whole number is the number (`value?_digits`). -/

namespace PenPlotter.Json.Numeral

open Decimal

variable {cs whole fraction r : List Char} {e : Option (Bool × List Char)}

/-! ### Reading -/

theorem wholeOk_of_isWhole (h : IsWhole whole) : wholeOk whole := by
  obtain ⟨c, cs, rfl⟩ := List.exists_cons_of_ne_nil h.ne_nil
  by_cases hc : c = '0'
  · rw [h.zero (by rw [hc, List.head?_cons])]
    rfl
  · simp [wholeOk, hc]

theorem eq_nil_or_mark_of_tail? (h : tail? r = some e) :
    r = [] ∨ ∃ mark rest, r = mark :: rest ∧ isMark mark := by
  cases r with
  | nil => exact .inl rfl
  | cons mark rest =>
      refine .inr ⟨mark, rest, rfl, ?_⟩
      by_contra hmark
      rw [tail?, if_neg hmark] at h
      exact absurd h (by simp)

theorem isMark_iff {c : Char} : isMark c ↔ c = 'e' ∨ c = 'E' := by simp [isMark]

theorem not_isDigit_of_isMark {c : Char} (h : isMark c) : c.isDigit = false := by
  rcases isMark_iff.1 h with rfl | rfl <;> rfl

theorem ne_point_of_isMark {c : Char} (h : isMark c) : c ≠ '.' := by
  rcases isMark_iff.1 h with rfl | rfl <;> decide

theorem span_digits (hdigits : ∀ c ∈ cs, c.isDigit) (htail : tail? r = some e) :
    (cs ++ r).takeWhile Char.isDigit = cs ∧ (cs ++ r).dropWhile Char.isDigit = r := by
  rcases eq_nil_or_mark_of_tail? htail with rfl | ⟨mark, rest, rfl, hmark⟩
  · simpa using hdigits
  · exact takeWhile_whole hdigits (not_isDigit_of_isMark hmark)

theorem append_ne_minus (hwhole : IsWhole whole) {rest : List Char} :
    whole ++ rest = '-' :: cs → False := by
  obtain ⟨c, ds, rfl⟩ := List.exists_cons_of_ne_nil hwhole.ne_nil
  intro heq
  have hc := hwhole.digits c List.mem_cons_self
  rw [(List.cons.inj heq).1] at hc
  exact absurd hc (by decide)

theorem ofChars?_fraction (hwhole : IsWhole whole) (hne : fraction ≠ [])
    (hfraction : ∀ c ∈ fraction, c.isDigit) (htail : tail? r = some e) (negative : Bool) :
    ofChars? (signChars negative ++ (whole ++ '.' :: (fraction ++ r))) =
      some ⟨negative, whole, some fraction, e⟩ := by
  have hcut := takeWhile_whole hwhole.digits (c := '.') (r := fraction ++ r) rfl
  have hspan := span_digits hfraction htail
  have hsome : fraction.isEmpty = false := by simpa using hne
  cases negative with
  | true =>
      change ofChars? ('-' :: (whole ++ _)) = _
      rw [ofChars?.eq_1]
      simp only [hcut, hspan, wholeOk_of_isWhole hwhole, hsome, htail]
      rfl
  | false =>
      change ofChars? (whole ++ _) = _
      rw [ofChars?.eq_2 _ fun _ => append_ne_minus hwhole]
      simp only [hcut, hspan, wholeOk_of_isWhole hwhole, hsome, htail]
      rfl

theorem ofChars?_whole (hwhole : IsWhole whole) (htail : tail? r = some e) (negative : Bool) :
    ofChars? (signChars negative ++ (whole ++ r)) = some ⟨negative, whole, none, e⟩ := by
  have hcut := span_digits hwhole.digits htail
  have hpoint : ∀ r', r = '.' :: r' → False := by
    rintro r' rfl
    obtain h | ⟨_, _, heq, hmark⟩ := eq_nil_or_mark_of_tail? htail
    · exact absurd h (by simp)
    · exact ne_point_of_isMark hmark (List.cons.inj heq).1.symm
  cases negative with
  | true =>
      change ofChars? ('-' :: (whole ++ r)) = _
      rw [ofChars?.eq_1]
      simp only [hcut, wholeOk_of_isWhole hwhole, htail]
      rfl
  | false =>
      change ofChars? (whole ++ r) = _
      rw [ofChars?.eq_2 _ fun _ => append_ne_minus hwhole]
      simp only [hcut, wholeOk_of_isWhole hwhole, htail]
      rfl

theorem isPart_of_isDigit {c : Char} (h : c.isDigit) : isPart c := by simp [isPart, h]

theorem isPart_of_takeSign (h : ∀ c ∈ (takeSign cs).2, isPart c) : ∀ c ∈ cs, isPart c := by
  unfold takeSign at h
  split at h <;> simp_all [isPart]

theorem isPart_of_tail? (h : tail? r = some e) : ∀ c ∈ r, isPart c := by
  cases r with
  | nil => simp
  | cons mark rest =>
      rw [tail?] at h
      split at h
      · rename_i hmark
        rw [List.forall_mem_cons]
        refine ⟨by rcases isMark_iff.1 hmark with rfl | rfl <;> rfl, isPart_of_takeSign ?_⟩
        simp only [exponentOf?, Option.map_eq_some_iff] at h
        obtain ⟨_, h, -⟩ := h
        split at h
        · rename_i hdigits
          rw [Bool.and_eq_true, List.all_eq_true] at hdigits
          exact fun c hc => isPart_of_isDigit (hdigits.2 c hc)
        · exact absurd h (by simp)
      · exact absurd h (by simp)

theorem isPart_of_dropWhile (hdrop : ∀ c ∈ cs.dropWhile Char.isDigit, isPart c) :
    ∀ c ∈ cs, isPart c := by
  intro c hc
  rw [← List.takeWhile_append_dropWhile (p := Char.isDigit) (l := cs), List.mem_append] at hc
  exact hc.elim (fun h => isPart_of_isDigit (List.mem_takeWhile_imp h)) (hdrop c)

/-- A numeral is a sign, if any, and a body that begins with digits. -/
theorem exists_body {n : Numeral} (h : ofChars? cs = some n) :
    ∃ body, (cs = '-' :: body ∨ cs = body) ∧ wholeOk (body.takeWhile Char.isDigit) ∧
      ∀ c ∈ body.dropWhile Char.isDigit, isPart c := by
  unfold ofChars? at h
  split at h
  rename_i body hsign
  simp only [Option.bind_eq_bind, Option.bind_eq_some_iff] at h
  obtain ⟨_, hwhole, h⟩ := h
  refine ⟨body, ?_, by simpa using hwhole, ?_⟩
  · split at hsign <;> cases hsign <;> simp
  · split at h
    · rename_i r hpoint
      simp only [Option.bind_eq_some_iff] at h
      obtain ⟨_, _, _, htail, -⟩ := h
      rw [hpoint, List.forall_mem_cons]
      exact ⟨rfl, isPart_of_dropWhile (isPart_of_tail? htail)⟩
    · simp only [Option.bind_eq_some_iff] at h
      obtain ⟨_, htail, -⟩ := h
      exact isPart_of_tail? htail

theorem isPart_of_ofChars? {n : Numeral} (h : ofChars? cs = some n) : ∀ c ∈ cs, isPart c := by
  obtain ⟨body, rfl | rfl, -, hrest⟩ := exists_body h
  · exact List.forall_mem_cons.2 ⟨rfl, isPart_of_dropWhile hrest⟩
  · exact isPart_of_dropWhile hrest

theorem exists_head {n : Numeral} (h : ofChars? cs = some n) :
    ∃ c ds, cs = c :: ds ∧ (c = '-' ∨ c.isDigit) := by
  obtain ⟨body, rfl | rfl, hwhole, -⟩ := exists_body h
  · exact ⟨'-', body, rfl, .inl rfl⟩
  · cases cs with
    | nil => exact absurd hwhole (by decide)
    | cons c ds =>
        refine ⟨c, ds, rfl, .inr ?_⟩
        by_contra hdigit
        rw [List.takeWhile_cons_of_neg hdigit] at hwhole
        exact absurd hwhole (by decide)

/-! ### Writing -/

theorem tail?_digits {mark : Char} (hmark : isMark mark) {negative : Bool} {ds : List Char}
    (hds : IsWhole ds) :
    tail? (mark :: (if negative then '-' else '+') :: ds) = some (some (negative, ds)) := by
  have hall : ds.all Char.isDigit := List.all_eq_true.2 hds.digits
  have hsome : ds.isEmpty = false := by simpa using hds.ne_nil
  rw [tail?, if_pos hmark]
  cases negative <;> simp [exponentOf?, takeSign, hall, hsome]

theorem exists_scientific {c : Char} (hc : c.isDigit) (hfraction : ∀ d ∈ fraction, d.isDigit)
    (htail : tail? r = some e) (negative : Bool) :
    ∃ n, ofChars? (signChars negative ++
      (c :: ((if fraction = [] then [] else '.' :: fraction) ++ r))) = some n := by
  have hwhole : IsWhole [c] := ⟨by simp, by simpa using hc, fun h => by simpa using h⟩
  split_ifs with hnil
  · exact ⟨_, ofChars?_whole hwhole htail negative⟩
  · exact ⟨_, ofChars?_fraction hwhole hnil hfraction htail negative⟩

theorem toList_exponentText {d : Decimal}
    (hplain : ¬(d.coefficient = 0 ∨ -6 < d.leading ∧ d.leading < 16)) {c : Char}
    (hdigits : d.digitText = c :: fraction) :
    d.exponentText.toList = signChars d.negative ++
      (c :: ((if fraction = [] then [] else '.' :: fraction) ++
        'e' :: (if decide (d.leading < 0) then '-' else '+') ::
          Nat.toDigits 10 d.leading.natAbs)) := by
  have hmark : (if d.leading < 0 then "e-" else "e+").toList =
      ['e', if decide (d.leading < 0) then '-' else '+'] := by
    by_cases h : d.leading < 0 <;> simp [h]
  simp only [exponentText, if_neg hplain, hdigits, String.toList_append, toList_signText, hmark,
    Nat.toString_eq_repr, Nat.toList_repr]
  cases fraction <;> simp

theorem exists_exponentText (d : Decimal) : ∃ n, ofChars? d.exponentText.toList = some n := by
  by_cases hplain : d.coefficient = 0 ∨ -6 < d.leading ∧ d.leading < 16
  · obtain ⟨whole, fraction, hwritten, hne, htext⟩ := d.exists_marked
    have hread := ofChars?_fraction hwritten.isWhole hne hwritten.digits (r := []) rfl d.negative
    rw [List.append_nil, ← List.append_assoc, ← htext] at hread
    simp only [exponentText, if_pos hplain]
    exact ⟨_, hread⟩
  · obtain ⟨c, fraction, hdigits⟩ := List.exists_cons_of_ne_nil d.digitText_isWhole.ne_nil
    have hall := d.digitText_isWhole.digits
    rw [hdigits, List.forall_mem_cons] at hall
    rw [toList_exponentText hplain hdigits]
    exact exists_scientific hall.1 hall.2 (tail?_digits rfl (isWhole_toDigits _)) d.negative

theorem ofChars?_integer (n : ℤ) : ofChars? (JsonNumber.text (.integer n)).toList =
    some ⟨decide (n < 0), Nat.toDigits 10 n.natAbs, none, none⟩ := by
  have hread := ofChars?_whole (isWhole_toDigits n.natAbs) (r := []) rfl (decide (n < 0))
  rw [JsonNumber.text, toList_toString]
  rwa [List.append_nil] at hread

/-- **Numbers are written as numerals.** -/
theorem exists_numeral : ∀ n : JsonNumber, (∀ x, n = .float x → x.isFinite) →
    ∃ m, ofChars? n.text.toList = some m
  | .integer n, _ => ⟨_, ofChars?_integer n⟩
  | .float x, hfinite => by
      rw [JsonNumber.text, if_pos (hfinite x rfl)]
      exact exists_exponentText _

/-- **A whole number of 64 bits** has its value. -/
theorem value?_digits {n : ℕ} (hn : n < 2 ^ 64) :
    value? ⟨false, Nat.toDigits 10 n, none, none⟩ = some (.integer n) := by
  have hvalue : digitsFrom 0 (Nat.toDigits 10 n) = n := by
    rw [digitsFrom_eq, Nat.ofDigitChars_ten_toDigits]
  simp only [value?, hvalue]
  simpa using hn

end PenPlotter.Json.Numeral
