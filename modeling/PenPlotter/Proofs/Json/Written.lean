import PenPlotter.Proofs.Double.Magnitude
import PenPlotter.Proofs.Json.Reader
import PenPlotter.Proofs.Json.Record

/-! # Numbers that JSON writes

The doubles that are read from JSON texts (`IsNumber`) are those of the numerals
(`isNumber_iff`).  They are finite (`IsNumber.isFinite`): a numeral is scaled in steps, none of
which leads out of the finite doubles unless the numeral is refused. -/

namespace PenPlotter
namespace Json

open Double

/-! ### The steps of a numeral -/

namespace Numeral

theorem isMagnitude_zero : IsMagnitude 0.0 := ⟨0, by norm_num [infinity], by decide +kernel⟩

theorem isMagnitude_scale {fuel : ℕ} {x y : Float} {e : ℤ} (hx : IsMagnitude x)
    (h : scale fuel x e = some y) : IsMagnitude y := by
  induction fuel generalizing x e with
  | zero =>
      cases h
      exact hx
  | succ fuel ih =>
      unfold scale at h
      dsimp only at h
      split_ifs at h with hsmall hpos hinf hzero
      · obtain ⟨n, hn, hlong, -, hpower⟩ := ofScientific_power hsmall
        cases h
        rw [powerOfTen, hpower] at hinf ⊢
        exact hx.mul hn hlong (Bool.eq_false_iff.mpr hinf)
      · obtain ⟨n, hn, -, hone, hpower⟩ := ofScientific_power hsmall
        cases h
        rw [powerOfTen, hpower]
        exact hx.div hn hone
      · cases h
        exact hx
      · obtain ⟨n, hn, -, hone, hpower⟩ := ofScientific_power (le_refl maxPower)
        refine ih ?_ h
        rw [powerOfTen, hpower]
        exact hx.div hn hone

theorem isMagnitude_magnitude? {n : Numeral} {x : Float} (h : n.magnitude? = some x) :
    IsMagnitude x := by
  unfold magnitude? at h
  dsimp only at h
  split at h
  · exact isMagnitude_scale (isMagnitude_toFloat _) h
  · split_ifs at h
    · exact isMagnitude_scale (isMagnitude_toFloat _) h
    · exact isMagnitude_scale (isMagnitude_toFloat _) h
    · cases h
      exact isMagnitude_zero

theorem isFinite_of_float? {n : Numeral} {x : Float} (h : (Tree.number n).float? = some x) :
    x.isFinite = true := by
  unfold Tree.float? at h
  dsimp only at h
  split at h
  case h_1 y hvalue =>
    cases h
    unfold value? at hvalue
    dsimp only at hvalue
    split_ifs at hvalue
    · cases hvalue
    · cases hvalue
    · obtain ⟨z, hz, heq⟩ := Option.map_eq_some_iff.mp hvalue
      cases heq
      exact (isMagnitude_magnitude? hz).isFinite.2
    · obtain ⟨z, hz, heq⟩ := Option.map_eq_some_iff.mp hvalue
      cases heq
      exact (isMagnitude_magnitude? hz).isFinite.1
  case h_2 i hvalue =>
    cases h
    have hfinite := (isMagnitude_toFloat i.natAbs.toUInt64).isFinite
    split
    · exact hfinite.2
    · exact hfinite.1
  case h_3 => cases h

end Numeral

/-! ### The doubles of JSON -/

/-- The double is read from some JSON text. -/
def IsNumber (x : Float) : Prop := ∃ s, (Tree.ofString? s).bind Tree.float? = some x

theorem Tree.exists_number_of_float? {t : Tree} {x : Float} (h : t.float? = some x) :
    ∃ n, t = .number n := by
  cases t with
  | number n => exact ⟨n, rfl⟩
  | _ => cases h

theorem isNumber_of_chars {cs : List Char} {n : Numeral} {x : Float}
    (hcs : Numeral.ofChars? cs = some n) (hfloat : (Tree.number n).float? = some x) :
    IsNumber x := by
  refine ⟨String.ofList cs, ?_⟩
  have hscans : Scans (String.ofList cs).toList (Tree.number n).tokens [] := by
    rw [String.toList_ofList]
    exact scans_numeral hcs (by simp [Separated])
  rw [ofString?_of_scans hscans]
  exact hfloat

/-- The doubles of JSON are those of the numerals. -/
theorem isNumber_iff {x : Float} : IsNumber x ↔
    ∃ cs n, Numeral.ofChars? cs = some n ∧ (Tree.number n).float? = some x := by
  constructor
  · rintro ⟨s, h⟩
    obtain ⟨t, hread, hfloat⟩ := Option.bind_eq_some_iff.mp h
    obtain ⟨n, rfl⟩ := Tree.exists_number_of_float? hfloat
    obtain ⟨cs, hcs⟩ := exists_chars_of_mem_tokens hread List.mem_cons_self
    exact ⟨cs, n, hcs, hfloat⟩
  · rintro ⟨cs, n, hcs, hfloat⟩
    exact isNumber_of_chars hcs hfloat

theorem isNumber_of_part {s : String} {t part : Tree} {x : Float}
    (hread : Tree.ofString? s = some t) (hpart : part.tokens ⊆ t.tokens)
    (hfloat : part.float? = some x) : IsNumber x := by
  obtain ⟨n, rfl⟩ := Tree.exists_number_of_float? hfloat
  obtain ⟨cs, hcs⟩ := exists_chars_of_mem_tokens hread (hpart List.mem_cons_self)
  exact isNumber_of_chars hcs hfloat

/-- No JSON text stands for an infinite double, or for one that is no number. -/
theorem IsNumber.isFinite {x : Float} (hx : IsNumber x) : x.isFinite = true := by
  obtain ⟨cs, n, -, hfloat⟩ := isNumber_iff.mp hx
  exact Numeral.isFinite_of_float? hfloat

/-! ### Written records -/

/-- The text of an object with two members. -/
def pairText (k : String) (cs : List Char) (l : String) (ds : List Char) : List Char :=
  '\x7b' :: ((quoted k).toList ++ ':' :: cs ++ ',' :: ((quoted l).toList ++ ':' :: ds ++ ['\x7d']))

/-- Two values that are written one by one are written as the members of an object. -/
theorem scans_pairText {k l : String} {t u : Tree} {cs ds : List Char}
    (ht : ∀ rest, Separated rest → Scans cs t.tokens rest)
    (hu : ∀ rest, Separated rest → Scans ds u.tokens rest) (rest : List Char) :
    Scans (pairText k cs l ds) (Tree.record [(k, t), (l, u)]).tokens rest := by
  have hend :=
    (hu _ (separated_cons rfl rfl rest)).append (scans_punctuation (c := '\x7d') rfl rest)
  have hsecond := (scans_quoted l).append ((scans_punctuation (c := ':') rfl _).append hend)
  have hcomma := (scans_punctuation (c := ',') rfl _).append hsecond
  have hvalue := (ht _ (separated_cons rfl rfl _)).append hcomma
  have hfirst := (scans_quoted k).append ((scans_punctuation (c := ':') rfl _).append hvalue)
  have hall := (scans_punctuation (c := '\x7b') rfl _).append hfirst
  simpa [pairText, Tree.record, Tree.tokens, memberTokens] using hall

end Json
end PenPlotter
