import PenPlotter.Proofs.Text.Utf8
import PenPlotter.Url.Percent

/-! # What an encoded text stands for

What is written for a text stands for the same bytes as the text itself (`decodeBytes_encode`):
bytes that are escaped come back, and a percent sign, which stays as it is, means behind the
encoding what it means before. -/

namespace PenPlotter.Percent

variable {escapes : UInt8 → Bool} {bs : List UInt8} {b : UInt8}

/-- Whether a byte is written as a percent sign with digits. -/
abbrev Escaped (escapes : UInt8 → Bool) (b : UInt8) : Prop := 0x80 ≤ b ∨ escapes b = true

/-- The bytes that are written for a byte. -/
def written (escapes : UInt8 → Bool) (b : UInt8) : List UInt8 :=
  (encodeByte escapes b).flatMap String.utf8EncodeChar

theorem bytes_encode (s : String) :
    Utf8.bytes (encode escapes s) = (Utf8.bytes s).flatMap (written escapes) := by
  rw [encode, Utf8.bytes_ofList, List.flatMap_assoc]
  rfl

theorem encodeChar_hexDigit : ∀ n : Fin 16,
    String.utf8EncodeChar (hexDigit n) = [UInt8.ofNat (hexDigit n).toNat] ∧
      hexValue? (UInt8.ofNat (hexDigit n).toNat) = some n.val := by
  decide

theorem written_of_escaped (h : Escaped escapes b) : ∃ high low,
    written escapes b = [0x25, high, low] ∧ hexValue? high = some (b.toNat / 16) ∧
      hexValue? low = some (b.toNat % 16) := by
  have hb : b.toNat < 256 := b.toNat_lt
  obtain ⟨hhigh, rhigh⟩ := encodeChar_hexDigit ⟨b.toNat / 16, by omega⟩
  obtain ⟨hlow, rlow⟩ := encodeChar_hexDigit ⟨b.toNat % 16, by omega⟩
  refine ⟨_, _, ?_, rhigh, rlow⟩
  rw [written, encodeByte, if_pos h, List.flatMap_cons, List.flatMap_cons, List.flatMap_cons,
    List.flatMap_nil, hhigh, hlow]
  rfl

theorem written_of_not_escaped (h : ¬ Escaped escapes b) : written escapes b = [b] := by
  have hascii : ∀ n : Fin 128, String.utf8EncodeChar (Char.ofNat n) = [UInt8.ofNat n] := by
    decide
  have hb : b.toNat < 128 := Nat.lt_of_not_le fun hle => h (Or.inl hle)
  rw [written, encodeByte, if_neg h, List.flatMap_singleton, hascii ⟨b.toNat, hb⟩,
    UInt8.ofNat_toNat]

/-- Bytes that begin with two hexadecimal digits. -/
def StartsWithDigits (bs : List UInt8) : Prop :=
  ∃ high low rest, bs = high :: low :: rest ∧ (hexValue? high).isSome ∧ (hexValue? low).isSome

theorem decodeBytes_cons_of_ne (h : b ≠ 0x25) (bs : List UInt8) :
    decodeBytes (b :: bs) = b :: decodeBytes bs := by
  rw [decodeBytes]
  rintro _ _ _ rfl
  exact absurd rfl h

theorem decodeBytes_mark (h : ¬ StartsWithDigits bs) :
    decodeBytes (0x25 :: bs) = 0x25 :: decodeBytes bs := by
  match bs with
  | [] => rfl
  | [_] => rfl
  | high :: low :: rest =>
    rw [decodeBytes]
    split
    · rename_i hhigh hlow
      exact absurd ⟨high, low, rest, rfl, by simp [hhigh], by simp [hlow]⟩ h
    · rfl

theorem decodeBytes_mark_digits {high low : UInt8} {x y : Nat} (hhigh : hexValue? high = some x)
    (hlow : hexValue? low = some y) (rest : List UInt8) :
    decodeBytes (0x25 :: high :: low :: rest) = UInt8.ofNat (x * 16 + y) :: decodeBytes rest := by
  rw [decodeBytes, hhigh, hlow]

theorem length_decodeBytes_le (bs : List UInt8) : (decodeBytes bs).length ≤ bs.length := by
  fun_induction decodeBytes bs <;> simp only [List.length_cons, List.length_nil] at * <;> omega

theorem startsWithDigits_of_written (h : StartsWithDigits (bs.flatMap (written escapes))) :
    StartsWithDigits bs := by
  obtain ⟨high, low, rest, heq, hhigh, hlow⟩ := h
  have hno : hexValue? 0x25 = none := rfl
  match bs with
  | [] => cases heq
  | b :: bs =>
    rw [List.flatMap_cons] at heq
    by_cases hb : Escaped escapes b
    · obtain ⟨_, _, hwritten, -, -⟩ := written_of_escaped hb
      rw [hwritten] at heq
      rw [← (List.cons.inj heq).1, hno] at hhigh
      cases hhigh
    rw [written_of_not_escaped hb, List.singleton_append] at heq
    obtain ⟨rfl, htail⟩ := List.cons.inj heq
    match bs with
    | [] => cases htail
    | c :: bs =>
      rw [List.flatMap_cons] at htail
      by_cases hc : Escaped escapes c
      · obtain ⟨_, _, hwritten, -, -⟩ := written_of_escaped hc
        rw [hwritten] at htail
        rw [← (List.cons.inj htail).1, hno] at hlow
        cases hlow
      rw [written_of_not_escaped hc] at htail
      obtain ⟨rfl, -⟩ := List.cons.inj htail
      exact ⟨b, c, bs, rfl, hhigh, hlow⟩

section written

variable (hmark : ¬ Escaped escapes 0x25)
  (hdigits : ∀ b, (hexValue? b).isSome → ¬ Escaped escapes b)

include hmark hdigits

/-- **Encoding** does not change what bytes stand for. -/
theorem decodeBytes_written (bs : List UInt8) :
    decodeBytes (bs.flatMap (written escapes)) = decodeBytes bs := by
  fun_induction decodeBytes bs with
  | case1 high low rest x y hy hx ih =>
    have hhigh := hdigits high (by simp [hx])
    have hlow := hdigits low (by simp [hy])
    simp only [List.flatMap_cons, written_of_not_escaped hmark, written_of_not_escaped hhigh,
      written_of_not_escaped hlow, List.cons_append, List.nil_append]
    rw [decodeBytes_mark_digits hx hy, ih]
  | case2 high low rest hnot ih =>
    have hstart : ¬ StartsWithDigits ((high :: low :: rest).flatMap (written escapes)) := by
      intro hstart
      obtain ⟨_, _, _, heq, hhigh, hlow⟩ := startsWithDigits_of_written hstart
      cases heq
      obtain ⟨x, hx⟩ := Option.isSome_iff_exists.1 hhigh
      obtain ⟨y, hy⟩ := Option.isSome_iff_exists.1 hlow
      exact hnot x y hx hy
    rw [List.flatMap_cons, written_of_not_escaped hmark, List.singleton_append,
      decodeBytes_mark hstart, ih]
  | case3 b rest hne ih =>
    rw [List.flatMap_cons]
    by_cases hb : Escaped escapes b
    · obtain ⟨high, low, hwritten, hhigh, hlow⟩ := written_of_escaped hb
      rw [hwritten]
      change decodeBytes (0x25 :: high :: low :: rest.flatMap (written escapes)) = _
      rw [decodeBytes_mark_digits hhigh hlow, ih, Nat.div_add_mod', UInt8.ofNat_toNat]
    rw [written_of_not_escaped hb, List.singleton_append]
    by_cases hpercent : b = 0x25
    · subst hpercent
      have hstart : ¬ StartsWithDigits (rest.flatMap (written escapes)) := by
        intro hstart
        obtain ⟨high, low, tail, heq, -, -⟩ := startsWithDigits_of_written hstart
        exact hne high low tail rfl heq
      rw [decodeBytes_mark hstart, ih]
    · rw [decodeBytes_cons_of_ne hpercent, ih]
  | case4 => rfl

end written

theorem decodeBytes_encode (s : String) :
    decodeBytes (Utf8.bytes (encode escapesInPath s)) = decodeBytes (Utf8.bytes s) := by
  have hdigits : ∀ n : Fin 256, (hexValue? (UInt8.ofNat n)).isSome →
      ¬ (0x80 ≤ UInt8.ofNat n ∨ escapesInPath (UInt8.ofNat n) = true) := by
    decide +kernel
  rw [bytes_encode]
  refine decodeBytes_written (by decide +kernel) (fun b hb => ?_) _
  have h := hdigits ⟨b.toNat, b.toNat_lt⟩
  rw [UInt8.ofNat_toNat] at h
  exact h hb

end PenPlotter.Percent
