import PenPlotter.Text.Utf8

/-! # The bytes of texts

`Utf8.bytes` lists the bytes of the characters one after the other.  A byte below 128 is a
character of its own, so bytes of that kind at the beginning of a text are its first characters
(`chars_of_ascii_bytes`). -/

namespace PenPlotter.Utf8

theorem byteArray_loop_eq (bs : ByteArray) (i : Nat) (r : List UInt8) :
    ByteArray.toList.loop bs i r = r.reverse ++ bs.data.toList.drop i := by
  fun_induction ByteArray.toList.loop bs i r with
  | case1 i r h ih =>
      have hi : i < bs.data.toList.length := by simpa using h
      rw [ih, List.drop_eq_getElem_cons hi]
      simp [ByteArray.get!, h]
  | case2 i r h =>
      rw [List.drop_eq_nil_of_le (by simpa using Nat.le_of_not_lt h)]
      simp

theorem bytes_ofList (cs : List Char) :
    bytes (String.ofList cs) = cs.flatMap String.utf8EncodeChar := by
  simp only [bytes, String.toUTF8_eq_toByteArray, String.toByteArray_ofList, ByteArray.toList,
    byteArray_loop_eq, List.reverse_nil, List.nil_append, List.drop_zero]
  exact List.toList_data_toByteArray

theorem bytes_eq (s : String) : bytes s = s.toList.flatMap String.utf8EncodeChar := by
  rw [← bytes_ofList, String.ofList_toList]

theorem not_ofNat_lt {n : Nat} (hlow : 0x80 ≤ n) (hhigh : n < 0x100) : ¬ UInt8.ofNat n < 0x80 := by
  rw [UInt8.lt_iff_toNat_lt, UInt8.toNat_ofNat', Nat.mod_eq_of_lt (by omega)]
  simp only [UInt8.reduceToNat]
  omega

theorem encodeChar_cases (c : Char) :
    (c.toNat < 0x80 ∧ String.utf8EncodeChar c = [UInt8.ofNat c.toNat]) ∨
      ∃ b rest, String.utf8EncodeChar c = b :: rest ∧ ¬ b < 0x80 := by
  have hval : c.val.toNat = c.toNat := rfl
  simp only [String.utf8EncodeChar, hval]
  split
  · exact Or.inl ⟨by omega, rfl⟩
  · right
    split
    · exact ⟨_, _, rfl, not_ofNat_lt (by omega) (by omega)⟩
    · split <;> exact ⟨_, _, rfl, not_ofNat_lt (by omega) (by omega)⟩

theorem chars_of_ascii_bytes {xs ys : List UInt8} (hx : ∀ b ∈ xs, b < 0x80) :
    ∀ {cs : List Char}, cs.flatMap String.utf8EncodeChar = xs ++ ys →
      ∃ rest, cs = xs.map (fun b => Char.ofNat b.toNat) ++ rest ∧
        rest.flatMap String.utf8EncodeChar = ys := by
  induction xs with
  | nil => exact fun {cs} h => ⟨cs, rfl, h⟩
  | cons b xs ih =>
      intro cs h
      have hb : b < 0x80 := hx b List.mem_cons_self
      cases cs with
      | nil => simp at h
      | cons c cs =>
          rw [List.flatMap_cons] at h
          rcases encodeChar_cases c with ⟨hc, henc⟩ | ⟨b', rest, henc, hb'⟩
          · rw [henc] at h
            obtain ⟨h₁, h₂⟩ := List.cons.inj h
            obtain ⟨rest, hcs, hrest⟩ := ih (fun b hb => hx b (List.mem_cons_of_mem _ hb)) h₂
            refine ⟨rest, ?_, hrest⟩
            have hchar : Char.ofNat b.toNat = c := by
              rw [← h₁, UInt8.toNat_ofNat', Nat.mod_eq_of_lt (by omega), Char.ofNat_toNat]
            rw [hcs, List.map_cons, hchar, List.cons_append]
          · rw [henc] at h
            exact absurd ((List.cons.inj h).1 ▸ hb) hb'

end PenPlotter.Utf8
