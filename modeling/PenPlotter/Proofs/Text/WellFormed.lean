import Mathlib.Data.List.Basic
import PenPlotter.Proofs.Text.Utf8

/-! # Well-formed bytes

Bytes are accepted as a text exactly if they are the bytes of one (`text?_eq_some_iff`).

A first byte that is no character of its own begins a sequence, and `Completes` says which bytes
complete a sequence that has begun.  `decodeFrom` reads them as one character, and has no other way
to read on without a broken sequence.  A first byte and the bytes that complete it are those with
which the character is written, and every character is written in this way. -/

namespace PenPlotter.Utf8

/-- The bytes complete a sequence that has begun, to the number of a character. -/
inductive Completes : Begun → List UInt8 → ℕ → Prop
  | last {s : Begun} {b : UInt8} (hs : s.missing = 1) (hlow : s.low ≤ b) (hhigh : b ≤ s.high) :
      Completes s [b] (s.bits * 64 + (b.toNat - 0x80))
  | more {s : Begun} {b : UInt8} {tail : List UInt8} {v : ℕ} (hs : s.missing ≠ 1)
      (hlow : s.low ≤ b) (hhigh : b ≤ s.high)
      (h : Completes ⟨s.bits * 64 + (b.toNat - 0x80), s.missing - 1, 0x80, 0xBF⟩ tail v) :
      Completes s (b :: tail) v

/-! ### Reading sequences -/

section reading

variable {s : Begun} {tail bs : List UInt8} {v : ℕ}

theorem decodeFrom_some_cons (s : Begun) (b : UInt8) (rest : List UInt8) :
    decodeFrom (some s) (b :: rest) =
      if s.low ≤ b ∧ b ≤ s.high then
        if s.missing = 1 then
          some (Char.ofNat (s.bits * 64 + (b.toNat - 0x80))) :: decodeFrom none rest
        else decodeFrom (some ⟨s.bits * 64 + (b.toNat - 0x80), s.missing - 1, 0x80, 0xBF⟩) rest
      else none :: decodeFrom none (b :: rest) := rfl

theorem Completes.decodeFrom_append (h : Completes s tail v) (rest : List UInt8) :
    decodeFrom (some s) (tail ++ rest) = some (Char.ofNat v) :: decodeFrom none rest := by
  induction h with
  | last hs hlow hhigh =>
      rw [List.singleton_append, decodeFrom_some_cons, if_pos ⟨hlow, hhigh⟩, if_pos hs]
  | more hs hlow hhigh _ ih =>
      rw [List.cons_append, decodeFrom_some_cons, if_pos ⟨hlow, hhigh⟩, if_neg hs, ih]

theorem exists_completes (h : none ∉ decodeFrom (some s) bs) :
    ∃ tail rest v, bs = tail ++ rest ∧ Completes s tail v := by
  induction bs generalizing s with
  | nil => exact absurd (List.mem_singleton_self _) h
  | cons b bs ih =>
      rw [decodeFrom_some_cons] at h
      split at h
      case isTrue hrange =>
        split at h
        case isTrue hs => exact ⟨[b], bs, _, rfl, .last hs hrange.1 hrange.2⟩
        case isFalse hs =>
          obtain ⟨tail, rest, v, rfl, hc⟩ := ih h
          exact ⟨b :: tail, rest, v, rfl, .more hs hrange.1 hrange.2 hc⟩
      case isFalse => exact absurd List.mem_cons_self h

end reading

/-! ### Sequences of each length -/

section lengths

variable {s : Begun} {tail : List UInt8} {v : ℕ}

/-- A byte that may continue this sequence next. -/
def Begun.Continues (s : Begun) (b : UInt8) : Prop := s.low ≤ b ∧ b ≤ s.high

/-- A byte that may continue any sequence after that. -/
def IsTail (b : UInt8) : Prop := 0x80 ≤ b ∧ b ≤ 0xBF

theorem isTail_iff (b : UInt8) : IsTail b ↔ 0x80 ≤ b.toNat ∧ b.toNat ≤ 0xBF := by
  simp only [IsTail, UInt8.le_iff_toNat_le, UInt8.reduceToNat]

theorem completes_one (hs : s.missing = 1) : Completes s tail v ↔
    ∃ b, tail = [b] ∧ s.Continues b ∧ v = s.bits * 64 + (b.toNat - 0x80) := by
  constructor
  · intro h
    cases h with
    | last _ hlow hhigh => exact ⟨_, rfl, ⟨hlow, hhigh⟩, rfl⟩
    | more hne => exact absurd hs hne
  · rintro ⟨b, rfl, hb, hv⟩
    rw [hv]
    exact .last hs hb.1 hb.2

theorem completes_two (hs : s.missing = 2) : Completes s tail v ↔
    ∃ b c, tail = [b, c] ∧ s.Continues b ∧ IsTail c ∧
      v = (s.bits * 64 + (b.toNat - 0x80)) * 64 + (c.toNat - 0x80) := by
  constructor
  · intro h
    cases h with
    | last hone => omega
    | more _ hlow hhigh h =>
        obtain ⟨c, rfl, hc, hv⟩ := (completes_one (by simp [hs])).mp h
        exact ⟨_, c, rfl, ⟨hlow, hhigh⟩, hc, hv⟩
  · rintro ⟨b, c, rfl, hb, hc, hv⟩
    exact .more (by omega) hb.1 hb.2 ((completes_one (by simp [hs])).mpr ⟨c, rfl, hc, hv⟩)

theorem completes_three (hs : s.missing = 3) : Completes s tail v ↔
    ∃ b c d, tail = [b, c, d] ∧ s.Continues b ∧ IsTail c ∧ IsTail d ∧
      v = ((s.bits * 64 + (b.toNat - 0x80)) * 64 + (c.toNat - 0x80)) * 64 + (d.toNat - 0x80) := by
  constructor
  · intro h
    cases h with
    | last hone => omega
    | more _ hlow hhigh h =>
        obtain ⟨c, d, rfl, hc, hd, hv⟩ := (completes_two (by simp [hs])).mp h
        exact ⟨_, c, d, rfl, ⟨hlow, hhigh⟩, hc, hd, hv⟩
  · rintro ⟨b, c, d, rfl, hb, hc, hd, hv⟩
    exact .more (by omega) hb.1 hb.2 ((completes_two (by simp [hs])).mpr ⟨c, d, rfl, hc, hd, hv⟩)

/-- What the first byte of a sequence says: how many bytes are missing, and which one may be
next.  No number is written with more bytes than it needs, and no surrogate and nothing above the
last character is written at all. -/
inductive Begins (b : UInt8) (s : Begun) : Prop
  | two (hb : 0xC2 ≤ b.toNat ∧ b.toNat < 0xE0) (hbits : s.bits = b.toNat - 0xC0)
      (hs : s.missing = 1) (hnext : ∀ c, s.Continues c ↔ 0x80 ≤ c.toNat ∧ c.toNat ≤ 0xBF)
  | three (hb : 0xE0 ≤ b.toNat ∧ b.toNat < 0xF0) (hbits : s.bits = b.toNat - 0xE0)
      (hs : s.missing = 2) (hnext : ∀ c, s.Continues c ↔ (0x80 ≤ c.toNat ∧ c.toNat ≤ 0xBF) ∧
        (b.toNat = 0xE0 → 0xA0 ≤ c.toNat) ∧ (b.toNat = 0xED → c.toNat ≤ 0x9F))
  | four (hb : 0xF0 ≤ b.toNat ∧ b.toNat < 0xF5) (hbits : s.bits = b.toNat - 0xF0)
      (hs : s.missing = 3) (hnext : ∀ c, s.Continues c ↔ (0x80 ≤ c.toNat ∧ c.toNat ≤ 0xBF) ∧
        (b.toNat = 0xF0 → 0x90 ≤ c.toNat) ∧ (b.toNat = 0xF4 → c.toNat ≤ 0x8F))

theorem exists_begins {b : UInt8} (h : 0xC2 ≤ b.toNat ∧ b.toNat < 0xF5) :
    ∃ s, first? b = some (.inr s) ∧ Begins b s := by
  have hrange (bits missing : ℕ) (low high c : UInt8) :
      Begun.Continues ⟨bits, missing, low, high⟩ c ↔
        low.toNat ≤ c.toNat ∧ c.toNat ≤ high.toNat := Iff.rfl
  rw [first?]
  rw [if_neg (by omega), if_neg (by omega)]
  by_cases h₁ : b.toNat < 0xE0
  · rw [if_pos h₁]
    exact ⟨_, rfl, .two ⟨h.1, h₁⟩ rfl rfl fun c => by
      simp only [hrange, UInt8.reduceToNat]⟩
  rw [if_neg h₁]
  by_cases h₂ : b.toNat = 0xE0
  · rw [if_pos h₂]
    exact ⟨_, rfl, .three (by omega) (by dsimp only; omega) rfl fun c => by
      simp only [hrange, UInt8.reduceToNat]
      omega⟩
  rw [if_neg h₂]
  by_cases h₃ : b.toNat = 0xED
  · rw [if_pos h₃]
    exact ⟨_, rfl, .three (by omega) (by dsimp only; omega) rfl fun c => by
      simp only [hrange, UInt8.reduceToNat]
      omega⟩
  rw [if_neg h₃]
  by_cases h₄ : b.toNat < 0xF0
  · rw [if_pos h₄]
    exact ⟨_, rfl, .three (by omega) rfl rfl fun c => by
      simp only [hrange, UInt8.reduceToNat]
      omega⟩
  rw [if_neg h₄]
  by_cases h₅ : b.toNat = 0xF0
  · rw [if_pos h₅]
    exact ⟨_, rfl, .four (by omega) (by dsimp only; omega) rfl fun c => by
      simp only [hrange, UInt8.reduceToNat]
      omega⟩
  rw [if_neg h₅]
  by_cases h₆ : b.toNat < 0xF4
  · rw [if_pos h₆]
    exact ⟨_, rfl, .four (by omega) rfl rfl fun c => by
      simp only [hrange, UInt8.reduceToNat]
      omega⟩
  rw [if_neg h₆, if_pos (by omega)]
  exact ⟨_, rfl, .four (by omega) (by dsimp only; omega) rfl fun c => by
    simp only [hrange, UInt8.reduceToNat]
    omega⟩

/-- A first byte is a character of its own, begins a sequence, or is none. -/
theorem first?_cases (b : UInt8) :
    (b.toNat < 0x80 ∧ first? b = some (.inl (Char.ofNat b.toNat))) ∨
      (∃ s, first? b = some (.inr s) ∧ Begins b s) ∨ first? b = none := by
  by_cases hseq : 0xC2 ≤ b.toNat ∧ b.toNat < 0xF5
  · exact .inr (.inl (exists_begins hseq))
  rw [first?]
  by_cases h₁ : b.toNat < 0x80
  · exact .inl ⟨h₁, if_pos h₁⟩
  rw [if_neg h₁]
  right
  right
  by_cases h₂ : b.toNat < 0xC2
  · rw [if_pos h₂]
  · rw [if_neg h₂, if_neg (by omega), if_neg (by omega), if_neg (by omega), if_neg (by omega),
      if_neg (by omega), if_neg (by omega), if_neg (by omega)]

end lengths

/-! ### Writing characters -/

section writing

variable {b : UInt8} {s : Begun} {tail : List UInt8} {v : ℕ}

theorem encodeChar_ofNat (h : v.isValidChar) : String.utf8EncodeChar (Char.ofNat v) =
    if v ≤ 127 then [UInt8.ofNat v]
    else if v ≤ 2047 then [UInt8.ofNat (v / 64 % 32 + 192), UInt8.ofNat (v % 64 + 128)]
    else if v ≤ 65535 then
      [UInt8.ofNat (v / 4096 % 16 + 224), UInt8.ofNat (v / 64 % 64 + 128),
        UInt8.ofNat (v % 64 + 128)]
    else
      [UInt8.ofNat (v / 262144 % 8 + 240), UInt8.ofNat (v / 4096 % 64 + 128),
        UInt8.ofNat (v / 64 % 64 + 128), UInt8.ofNat (v % 64 + 128)] := by
  have hv : (Char.ofNat v).val.toNat = v := by
    rw [Char.ofNat, dif_pos h]
    rfl
  unfold String.utf8EncodeChar
  simp only [hv]

theorem ofNat_eq {n : ℕ} (h : n = b.toNat) : UInt8.ofNat n = b := by rw [h, UInt8.ofNat_toNat]

theorem encodeChar_of_completes (hb : Begins b s) (h : Completes s tail v) :
    String.utf8EncodeChar (Char.ofNat v) = b :: tail := by
  cases hb with
  | two hb hbits hs hnext =>
      obtain ⟨c, rfl, hc, hv⟩ := (completes_one hs).mp h
      rw [hnext] at hc
      rw [hbits] at hv
      rw [encodeChar_ofNat (by rw [Nat.isValidChar]; omega), if_neg (by omega),
        if_pos (by omega), ofNat_eq (b := b) (by omega), ofNat_eq (b := c) (by omega)]
  | three hb hbits hs hnext =>
      obtain ⟨c, d, rfl, hc, hd, hv⟩ := (completes_two hs).mp h
      rw [hnext] at hc
      rw [isTail_iff] at hd
      rw [hbits] at hv
      rw [encodeChar_ofNat (by rw [Nat.isValidChar]; omega), if_neg (by omega), if_neg (by omega),
        if_pos (by omega), ofNat_eq (b := b) (by omega), ofNat_eq (b := c) (by omega),
        ofNat_eq (b := d) (by omega)]
  | four hb hbits hs hnext =>
      obtain ⟨c, d, e, rfl, hc, hd, he, hv⟩ := (completes_three hs).mp h
      rw [hnext] at hc
      rw [isTail_iff] at hd he
      rw [hbits] at hv
      rw [encodeChar_ofNat (by rw [Nat.isValidChar]; omega), if_neg (by omega), if_neg (by omega),
        if_neg (by omega), ofNat_eq (b := b) (by omega), ofNat_eq (b := c) (by omega),
        ofNat_eq (b := d) (by omega), ofNat_eq (b := e) (by omega)]

theorem toNat_ofNat {n : ℕ} (h : n < 256) : (UInt8.ofNat n).toNat = n := by
  rw [UInt8.toNat_ofNat', Nat.mod_eq_of_lt h]

/-- The number of a character that is no byte of its own is reached by a sequence. -/
theorem exists_sequence (hlow : 0x80 ≤ v) (hv : v.isValidChar) :
    ∃ b s tail, first? b = some (.inr s) ∧ Begins b s ∧ Completes s tail v := by
  rw [Nat.isValidChar] at hv
  by_cases h₁ : v ≤ 2047
  · have hfirst : (UInt8.ofNat (v / 64 + 192)).toNat = v / 64 + 192 := toNat_ofNat (by omega)
    have hlast : (UInt8.ofNat (v % 64 + 128)).toNat = v % 64 + 128 := toNat_ofNat (by omega)
    obtain ⟨s, hs, hbegins⟩ := exists_begins (b := UInt8.ofNat (v / 64 + 192)) (by omega)
    refine ⟨_, s, [UInt8.ofNat (v % 64 + 128)], hs, hbegins, ?_⟩
    cases hbegins with
    | two hb hbits hm hnext =>
        refine (completes_one hm).mpr ⟨_, rfl, (hnext _).mpr ?_, ?_⟩ <;> omega
    | three hb => omega
    | four hb => omega
  have hlast : (UInt8.ofNat (v % 64 + 128)).toNat = v % 64 + 128 := toNat_ofNat (by omega)
  have hlast' : (UInt8.ofNat (v / 64 % 64 + 128)).toNat = v / 64 % 64 + 128 :=
    toNat_ofNat (by omega)
  by_cases h₂ : v ≤ 65535
  · have hfirst : (UInt8.ofNat (v / 4096 + 224)).toNat = v / 4096 + 224 := toNat_ofNat (by omega)
    obtain ⟨s, hs, hbegins⟩ := exists_begins (b := UInt8.ofNat (v / 4096 + 224)) (by omega)
    refine ⟨_, s, [UInt8.ofNat (v / 64 % 64 + 128), UInt8.ofNat (v % 64 + 128)], hs, hbegins, ?_⟩
    cases hbegins with
    | two hb => omega
    | three hb hbits hm hnext =>
        refine (completes_two hm).mpr ⟨_, _, rfl, (hnext _).mpr ?_, (isTail_iff _).mpr ?_, ?_⟩ <;>
          omega
    | four hb => omega
  · have hfirst : (UInt8.ofNat (v / 262144 + 240)).toNat = v / 262144 + 240 :=
      toNat_ofNat (by omega)
    have hnext' : (UInt8.ofNat (v / 4096 % 64 + 128)).toNat = v / 4096 % 64 + 128 :=
      toNat_ofNat (by omega)
    obtain ⟨s, hs, hbegins⟩ := exists_begins (b := UInt8.ofNat (v / 262144 + 240)) (by omega)
    refine ⟨_, s, [UInt8.ofNat (v / 4096 % 64 + 128), UInt8.ofNat (v / 64 % 64 + 128),
      UInt8.ofNat (v % 64 + 128)], hs, hbegins, ?_⟩
    cases hbegins with
    | two hb => omega
    | three hb => omega
    | four hb hbits hm hnext =>
        refine (completes_three hm).mpr ⟨_, _, _, rfl, (hnext _).mpr ?_, (isTail_iff _).mpr ?_,
          (isTail_iff _).mpr ?_, ?_⟩ <;> omega

end writing

/-! ### Texts -/

section texts

theorem decodeFrom_none_cons (b : UInt8) (rest : List UInt8) :
    decodeFrom none (b :: rest) = match first? b with
      | none => none :: decodeFrom none rest
      | some (.inl c) => some c :: decodeFrom none rest
      | some (.inr s) => decodeFrom (some s) rest := rfl

theorem decodeFrom_encodeChar (c : Char) (rest : List UInt8) :
    decodeFrom none (String.utf8EncodeChar c ++ rest) = some c :: decodeFrom none rest := by
  by_cases hc : c.toNat < 0x80
  · have hb : (UInt8.ofNat c.toNat).toNat = c.toNat := toNat_ofNat (by omega)
    have hbytes : String.utf8EncodeChar c = [UInt8.ofNat c.toNat] :=
      if_pos (Nat.le_of_lt_succ hc)
    have hfirst : first? (UInt8.ofNat c.toNat) = some (.inl c) := by
      rw [first?, hb, if_pos hc, Char.ofNat_toNat]
    rw [hbytes, List.singleton_append, decodeFrom_none_cons, hfirst]
  · obtain ⟨b, s, tail, hs, hbegins, hcompletes⟩ := exists_sequence (Nat.le_of_not_lt hc) c.valid
    have hbytes := encodeChar_of_completes hbegins hcompletes
    have hread := hcompletes.decodeFrom_append rest
    rw [Char.ofNat_toNat] at hbytes hread
    rw [hbytes, List.cons_append, decodeFrom_none_cons, hs]
    exact hread

theorem decode_flatMap (cs : List Char) :
    decodeFrom none (cs.flatMap String.utf8EncodeChar) = cs.map some := by
  induction cs with
  | nil => rfl
  | cons c cs ih => rw [List.flatMap_cons, decodeFrom_encodeChar, ih, List.map_cons]

/-- Bytes without a broken sequence are the bytes of characters. -/
theorem exists_chars : ∀ bs : List UInt8, none ∉ decodeFrom none bs →
    ∃ cs : List Char, bs = cs.flatMap String.utf8EncodeChar
  | [], _ => ⟨[], rfl⟩
  | b :: bs, h => by
      rw [decodeFrom_none_cons] at h
      rcases first?_cases b with ⟨hb, hfirst⟩ | ⟨s, hfirst, hbegins⟩ | hfirst <;> rw [hfirst] at h
      · obtain ⟨cs, hcs⟩ := exists_chars bs fun hmem => h (List.mem_cons_of_mem _ hmem)
        refine ⟨Char.ofNat b.toNat :: cs, ?_⟩
        rw [List.flatMap_cons, ← hcs, encodeChar_ofNat (by rw [Nat.isValidChar]; omega),
          if_pos (by omega), UInt8.ofNat_toNat, List.singleton_append]
      · obtain ⟨tail, rest, v, rfl, hcompletes⟩ := exists_completes h
        dsimp only at h
        rw [hcompletes.decodeFrom_append] at h
        obtain ⟨cs, hcs⟩ := exists_chars rest fun hmem => h (List.mem_cons_of_mem _ hmem)
        refine ⟨Char.ofNat v :: cs, ?_⟩
        rw [List.flatMap_cons, ← hcs, encodeChar_of_completes hbegins hcompletes, List.cons_append]
      · exact absurd List.mem_cons_self h
termination_by bs => bs.length

theorem mapM_id_map_some {α : Type} (xs : List α) : (xs.map some).mapM id = some xs := by
  induction xs with
  | nil => rfl
  | cons x xs ih => rw [List.map_cons, List.mapM_cons, ih]; rfl

theorem mapM_id_of_none_mem {α : Type} {os : List (Option α)} (h : none ∈ os) :
    os.mapM id = none := by
  induction os with
  | nil => cases h
  | cons o os ih =>
      rw [List.mapM_cons]
      cases o with
      | none => rfl
      | some x =>
          rw [ih ((List.mem_cons.mp h).resolve_left nofun)]
          rfl

/-- **Bytes are accepted** exactly as the bytes of a text, and for that text. -/
theorem text?_eq_some_iff {bs : List UInt8} {s : String} : text? bs = some s ↔ bytes s = bs := by
  have haccept (cs : List Char) :
      text? (cs.flatMap String.utf8EncodeChar) = some (String.ofList cs) := by
    rw [text?, decode, decode_flatMap, mapM_id_map_some, Option.map_some]
  constructor
  · intro h
    have hwhole : none ∉ decodeFrom none bs := by
      intro hmem
      rw [text?, decode, mapM_id_of_none_mem hmem] at h
      cases h
    obtain ⟨cs, rfl⟩ := exists_chars bs hwhole
    rw [haccept] at h
    rw [← Option.some.inj h, bytes_ofList]
  · rintro rfl
    rw [bytes_eq, haccept, String.ofList_toList]

end texts

end PenPlotter.Utf8
