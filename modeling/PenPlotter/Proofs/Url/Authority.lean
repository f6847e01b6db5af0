import PenPlotter.Url.StreamAddress
import Mathlib.Data.List.DropRight

/-! # Authorities of event streams

`isAuthority` takes the bytes in one at a time and remembers five things.  What it remembers is a
function of the bytes so far (`Progress.after`), and whether it takes the next byte is too
(`MayFollow`), so the check is a statement about the bytes (`isAuthority_iff`).  Colons and percent
signs are counted in the latest stretch: what follows the last at sign or closing bracket. -/

namespace PenPlotter.StreamAddress

/-- An at sign or a closing bracket. -/
def endsStretch (b : UInt8) : Bool := b == 0x40 || b == 0x5D

/-- What follows the last at sign or closing bracket. -/
def latest (bytes : List UInt8) : List UInt8 := bytes.rtakeWhile (!endsStretch ·)

theorem latest_concat (bytes : List UInt8) (b : UInt8) :
    latest (bytes ++ [b]) = if endsStretch b then [] else latest bytes ++ [b] := by
  simp only [latest, List.rtakeWhile_concat]
  cases endsStretch b <;> simp

theorem latest_append_mark (xs : List UInt8) {m : UInt8} (hm : endsStretch m = true)
    (ys : List UInt8) : latest (xs ++ m :: ys) = latest ys := by
  induction ys using List.reverseRecOn with
  | nil =>
      rw [latest_concat, if_pos hm]
      rfl
  | append_singleton ys b ih =>
      rw [← List.cons_append, ← List.append_assoc, latest_concat, latest_concat, ih]

theorem latest_eq_self {bytes : List UInt8} (h : ∀ b ∈ bytes, endsStretch b = false) :
    latest bytes = bytes :=
  List.rtakeWhile_eq_self_iff.2 fun b hb => by simp [h b hb]

theorem latest_cons_of_mark (b : UInt8) {bytes : List UInt8} {m : UInt8} (hm : endsStretch m = true)
    (hmem : m ∈ bytes) : latest (b :: bytes) = latest bytes := by
  obtain ⟨xs, ys, rfl⟩ := List.append_of_mem hmem
  rw [← List.cons_append, latest_append_mark _ hm, latest_append_mark _ hm]

/-- Whether a byte may stand behind others.  A stretch has at most eight colons, there is one
opening bracket and one closing bracket behind it, and no percent sign stands before the opening
one in its stretch. -/
def MayFollow (before : List UInt8) (b : UInt8) : Prop :=
  (isAuthorityByte b ∨ b = 0x25) ∧ (b = 0x3A → (latest before).count 0x3A < 8) ∧
    (b = 0x5B → 0x25 ∉ latest before ∧ 0x5B ∉ before) ∧
    (b = 0x5D → 0x5B ∈ before ∧ 0x5D ∉ before)

instance (before : List UInt8) (b : UInt8) : Decidable (MayFollow before b) :=
  inferInstanceAs (Decidable (_ ∧ _))

/-- Every byte may stand behind those before it. -/
def Spelled (bytes : List UInt8) : Prop :=
  ∀ before b after, bytes = before ++ b :: after → MayFollow before b

theorem spelled_nil : Spelled [] := by
  intro before b after h
  simp at h

theorem spelled_concat {bytes : List UInt8} {b : UInt8} :
    Spelled (bytes ++ [b]) ↔ Spelled bytes ∧ MayFollow bytes b := by
  constructor
  · intro h
    refine ⟨fun before c after hc => h before c (after ++ [b]) ?_, h bytes b [] rfl⟩
    rw [hc, List.append_assoc, List.cons_append]
  · rintro ⟨hbytes, hb⟩ before c after hc
    rcases List.eq_nil_or_concat after with rfl | ⟨init, d, rfl⟩
    · obtain ⟨rfl, hbc⟩ := List.append_inj' hc rfl
      exact (List.cons.inj hbc).1 ▸ hb
    · refine hbytes before c init ?_
      rw [List.concat_eq_append, ← List.cons_append, ← List.append_assoc] at hc
      exact (List.append_inj' hc rfl).1

/-- What the check remembers of the bytes so far. -/
def Progress.after (bytes : List UInt8) : Progress :=
  ⟨(latest bytes).count 0x3A, bytes.contains 0x5B, bytes.contains 0x5D,
    (latest bytes).contains 0x25, bytes.getLast? == some 0x40⟩

/-- **One byte.**  It is taken in exactly when it may stand behind those before it. -/
theorem Progress.next?_after (bytes : List UInt8) (b : UInt8) :
    (Progress.after bytes).next? b =
      if MayFollow bytes b then some (Progress.after (bytes ++ [b])) else none := by
  have hlisted : ∀ c ∈ [0x3A, 0x5B, 0x5D, 0x40], isAuthorityByte c :=
    List.all_eq_true.1 rfl
  by_cases hcolon : b = 0x3A
  · subst hcolon
    by_cases hcount : (latest bytes).count 0x3A < 8
    · simp [Progress.next?, Progress.after, MayFollow, latest_concat, endsStretch, hlisted, hcount]
    · simp [Progress.next?, Progress.after, MayFollow, hcount]
  by_cases hopen : b = 0x5B
  · subst hopen
    by_cases hbefore : 0x25 ∉ latest bytes ∧ 0x5B ∉ bytes
    · simp [Progress.next?, Progress.after, MayFollow, latest_concat, endsStretch, hlisted, hbefore]
    · simp [Progress.next?, Progress.after, MayFollow, hbefore]
  by_cases hclose : b = 0x5D
  · subst hclose
    by_cases hbefore : 0x5B ∈ bytes ∧ 0x5D ∉ bytes
    · simp [Progress.next?, Progress.after, MayFollow, latest_concat, endsStretch, hlisted, hbefore]
    · simp [Progress.next?, Progress.after, MayFollow, hbefore]
  by_cases hat : b = 0x40
  · subst hat
    simp [Progress.next?, Progress.after, MayFollow, latest_concat, endsStretch, hlisted]
  have hstretch : endsStretch b = false := by simp [endsStretch, hat, hclose]
  by_cases hpercent : b = 0x25
  · subst hpercent
    simp [Progress.next?, Progress.after, MayFollow, latest_concat, hstretch]
  · simp [Progress.next?, Progress.after, MayFollow, latest_concat, hstretch, hcolon, hopen, hclose,
      hat, hpercent, Ne.symm hopen, Ne.symm hclose, Ne.symm hpercent, beq_eq_decide]

/-- **All bytes.**  The check gets through exactly the bytes that each may stand where they do. -/
theorem foldlM_next?_eq_some {bytes : List UInt8} {p : Progress} :
    bytes.foldlM Progress.next? ⟨0, false, false, false, false⟩ = some p ↔
      Spelled bytes ∧ Progress.after bytes = p := by
  induction bytes using List.reverseRecOn generalizing p with
  | nil => simp [spelled_nil, Progress.after, latest]
  | append_singleton bytes b ih =>
      rw [List.foldlM_append, Option.bind_eq_bind, Option.bind_eq_some_iff]
      simp only [ih, List.foldlM_cons, List.foldlM_nil, spelled_concat]
      constructor
      · rintro ⟨_, ⟨hspelled, rfl⟩, hnext⟩
        simpa [Progress.next?_after, hspelled] using hnext
      · rintro ⟨⟨hspelled, hfollow⟩, rfl⟩
        exact ⟨_, ⟨hspelled, rfl⟩, by simp [Progress.next?_after, hfollow]⟩

theorem Spelled.open_of_close {bytes : List UInt8} (h : Spelled bytes) (hclose : 0x5D ∈ bytes) :
    0x5B ∈ bytes := by
  obtain ⟨before, after, rfl⟩ := List.append_of_mem hclose
  exact List.mem_append_left _ ((h before 0x5D after rfl).2.2.2 rfl).1

theorem Spelled.open_notMem_latest {bytes : List UInt8} (h : Spelled bytes)
    (hclosed : 0x5B ∈ bytes → 0x5D ∈ bytes) : 0x5B ∉ latest bytes := by
  intro hopen
  have hmem : 0x5B ∈ bytes := (List.rtakeWhile_suffix _ _).subset hopen
  obtain ⟨xs, ys, rfl⟩ := List.append_of_mem (hclosed hmem)
  rw [latest_append_mark _ (by decide)] at hopen
  obtain ⟨us, vs, rfl⟩ := List.append_of_mem ((List.rtakeWhile_suffix _ _).subset hopen)
  have hbefore : 0x5B ∈ xs := ((h xs 0x5D _ rfl).2.2.2 rfl).1
  have hsecond := (h (xs ++ 0x5D :: us) 0x5B vs (by simp)).2.2.1 rfl
  exact hsecond.2 (List.mem_append_left _ hbefore)

/-- **An authority** is spelled well, closes the bracket that it opens, and ends in a stretch with
at most one colon and no percent sign, in which something stands. -/
theorem isAuthority_iff (bytes : List UInt8) :
    isAuthority bytes = true ↔
      bytes ≠ [] ∧ Spelled bytes ∧ (0x5B ∈ bytes → 0x5D ∈ bytes) ∧ 0x25 ∉ latest bytes ∧
        (latest bytes).count 0x3A ≤ 1 ∧ bytes.getLast? ≠ some 0x40 := by
  rw [isAuthority]
  cases hfold : bytes.foldlM Progress.next? ⟨0, false, false, false, false⟩ with
  | none =>
      have hspelled : ¬ Spelled bytes := fun h => by
        simp [foldlM_next?_eq_some.2 ⟨h, rfl⟩] at hfold
      simp [hspelled]
  | some p =>
      obtain ⟨hspelled, rfl⟩ := foldlM_next?_eq_some.1 hfold
      have hbrackets : bytes.contains 0x5B = bytes.contains 0x5D ↔
          (0x5B ∈ bytes → 0x5D ∈ bytes) := by
        rw [Bool.eq_iff_iff, List.contains_iff_mem, List.contains_iff_mem]
        exact ⟨Iff.mp, fun h => ⟨h, hspelled.open_of_close⟩⟩
      have hpercent : (latest bytes).contains 0x25 = false ↔ 0x25 ∉ latest bytes := by
        rw [← Bool.not_eq_true, List.contains_iff_mem]
      change (!bytes.isEmpty && bytes.contains 0x5B == bytes.contains 0x5D &&
        decide ((latest bytes).count 0x3A ≤ 1) && !(bytes.getLast? == some 0x40) &&
        !(latest bytes).contains 0x25) = true ↔ _
      simp only [Bool.and_eq_true, Bool.not_eq_true', List.isEmpty_eq_false_iff, beq_iff_eq,
        beq_eq_false_iff_ne, decide_eq_true_eq, hbrackets, hpercent, hspelled, true_and]
      exact ⟨fun ⟨⟨⟨⟨hne, hclosed⟩, hcolons⟩, hat⟩, hplain⟩ => ⟨hne, hclosed, hplain, hcolons, hat⟩,
        fun ⟨hne, hclosed, hplain, hcolons, hat⟩ => ⟨⟨⟨⟨hne, hclosed⟩, hcolons⟩, hat⟩, hplain⟩⟩

end PenPlotter.StreamAddress
