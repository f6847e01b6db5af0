import Mathlib.Data.List.Nodup
import PenPlotter.Session.SeenKeys

/-! # The bounded set of keys

`SeenKeys.Sound` ties the two halves of the set together: the hash set holds exactly the keys of
the queue, each key stands in the queue once, and the queue is not longer than the capacity.
Every operation keeps it.  On a sound set `insert` is decided by the queue alone
(`insert_of_mem`, `queue_insert_of_notMem`), so that nothing later has to look at the hash set. -/

namespace PenPlotter
namespace SeenKeys

/-- The queue and the hash set hold the same keys, each once and no more than the capacity. -/
structure Sound (s : SeenKeys) : Prop where
  capacity_pos : 1 ≤ s.capacity
  mem_iff : ∀ k, k ∈ s.members ↔ k ∈ s.queue
  nodup : s.queue.Nodup
  length_le : s.queue.length ≤ s.capacity

/-! ### Eviction -/

section eviction

theorem evict_fst (c : Nat) : ∀ (q : List String) (m : Std.HashSet String),
    (evict c q m).1 = q.drop (q.length - c)
  | [], m => by simp [evict]
  | k :: rest, m => by
      unfold evict
      by_cases h : c < rest.length + 1
      · rw [if_pos h, evict_fst c rest]
        have e : (k :: rest).length - c = (rest.length - c) + 1 := by
          rw [List.length_cons]; omega
        rw [e, List.drop_succ_cons]
      · have e : (k :: rest).length - c = 0 := by rw [List.length_cons]; omega
        rw [if_neg h, e, List.drop_zero]

/-- Evicting keys from the queue and from the hash set keeps them equal. -/
theorem mem_evict_snd (c : Nat) : ∀ (q : List String) (m : Std.HashSet String), q.Nodup →
    (∀ k, k ∈ m ↔ k ∈ q) → ∀ k, k ∈ (evict c q m).2 ↔ k ∈ (evict c q m).1
  | [], m, _, hm, k => by simpa [evict] using hm k
  | k₀ :: rest, m, hq, hm, k => by
      obtain ⟨hk₀, hrest⟩ := List.nodup_cons.mp hq
      unfold evict
      by_cases h : c < rest.length + 1
      · rw [if_pos h]
        refine mem_evict_snd c rest _ hrest ?_ k
        intro x
        rw [Std.HashSet.mem_erase, hm x, List.mem_cons]
        constructor
        · rintro ⟨hne, rfl | hx⟩
          · simp at hne
          · exact hx
        · intro hx
          have hne : k₀ ≠ x := fun e => hk₀ (e ▸ hx)
          exact ⟨by simpa using hne, Or.inr hx⟩
      · rw [if_neg h]
        exact hm k

end eviction

/-! ### The operations -/

section operations

variable {s : SeenKeys} {k : String}

theorem sound_new (capacity : Nat) : (new capacity).Sound where
  capacity_pos := Nat.le_max_right _ _
  mem_iff k := by simp [new]
  nodup := by simp [new]
  length_le := by simp [new]

theorem Sound.clear (hs : s.Sound) : s.clear.Sound where
  capacity_pos := hs.capacity_pos
  mem_iff k := by simp [SeenKeys.clear]
  nodup := by simp [SeenKeys.clear]
  length_le := by simp [SeenKeys.clear]

@[simp] theorem capacity_new (capacity : Nat) : (new capacity).capacity = max capacity 1 := rfl

@[simp] theorem queue_new (capacity : Nat) : (new capacity).queue = [] := rfl

@[simp] theorem capacity_clear (s : SeenKeys) : s.clear.capacity = s.capacity := rfl

@[simp] theorem queue_clear (s : SeenKeys) : s.clear.queue = [] := rfl

theorem Sound.contains_iff (hs : s.Sound) : s.contains k = true ↔ k ∈ s.queue := by
  rw [← hs.mem_iff k]
  exact Std.HashSet.contains_iff_mem

theorem insert_of_mem (hs : s.Sound) (h : k ∈ s.queue) : s.insert k = (s, false) := by
  unfold insert
  rw [if_pos (hs.contains_iff.mpr h)]

theorem insert_snd_of_notMem (hs : s.Sound) (h : k ∉ s.queue) : (s.insert k).2 = true := by
  unfold insert
  rw [if_neg (fun hc => h (hs.contains_iff.mp hc))]

@[simp] theorem capacity_insert (s : SeenKeys) (k : String) :
    (s.insert k).1.capacity = s.capacity := by
  unfold insert
  split <;> rfl

/-- A new key goes to the end of the queue; of a full queue the oldest key is dropped. -/
theorem queue_insert_of_notMem (hs : s.Sound) (h : k ∉ s.queue) :
    (s.insert k).1.queue = (s.queue ++ [k]).drop (s.queue.length + 1 - s.capacity) := by
  unfold insert
  rw [if_neg (fun hc => h (hs.contains_iff.mp hc))]
  show (evict s.capacity (s.queue ++ [k]) (s.members.insert k)).1 = _
  rw [evict_fst, List.length_append, List.length_singleton]

theorem Sound.insert (hs : s.Sound) (k : String) : (s.insert k).1.Sound := by
  by_cases h : k ∈ s.queue
  · rw [insert_of_mem hs h]
    exact hs
  · have hq : (s.queue ++ [k]).Nodup := by
      rw [List.nodup_append]
      refine ⟨hs.nodup, List.nodup_singleton k, ?_⟩
      intro a ha b hb e
      rw [List.mem_singleton.mp hb] at e
      exact h (e ▸ ha)
    have hm : ∀ x, x ∈ s.members.insert k ↔ x ∈ s.queue ++ [k] := by
      intro x
      rw [Std.HashSet.mem_insert, hs.mem_iff x, List.mem_append, List.mem_singleton, beq_iff_eq,
        or_comm, eq_comm]
    refine ⟨?_, ?_, ?_, ?_⟩
    · rw [capacity_insert]
      exact hs.capacity_pos
    · unfold SeenKeys.insert
      rw [if_neg (fun hc => h (hs.contains_iff.mp hc))]
      exact mem_evict_snd _ _ _ hq hm
    · rw [queue_insert_of_notMem hs h]
      exact hq.sublist (List.drop_sublist _ _)
    · rw [queue_insert_of_notMem hs h, capacity_insert, List.length_drop, List.length_append,
        List.length_singleton]
      omega

end operations

end SeenKeys
end PenPlotter
