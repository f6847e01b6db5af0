import Mathlib.Data.List.DropRight
import PenPlotter.Proofs.Session.Log

/-! # The queue of seen keys

A set of seen keys is changed by inserting keys and by clearing it.  `SeenKeys.accepted` collects
the keys that were new when they came, since the set was last cleared, and `SeenKeys.Keeps` ties the
queue to them: it is their end, as long as the capacity allows.  Every change keeps this
(`Keeps.change`), also when a key comes again that was evicted before, since it is then accepted a
second time.

On a sound set an insertion of a new key is a shift of the queue by at most one place
(`queue_append_eq`).  `SeenKeys.queue_of_changes` puts both together. -/

namespace PenPlotter

/-- What can happen to a set of seen keys. -/
inductive KeyChange where
  | insert (key : String)
  | clear
deriving Repr, DecidableEq, Inhabited

namespace SeenKeys

def change (s : SeenKeys) : KeyChange → SeenKeys
  | .insert k => (s.insert k).1
  | .clear => s.clear

/-- The set after a list of changes. -/
def changes (s : SeenKeys) (cs : List KeyChange) : SeenKeys := cs.foldl change s

/-- The keys accepted since the set was last cleared, when these were `ks` before the change. -/
def acceptedBy (s : SeenKeys) (ks : List String) : KeyChange → List String
  | .insert k => if (s.insert k).2 then ks ++ [k] else ks
  | .clear => []

/-- The keys accepted since the set was last cleared, after a list of changes. -/
def accepted (s : SeenKeys) (ks : List String) : List KeyChange → List String
  | [] => ks
  | c :: cs => (s.change c).accepted (s.acceptedBy ks c) cs

/-- The key that an accepted one pushes out: the oldest, if the set is full. -/
def evicted? (s : SeenKeys) : Option String :=
  if s.queue.length < s.capacity then none else s.queue.head?

/-- The queue is the end of the accepted keys. -/
structure Keeps (c : ℕ) (s : SeenKeys) (ks : List String) : Prop where
  sound : s.Sound
  capacity_eq : s.capacity = c
  queue_eq : s.queue = ks.rtake c

variable {s : SeenKeys} {ks : List String} {k : String} {c : ℕ}

/-! ### One insertion -/

section insertion

theorem insert_snd_iff (hs : s.Sound) : (s.insert k).2 = true ↔ k ∉ s.queue := by
  constructor
  · intro hnew hmem
    rw [insert_of_mem hs hmem] at hnew
    exact Bool.false_ne_true hnew
  · exact insert_snd_of_notMem hs

/-- The queue moves on by the new key, and by the oldest one if it was full. -/
theorem queue_append_eq (hs : s.Sound) (h : k ∉ s.queue) :
    s.queue ++ [k] = s.evicted?.toList ++ (s.insert k).1.queue := by
  have hqueue := queue_insert_of_notMem hs h
  have hpos := hs.capacity_pos
  have hle := hs.length_le
  unfold evicted?
  by_cases hfull : s.queue.length < s.capacity
  · rw [if_pos hfull, hqueue, Nat.sub_eq_zero_of_le hfull]
    rfl
  · have hdrop : s.queue.length + 1 - s.capacity = 1 := by omega
    rw [if_neg hfull, hqueue, hdrop]
    cases hq : s.queue with
    | nil =>
        rw [hq, List.length_nil] at hfull
        exact absurd hpos hfull
    | cons oldest rest => rfl

/-- The new key is never the one that is pushed out. -/
theorem mem_queue_insert_self (hs : s.Sound) (h : k ∉ s.queue) : k ∈ (s.insert k).1.queue := by
  have hpos := hs.capacity_pos
  rw [queue_insert_of_notMem hs h, List.drop_append_of_le_length (by omega)]
  exact List.mem_append_right _ (List.mem_singleton_self k)

end insertion

/-! ### Changes -/

section changes

theorem keeps_new (capacity : ℕ) : Keeps (max capacity 1) (new capacity) [] where
  sound := sound_new capacity
  capacity_eq := rfl
  queue_eq := (List.rtake_nil _).symm

theorem Keeps.insert (h : Keeps c s ks) (k : String) :
    Keeps c (s.insert k).1 (s.acceptedBy ks (.insert k)) := by
  refine ⟨h.sound.insert k, (capacity_insert s k).trans h.capacity_eq, ?_⟩
  by_cases hk : k ∈ s.queue
  · rw [acceptedBy, insert_of_mem h.sound hk]
    exact h.queue_eq
  · have hpos : 1 ≤ c := h.capacity_eq ▸ h.sound.capacity_pos
    rw [acceptedBy, insert_snd_of_notMem h.sound hk, if_pos rfl, queue_insert_of_notMem h.sound hk,
      h.capacity_eq, h.queue_eq]
    unfold List.rtake
    rw [SessionLog.drop_append_recentKeys ks k hpos, List.length_append, List.length_singleton]

theorem Keeps.change (h : Keeps c s ks) (x : KeyChange) :
    Keeps c (s.change x) (s.acceptedBy ks x) := by
  cases x with
  | insert k => exact h.insert k
  | clear => exact ⟨h.sound.clear, h.capacity_eq, (List.rtake_nil _).symm⟩

theorem Keeps.changes (h : Keeps c s ks) (cs : List KeyChange) :
    Keeps c (s.changes cs) (s.accepted ks cs) := by
  induction cs generalizing s ks with
  | nil => exact h
  | cons x cs ih => exact ih (h.change x)

end changes

/-- **A bounded queue of different keys.**  After any insertions and clearings the queue holds each
key of the hash set once and no other, it is not longer than the capacity, and it is the list of the
last keys that were accepted since the last clearing, as many as the capacity allows.  A key is
accepted exactly if it is not in the queue, and changes nothing otherwise; an accepted key goes to
the end and stays, and the queue gives up its oldest key exactly if it was full. -/
theorem queue_of_changes (capacity : ℕ) (cs : List KeyChange) :
    let kept := max capacity 1
    let s := (new capacity).changes cs
    let accepted := (new capacity).accepted [] cs
    s.capacity = kept ∧ s.queue.length ≤ kept ∧
    s.queue.Nodup ∧ (∀ k, k ∈ s.members ↔ k ∈ s.queue) ∧
    s.queue = accepted.rtake (min kept accepted.length) ∧
    ∀ k, ((s.insert k).2 = true ↔ k ∉ s.queue) ∧
      ((s.insert k).2 = false → (s.insert k).1 = s) ∧
      ((s.insert k).2 = true →
        s.queue ++ [k] = s.evicted?.toList ++ (s.insert k).1.queue ∧
        k ∈ (s.insert k).1.queue) := by
  intro kept s accepted
  have h : Keeps kept s accepted := (keeps_new capacity).changes cs
  have hlength : s.queue.length ≤ kept := h.capacity_eq ▸ h.sound.length_le
  refine ⟨h.capacity_eq, hlength, h.sound.nodup, h.sound.mem_iff, ?_, fun k =>
    ⟨insert_snd_iff h.sound, ?_, ?_⟩⟩
  · rw [h.queue_eq]
    unfold List.rtake
    congr 1
    omega
  · intro hold
    have hk : k ∈ s.queue := by
      by_contra hk
      rw [insert_snd_of_notMem h.sound hk] at hold
      exact Bool.false_ne_true hold.symm
    rw [insert_of_mem h.sound hk]
  · intro hnew
    have hk := (insert_snd_iff h.sound).mp hnew
    exact ⟨queue_append_eq h.sound hk, mem_queue_insert_self h.sound hk⟩

-- Two keys are kept.  The second `a` changes nothing, `c` pushes `a` out, and then `a` is new again.
example :
    let cs := ["a", "b", "a", "c", "a"].map KeyChange.insert
    ((new 2).changes cs).queue = ["c", "a"] ∧ (new 2).accepted [] cs = ["a", "b", "c", "a"] := by
  cbv

end SeenKeys
end PenPlotter
