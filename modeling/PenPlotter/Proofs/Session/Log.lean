import PenPlotter.Proofs.Session.SeenKeys
import PenPlotter.Session.Log

/-! # The log and the keys it remembers

`recentKeys es c` are the keys of the last `c` entries of a list.  `SessionLog.Windowed`
says that a log remembers exactly the keys of its last entries, as many as its capacity: then
`merge` is decided by the end of the log alone (`merge_of_mem_recentKeys`,
`merge_of_notMem_recentKeys`).  Merging and clearing keep a log windowed; replacing its entries
need not, as the new entries may repeat a key.  `SessionLog.Rooted` is the weaker statement that
every remembered key is the key of an entry, which replacing keeps as well.

Since an entry is appended only if its key is not among the last ones, two entries with equal
keys are far apart (`SessionLog.Spaced`). -/

namespace PenPlotter
namespace SessionLog

/-- The keys of the last `c` entries. -/
def recentKeys (es : List Entry) (c : Nat) : List String :=
  (es.drop (es.length - c)).map Entry.key

/-- The remembered keys are those of the last entries, as many as the capacity. -/
structure Windowed (l : SessionLog) : Prop where
  sound : l.seen.Sound
  queue_eq : l.seen.queue = recentKeys l.entries l.seen.capacity

/-- Between two entries with equal keys there are at least `c` others. -/
def Spaced (c : Nat) (es : List Entry) : Prop :=
  ∀ i j (hi : i < es.length) (hj : j < es.length), i < j → es[i].key = es[j].key → c < j - i

/-- Every remembered key is the key of an entry. -/
structure Rooted (l : SessionLog) : Prop where
  sound : l.seen.Sound
  queue_sub : ∀ k ∈ l.seen.queue, k ∈ l.entries.map Entry.key

variable {l : SessionLog} {e : Entry}

/-! ### Merging an entry -/

section merge

theorem merge_of_mem_queue (hs : l.seen.Sound) (h : e.key ∈ l.seen.queue) :
    l.merge e = (l, false) := by
  unfold merge
  rw [SeenKeys.insert_of_mem hs h]

theorem merge_of_notMem_queue (hs : l.seen.Sound) (h : e.key ∉ l.seen.queue) :
    l.merge e = (⟨l.entries ++ [e], (l.seen.insert e.key).1⟩, true) := by
  have h₂ : (l.seen.insert e.key).2 = true := SeenKeys.insert_snd_of_notMem hs h
  unfold merge
  cases hi : l.seen.insert e.key with
  | mk seen fresh =>
      rw [hi] at h₂
      obtain rfl : fresh = true := h₂
      rfl

/-- An entry whose key is among the last ones is dropped. -/
theorem merge_of_mem_recentKeys (hl : l.Windowed) (h : e.key ∈ recentKeys l.entries l.seen.capacity) :
    l.merge e = (l, false) :=
  merge_of_mem_queue hl.sound (hl.queue_eq ▸ h)

theorem merge_of_notMem_recentKeys (hl : l.Windowed)
    (h : e.key ∉ recentKeys l.entries l.seen.capacity) :
    l.merge e = (⟨l.entries ++ [e], (l.seen.insert e.key).1⟩, true) :=
  merge_of_notMem_queue hl.sound (hl.queue_eq ▸ h)

@[simp] theorem capacity_merge (l : SessionLog) (e : Entry) :
    (l.merge e).1.seen.capacity = l.seen.capacity := by
  unfold merge
  have h := SeenKeys.capacity_insert l.seen e.key
  cases hi : l.seen.insert e.key with
  | mk seen fresh =>
      rw [hi] at h
      cases fresh with
      | false => rfl
      | true => exact h

end merge

/-! ### Windowed logs -/

section windowed

@[simp] theorem recentKeys_nil (c : Nat) : recentKeys [] c = [] := by simp [recentKeys]

theorem windowed_new (capacity : Nat) : (new capacity).Windowed where
  sound := SeenKeys.sound_new capacity
  queue_eq := (recentKeys_nil _).symm

theorem Windowed.clear (hl : l.Windowed) : l.clear.Windowed where
  sound := hl.sound.clear
  queue_eq := (recentKeys_nil _).symm

/-- Dropping the oldest key when one is appended keeps the last ones. -/
theorem drop_append_recentKeys (ks : List String) (k : String) {c : Nat} (hc : 1 ≤ c) :
    (ks.drop (ks.length - c) ++ [k]).drop ((ks.drop (ks.length - c)).length + 1 - c) =
      (ks ++ [k]).drop (ks.length + 1 - c) := by
  have e₁ : ks.drop (ks.length - c) ++ [k] = (ks ++ [k]).drop (ks.length - c) :=
    (List.drop_append_of_le_length (Nat.sub_le _ _)).symm
  rw [e₁, List.drop_drop, List.length_drop]
  congr 1
  omega

theorem recentKeys_append (es : List Entry) (e : Entry) {c : Nat} (hc : 1 ≤ c) :
    recentKeys (es ++ [e]) c =
      (recentKeys es c ++ [e.key]).drop ((recentKeys es c).length + 1 - c) := by
  have h := drop_append_recentKeys (es.map Entry.key) e.key hc
  rw [List.length_map] at h
  unfold recentKeys
  rw [List.map_drop, List.map_drop, List.map_append, List.map_singleton, h, List.length_append,
    List.length_singleton]

theorem Windowed.merge (hl : l.Windowed) (e : Entry) : (l.merge e).1.Windowed := by
  by_cases h : e.key ∈ recentKeys l.entries l.seen.capacity
  · rw [merge_of_mem_recentKeys hl h]
    exact hl
  · rw [merge_of_notMem_recentKeys hl h]
    refine ⟨hl.sound.insert _, ?_⟩
    show (l.seen.insert e.key).1.queue =
      recentKeys (l.entries ++ [e]) (l.seen.insert e.key).1.capacity
    rw [SeenKeys.queue_insert_of_notMem hl.sound (hl.queue_eq ▸ h), SeenKeys.capacity_insert,
      recentKeys_append l.entries e hl.sound.capacity_pos, ← hl.queue_eq]

theorem recentKeys_of_length_le {es : List Entry} {c : Nat} (h : es.length ≤ c) :
    recentKeys es c = es.map Entry.key := by
  unfold recentKeys
  rw [Nat.sub_eq_zero_of_le h, List.drop_zero]

end windowed

/-! ### The distance of equal keys -/

section spaced

theorem spaced_nil (c : Nat) : Spaced c [] := by
  intro i j hi
  simp at hi

theorem Spaced.append {c : Nat} {es : List Entry} (hs : Spaced c es)
    (h : e.key ∉ recentKeys es c) : Spaced c (es ++ [e]) := by
  intro i j hi hj hij hk
  rw [List.length_append, List.length_singleton] at hi hj
  have hi' : i < es.length := by omega
  rw [List.getElem_append_left hi'] at hk
  rcases Nat.lt_or_ge j es.length with hlt | hge
  · rw [List.getElem_append_left hlt] at hk
    exact hs i j hi' hlt hij hk
  · obtain rfl : j = es.length := by omega
    rw [List.getElem_concat_length rfl] at hk
    -- An equal key at distance at most `c` would be among the last ones.
    by_contra hle
    apply h
    rw [← hk]
    unfold recentKeys
    apply List.mem_map_of_mem
    rw [List.mem_drop_iff_getElem]
    refine ⟨i - (es.length - c), by omega, ?_⟩
    congr 1
    omega

end spaced

/-! ### Rooted logs -/

section rooted

theorem rooted_new (capacity : Nat) : (new capacity).Rooted where
  sound := SeenKeys.sound_new capacity
  queue_sub k hk := by simp [new] at hk

theorem Rooted.clear (hl : l.Rooted) : l.clear.Rooted where
  sound := hl.sound.clear
  queue_sub k hk := by simp [SessionLog.clear] at hk

theorem mem_queue_insert {s : SeenKeys} (hs : s.Sound) {k x : String}
    (hx : x ∈ (s.insert k).1.queue) : x ∈ s.queue ∨ x = k := by
  by_cases h : k ∈ s.queue
  · rw [SeenKeys.insert_of_mem hs h] at hx
    exact Or.inl hx
  · rw [SeenKeys.queue_insert_of_notMem hs h] at hx
    simpa using List.mem_of_mem_drop hx

theorem Rooted.merge (hl : l.Rooted) (e : Entry) : (l.merge e).1.Rooted := by
  by_cases h : e.key ∈ l.seen.queue
  · rw [merge_of_mem_queue hl.sound h]
    exact hl
  · rw [merge_of_notMem_queue hl.sound h]
    refine ⟨hl.sound.insert _, ?_⟩
    intro k hk
    rw [List.map_append, List.mem_append, List.map_singleton, List.mem_singleton]
    exact (mem_queue_insert hl.sound hk).imp (hl.queue_sub k) id

theorem sound_insertAll : ∀ (ks : List String) {s : SeenKeys}, s.Sound → (s.insertAll ks).Sound
  | [], _, hs => hs
  | k :: ks, _, hs => sound_insertAll ks (hs.insert k)

theorem capacity_insertAll : ∀ (ks : List String) (s : SeenKeys),
    (s.insertAll ks).capacity = s.capacity
  | [], _ => rfl
  | k :: ks, s => by
      show ((s.insert k).1.insertAll ks).capacity = s.capacity
      rw [capacity_insertAll ks, SeenKeys.capacity_insert]

@[simp] theorem capacity_replace (l : SessionLog) (es : List Entry) :
    (l.replace es).seen.capacity = l.seen.capacity := by
  unfold replace
  rw [capacity_insertAll, SeenKeys.capacity_clear]

theorem mem_queue_insertAll : ∀ (ks : List String) {s : SeenKeys} {x : String}, s.Sound →
    x ∈ (s.insertAll ks).queue → x ∈ s.queue ∨ x ∈ ks
  | [], _, _, _, hx => Or.inl hx
  | k :: ks, s, x, hs, hx => by
      rcases mem_queue_insertAll ks (hs.insert k) hx with h | h
      · rcases mem_queue_insert hs h with h | rfl
        · exact Or.inl h
        · exact Or.inr List.mem_cons_self
      · exact Or.inr (List.mem_cons_of_mem _ h)

theorem Rooted.replace (hl : l.Rooted) (es : List Entry) : (l.replace es).Rooted where
  sound := sound_insertAll _ hl.sound.clear
  queue_sub k hk := by
    rcases mem_queue_insertAll _ hl.sound.clear hk with h | h
    · simp at h
    · obtain ⟨e, he, rfl⟩ := List.mem_map.mp h
      exact List.mem_map_of_mem (List.mem_of_mem_drop he)

/-- An empty log remembers no key, whatever happened to it before. -/
theorem Rooted.queue_eq_nil (hl : l.Rooted) (h : l.entries = []) : l.seen.queue = [] := by
  rw [List.eq_nil_iff_forall_not_mem]
  intro k hk
  have := hl.queue_sub k hk
  rw [h] at this
  simp at this

theorem Rooted.windowed (hl : l.Rooted) (h : l.entries = []) : l.Windowed where
  sound := hl.sound
  queue_eq := by
    rw [hl.queue_eq_nil h, h, recentKeys_nil]

end rooted

end SessionLog
end PenPlotter
