import Mathlib.Algebra.Order.BigOperators.Group.List
import Mathlib.Algebra.Order.Ring.Nat
import Mathlib.Data.List.Induction
import PenPlotter.Proofs.Session.FirstArrivals
import PenPlotter.Proofs.Session.Log

/-! # Reloading the log

A reload gives the log a new list of entries, in which keys may be repeated.  The log then
remembers the different keys of the newest entries in the order of their first arrival
(`queue_replace`), so that a key may be remembered as older than its last entry is: its `age` in
the queue counts the keys behind its first arrival, its age in the log the entries behind its last
copy.  Later merges age both alike, and the older key is forgotten too early.

`KeepsAges` says of a list that no key becomes older in this way.  `drops_recent_iff` says
that this is what the list has to satisfy: then, however the log changes until the next reload, no
copy of one of its newest entries is appended, and for every other list one is at some time.  A list
whose newest keys differ satisfies it (`keepsAges_of_nodup`). -/

namespace PenPlotter

/-- What can happen to a log. -/
inductive LogChange where
  | merge (e : Entry)
  | replace (es : List Entry)
  | clear
deriving Repr, Inhabited

namespace SessionLog

def change (l : SessionLog) : LogChange → SessionLog
  | .merge e => (l.merge e).1
  | .replace es => l.replace es
  | .clear => l.clear

/-- The log after a list of changes. -/
def changes (l : SessionLog) (cs : List LogChange) : SessionLog := cs.foldl change l

/-- The entries that the last reload brought, when those before a change were `es`. -/
def reloaded (es : List Entry) : LogChange → List Entry
  | .replace es' => es'
  | _ => es

/-- The entries that the last reload brought; none if there was no reload. -/
def lastReload (cs : List LogChange) : List Entry := cs.foldl reloaded []

/-- How many keys stand behind the last one that is `k`. -/
def age (ks : List String) (k : String) : ℕ := ks.reverse.idxOf k

/-- Of the newest `c` entries no key becomes older when only the first arrival of every key is
kept. -/
def KeepsAges (c : ℕ) (es : List Entry) : Prop :=
  ∀ k ∈ recentKeys es c, age (recentKeys es c).eraseDups k ≤ age (recentKeys es c) k

instance (c : ℕ) (es : List Entry) : Decidable (KeepsAges c es) :=
  inferInstanceAs (Decidable (∀ k ∈ recentKeys es c, _ ≤ _))

/-- No copy of one of the last `c` entries is appended. -/
def DropsRecent (c : ℕ) (l : SessionLog) : Prop :=
  ∀ e, (l.merge e).2 = true → e.key ∉ recentKeys l.entries c

/-- The log remembers the keys of its newest entries, none of them as older than it is. -/
structure Settled (l : SessionLog) : Prop where
  sound : l.seen.Sound
  mem_queue : ∀ k ∈ recentKeys l.entries l.seen.capacity, k ∈ l.seen.queue
  age_le : ∀ k ∈ recentKeys l.entries l.seen.capacity,
    age l.seen.queue k ≤ age (l.entries.map Entry.key) k

variable {l : SessionLog} {e : Entry} {es : List Entry} {ks : List String} {k x : String} {c : ℕ}

/-! ### The age of a key -/

section age

theorem age_concat_self (ks : List String) (k : String) : age (ks ++ [k]) k = 0 := by
  unfold age
  rw [List.reverse_concat', List.idxOf_cons_self]

theorem age_concat_of_ne (ks : List String) (h : x ≠ k) : age (ks ++ [x]) k = age ks k + 1 := by
  unfold age
  rw [List.reverse_concat', List.idxOf_cons_ne _ h]

theorem age_lt_length (h : k ∈ ks) : age ks k < ks.length := by
  unfold age
  rw [← List.length_reverse, List.idxOf_lt_length_iff, List.mem_reverse]
  exact h

theorem mem_drop_iff (ks : List String) (k : String) (c : ℕ) :
    k ∈ ks.drop (ks.length - c) ↔ k ∈ ks ∧ age ks k < c := by
  rw [← List.mem_reverse, List.reverse_drop]
  constructor
  · intro h
    have hk : k ∈ ks.reverse := List.mem_of_mem_take h
    have hlt := (List.mem_take_iff_idxOf_lt hk).mp h
    refine ⟨List.mem_reverse.mp hk, ?_⟩
    unfold age
    omega
  · rintro ⟨hk, hage⟩
    refine (List.mem_take_iff_idxOf_lt (List.mem_reverse.mpr hk)).mpr ?_
    have hlt := age_lt_length hk
    unfold age at hage hlt
    omega

/-- A key that is left when old ones are dropped has the age that it had. -/
theorem age_drop {n : ℕ} (h : k ∈ ks.drop n) : age (ks.drop n) k = age ks k := by
  unfold age
  conv_rhs => rw [← List.take_append_drop n ks, List.reverse_append]
  rw [List.idxOf_append_of_mem (List.mem_reverse.mpr h)]

theorem mem_recentKeys_iff (es : List Entry) (k : String) (c : ℕ) :
    k ∈ recentKeys es c ↔ k ∈ es.map Entry.key ∧ age (es.map Entry.key) k < c := by
  rw [← mem_drop_iff, List.length_map, ← List.map_drop]
  rfl

theorem age_recentKeys (h : k ∈ recentKeys es c) :
    age (recentKeys es c) k = age (es.map Entry.key) k := by
  unfold recentKeys at h ⊢
  rw [List.map_drop] at h ⊢
  exact age_drop h

theorem eraseDups_eq_self (h : ks.Nodup) : ks.eraseDups = ks := by
  induction ks using List.reverseRecOn with
  | nil => rfl
  | append_singleton ks k ih =>
      obtain ⟨hks, _, hdisjoint⟩ := List.nodup_append.mp h
      have hk : k ∉ ks := fun hmem => hdisjoint k hmem k (List.mem_singleton_self k) rfl
      rw [eraseDups_concat_of_notMem hk, ih hks]

theorem keepsAges_of_nodup (h : (recentKeys es c).Nodup) : KeepsAges c es := by
  intro k _
  rw [eraseDups_eq_self h]

end age

/-! ### What is remembered after a reload -/

section replace

theorem length_eraseDups_le (ks : List String) : ks.eraseDups.length ≤ ks.length := by
  rw [length_eraseDups]
  exact List.toFinset_card_le ks

/-- Keys that fit into an empty set are kept in the order of their first arrival. -/
theorem queue_insertAll {s : SeenKeys} (hs : s.Sound) (hempty : s.queue = [])
    (hfit : ks.length ≤ s.capacity) : (s.insertAll ks).queue = ks.eraseDups := by
  induction ks using List.reverseRecOn with
  | nil => exact hempty
  | append_singleton ks k ih =>
      rw [List.length_append, List.length_singleton] at hfit
      have hqueue := ih (by omega)
      have hsound := sound_insertAll ks hs
      have hstep : s.insertAll (ks ++ [k]) = ((s.insertAll ks).insert k).1 := by
        unfold SeenKeys.insertAll
        rw [List.foldl_append]
        rfl
      rw [hstep]
      by_cases hk : k ∈ ks
      · have hmem : k ∈ (s.insertAll ks).queue := by rwa [hqueue, List.mem_eraseDups]
        rw [SeenKeys.insert_of_mem hsound hmem, hqueue, eraseDups_concat_of_mem hk]
      · have hmem : k ∉ (s.insertAll ks).queue := by rwa [hqueue, List.mem_eraseDups]
        have hlength := length_eraseDups_le ks
        have hroom : ks.eraseDups.length + 1 - s.capacity = 0 := by omega
        rw [SeenKeys.queue_insert_of_notMem hsound hmem, capacity_insertAll, hqueue, hroom,
          List.drop_zero, eraseDups_concat_of_notMem hk]

theorem length_recentKeys_le (es : List Entry) (c : ℕ) : (recentKeys es c).length ≤ c := by
  unfold recentKeys
  rw [List.length_map, List.length_drop]
  omega

/-- A reload remembers the keys of the newest entries in the order of their first arrival. -/
theorem queue_replace (hs : l.seen.Sound) (es : List Entry) :
    (l.replace es).seen.queue = (recentKeys es l.seen.capacity).eraseDups :=
  queue_insertAll hs.clear rfl (length_recentKeys_le es l.seen.capacity)

@[simp] theorem entries_replace (l : SessionLog) (es : List Entry) :
    (l.replace es).entries = es := rfl

theorem sound_replace (hs : l.seen.Sound) (es : List Entry) : (l.replace es).seen.Sound :=
  sound_insertAll _ hs.clear

theorem settled_replace (hs : l.seen.Sound) (h : KeepsAges l.seen.capacity es) :
    (l.replace es).Settled where
  sound := sound_replace hs es
  mem_queue k hk := by
    rw [capacity_replace] at hk
    rw [queue_replace hs, List.mem_eraseDups]
    exact hk
  age_le k hk := by
    rw [capacity_replace] at hk
    rw [queue_replace hs]
    exact (h k hk).trans (age_recentKeys hk).le

end replace

/-! ### Merging after a reload -/

section merge

theorem entries_merge_of_notMem (hs : l.seen.Sound) (h : e.key ∉ l.seen.queue) :
    (l.merge e).1.entries = l.entries ++ [e] := by
  rw [merge_of_notMem_queue hs h]

theorem queue_merge_of_notMem (hs : l.seen.Sound) (h : e.key ∉ l.seen.queue) :
    (l.merge e).1.seen.queue =
      (l.seen.queue ++ [e.key]).drop ((l.seen.queue ++ [e.key]).length - l.seen.capacity) := by
  rw [merge_of_notMem_queue hs h, List.length_append, List.length_singleton]
  exact SeenKeys.queue_insert_of_notMem hs h

theorem sound_merge (hs : l.seen.Sound) (e : Entry) : (l.merge e).1.seen.Sound := by
  by_cases h : e.key ∈ l.seen.queue
  · rw [merge_of_mem_queue hs h]
    exact hs
  · rw [merge_of_notMem_queue hs h]
    exact hs.insert e.key

theorem merge_snd_iff (hs : l.seen.Sound) : (l.merge e).2 = true ↔ e.key ∉ l.seen.queue := by
  by_cases h : e.key ∈ l.seen.queue
  · rw [merge_of_mem_queue hs h]
    simp [h]
  · rw [merge_of_notMem_queue hs h]
    simp [h]

/-- After a merge that appends, the entry itself is remembered as new, and every other key that
was remembered is one older, or forgotten because of its age. -/
theorem mem_queue_merge_iff (hs : l.seen.Sound) (h : e.key ∉ l.seen.queue)
    (hk : k ∈ l.seen.queue) :
    k ∈ (l.merge e).1.seen.queue ↔ age l.seen.queue k + 1 < l.seen.capacity := by
  have hne : e.key ≠ k := fun heq => h (heq ▸ hk)
  rw [queue_merge_of_notMem hs h, mem_drop_iff, age_concat_of_ne _ hne]
  exact and_iff_right (List.mem_append_left _ hk)

theorem age_queue_merge (hs : l.seen.Sound) (h : e.key ∉ l.seen.queue) (hk : k ∈ l.seen.queue)
    (hk' : k ∈ (l.merge e).1.seen.queue) :
    age (l.merge e).1.seen.queue k = age l.seen.queue k + 1 := by
  have hne : e.key ≠ k := fun heq => h (heq ▸ hk)
  rw [queue_merge_of_notMem hs h] at hk' ⊢
  rw [age_drop hk', age_concat_of_ne _ hne]

theorem self_mem_queue_merge (hs : l.seen.Sound) (h : e.key ∉ l.seen.queue) :
    e.key ∈ (l.merge e).1.seen.queue ∧ age (l.merge e).1.seen.queue e.key = 0 := by
  have hmem : e.key ∈ (l.merge e).1.seen.queue := by
    rw [queue_merge_of_notMem hs h, mem_drop_iff, age_concat_self]
    exact ⟨List.mem_append_right _ (List.mem_singleton_self _), hs.capacity_pos⟩
  refine ⟨hmem, ?_⟩
  rw [queue_merge_of_notMem hs h] at hmem ⊢
  rw [age_drop hmem, age_concat_self]

theorem keys_concat (es : List Entry) (e : Entry) :
    (es ++ [e]).map Entry.key = es.map Entry.key ++ [e.key] := by
  rw [List.map_append, List.map_singleton]

/-- A log that is settled stays so: what is remembered and what stands in the log age alike. -/
theorem Settled.merge (hl : l.Settled) (e : Entry) : (l.merge e).1.Settled := by
  by_cases h : e.key ∈ l.seen.queue
  · rw [merge_of_mem_queue hl.sound h]
    exact hl
  · have hstep : ∀ k ∈ recentKeys (l.merge e).1.entries (l.merge e).1.seen.capacity,
        k ∈ (l.merge e).1.seen.queue ∧
          age (l.merge e).1.seen.queue k ≤ age ((l.merge e).1.entries.map Entry.key) k := by
      intro k hk
      rw [capacity_merge, entries_merge_of_notMem hl.sound h, mem_recentKeys_iff, keys_concat] at hk
      rw [entries_merge_of_notMem hl.sound h, keys_concat]
      obtain ⟨hmem, hage⟩ := hk
      by_cases hek : e.key = k
      · subst hek
        obtain ⟨hself, hzero⟩ := self_mem_queue_merge hl.sound h
        exact ⟨hself, hzero.trans_le (Nat.zero_le _)⟩
      · rw [age_concat_of_ne _ hek] at hage ⊢
        have hkeys : k ∈ l.entries.map Entry.key := by
          rcases List.mem_append.mp hmem with hkeys | hsingle
          · exact hkeys
          · exact absurd (List.mem_singleton.mp hsingle).symm hek
        have hrecent : k ∈ recentKeys l.entries l.seen.capacity :=
          (mem_recentKeys_iff _ _ _).mpr ⟨hkeys, by omega⟩
        have hqueue := hl.mem_queue k hrecent
        have hle := hl.age_le k hrecent
        have hkept := (mem_queue_merge_iff hl.sound h hqueue).mpr (by omega)
        exact ⟨hkept, by rw [age_queue_merge hl.sound h hqueue hkept]; omega⟩
    exact ⟨sound_merge hl.sound e, fun k hk => (hstep k hk).1, fun k hk => (hstep k hk).2⟩

theorem Settled.clear (hl : l.Settled) : l.clear.Settled where
  sound := hl.sound.clear
  mem_queue k hk := by simp [SessionLog.clear] at hk
  age_le k hk := by simp [SessionLog.clear] at hk

theorem exists_key_notMem (ks : List String) : ∃ e : Entry, e.key ∉ ks := by
  refine ⟨⟨String.ofList (List.replicate ((ks.map String.length).sum + 1) 'x'), "", ""⟩, ?_⟩
  intro h
  have hle := List.le_sum_of_mem (List.mem_map_of_mem (f := String.length) h)
  simp [Entry.key] at hle
  omega

/-- A key that is remembered as older than its last entry is forgotten too early, when enough
other entries are merged. -/
theorem exists_merges_forgotten (hs : l.seen.Sound) (hqueue : k ∈ l.seen.queue)
    (hkeys : k ∈ l.entries.map Entry.key)
    (hage : age (l.entries.map Entry.key) k < age l.seen.queue k) :
    ∃ es : List Entry, let l' := l.changes (es.map .merge)
      l'.seen.Sound ∧ k ∉ l'.seen.queue ∧ k ∈ recentKeys l'.entries l.seen.capacity := by
  -- By induction on how many merges the key is still remembered for.
  induction hn : l.seen.capacity - age l.seen.queue k generalizing l with
  | zero =>
      have hlt := (age_lt_length hqueue).trans_le hs.length_le
      omega
  | succ n ih =>
      obtain ⟨e, he⟩ := exists_key_notMem l.seen.queue
      have hne : e.key ≠ k := fun heq => he (heq ▸ hqueue)
      have hsound := sound_merge hs e
      have hkeys' : k ∈ (l.merge e).1.entries.map Entry.key := by
        rw [entries_merge_of_notMem hs he, keys_concat]
        exact List.mem_append_left _ hkeys
      have hage' : age ((l.merge e).1.entries.map Entry.key) k =
          age (l.entries.map Entry.key) k + 1 := by
        rw [entries_merge_of_notMem hs he, keys_concat, age_concat_of_ne _ hne]
      by_cases hkept : k ∈ (l.merge e).1.seen.queue
      · have hold := age_queue_merge hs he hqueue hkept
        obtain ⟨es, hes⟩ := ih hsound hkept hkeys' (by omega) (by rw [capacity_merge]; omega)
        rw [capacity_merge] at hes
        exact ⟨e :: es, hes⟩
      · have hforgotten := mt (mem_queue_merge_iff hs he hqueue).mpr hkept
        have hrecent : k ∈ recentKeys (l.merge e).1.entries l.seen.capacity := by
          have hlt := (age_lt_length hqueue).trans_le hs.length_le
          exact (mem_recentKeys_iff _ _ _).mpr ⟨hkeys', by omega⟩
        exact ⟨[e], hsound, hkept, hrecent⟩

end merge

/-! ### All histories of a log -/

section histories

theorem changes_concat (l : SessionLog) (cs : List LogChange) (x : LogChange) :
    l.changes (cs ++ [x]) = (l.changes cs).change x := by
  unfold changes
  rw [List.foldl_append]
  rfl

theorem lastReload_concat (cs : List LogChange) (x : LogChange) :
    lastReload (cs ++ [x]) = reloaded (lastReload cs) x := by
  unfold lastReload
  rw [List.foldl_append]
  rfl

theorem sound_change (hs : l.seen.Sound) : ∀ x, (l.change x).seen.Sound
  | .merge e => sound_merge hs e
  | .replace es => sound_replace hs es
  | .clear => hs.clear

theorem capacity_change (l : SessionLog) : ∀ x, (l.change x).seen.capacity = l.seen.capacity
  | .merge e => capacity_merge l e
  | .replace es => capacity_replace l es
  | .clear => rfl

theorem sound_changes (hs : l.seen.Sound) (cs : List LogChange) : (l.changes cs).seen.Sound := by
  induction cs using List.reverseRecOn with
  | nil => exact hs
  | append_singleton cs x ih =>
      rw [changes_concat]
      exact sound_change ih x

theorem capacity_changes (l : SessionLog) (cs : List LogChange) :
    (l.changes cs).seen.capacity = l.seen.capacity := by
  induction cs using List.reverseRecOn with
  | nil => rfl
  | append_singleton cs x ih => rw [changes_concat, capacity_change, ih]

theorem settled_new (capacity : ℕ) : (new capacity).Settled where
  sound := SeenKeys.sound_new capacity
  mem_queue k hk := by simp [new] at hk
  age_le k hk := by simp [new] at hk

/-- After a reload by which no key became older the log is settled, whatever is merged. -/
theorem settled_changes (capacity : ℕ) (cs : List LogChange)
    (h : KeepsAges (max capacity 1) (lastReload cs)) : ((new capacity).changes cs).Settled := by
  induction cs using List.reverseRecOn with
  | nil => exact settled_new capacity
  | append_singleton cs x ih =>
      rw [changes_concat]
      rw [lastReload_concat] at h
      cases x with
      | merge e => exact (ih h).merge e
      | clear => exact (ih h).clear
      | replace es =>
          refine settled_replace (sound_changes (SeenKeys.sound_new capacity) cs) ?_
          rw [capacity_changes]
          exact h

theorem lastReload_replace_merges (es merged : List Entry) :
    lastReload (.replace es :: merged.map .merge) = es := by
  unfold lastReload
  rw [List.foldl_cons, List.foldl_map]
  exact List.foldl_fixed merged

theorem Settled.dropsRecent (hl : l.Settled) : l.DropsRecent l.seen.capacity := by
  intro e hmerge hrecent
  exact (merge_snd_iff hl.sound).mp hmerge (hl.mem_queue e.key hrecent)

theorem not_dropsRecent (hs : l.seen.Sound) (hk : k ∉ l.seen.queue)
    (hrecent : k ∈ recentKeys l.entries c) : ¬ l.DropsRecent c := by
  intro h
  obtain ⟨hmem, -⟩ := (mem_recentKeys_iff _ _ _).mp hrecent
  obtain ⟨e, -, rfl⟩ := List.mem_map.mp hmem
  exact h e ((merge_snd_iff hs).mpr hk) hrecent

/-- **Copies across reloads.**  For every capacity and every list of entries: in all histories of
merges, reloads and clearings in which this list was the last one to be loaded, no copy of one of
the last entries of the log is appended, if and only if none of the newest keys of the list becomes
older when its repetitions are passed over.  A history without a reload counts as one with the
empty list, of which this is true. -/
theorem drops_recent_iff (capacity : ℕ) (es : List Entry) :
    (∀ cs, lastReload cs = es → ((new capacity).changes cs).DropsRecent (max capacity 1)) ↔
      KeepsAges (max capacity 1) es := by
  constructor
  · intro h k hk
    by_contra hage
    have hnew : (new capacity).seen.Sound := SeenKeys.sound_new capacity
    have hqueue := queue_replace hnew es
    have hmem : k ∈ ((new capacity).replace es).seen.queue := by
      rw [hqueue, List.mem_eraseDups]
      exact hk
    have hkeys := ((mem_recentKeys_iff _ _ _).mp hk).1
    have holder : age (es.map Entry.key) k < age ((new capacity).replace es).seen.queue k := by
      rw [hqueue, ← age_recentKeys hk]
      exact Nat.lt_of_not_le hage
    obtain ⟨merged, hsound, hforgotten, hrecent⟩ :=
      exists_merges_forgotten (sound_replace hnew es) hmem hkeys holder
    rw [capacity_replace] at hrecent
    exact not_dropsRecent hsound hforgotten hrecent
      (h (.replace es :: merged.map .merge) (lastReload_replace_merges es merged))
  · rintro h cs rfl
    have hdrops := (settled_changes capacity cs h).dropsRecent
    rw [capacity_changes] at hdrops
    exact hdrops

/-- A list that ends with a repetition keeps the ages of its keys, so that the copies of its
newest entries are dropped as long as these are among the last ones. -/
theorem drops_recent_repeated_last :
    let home : Entry := ⟨"10:00", "G28", "ok"⟩
    let lift : Entry := ⟨"10:01", "M5", "ok"⟩
    let lower : Entry := ⟨"10:02", "M3", "ok"⟩
    let cs : List LogChange := [.merge lower, .replace [home, lift, lift], .merge lower]
    lastReload cs = [home, lift, lift] ∧ ((new 3).changes cs).DropsRecent 3 :=
  ⟨rfl, (drops_recent_iff 3 _).mpr (by decide) _ rfl⟩

/-- Three keys are remembered.  The newest entry of the list repeats the first one, and is
remembered in its place, so that two merges later a copy of it is appended, although it is still
among the last three entries of the log. -/
theorem repeated_entry_logged_again :
    let home : Entry := ⟨"10:00", "G28", "ok"⟩
    let lift : Entry := ⟨"10:01", "M5", "ok"⟩
    let lower : Entry := ⟨"10:02", "M3", "ok"⟩
    let rest : Entry := ⟨"10:03", "M0", "ok"⟩
    let l := (new 3).changes [.replace [home, lift, home], .merge lower, .merge rest]
    l.entries = [home, lift, home, lower, rest] ∧ home.key ∈ recentKeys l.entries 3 ∧
      (l.merge home).2 = true := by
  intro home lift lower rest l
  have hnew : (new 3).seen.Sound := SeenKeys.sound_new 3
  obtain ⟨loaded, hloaded⟩ : ∃ loaded, (new 3).replace [home, lift, home] = loaded := ⟨_, rfl⟩
  have hl : l = ((loaded.merge lower).1.merge rest).1 := by
    rw [← hloaded]
    rfl
  have hs : loaded.seen.Sound := hloaded ▸ sound_replace hnew _
  have hcapacity : loaded.seen.capacity = 3 := by
    rw [← hloaded, capacity_replace]
    rfl
  have hqueue : loaded.seen.queue = [home.key, lift.key] := by
    rw [← hloaded, queue_replace hnew]
    decide
  have hlower : lower.key ∉ loaded.seen.queue := by
    rw [hqueue]
    decide
  have hqueue' : (loaded.merge lower).1.seen.queue = [home.key, lift.key, lower.key] := by
    rw [queue_merge_of_notMem hs hlower, hqueue, hcapacity]
    decide
  have hrest : rest.key ∉ (loaded.merge lower).1.seen.queue := by
    rw [hqueue']
    decide
  have hqueue'' : l.seen.queue = [lift.key, lower.key, rest.key] := by
    rw [hl, queue_merge_of_notMem (sound_merge hs lower) hrest, hqueue', capacity_merge, hcapacity]
    decide
  have hentries : l.entries = [home, lift, home, lower, rest] := by
    rw [hl, entries_merge_of_notMem (sound_merge hs lower) hrest,
      entries_merge_of_notMem hs hlower, ← hloaded, entries_replace]
    rfl
  refine ⟨hentries, by rw [hentries]; decide, ?_⟩
  rw [merge_snd_iff (hl ▸ sound_merge (sound_merge hs lower) rest), hqueue'']
  decide

end histories

end SessionLog
end PenPlotter
