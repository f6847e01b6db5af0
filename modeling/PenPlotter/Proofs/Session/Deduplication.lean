import PenPlotter.Proofs.Session.FirstArrivals
import PenPlotter.Proofs.Session.Operations

/-! # Deduplication of the session log

An entry may reach a session twice, as a local echo and through the stream.  The log keeps the
first copy: `SessionLog.Deduplicates` ties a log to the entries that were delivered since it was
cleared, and every operation but a reload keeps it.

`first_writer_wins` reads this off for all runs without a reload: a delivery is appended exactly
if its key is not among the keys of the last entries, equal keys in the log are far apart, and
while no more keys have arrived than are remembered the log is the list of first arrivals.
`entries_after_deliveries` says what an empty log becomes when only few different entries arrive:
it holds each of them once exactly if their keys tell them apart. -/

namespace PenPlotter

/-- The log remembers its last keys, keeps equal keys apart, and is the list of first arrivals
as long as no more than `kept` keys have arrived. -/
structure SessionLog.Deduplicates (kept : Nat) (l : SessionLog) (es : List Entry) : Prop where
  windowed : l.Windowed
  capacity_eq : l.seen.capacity = kept
  spaced : SessionLog.Spaced kept l.entries
  firsts : (es.map Entry.key).toFinset.card ≤ kept → l.entries = Entry.firsts es

namespace SessionLog

variable {kept : Nat} {l : SessionLog} {es : List Entry}

/-! ### The step -/

section step

theorem card_keys_le_append (es : List Entry) (e : Entry) :
    (es.map Entry.key).toFinset.card ≤ ((es ++ [e]).map Entry.key).toFinset.card := by
  apply Finset.card_le_card
  intro k hk
  rw [List.mem_toFinset] at hk ⊢
  rw [List.map_append]
  exact List.mem_append_left _ hk

theorem deduplicates_nil (hl : l.Windowed) (hc : l.seen.capacity = kept)
    (he : l.entries = []) : Deduplicates kept l [] where
  windowed := hl
  capacity_eq := hc
  spaced := by rw [he]; exact spaced_nil kept
  firsts _ := he

theorem Deduplicates.merge (h : Deduplicates kept l es) (e : Entry) :
    Deduplicates kept (l.merge e).1 (es ++ [e]) := by
  have hcap := h.capacity_eq
  have hfirsts : ((es ++ [e]).map Entry.key).toFinset.card ≤ kept →
      l.entries = Entry.firsts es ∧ recentKeys l.entries kept = l.entries.map Entry.key := by
    intro hcard
    have hes := h.firsts (le_trans (card_keys_le_append es e) hcard)
    refine ⟨hes, recentKeys_of_length_le ?_⟩
    rw [hes, Entry.length_firsts]
    exact le_trans (card_keys_le_append es e) hcard
  by_cases hk : e.key ∈ recentKeys l.entries kept
  · have hm : l.merge e = (l, false) := merge_of_mem_recentKeys h.windowed (hcap.symm ▸ hk)
    rw [hm]
    refine ⟨h.windowed, hcap, h.spaced, fun hcard => ?_⟩
    obtain ⟨hes, hrecent⟩ := hfirsts hcard
    rw [hrecent, hes, Entry.mem_map_key_firsts] at hk
    rw [hes, Entry.firsts_concat_of_mem hk]
  · have hm := merge_of_notMem_recentKeys h.windowed (e := e) (hcap.symm ▸ hk)
    refine ⟨h.windowed.merge e, by rw [capacity_merge, hcap], ?_, fun hcard => ?_⟩
    · rw [hm]
      exact h.spaced.append hk
    · obtain ⟨hes, hrecent⟩ := hfirsts hcard
      rw [hrecent, hes, Entry.mem_map_key_firsts] at hk
      rw [hm, Entry.firsts_concat_of_notMem hk]
      show l.entries ++ [e] = _
      rw [hes]

theorem Deduplicates.clear (h : Deduplicates kept l es) : Deduplicates kept l.clear [] :=
  deduplicates_nil h.windowed.clear h.capacity_eq rfl

end step

end SessionLog

namespace Client

open SessionLog (recentKeys Spaced Deduplicates)

/-! ### Runs without a reload -/

section runs

variable {kept : Nat} {c : Client} {es : List Entry}

theorem deduplicates_run {ops : List Operation} (hops : ∀ entries, Operation.reload entries ∉ ops)
    (h : Deduplicates kept c.log es) :
    Deduplicates kept (c.run ops).log (c.arrivals es ops) := by
  refine run_induction (P := fun c es => Deduplicates kept c.log es) ?_ c es h
  intro c es o ho hc
  rcases c.log_perform_cases es o with ⟨hl, ha⟩ | ⟨e, hl, ha⟩ | ⟨_, hl, ha⟩ | ⟨entries, rfl, _, _⟩
  · rw [hl, ha]; exact hc
  · rw [hl, ha]; exact hc.merge e
  · rw [hl, ha]; exact hc.clear
  · exact absurd ho (hops entries)

theorem deduplicates_new (delay capacity : Nat) :
    Deduplicates (max capacity 1) (new delay capacity).log [] :=
  SessionLog.deduplicates_nil (SessionLog.windowed_new capacity) rfl rfl

/-- A delivered entry is appended and announced, with the way it came. -/
def Appends (c : Client) (m : Message) (e : Entry) (origin : Origin) : Prop :=
  (c.handle m).client.entries = c.entries ++ [e] ∧
  (c.handle m).event = some (.entryAppended e origin)

theorem handle_of_mem_recentKeys (h : Deduplicates kept c.log es) {m : Message} {e : Entry}
    {origin : Origin} (hd : c.delivery? m = some (e, origin))
    (hk : e.key ∈ recentKeys c.entries kept) : c.handle m = c.idle := by
  have hm := SessionLog.merge_of_mem_recentKeys h.windowed (e := e) (h.capacity_eq.symm ▸ hk)
  rw [handle_of_delivery hd]
  unfold merge
  rw [hm]

theorem appends_of_notMem_recentKeys (h : Deduplicates kept c.log es) {m : Message} {e : Entry}
    {origin : Origin} (hd : c.delivery? m = some (e, origin))
    (hk : e.key ∉ recentKeys c.entries kept) : c.Appends m e origin := by
  have hm := SessionLog.merge_of_notMem_recentKeys h.windowed (e := e) (h.capacity_eq.symm ▸ hk)
  unfold Appends
  rw [handle_of_delivery hd]
  unfold merge
  rw [hm]
  exact ⟨rfl, rfl⟩

theorem not_appends_idle {m : Message} {e : Entry} {origin : Origin}
    (h : c.handle m = c.idle) : ¬ c.Appends m e origin := by
  rintro ⟨_, hev⟩
  rw [h] at hev
  exact absurd hev (by simp [idle])

/-- **The first writer wins**, in every run without a reload.  A delivery is appended and
announced exactly if its key is not among the keys of the last entries, as many as are kept, and
otherwise changes nothing.  So two entries with equal keys have at least that many others between
them, and as long as no more different keys have arrived since the log was cleared, the log holds
each of them once, in the order of first arrival. -/
theorem first_writer_wins (delay capacity : Nat) (ops : List Operation)
    (hops : ∀ entries, Operation.reload entries ∉ ops) :
    let kept := max capacity 1
    let c := (new delay capacity).run ops
    let arrivals := (new delay capacity).arrivals [] ops
    (∀ m e origin, c.delivery? m = some (e, origin) →
      (c.Appends m e origin ↔ e.key ∉ recentKeys c.entries kept) ∧
      (¬ c.Appends m e origin → c.handle m = ⟨c, none, []⟩)) ∧
    Spaced kept c.entries ∧
    ((arrivals.map Entry.key).toFinset.card ≤ kept →
      c.entries = Entry.firsts arrivals ∧
      c.entries.map Entry.key = (arrivals.map Entry.key).eraseDups) := by
  intro kept c arrivals
  have h : Deduplicates kept c.log arrivals :=
    deduplicates_run hops (deduplicates_new delay capacity)
  refine ⟨?_, h.spaced, ?_⟩
  · intro m e origin hd
    by_cases hk : e.key ∈ recentKeys c.entries kept
    · have hidle := handle_of_mem_recentKeys h hd hk
      exact ⟨⟨fun ha => absurd ha (not_appends_idle hidle), fun hn => absurd hk hn⟩,
        fun _ => hidle⟩
    · have happ := appends_of_notMem_recentKeys h hd hk
      exact ⟨⟨fun _ => hk, fun _ => happ⟩, fun hn => absurd happ hn⟩
  · intro hcard
    have he : c.entries = Entry.firsts arrivals := h.firsts hcard
    exact ⟨he, by rw [he, Entry.map_key_firsts]⟩

/-- A session that keeps one key: after the echo of `G28` the stream's copy of it is dropped,
while the echo of another command is appended. -/
theorem first_writer_wins_echo :
    let home : Entry := ⟨"10:00", "G28", "ok"⟩
    let lift : Entry := ⟨"10:01", "M5", "ok"⟩
    let c := (new 5000 1).run [.start, .handle (.localEcho home)]
    c.handle (.localEcho home) = ⟨c, none, []⟩ ∧ c.Appends (.localEcho lift) lift .localEcho := by
  intro home lift c
  obtain ⟨hstep, _, hfirsts⟩ := first_writer_wins 5000 1 [.start, .handle (.localEcho home)]
    (by simp)
  have hrecent : recentKeys c.entries 1 = ["10:00-G28-ok"] := by
    rw [(hfirsts (by decide)).1]
    decide
  constructor
  · obtain ⟨hiff, hidle⟩ := hstep (.localEcho home) home .localEcho rfl
    refine hidle fun happ => hiff.mp happ ?_
    show _ ∈ recentKeys c.entries 1
    rw [hrecent]
    decide
  · refine (hstep (.localEcho lift) lift .localEcho rfl).1.mpr ?_
    show _ ∉ recentKeys c.entries 1
    rw [hrecent]
    decide

end runs

/-! ### Few entries on an empty log -/

section few

theorem card_keys_le (es : List Entry) :
    (es.map Entry.key).toFinset.card ≤ es.toFinset.card := by
  have e : (es.map Entry.key).toFinset = es.toFinset.image Entry.key := by
    ext k
    simp
  rw [e]
  exact Finset.card_image_le

/-- **Deliveries to an empty log**, however it became empty, of no more different entries than
keys are kept: the log becomes the list of the first entries of every key.  It holds every
different entry once, in the order of first arrival, exactly if keys tell the delivered entries
apart; an entry whose key another one had before is lost. -/
theorem entries_after_deliveries (delay capacity : Nat) (before : List Operation)
    (ms : List Message) (es : List Entry)
    (hempty : ((new delay capacity).run before).entries = [])
    (hdeliver : List.Forall₂ ((new delay capacity).run before).Delivers ms es)
    (hfew : es.toFinset.card ≤ max capacity 1) :
    let log := (((new delay capacity).run before).run (ms.map .handle)).entries
    log = Entry.firsts es ∧
    (log = es.eraseDups ↔ ∀ e ∈ es, ∀ e' ∈ es, e.key = e'.key → e = e') := by
  intro log
  have hroot : ((new delay capacity).run before).log.Rooted :=
    rooted_run before (SessionLog.rooted_new capacity)
  have hseen : ((new delay capacity).run before).log.seen.capacity = max capacity 1 :=
    capacity_run before (new delay capacity)
  have hstart := SessionLog.deduplicates_nil (hroot.windowed hempty) hseen hempty
  have hrun : Deduplicates (max capacity 1) _ _ :=
    deduplicates_run (by simp : ∀ entries, Operation.reload entries ∉ ms.map .handle) hstart
  rw [arrivals_of_delivers hdeliver, List.nil_append] at hrun
  have hlog : log = Entry.firsts es := by
    refine hrun.firsts ?_
    exact le_trans (card_keys_le es) hfew
  exact ⟨hlog, by rw [hlog]; exact Entry.firsts_eq_eraseDups_iff es⟩

/-- The text of a stream message whose fields meet in the key: a move to `X-5` that the device
answers with `ok`. -/
def moveText : String :=
  "\x7b\"type\":\"gcode_response\",\"timestamp\":\"10:00\",\"command\":\"G1 X-5\",\"response\":\"ok\"\x7d"

/-- The stream brings the move to `X-5`, answered with `ok`, and the echo a move to `X`, answered
with `5-ok`.  Both have the key `10:00-G1 X-5-ok`, so the second one is lost although two keys
are kept. -/
theorem entries_after_deliveries_collision :
    let start := (new 5000 2).run [.start]
    let moved : Entry := ⟨"10:00", "G1 X-5", "ok"⟩
    let other : Entry := ⟨"10:00", "G1 X", "5-ok"⟩
    let log := (start.run [.handle (.payload 1 moveText), .handle (.localEcho other)]).entries
    log = [moved] ∧ log ≠ [moved, other].eraseDups := by
  intro start moved other log
  have hread : start.delivery? (.payload 1 moveText) = some (moved, .stream) := by
    decide +kernel
  obtain ⟨hlog, hiff⟩ := entries_after_deliveries 5000 2 [.start]
    [.payload 1 moveText, .localEcho other] [moved, other] rfl
    (.cons ⟨_, hread⟩ (.cons ⟨_, rfl⟩ .nil)) (by decide)
  constructor
  · exact hlog.trans (by decide)
  · intro h
    have := hiff.mp h moved (by decide) other (by decide) (by decide)
    exact absurd this (by decide)

end few

end Client
end PenPlotter
