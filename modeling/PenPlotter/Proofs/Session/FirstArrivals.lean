import Mathlib.Data.Finset.Card
import Mathlib.Data.Finset.Dedup
import PenPlotter.Session.Entry

/-! # First arrivals

`Entry.firsts es` keeps of a list of entries the first one of every key, in order.  It grows at
the end (`firsts_concat`), which is how a log grows; its keys are the different keys of the list
(`map_key_firsts`), as many as the list has (`length_firsts`).  It keeps the first one of every
entry exactly if no two entries of the list share a key (`firsts_eq_eraseDups_iff`). -/

namespace PenPlotter

section eraseDups

variable {α : Type} [BEq α] [LawfulBEq α]

theorem eraseDups_concat_of_mem {xs : List α} {x : α} (h : x ∈ xs) :
    (xs ++ [x]).eraseDups = xs.eraseDups := by
  have e : [x].removeAll xs = [] := by simp [List.removeAll, h]
  rw [List.eraseDups_append, e, List.eraseDups_nil, List.append_nil]

theorem eraseDups_concat_of_notMem {xs : List α} {x : α} (h : x ∉ xs) :
    (xs ++ [x]).eraseDups = xs.eraseDups ++ [x] := by
  have e : [x].removeAll xs = [x] := by simp [List.removeAll, h]
  rw [List.eraseDups_append, e, List.eraseDups_cons, List.filter_nil, List.eraseDups_nil]

theorem nodup_eraseDups (xs : List α) : xs.eraseDups.Nodup := by
  induction xs using List.reverseRecOn with
  | nil => exact List.nodup_nil
  | append_singleton xs x ih =>
      by_cases h : x ∈ xs
      · rw [eraseDups_concat_of_mem h]
        exact ih
      · rw [eraseDups_concat_of_notMem h]
        refine List.nodup_append.mpr ⟨ih, List.nodup_singleton x, ?_⟩
        intro a ha b hb e
        rw [List.mem_singleton.mp hb] at e
        exact h (e ▸ List.mem_eraseDups.mp ha)

theorem length_eraseDups [DecidableEq α] (xs : List α) :
    xs.eraseDups.length = xs.toFinset.card := by
  have e : xs.toFinset = xs.eraseDups.toFinset := by
    ext x
    rw [List.mem_toFinset, List.mem_toFinset, List.mem_eraseDups]
  rw [e, List.toFinset_card_of_nodup (nodup_eraseDups xs)]

end eraseDups

namespace Entry

/-- The first entry of every key, in order. -/
def firsts (es : List Entry) : List Entry := es.eraseDupsBy fun a b => a.key == b.key

theorem firsts_cons (e : Entry) (es : List Entry) :
    firsts (e :: es) = e :: firsts (es.filter fun x => (x.key == e.key) = false) :=
  List.eraseDupsBy_cons

theorem firsts_concat (es : List Entry) (e : Entry) :
    firsts (es ++ [e]) = if e.key ∈ es.map Entry.key then firsts es else firsts es ++ [e] := by
  induction h : es.length using Nat.strong_induction_on generalizing es with
  | _ n ih =>
      subst h
      cases es with
      | nil => rfl
      | cons a es =>
          rw [List.cons_append, firsts_cons, firsts_cons, List.filter_append, List.map_cons]
          by_cases hk : e.key = a.key
          · have e₁ : [e].filter (fun x => (x.key == a.key) = false) = [] := by simp [hk]
            rw [e₁, List.append_nil, if_pos (by rw [hk]; exact List.mem_cons_self)]
          · have e₁ : [e].filter (fun x => (x.key == a.key) = false) = [e] := by simp [hk]
            have hlen : (es.filter fun x => (x.key == a.key) = false).length < (a :: es).length :=
              Nat.lt_succ_of_le (List.length_filter_le _ _)
            have hmem : e.key ∈ (es.filter fun x => (x.key == a.key) = false).map Entry.key ↔
                e.key ∈ a.key :: es.map Entry.key := by
              simp only [List.mem_map, List.mem_filter, List.mem_cons, hk, false_or]
              constructor
              · rintro ⟨x, ⟨hx, _⟩, he⟩
                exact ⟨x, hx, he⟩
              · rintro ⟨x, hx, he⟩
                refine ⟨x, ⟨hx, ?_⟩, he⟩
                rw [he]
                simpa using hk
            rw [e₁, ih _ hlen _ rfl]
            simp only [hmem]
            split_ifs <;> rfl

theorem firsts_concat_of_mem {es : List Entry} {e : Entry} (h : e.key ∈ es.map Entry.key) :
    firsts (es ++ [e]) = firsts es := by
  rw [firsts_concat, if_pos h]

theorem firsts_concat_of_notMem {es : List Entry} {e : Entry} (h : e.key ∉ es.map Entry.key) :
    firsts (es ++ [e]) = firsts es ++ [e] := by
  rw [firsts_concat, if_neg h]

/-- Every key of the list is there once, in the order of first arrival. -/
theorem map_key_firsts (es : List Entry) :
    (firsts es).map Entry.key = (es.map Entry.key).eraseDups := by
  induction es using List.reverseRecOn with
  | nil => rfl
  | append_singleton es e ih =>
      rw [List.map_append, List.map_singleton]
      by_cases h : e.key ∈ es.map Entry.key
      · rw [firsts_concat_of_mem h, eraseDups_concat_of_mem h, ih]
      · rw [firsts_concat_of_notMem h, eraseDups_concat_of_notMem h, List.map_append, ih,
          List.map_singleton]

theorem mem_map_key_firsts {es : List Entry} {k : String} :
    k ∈ (firsts es).map Entry.key ↔ k ∈ es.map Entry.key := by
  rw [map_key_firsts, List.mem_eraseDups]

theorem length_firsts (es : List Entry) :
    (firsts es).length = (es.map Entry.key).toFinset.card := by
  rw [← length_eraseDups, ← map_key_firsts, List.length_map]

/-- One entry of every key is one of every entry exactly if keys tell the entries apart. -/
theorem firsts_eq_eraseDups_iff (es : List Entry) :
    firsts es = es.eraseDups ↔ ∀ e ∈ es, ∀ e' ∈ es, e.key = e'.key → e = e' := by
  constructor
  · intro h e he e' he' hk
    have hnd : ((firsts es).map Entry.key).Nodup := by
      rw [map_key_firsts]
      exact nodup_eraseDups _
    rw [h] at hnd
    exact List.inj_on_of_nodup_map hnd (List.mem_eraseDups.mpr he) (List.mem_eraseDups.mpr he') hk
  · intro h
    induction es using List.reverseRecOn with
    | nil => rfl
    | append_singleton es e ih =>
        have hes : firsts es = es.eraseDups := by
          refine ih ?_
          intro x hx y hy
          exact h x (List.mem_append_left _ hx) y (List.mem_append_left _ hy)
        by_cases hm : e ∈ es
        · rw [firsts_concat_of_mem (List.mem_map_of_mem hm), eraseDups_concat_of_mem hm, hes]
        · have hk : e.key ∉ es.map Entry.key := by
            intro hk
            obtain ⟨x, hx, he⟩ := List.mem_map.mp hk
            have hxe := h x (List.mem_append_left _ hx) e (by simp) he
            exact hm (hxe ▸ hx)
          rw [firsts_concat_of_notMem hk, eraseDups_concat_of_notMem hm, hes]

end Entry
end PenPlotter
