import Mathlib.Data.List.DropRight

/-! # The longest beginning

A list is cut behind the longest beginning of which something holds.  Where it is cut is known as
soon as the next element is (`takeWhile_append_stop`, `dropWhile_append_stop`). -/

namespace PenPlotter.Text

variable {α : Type} {p : α → Bool} {xs ys : List α}

theorem takeWhile_of_stop (hy : ∀ y ∈ ys.head?, p y = false) : ys.takeWhile p = [] := by
  cases ys with
  | nil => rfl
  | cons y ys => rw [List.takeWhile_cons_of_neg (by simp [hy y rfl])]

theorem dropWhile_of_stop (hy : ∀ y ∈ ys.head?, p y = false) : ys.dropWhile p = ys := by
  cases ys with
  | nil => rfl
  | cons y ys => rw [List.dropWhile_cons_of_neg (by simp [hy y rfl])]

theorem takeWhile_append_stop (hx : ∀ x ∈ xs, p x = true) (hy : ∀ y ∈ ys.head?, p y = false) :
    (xs ++ ys).takeWhile p = xs := by
  rw [List.takeWhile_append_of_pos hx, takeWhile_of_stop hy, List.append_nil]

theorem dropWhile_append_stop (hx : ∀ x ∈ xs, p x = true) (hy : ∀ y ∈ ys.head?, p y = false) :
    (xs ++ ys).dropWhile p = ys := by
  rw [List.dropWhile_append_of_pos hx, dropWhile_of_stop hy]

theorem takeWhile_append_of_stop (hy : ∀ y ∈ ys.head?, p y = false) :
    (xs ++ ys).takeWhile p = xs.takeWhile p := by
  rw [List.takeWhile_append]
  split
  case isTrue h =>
    rw [takeWhile_of_stop hy, List.append_nil, (List.takeWhile_prefix p).eq_of_length h]
  case isFalse => rfl

theorem dropWhile_append_of_stop (hy : ∀ y ∈ ys.head?, p y = false) :
    (xs ++ ys).dropWhile p = xs.dropWhile p ++ ys := by
  rw [List.dropWhile_append]
  split
  case isTrue h => rw [List.isEmpty_iff.1 h, dropWhile_of_stop hy, List.nil_append]
  case isFalse => rfl

theorem head?_dropWhile_stops (p : α → Bool) (xs : List α) :
    ∀ y ∈ (xs.dropWhile p).head?, p y = false := by
  intro y hy
  have h := List.head?_dropWhile_not p xs
  rw [Option.mem_def.1 hy] at h
  simpa using h

end PenPlotter.Text
