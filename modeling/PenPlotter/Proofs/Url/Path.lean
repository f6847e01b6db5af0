import PenPlotter.Proofs.Url.Agreement

/-! # Paths that are added to

An address that ends in a path can be continued. -/

namespace PenPlotter

namespace Text

variable {mark : Char} {xs ys : List Char}

theorem splitAt_ne_nil (mark : Char) (xs : List Char) : splitAt mark xs ≠ [] := by
  cases xs with
  | nil => simp [splitAt]
  | cons c xs =>
    rw [splitAt]
    split
    · simp
    · split <;> simp

theorem splitAt_append_mark (xs ys : List Char) :
    splitAt mark (xs ++ mark :: ys) = splitAt mark xs ++ splitAt mark ys := by
  induction xs with
  | nil => simp [splitAt]
  | cons c xs ih =>
    rw [List.cons_append, splitAt, splitAt, ih]
    split
    · rfl
    · cases hxs : splitAt mark xs with
      | nil => exact absurd hxs (splitAt_ne_nil mark xs)
      | cons part parts => rfl

theorem splitAt_of_notMem (h : mark ∉ xs) : splitAt mark xs = [xs] := by
  induction xs with
  | nil => rfl
  | cons c xs ih =>
    have hc : c ≠ mark := fun heq => h (heq ▸ List.mem_cons_self)
    rw [splitAt, if_neg hc, ih fun hmem => h (List.mem_cons_of_mem c hmem)]

/-- A part of a text has no mark and nothing else than the text has. -/
theorem sublist_of_mem_splitAt {part : List Char} (h : part ∈ splitAt mark xs) :
    part.Sublist xs ∧ mark ∉ part := by
  induction xs generalizing part with
  | nil =>
    obtain rfl := List.mem_singleton.1 h
    exact ⟨.slnil, List.not_mem_nil⟩
  | cons c xs ih =>
    rw [splitAt] at h
    split at h
    · rcases List.mem_cons.1 h with rfl | h
      · exact ⟨List.nil_sublist _, List.not_mem_nil⟩
      · exact ⟨(ih h).1.cons c, (ih h).2⟩
    · rename_i hc
      split at h
      · rename_i hnil
        exact absurd hnil (splitAt_ne_nil mark xs)
      · rename_i first parts hparts
        rcases List.mem_cons.1 h with rfl | h
        · obtain ⟨hsub, hmark⟩ := ih (hparts ▸ List.mem_cons_self)
          refine ⟨hsub.cons_cons c, fun hmem => ?_⟩
          rcases List.mem_cons.1 hmem with rfl | hmem
          · exact hc rfl
          · exact hmark hmem
        · obtain ⟨hsub, hmark⟩ := ih (hparts ▸ List.mem_cons_of_mem first h)
          exact ⟨hsub.cons c, hmark⟩

end Text

namespace Url

open Text

/-! ### Segments -/

/-- A segment that does not lead elsewhere. -/
def IsProper (segment : String) : Prop := isAbove segment = false ∧ isHere segment = false

/-- The segments entered behind one more, listed from the innermost. -/
def enter (entered : List String) (segment : String) : List String :=
  if isAbove segment then goUp entered
  else if isHere segment then entered
  else segment :: entered

theorem enter_of_isProper {segment : String} (h : IsProper segment) (entered : List String) :
    enter entered segment = segment :: entered := by
  rw [enter, h.1, h.2]
  rfl

theorem resolve_append (entered segments : List String) {rest : List String} (h : rest ≠ []) :
    resolve entered (segments ++ rest) = resolve (segments.foldl enter entered) rest := by
  induction segments generalizing entered with
  | nil => rfl
  | cons segment segments ih =>
    rw [List.cons_append, resolve, List.foldl_cons, enter]
    · split
      · exact ih _
      · split <;> exact ih _
    · intro heq
      exact h (List.append_eq_nil_iff.1 heq).2

theorem goUp_cases (entered : List String) :
    goUp entered = entered ∨ goUp entered = entered.tail := by
  cases entered with
  | nil => exact .inl rfl
  | cons segment rest =>
    rw [goUp]
    split
    · exact .inl rfl
    · exact .inr rfl

/-- What is resolved: the segments entered, at most one fewer, and one more. -/
theorem resolve_singleton (entered : List String) (last : String) :
    ∃ segment, resolve entered [last] = entered.reverse ++ [segment] ∨
      resolve entered [last] = (goUp entered).reverse ++ [segment] := by
  rw [resolve]
  split
  · exact ⟨"", .inr rfl⟩
  · split
    · exact ⟨"", .inl rfl⟩
    · exact ⟨last, .inl rfl⟩

/-- `entered` are proper segments of a path over some of those at the bottom. -/
def Over (bottom segments entered : List String) : Prop :=
  ∃ pushed n, entered = pushed ++ bottom.drop n ∧
    ∀ segment ∈ pushed, segment ∈ segments ∧ IsProper segment

variable {bottom segments entered : List String}

theorem Over.goUp (h : Over bottom segments entered) : Over bottom segments (goUp entered) := by
  obtain ⟨pushed, n, rfl, hpushed⟩ := h
  rcases goUp_cases (pushed ++ bottom.drop n) with heq | heq
  · exact ⟨pushed, n, heq, hpushed⟩
  cases pushed with
  | nil => exact ⟨[], n + 1, by rw [heq, List.nil_append, List.tail_drop, List.nil_append], by simp⟩
  | cons segment pushed =>
    exact ⟨pushed, n, heq, fun s hs => hpushed s (List.mem_cons_of_mem segment hs)⟩

theorem Over.enter (h : Over bottom segments entered) {segment : String}
    (hmem : segment ∈ segments) : Over bottom segments (enter entered segment) := by
  rw [Url.enter]
  split
  · exact h.goUp
  rename_i habove
  split
  · exact h
  rename_i hhere
  obtain ⟨pushed, n, rfl, hpushed⟩ := h
  refine ⟨segment :: pushed, n, rfl, ?_⟩
  rw [List.forall_mem_cons]
  exact ⟨⟨hmem, Bool.eq_false_iff.2 habove, Bool.eq_false_iff.2 hhere⟩, hpushed⟩

/-- **What is entered** lies over the bottom, however often it leads up. -/
theorem over_foldl_enter (bottom segments : List String) :
    Over bottom segments (segments.foldl Url.enter bottom) := by
  have hall : ∀ walked : List String, walked ⊆ segments →
      Over bottom segments (walked.foldl Url.enter bottom) := by
    intro walked
    induction walked using List.reverseRecOn with
    | nil => exact fun _ => ⟨[], 0, rfl, by simp⟩
    | append_singleton walked segment ih =>
      intro hsub
      rw [List.foldl_concat]
      exact (ih fun s hs => hsub (List.mem_append_left _ hs)).enter (hsub (by simp))
  exact hall segments (List.Subset.refl segments)

/-- A path ends in one segment behind what was entered. -/
theorem exists_resolve_eq (bottom segments : List String) (last : String) :
    ∃ entered segment, resolve bottom (segments ++ [last]) = entered.reverse ++ [segment] ∧
      Over bottom segments entered := by
  rw [resolve_append _ _ (by simp)]
  have hover := over_foldl_enter bottom segments
  obtain ⟨segment, heq | heq⟩ := resolve_singleton (segments.foldl Url.enter bottom) last
  · exact ⟨_, segment, heq, hover⟩
  · exact ⟨_, segment, heq, hover.goUp⟩

/-! ### Paths behind a path -/

/-- A backslash is read as a slash. -/
def straighten (c : Char) : Char := if c = '\\' then '/' else c

/-- The segments that are written in a path, encoded. -/
def pieces (cs : List Char) : List String :=
  (splitAt '/' (cs.map straighten)).map fun part =>
    Percent.encode Percent.escapesInPath (String.ofList part)

theorem pieces_ne_nil (cs : List Char) : pieces cs ≠ [] := by
  simp [pieces, splitAt_ne_nil]

theorem pieces_append_slash (xs ys : List Char) :
    pieces (xs ++ '/' :: ys) = pieces xs ++ pieces ys := by
  have hslash : straighten '/' = '/' := rfl
  rw [pieces, List.map_append, List.map_cons, hslash, splitAt_append_mark, List.map_append]
  rfl

theorem pieces_nil : pieces [] = [""] := by
  simp [pieces, splitAt, Percent.encode, Utf8.bytes_eq]

theorem pieces_replicate_slash (n : ℕ) :
    pieces (List.replicate n '/') = List.replicate (n + 1) "" := by
  induction n with
  | zero => exact pieces_nil
  | succ n ih =>
    have h := pieces_append_slash [] (List.replicate n '/')
    rw [List.nil_append] at h
    rw [List.replicate_succ, h, ih, pieces_nil]
    rfl

/-- The segments in front of what is added to a path. -/
def front (path : List Char) : List String := if path = [] then [] else pieces path.tail

theorem segmentsOf_append_slash {path : List Char} (hpath : ∀ c ∈ path.head?, isSlash c = true)
    (cs : List Char) : segmentsOf (path ++ '/' :: cs) = resolve [] (front path ++ pieces cs) := by
  cases path with
  | nil => rfl
  | cons c path =>
    have hc : isSlash c = true := hpath c rfl
    simp only [segmentsOf, List.cons_append, hc, if_true]
    rw [front, if_neg (by simp), List.tail_cons, ← pieces_append_slash]
    rfl

theorem resolve_replicate (entered : List String) (n : ℕ) :
    resolve entered (List.replicate (n + 1) "") = entered.reverse ++ List.replicate (n + 1) "" := by
  induction n generalizing entered with
  | zero => rfl
  | succ n ih =>
    have hstep : resolve entered (List.replicate (n + 2) "") =
        resolve ("" :: entered) (List.replicate (n + 1) "") := rfl
    rw [hstep, ih, List.reverse_cons, List.append_assoc]
    rfl

theorem resolve_last (entered : List String) (last : String) :
    ∃ m, resolve entered [last] = (enter entered last).reverse ++ List.replicate m "" := by
  rw [resolve, Url.enter]
  split
  · exact ⟨1, rfl⟩
  · split
    · exact ⟨1, rfl⟩
    · exact ⟨0, by simp⟩

/-- **A path** is what was entered, and some empty segments; what is added to the path goes on from
what was entered. -/
theorem segmentsOf_append {path : List Char} (hpath : ∀ c ∈ path.head?, isSlash c = true)
    (n : ℕ) : ∃ entered m,
      segmentsOf (path ++ List.replicate n '/') = entered.reverse ++ List.replicate m "" ∧
        ∀ cs, segmentsOf (path ++ '/' :: cs) = resolve entered (pieces cs) := by
  refine ⟨(front path).foldl Url.enter [], ?_⟩
  have hadded : ∀ cs, segmentsOf (path ++ '/' :: cs) =
      resolve ((front path).foldl Url.enter []) (pieces cs) := by
    intro cs
    rw [segmentsOf_append_slash hpath, resolve_append _ _ (pieces_ne_nil cs)]
  cases n with
  | succ n =>
    refine ⟨n + 1, ?_, hadded⟩
    rw [List.replicate_succ, hadded, pieces_replicate_slash, resolve_replicate]
  | zero =>
    rw [List.replicate_zero, List.append_nil]
    cases path with
    | nil => exact ⟨1, by decide +kernel, hadded⟩
    | cons c path =>
      have hc : isSlash c = true := hpath c rfl
      obtain ⟨segments, last, hlast⟩ :=
        (List.eq_nil_or_concat' _).resolve_left (pieces_ne_nil path)
      obtain ⟨m, hm⟩ := resolve_last (segments.foldl Url.enter []) last
      refine ⟨m, ?_, hadded⟩
      have hfront : front (c :: path) = segments ++ [last] := hlast
      rw [hfront, List.foldl_concat, ← hm, ← resolve_append _ _ (by simp), ← hlast]
      simp only [segmentsOf, hc, if_true]
      rfl

end Url

end PenPlotter
