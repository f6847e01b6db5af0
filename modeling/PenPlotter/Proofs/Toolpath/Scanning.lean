import PenPlotter.Proofs.Toolpath.Reference

/-! # Scanning lines and words

The scanners of a program go through a text once with an accumulator.  Here they are shown to
find what the rules say: `lines_eq` for lines, `code_eq` for what is left of a line, and
`motion?_eq` for the leftmost motion word, which is a maximal run of word characters. -/

namespace PenPlotter

/-! ### Lines -/

section lines

open Reference

theorem dropReturn_eq (cs : List Char) : Text.dropReturn cs = withoutReturn cs := by
  rcases List.eq_nil_or_concat' cs with rfl | ⟨l, c, rfl⟩
  · rfl
  · unfold Text.dropReturn withoutReturn
    rw [List.reverse_concat', List.getLast?_concat, List.dropLast_concat]
    by_cases hc : c = '\r'
    · subst hc
      simp
    · simp [hc]

/-- The scanner of lines, in the midst of one, splits the rest of the text at line feeds. -/
theorem linesFrom_eq (acc cs : List Char) :
    Text.linesFrom acc cs = ofParts (cs.splitOnPPrepend (· == '\n') acc) := by
  induction cs generalizing acc with
  | nil => cases acc <;> simp [Text.linesFrom, ofParts]
  | cons c rest ih =>
      by_cases hc : c = '\n'
      · subst hc
        have hne := List.splitOnP_ne_nil (· == '\n') rest
        obtain ⟨part, parts, hparts⟩ := List.exists_cons_of_ne_nil hne
        rw [Text.linesFrom, ih, List.splitOnPPrepend_cons_pos rfl, List.splitOnPPrepend_nil_right,
          hparts, dropReturn_eq]
        rfl
      · rw [List.splitOnPPrepend_cons_neg (by simpa using hc), ← ih]
        simp [Text.linesFrom]

theorem lines_eq (cs : List Char) : Text.lines cs = lines cs := linesFrom_eq [] cs

theorem code_eq (line : List Char) : Program.code line = code line := by
  have h : (fun c : Char => c != ';') = fun c => decide (c ≠ ';') := by
    funext c
    by_cases hc : c = ';' <;> simp [hc]
  unfold Program.code
  rw [h]
  rfl

end lines

/-! ### Words -/

section words

open Text

theorem wordsFrom_of_ne_nil {acc : List Char} (h : acc ≠ []) (cs : List Char) :
    wordsFrom acc cs = (acc.reverse ++ cs.takeWhile isWord) :: words (cs.dropWhile isWord) := by
  induction cs generalizing acc with
  | nil => simp [wordsFrom, closeWord, h]
  | cons c rest ih =>
      by_cases hc : isWord c
      · rw [wordsFrom, if_pos hc, ih (List.cons_ne_nil c acc)]
        simp [hc]
      · rw [wordsFrom, if_neg hc]
        simp [hc, closeWord, h, words, wordsFrom]

theorem words_cons_of_word {c : Char} (hc : isWord c) (rest : List Char) :
    words (c :: rest) = (c :: rest.takeWhile isWord) :: words (rest.dropWhile isWord) := by
  rw [words, wordsFrom, if_pos hc, wordsFrom_of_ne_nil (List.cons_ne_nil c [])]
  rfl

theorem words_cons_of_not_word {c : Char} (hc : ¬ isWord c) (rest : List Char) :
    words (c :: rest) = words rest := by
  rw [words, wordsFrom, if_neg hc]
  rfl

end words

/-! ### Motion words -/

section motion

open Text Reference

variable {c : Char} {rest cs : List Char}

/-- A word boundary when it is known whether a word character precedes the text. -/
def boundaryFrom (before : Bool) (cs : List Char) (i : ℕ) : Bool :=
  (if i = 0 then before else wordAt cs (i - 1)) != wordAt cs i

/-- What the motion word at a position commands. -/
def motionFromAt? (before : Bool) (cs : List Char) (i : ℕ) : Option Bool :=
  motionWords.findSome? fun w =>
    if w.1 <+: cs.drop i ∧ boundaryFrom before cs i ∧ boundaryFrom before cs (i + w.1.length)
    then some w.2 else none

/-- What the leftmost motion word commands. -/
def motionFrom? (before : Bool) (cs : List Char) : Option Bool :=
  (List.range cs.length).findSome? (motionFromAt? before cs)

theorem motion?_eq_motionFrom? (cs : List Char) : motion? cs = motionFrom? false cs := by
  have hb : boundary cs = boundaryFrom false cs := by
    funext i
    cases i <;> rfl
  unfold motion? motionFrom? motionAt? motionFromAt?
  rw [hb]

theorem boundaryFrom_cons_succ (before : Bool) (i : ℕ) :
    boundaryFrom before (c :: rest) (i + 1) = boundaryFrom (isWord c) rest i := by
  cases i <;> rfl

theorem motionFromAt?_cons_succ (before : Bool) (i : ℕ) :
    motionFromAt? before (c :: rest) (i + 1) = motionFromAt? (isWord c) rest i := by
  unfold motionFromAt?
  simp only [List.drop_succ_cons, boundaryFrom_cons_succ, Nat.add_right_comm i 1]

theorem motionFrom?_cons (before : Bool) (c : Char) (rest : List Char) :
    motionFrom? before (c :: rest) =
      (motionFromAt? before (c :: rest) 0).or (motionFrom? (isWord c) rest) := by
  have hsucc : motionFromAt? before (c :: rest) ∘ Nat.succ = motionFromAt? (isWord c) rest :=
    funext (motionFromAt?_cons_succ before)
  unfold motionFrom?
  rw [List.length_cons, List.range_succ_eq_map, List.findSome?_cons, List.findSome?_map, hsucc]
  cases motionFromAt? before (c :: rest) 0 <;> rfl

theorem isWord_of_mem_motionWords : ∀ w ∈ motionWords, w.1 ≠ [] ∧ ∀ c ∈ w.1, isWord c := by
  have hall : motionWords.all fun w => !w.1.isEmpty && w.1.all isWord := by decide
  intro w hw
  simpa using List.all_eq_true.mp hall w hw

/-- A text with a word character in front has no motion word within that word. -/
theorem motionFromAt?_of_inside (hc : isWord c) : motionFromAt? true (c :: rest) 0 = none := by
  have hb : boundaryFrom true (c :: rest) 0 = false := by simp [boundaryFrom, wordAt, hc]
  unfold motionFromAt?
  simp [hb]

theorem motionFromAt?_of_not_word (before : Bool) (hc : ¬ isWord c) :
    motionFromAt? before (c :: rest) 0 = none := by
  unfold motionFromAt?
  rw [List.findSome?_eq_none_iff]
  intro w hw
  obtain ⟨hne, hword⟩ := isWord_of_mem_motionWords w hw
  obtain ⟨d, u, hu⟩ := List.exists_cons_of_ne_nil hne
  refine if_neg fun h => hc ?_
  have hprefix : w.1 <+: c :: rest := h.1
  rw [hu, List.cons_prefix_cons] at hprefix
  rw [← hprefix.1]
  exact hword d (by rw [hu]; exact List.mem_cons_self)

/-- Behind a word there is a boundary unless a word character follows. -/
theorem boundaryFrom_append (before : Bool) {u : List Char} (hne : u ≠ [])
    (hu : ∀ c ∈ u, isWord c) (t : List Char) :
    boundaryFrom before (u ++ t) u.length = !t.head?.any isWord := by
  have hpos : 0 < u.length := List.length_pos_of_ne_nil hne
  have hlast : wordAt (u ++ t) (u.length - 1) = true := by
    have hlt : u.length - 1 < u.length := by omega
    unfold wordAt
    rw [List.getElem?_append_left hlt, List.getElem?_eq_getElem hlt]
    exact hu _ (List.getElem_mem hlt)
  have hnext : wordAt (u ++ t) u.length = t.head?.any isWord := by
    unfold wordAt
    rw [List.getElem?_append_right le_rfl, Nat.sub_self, List.head?_eq_getElem?]
  unfold boundaryFrom
  rw [if_neg hpos.ne', hlast, hnext, Bool.true_bne]

/-- A word begins the text and ends at a boundary exactly if it is the whole first run of word
characters. -/
theorem prefix_and_boundary_iff (before : Bool) {u : List Char} (hne : u ≠ [])
    (hu : ∀ c ∈ u, isWord c) :
    u <+: cs ∧ boundaryFrom before cs u.length ↔ u = cs.takeWhile isWord := by
  constructor
  · rintro ⟨⟨t, rfl⟩, hb⟩
    rw [boundaryFrom_append before hne hu] at hb
    rw [List.takeWhile_append_of_pos hu]
    cases t with
    | nil => simp
    | cons d t =>
        have hd : isWord d = false := by simpa using hb
        simp [hd]
  · intro hrun
    have hsplit : cs = u ++ cs.dropWhile isWord := by
      rw [hrun]
      exact List.takeWhile_append_dropWhile.symm
    refine ⟨⟨_, hsplit.symm⟩, ?_⟩
    rw [hsplit, boundaryFrom_append before hne hu]
    cases ht : cs.dropWhile isWord with
    | nil => rfl
    | cons d t =>
        have hd := List.head_dropWhile_not isWord (l := cs) (by rw [ht]; exact List.cons_ne_nil d t)
        simp only [ht, List.head_cons] at hd
        simp [hd]

theorem toNat_toLower (c : Char) :
    c.toLower.toNat = if 65 ≤ c.toNat ∧ c.toNat ≤ 90 then c.toNat + 32 else c.toNat := by
  have hcond : (c.val ≥ 'A'.val ∧ c.val ≤ 'Z'.val) ↔ 65 ≤ c.toNat ∧ c.toNat ≤ 90 := by
    simp only [ge_iff_le, UInt32.le_iff_toNat_le]
    rfl
  unfold Char.toLower
  split_ifs with h h' h'
  · show (c.val + 32).toNat = c.toNat + 32
    rw [UInt32.toNat_add]
    exact Nat.mod_eq_of_lt (by have := h'.2; show c.toNat + 32 < 2 ^ 32; omega)
  · exact absurd (hcond.mp h) h'
  · exact absurd (hcond.mpr h') h
  · rfl

/-- The characters whose lower case is a small letter are that letter and its capital. -/
theorem toLower_eq_iff {c l u : Char} (hu : 65 ≤ u.toNat ∧ u.toNat ≤ 90)
    (hl : u.toNat + 32 = l.toNat) : c.toLower = l ↔ c = u ∨ c = l := by
  rw [← Char.toNat_inj, ← Char.toNat_inj, ← Char.toNat_inj, toNat_toLower]
  split_ifs <;> omega

theorem digit?_of_ne {d : Char} (h0 : d ≠ '0') (h1 : d ≠ '1') :
    Program.motionWord?.digit? d = none := by
  rw [Program.motionWord?.digit?, if_neg h0, if_neg h1]

theorem motionWord?_of_notMem {run : List Char} (h : run ∉ motionWords.map Prod.fst) :
    Program.motionWord? run = none := by
  have hletter (g : Char) : g.toLower = 'g' ↔ g = 'G' ∨ g = 'g' :=
    toLower_eq_iff (by decide) (by decide)
  unfold Program.motionWord?
  split
  · split_ifs with hg
    · refine digit?_of_ne ?_ ?_ <;> rintro rfl <;>
        rcases (hletter _).mp hg with rfl | rfl <;> exact h (by decide)
    · rfl
  · split_ifs with hg
    · refine digit?_of_ne ?_ ?_ <;> rintro rfl <;>
        rcases (hletter _).mp hg with rfl | rfl <;> exact h (by decide)
    · rfl
  · rfl

theorem motionWord?_eq (run : List Char) :
    Program.motionWord? run =
      motionWords.findSome? fun w => if w.1 = run then some w.2 else none := by
  by_cases h : run ∈ motionWords.map Prod.fst
  · have hall : ∀ u ∈ motionWords.map Prod.fst, Program.motionWord? u =
        motionWords.findSome? fun w => if w.1 = u then some w.2 else none := by
      decide
    exact hall run h
  · rw [motionWord?_of_notMem h, eq_comm, List.findSome?_eq_none_iff]
    intro w hw
    refine if_neg fun he => h ?_
    rw [← he]
    exact List.mem_map_of_mem hw

theorem findSome?_congr {α β : Type} {f g : α → Option β} {l : List α} (h : ∀ a ∈ l, f a = g a) :
    l.findSome? f = l.findSome? g := by
  induction l with
  | nil => rfl
  | cons a l ih =>
      rw [List.findSome?_cons, List.findSome?_cons, h a List.mem_cons_self,
        ih fun b hb => h b (List.mem_cons_of_mem a hb)]

theorem motionFromAt?_of_word (hc : isWord c) :
    motionFromAt? false (c :: rest) 0 = Program.motionWord? (c :: rest.takeWhile isWord) := by
  have hb : boundaryFrom false (c :: rest) 0 = true := by simp [boundaryFrom, wordAt, hc]
  have hrun : (c :: rest).takeWhile isWord = c :: rest.takeWhile isWord := by simp [hc]
  rw [motionWord?_eq, ← hrun]
  unfold motionFromAt?
  refine findSome?_congr fun w hw => ?_
  obtain ⟨hne, hword⟩ := isWord_of_mem_motionWords w hw
  simp only [List.drop_zero, hb, true_and, Nat.zero_add, prefix_and_boundary_iff false hne hword]

theorem motionFrom?_inside (cs : List Char) :
    motionFrom? true cs = motionFrom? false (cs.dropWhile isWord) := by
  induction cs with
  | nil => rfl
  | cons c rest ih =>
      rw [motionFrom?_cons]
      by_cases hc : isWord c
      · rw [motionFromAt?_of_inside hc, hc, List.dropWhile_cons_of_pos hc, ← ih]
        rfl
      · rw [motionFromAt?_of_not_word true hc, List.dropWhile_cons_of_neg hc, motionFrom?_cons,
          motionFromAt?_of_not_word false hc]

/-- **The motion of a line** is the one of the leftmost motion word. -/
theorem motion?_eq (cs : List Char) : Program.motion? cs = motion? cs := by
  rw [motion?_eq_motionFrom?]
  unfold Program.motion?
  induction h : cs.length using Nat.strong_induction_on generalizing cs with
  | _ n ih =>
      cases cs with
      | nil => rfl
      | cons c rest =>
          rw [motionFrom?_cons]
          by_cases hc : isWord c
          · have hlen : (rest.dropWhile isWord).length < n := by
              have := (List.dropWhile_suffix (l := rest) isWord).length_le
              rw [List.length_cons] at h
              omega
            rw [words_cons_of_word hc, List.findSome?_cons, ih _ hlen _ rfl, hc,
              motionFrom?_inside, motionFromAt?_of_word hc]
            cases Program.motionWord? (c :: rest.takeWhile isWord) <;> rfl
          · rw [words_cons_of_not_word hc, ih rest.length (by rw [← h]; simp) rest rfl,
              motionFromAt?_of_not_word false hc, Bool.eq_false_of_not_eq_true hc]
            rfl

example : motion? "XG1 G001 g00 G1".toList = some false := by decide +kernel

end motion

end PenPlotter
