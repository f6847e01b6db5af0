import PenPlotter.Proofs.Json.Numeral
import PenPlotter.Proofs.Json.Quoted

/-! # Scanning what is printed

`Scans cs ts rest`: in front of `rest` the characters are scanned as the tokens.  Such pieces are
put together by `Scans.append`; a word or a numeral has to be separated from what follows it. -/

namespace PenPlotter.Json

/-- Nothing at the beginning of a text could go on a word or a numeral before it. -/
def Separated (rest : List Char) : Prop :=
  ∀ c ∈ rest.head?, Numeral.isPart c = false ∧ c.isAlpha = false

/-- In front of `rest` the characters are scanned as the tokens. -/
def Scans (cs : List Char) (ts : List Token) (rest : List Char) : Prop :=
  scan ((cs ++ rest).map some) = (scan (rest.map some)).map (ts ++ ·)

section scans

variable {cs cs' rest : List Char} {ts ts' : List Token} {c : Char} {t : Token}

theorem Scans.append (h : Scans cs ts (cs' ++ rest)) (h' : Scans cs' ts' rest) :
    Scans (cs ++ cs') (ts ++ ts') rest := by
  unfold Scans at *
  rw [List.append_assoc, h, h', Option.map_map]
  congr 1
  funext after
  exact (List.append_assoc ts ts' after).symm

/-! ### Single tokens -/

theorem Scans.token (hspace : isSpace c = false)
    (h : token? ((c :: cs ++ rest).map some) = some (t, rest.map some)) :
    Scans (c :: cs) [t] rest := by
  change token? (some c :: (cs ++ rest).map some) = _ at h
  change scan (some c :: (cs ++ rest).map some) = _
  rw [scan]
  simp only [Option.any_some, hspace, Bool.false_eq_true, if_false]
  split
  · rename_i hnone
    rw [h] at hnone
    exact absurd hnone (by simp)
  · rename_i heq
    rw [h, Option.some.injEq, Prod.mk.injEq] at heq
    rw [← heq.1, ← heq.2]
    rfl

theorem scans_spaces (h : ∀ c ∈ cs, isSpace c) : Scans cs [] rest := by
  unfold Scans
  induction cs with
  | nil => simp
  | cons c cs ih =>
      rw [List.forall_mem_cons] at h
      change scan (some c :: (cs ++ rest).map some) = _
      rw [scan, if_pos (by simpa using h.1)]
      exact ih h.2

theorem scans_space : Scans [' '] [] rest := scans_spaces (List.forall_mem_singleton.2 rfl)

/-- The characters that are no part of a word or numeral, but mean something. -/
def marks : List Char :=
  [' ', '\n', '\t', '\r', '"', '[', ']', '\x7b', '\x7d', ',', ':']

theorem plain_of_notMem_marks (h : c ∉ marks) :
    isSpace c = false ∧ c ≠ '"' ∧ punctuation? c = none := by
  simp only [marks, List.mem_cons, List.not_mem_nil, or_false, not_or] at h
  refine ⟨by simp [isSpace, h], h.2.2.2.2.1, ?_⟩
  simp [punctuation?, h]

theorem notMem_marks {p : Char → Bool} (hp : marks.all (!p ·)) (hc : p c) : c ∉ marks := by
  intro hmem
  simpa [hc] using List.all_eq_true.1 hp c hmem

theorem scans_punctuation (h : punctuation? c = some t) (rest : List Char) :
    Scans [c] [t] rest := by
  refine Scans.token ?_ (by simp [token?, h])
  by_contra hspace
  simp only [isSpace, Bool.or_eq_true, beq_iff_eq, Bool.not_eq_false] at hspace
  rcases hspace with ((rfl | rfl) | rfl) | rfl <;> exact absurd h (by simp [punctuation?])

theorem scans_quoted (s : String) : Scans (quoted s).toList [.string (some s)] rest := by
  have hread := token?_quoted s (rest.map some)
  rw [← List.map_append] at hread
  unfold quoted at hread ⊢
  rw [String.toList_ofList] at hread ⊢
  exact Scans.token rfl hread

theorem span_append {p : Char → Bool} (hcs : ∀ c ∈ cs, p c)
    (hrest : ∀ c ∈ rest.head?, p c = false) :
    span p ((cs ++ rest).map some) = (cs, rest.map some) := by
  induction cs with
  | nil =>
      cases rest with
      | nil => rfl
      | cons c rest => simp [span, hrest c (by simp)]
  | cons c cs ih =>
      rw [List.forall_mem_cons] at hcs
      simp only [List.cons_append, List.map_cons, span, hcs.1, ih hcs.2, if_true]

theorem isAlpha_of_word? (h : word? cs = some t) : ∀ d ∈ cs, d.isAlpha := by
  unfold word? at h
  split_ifs at h with hnull htrue hfalse
  · rw [hnull]
    exact List.all_eq_true.1 rfl
  · rw [htrue]
    exact List.all_eq_true.1 rfl
  · rw [hfalse]
    exact List.all_eq_true.1 rfl

theorem scans_word (h : word? cs = some t) (hrest : Separated rest) : Scans cs [t] rest := by
  have halpha := isAlpha_of_word? h
  cases cs with
  | nil => simp [word?] at h
  | cons c cs =>
      rw [List.forall_mem_cons] at halpha
      obtain ⟨hspace, hquote, hpunctuation⟩ :=
        plain_of_notMem_marks (notMem_marks (p := Char.isAlpha) (by decide) halpha.1)
      have hspan := span_append halpha.2 fun d hd => (hrest d hd).2
      refine Scans.token hspace ?_
      rw [List.cons_append, List.map_cons, token?]
      simp only [hpunctuation, hquote, if_false, halpha.1, if_true, hspan, h, Option.map_some]

theorem not_isAlpha_of_isDigit (h : c.isDigit) : c.isAlpha = false := by
  rw [isDigit_iff] at h
  change (decide (65 ≤ c.val ∧ c.val ≤ 90) || decide (97 ≤ c.val) && decide (c.val ≤ 122)) = false
  simp only [UInt32.le_iff_toNat_le, Bool.or_eq_false_iff, Bool.and_eq_false_iff,
    decide_eq_false_iff_not]
  change ¬(65 ≤ c.toNat ∧ c.toNat ≤ 90) ∧ (¬97 ≤ c.toNat ∨ ¬c.toNat ≤ 122)
  omega

theorem scans_numeral {n : Numeral} (h : Numeral.ofChars? cs = some n) (hrest : Separated rest) :
    Scans cs [.number n] rest := by
  obtain ⟨c, ds, rfl, hhead⟩ := Numeral.exists_head h
  have hc : (c == '-' || c.isDigit) = true := by simpa using hhead
  have halpha : c.isAlpha = false := hhead.elim (by rintro rfl; rfl) not_isAlpha_of_isDigit
  obtain ⟨hspace, hquote, hpunctuation⟩ :=
    plain_of_notMem_marks (notMem_marks (p := fun c => c == '-' || c.isDigit) (by decide) hc)
  have hparts := Numeral.isPart_of_ofChars? h
  rw [List.forall_mem_cons] at hparts
  have hspan := span_append hparts.2 fun d hd => (hrest d hd).1
  refine Scans.token hspace ?_
  rw [List.cons_append, List.map_cons, token?]
  simp only [hpunctuation, hquote, if_false, halpha, Bool.false_eq_true, hspan, h, Option.map_some]

end scans

end PenPlotter.Json
