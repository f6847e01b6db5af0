import PenPlotter.Json.Reading
import PenPlotter.Proofs.Json.Printer

/-! # What the reader takes

The containers that are open and what is being read know all tokens that were taken (`taken`): a
step adds the one that it takes (`taken_step`).  So a tree is read from its own tokens and from no
others (`run_eq_some_iff`), and each numeral in the tree of a text stands in the text
(`exists_chars_of_mem_tokens`). -/

namespace PenPlotter
namespace Json

/-! ### Tokens that were taken -/

/-- The tokens of finished items, in reverse, with a comma after each. -/
def doneItems (done : List Tree) : List Token := done.reverse.flatMap fun t => t.tokens ++ [.comma]

/-- The tokens of finished members, in reverse, with a comma after each. -/
def doneMembers (done : List (Literal × Tree)) : List Token :=
  done.reverse.flatMap fun (k, t) => .string k :: .colon :: (t.tokens ++ [.comma])

def Frame.tokens : Frame → List Token
  | .array done => .openBracket :: doneItems done
  | .object done k => .openBrace :: (doneMembers done ++ [.string k, .colon])

def Expectation.tokens : Expectation → List Token
  | .value => []
  | .firstItem => []
  | .firstKey => [.openBrace]
  | .key done => .openBrace :: doneMembers done
  | .colon done k => .openBrace :: (doneMembers done ++ [.string k])
  | .finished t => t.tokens

def taken (e : Expectation) (frames : List Frame) : List Token :=
  frames.reverse.flatMap Frame.tokens ++ e.tokens

/-- Where a first item is expected, an array without items is open. -/
def Fits (e : Expectation) (frames : List Frame) : Prop :=
  e = .firstItem → ∃ outer, frames = .array [] :: outer

theorem itemTokens_cons (t : Tree) {items : List Tree} (h : items ≠ []) :
    itemTokens (t :: items) = t.tokens ++ .comma :: itemTokens items := by
  cases items with
  | nil => exact absurd rfl h
  | cons => rfl

theorem memberTokens_cons (m : Literal × Tree) {members : List (Literal × Tree)}
    (h : members ≠ []) : memberTokens (m :: members) =
      .string m.1 :: .colon :: (m.2.tokens ++ .comma :: memberTokens members) := by
  cases members with
  | nil => exact absurd rfl h
  | cons => rfl

theorem itemTokens_concat (items : List Tree) (t : Tree) :
    itemTokens (items ++ [t]) = items.flatMap (fun t => t.tokens ++ [.comma]) ++ t.tokens := by
  induction items with
  | nil => rfl
  | cons v items ih =>
      rw [List.cons_append, itemTokens_cons v (by simp), ih]
      simp

theorem memberTokens_concat (members : List (Literal × Tree)) (k : Literal) (t : Tree) :
    memberTokens (members ++ [(k, t)]) =
      members.flatMap (fun (k, t) => .string k :: .colon :: (t.tokens ++ [.comma])) ++
        .string k :: .colon :: t.tokens := by
  induction members with
  | nil => rfl
  | cons m members ih =>
      rw [List.cons_append, memberTokens_cons m (by simp), ih]
      simp

section steps

variable {e e' : Expectation} {frames frames' : List Frame} {token : Token}

theorem taken_beginValue (he : Begins e) (h : beginValue frames token = some (e', frames')) :
    taken e' frames' = taken e frames ++ [token] ∧ Fits e' frames' := by
  have htokens : e.tokens = [] := by rcases he with rfl | rfl <;> rfl
  unfold taken
  rw [htokens]
  cases token <;> cases h <;>
    simp [Fits, Expectation.tokens, Tree.tokens, Frame.tokens, doneItems]

/-- **A step** adds the token that it takes. -/
theorem taken_step (hfits : Fits e frames) (h : step e frames token = some (e', frames')) :
    taken e' frames' = taken e frames ++ [token] ∧ Fits e' frames' := by
  cases e with
  | value => exact taken_beginValue (.inl rfl) h
  | firstItem =>
      obtain ⟨outer, rfl⟩ := hfits rfl
      cases token with
      | closeBracket =>
          cases h
          simp [taken, Fits, Expectation.tokens, Tree.tokens, Frame.tokens, doneItems, itemTokens]
      | _ => exact taken_beginValue (.inr rfl) h
  | firstKey =>
      cases token <;> cases h <;>
        simp [taken, Fits, Expectation.tokens, Tree.tokens, memberTokens, doneMembers]
  | key done =>
      cases token <;> cases h
      simp [taken, Fits, Expectation.tokens]
  | colon done k =>
      unfold step at h
      dsimp only at h
      split at h
      case isTrue htoken =>
        cases h
        simp [taken, Fits, Expectation.tokens, Frame.tokens, htoken]
      case isFalse => cases h
  | finished v =>
      unfold step at h
      dsimp only at h
      split at h
      case h_1 done outer =>
        cases h
        simp [taken, Fits, Expectation.tokens, Frame.tokens, doneItems]
      case h_2 done outer =>
        cases h
        simp [taken, Fits, Expectation.tokens, Tree.tokens, Frame.tokens, doneItems,
          itemTokens_concat]
      case h_3 done k outer =>
        cases h
        simp [taken, Fits, Expectation.tokens, Frame.tokens, doneMembers]
      case h_4 done k outer =>
        cases h
        simp [taken, Fits, Expectation.tokens, Tree.tokens, Frame.tokens, doneMembers,
          memberTokens_concat]
      case h_5 => cases h

theorem tokens_of_run {ts : List Token} {t : Tree} (hfits : Fits e frames)
    (h : run e frames ts = some t) : t.tokens = taken e frames ++ ts := by
  induction ts generalizing e frames with
  | nil =>
      unfold run at h
      split at h
      case h_1 v =>
        cases h
        simp [taken, Expectation.tokens]
      case h_2 => cases h
  | cons token ts ih =>
      rw [run] at h
      split at h
      case h_1 e' frames' hstep =>
        obtain ⟨htaken, hfits'⟩ := taken_step hfits hstep
        rw [ih hfits' h, htaken, List.append_assoc, List.singleton_append]
      case h_2 => cases h

end steps

/-- **A tree is read from its tokens** and from no others. -/
theorem run_eq_some_iff (ts : List Token) (t : Tree) :
    run .value [] ts = some t ↔ ts = t.tokens := by
  constructor
  · exact fun h => (tokens_of_run (by simp [Fits]) h).symm
  · rintro rfl
    have hrun := run_tokens t (.inl rfl) [] []
    rwa [List.append_nil] at hrun

/-! ### Numerals of a text -/

theorem exists_chars_of_token? {cs after : List (Option Char)} {n : Numeral}
    (h : token? cs = some (.number n, after)) : ∃ ds, Numeral.ofChars? ds = some n := by
  unfold token? at h
  split at h
  case h_2 => cases h
  case h_1 c rest =>
    split at h
    case h_1 t hpunctuation =>
      cases h
      unfold punctuation? at hpunctuation
      split at hpunctuation <;> cases hpunctuation
    case h_2 =>
      split_ifs at h
      · obtain ⟨r, -, hr⟩ := Option.map_eq_some_iff.mp h
        cases hr
      · obtain ⟨t, hword, ht⟩ := Option.map_eq_some_iff.mp h
        cases ht
        unfold word? at hword
        split_ifs at hword <;> cases hword
      · obtain ⟨m, hm, heq⟩ := Option.map_eq_some_iff.mp h
        cases heq
        exact ⟨_, hm⟩

theorem exists_chars_of_scan {cs : List (Option Char)} {ts : List Token} {n : Numeral}
    (h : scan cs = some ts) (hn : .number n ∈ ts) : ∃ ds, Numeral.ofChars? ds = some n := by
  fun_induction scan cs generalizing ts with
  | case1 =>
      cases h
      cases hn
  | case2 c rest hspace ih => exact ih h hn
  | case3 c rest hspace hnone => cases h
  | case4 c rest hspace t after htoken ih =>
      obtain ⟨ts', hscan, rfl⟩ := Option.map_eq_some_iff.mp h
      rcases List.mem_cons.mp hn with rfl | hmem
      · exact exists_chars_of_token? htoken
      · exact ih hscan hmem

theorem exists_chars_of_mem_tokens {s : String} {t : Tree} (h : Tree.ofString? s = some t)
    {n : Numeral} (hn : .number n ∈ t.tokens) : ∃ ds, Numeral.ofChars? ds = some n := by
  obtain ⟨ts, hscan, hrun⟩ := Option.bind_eq_some_iff.mp h
  rw [← (run_eq_some_iff ts t).mp hrun] at hn
  exact exists_chars_of_scan hscan hn

/-! ### Parts of a tree -/

section parts

variable {token : Token} {t : Tree}

theorem mem_itemTokens {items : List Tree} (ht : t ∈ items) (h : token ∈ t.tokens) :
    token ∈ itemTokens items := by
  obtain ⟨before, after, rfl⟩ := List.append_of_mem ht
  clear ht
  induction before with
  | nil => cases after <;> simp [itemTokens, h]
  | cons v before ih =>
      rw [List.cons_append, itemTokens_cons v (by simp)]
      exact List.mem_append_right _ (List.mem_cons_of_mem _ ih)

theorem mem_memberTokens {members : List (Literal × Tree)} {k : Literal} (hm : (k, t) ∈ members)
    (h : token ∈ t.tokens) : token ∈ memberTokens members := by
  obtain ⟨before, after, rfl⟩ := List.append_of_mem hm
  clear hm
  induction before with
  | nil => cases after <;> simp [memberTokens, h]
  | cons m before ih =>
      rw [List.cons_append, memberTokens_cons m (by simp)]
      simp [ih]

namespace Tree

variable {names : List String}

theorem mem_of_knownMembers? {members : List (Literal × Tree)} {found taken : List (String × Tree)}
    (h : knownMembers? names found members = some taken) {m : String × Tree} (hm : m ∈ taken) :
    m ∈ found ∨ (some m.1, m.2) ∈ members := by
  induction members generalizing found with
  | nil =>
      cases h
      exact .inl hm
  | cons member members ih =>
      obtain ⟨key, part⟩ := member
      obtain ⟨k, rfl, hrest⟩ := Option.bind_eq_some_iff.mp h
      split_ifs at hrest
      · rcases ih hrest with hfound | hmember
        · rcases List.mem_cons.mp hfound with rfl | hfound
          · exact .inr List.mem_cons_self
          · exact .inl hfound
        · exact .inr (List.mem_cons_of_mem _ hmember)
      · exact (ih hrest).imp_right (List.mem_cons_of_mem _)

theorem tokens_subset_of_record? {fields : Fields Tree} (hfields : t.record? names = some fields)
    {name : String} {part : Tree} (hpart : fields.get? name = some part) :
    part.tokens ⊆ t.tokens := by
  intro token h
  obtain ⟨m, hfind, rfl⟩ := Option.map_eq_some_iff.mp hpart
  have hmem := List.mem_of_find?_eq_some hfind
  cases t with
  | object members =>
      obtain ⟨found, hfound, rfl⟩ := Option.map_eq_some_iff.mp hfields
      rcases mem_of_knownMembers? hfound hmem with hnil | hm
      · cases hnil
      · exact List.mem_cons_of_mem _ (List.mem_append_left _ (mem_memberTokens hm h))
  | array items =>
      unfold record? at hfields
      dsimp only at hfields
      split_ifs at hfields
      cases hfields
      exact List.mem_cons_of_mem _
        (List.mem_append_left _ (mem_itemTokens (List.of_mem_zip hmem).2 h))
  | _ => cases hfields

end Tree

end parts

end Json
end PenPlotter
