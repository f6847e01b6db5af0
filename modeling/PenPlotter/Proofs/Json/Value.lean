import PenPlotter.Proofs.Json.Grammar
import Mathlib.Data.List.Induction

/-! # The values of JSON texts

A text of the grammar may still be refused: a numeral may be too large, a quoted text may pair up
to no character, and arrays and objects may be nested too deep.  `IsJson text t` says that the text
spells the tree and that nothing of this is the case; these are the texts that have a value
(`isJson_iff`).

The members of an object are sorted on the way, and of members with one name the last is kept
(`find?_sortMembers`).  So what a value has for a name is the last member of that name in the text
(`holds_iff`, and `says_iff` for texts). -/

namespace PenPlotter.Json

/-! ### Texts that have a value -/

/-- A numeral is not too large, and a quoted text stands for characters. -/
def Token.HasValue : Token → Prop
  | .number n => n.value?.isSome
  | .string s => s.isSome
  | _ => True

mutual

/-- How deep arrays and objects are nested. -/
def Tree.depth : Tree → ℕ
  | .array items => itemsDepth items + 1
  | .object members => membersDepth members + 1
  | _ => 0

/-- How deep arrays and objects are nested within items. -/
def itemsDepth : List Tree → ℕ
  | [] => 0
  | t :: items => max t.depth (itemsDepth items)

/-- How deep arrays and objects are nested within members. -/
def membersDepth : List (Literal × Tree) → ℕ
  | [] => 0
  | (_, t) :: members => max t.depth (membersDepth members)

end

def Valued (ts : List Token) : Prop := ∀ token ∈ ts, token.HasValue

@[simp] theorem valued_nil : Valued [] := List.forall_mem_nil _

@[simp] theorem valued_cons (token : Token) (ts : List Token) :
    Valued (token :: ts) ↔ token.HasValue ∧ Valued ts := List.forall_mem_cons

@[simp] theorem valued_append (ts ts' : List Token) : Valued (ts ++ ts') ↔ Valued ts ∧ Valued ts' :=
  List.forall_mem_append

theorem valued_itemTokens_cons (t : Tree) (items : List Tree) :
    Valued (itemTokens (t :: items)) ↔ Valued t.tokens ∧ Valued (itemTokens items) := by
  rcases eq_or_ne items [] with rfl | hitems
  · simp [itemTokens]
  · simp [itemTokens_cons t hitems, Token.HasValue]

theorem valued_memberTokens_cons (k : Literal) (t : Tree) (members : List (Literal × Tree)) :
    Valued (memberTokens ((k, t) :: members)) ↔
      k.isSome ∧ Valued t.tokens ∧ Valued (memberTokens members) := by
  rcases eq_or_ne members [] with rfl | hmembers
  · simp [memberTokens, Token.HasValue]
  · simp [memberTokens_cons (k, t) hmembers, Token.HasValue]

mutual

/-- **A tree has a value** exactly if its numerals and texts have one and it is not too deep. -/
theorem isSome_valueAt?_iff (t : Tree) (depth : ℕ) :
    (t.valueAt? depth).isSome ↔ Valued t.tokens ∧ t.depth ≤ depth := by
  cases t with
  | null | bool b | number n | string s =>
      simp [Tree.valueAt?, Tree.tokens, Tree.depth, Token.HasValue]
  | array items =>
      have htokens : Valued (Tree.array items).tokens ↔ Valued (itemTokens items) := by
        simp [Tree.tokens, Token.HasValue]
      rw [htokens, Tree.valueAt?, Tree.depth]
      rcases Nat.eq_zero_or_pos depth with rfl | hdepth
      · simp
      · rw [if_neg hdepth.ne', Option.isSome_map, isSome_valuesAt?_iff items (depth - 1),
          Nat.le_sub_one_iff_lt hdepth, Nat.succ_le_iff]
  | object members =>
      have htokens : Valued (Tree.object members).tokens ↔ Valued (memberTokens members) := by
        simp [Tree.tokens, Token.HasValue]
      rw [htokens, Tree.valueAt?, Tree.depth]
      rcases Nat.eq_zero_or_pos depth with rfl | hdepth
      · simp
      · rw [if_neg hdepth.ne', Option.isSome_map, isSome_membersAt?_iff members (depth - 1),
          Nat.le_sub_one_iff_lt hdepth, Nat.succ_le_iff]
termination_by sizeOf t

theorem isSome_valuesAt?_iff (items : List Tree) (depth : ℕ) :
    (valuesAt? depth items).isSome ↔ Valued (itemTokens items) ∧ itemsDepth items ≤ depth := by
  cases items with
  | nil => simp [valuesAt?, itemTokens, itemsDepth]
  | cons t items =>
      have hparts : (valuesAt? depth (t :: items)).isSome ↔
          (t.valueAt? depth).isSome ∧ (valuesAt? depth items).isSome := by
        rw [valuesAt?]
        cases t.valueAt? depth <;> cases valuesAt? depth items <;> simp
      rw [hparts, isSome_valueAt?_iff t depth, isSome_valuesAt?_iff items depth,
        valued_itemTokens_cons, itemsDepth, max_le_iff]
      tauto
termination_by sizeOf items

theorem isSome_membersAt?_iff (members : List (Literal × Tree)) (depth : ℕ) :
    (membersAt? depth members).isSome ↔
      Valued (memberTokens members) ∧ membersDepth members ≤ depth := by
  cases members with
  | nil => simp [membersAt?, memberTokens, membersDepth]
  | cons m members =>
      obtain ⟨k, t⟩ := m
      have hparts : (membersAt? depth ((k, t) :: members)).isSome ↔
          k.isSome ∧ (t.valueAt? depth).isSome ∧ (membersAt? depth members).isSome := by
        rw [membersAt?]
        cases k <;> cases t.valueAt? depth <;> cases membersAt? depth members <;> simp
      rw [hparts, isSome_valueAt?_iff t depth, isSome_membersAt?_iff members depth,
        valued_memberTokens_cons, membersDepth, max_le_iff]
      tauto
termination_by sizeOf members

end

/-- The text spells the tree, and the tree has a value. -/
structure IsJson (text : String) (t : Tree) : Prop where
  spells : Spells text.toList t.tokens
  valued : Valued t.tokens
  depth_le : t.depth ≤ maxDepth

theorem isJson_iff {text : String} {t : Tree} :
    IsJson text t ↔ Tree.ofString? text = some t ∧ t.value?.isSome := by
  rw [ofString?_eq_some_iff, Tree.value?, isSome_valueAt?_iff]
  exact ⟨fun h => ⟨h.spells, h.valued, h.depth_le⟩, fun h => ⟨h.1, h.2.1, h.2.2⟩⟩

/-! ### Members of one name -/

theorem find?_insertMember (k : String) (v : Json) (members : List (String × Json))
    (name : String) :
    (insertMember k v members).find? (·.1 == name) =
      if k = name then some (k, v) else members.find? (·.1 == name) := by
  induction members with
  | nil => by_cases hk : k = name <;> simp [insertMember, hk]
  | cons m members ih =>
      obtain ⟨n, w⟩ := m
      rw [insertMember]
      split_ifs with hlt hname heq hname hname
      · simp [hname]
      · simp [hname]
      · simp [hname]
      · simp [heq.symm, hname]
      · have hn : n ≠ name := fun h => heq (hname.trans h.symm)
        rw [List.find?_cons_of_neg (by simpa using hn), ih, if_pos hname]
      · rw [List.find?_cons, List.find?_cons, ih, if_neg hname]

/-- **Of members with one name** the last is kept. -/
theorem find?_sortMembers (members : List (String × Json)) (name : String) :
    (sortMembers members).find? (·.1 == name) = members.reverse.find? (·.1 == name) := by
  induction members using List.reverseRecOn with
  | nil => rfl
  | append_singleton members m ih =>
      have hlast : sortMembers (members ++ [m]) = insertMember m.1 m.2 (sortMembers members) :=
        List.foldl_concat ..
      rw [hlast, find?_insertMember, List.reverse_concat, ih]
      split_ifs with hm
      · rw [List.find?_cons_of_pos (by simpa using hm)]
      · rw [List.find?_cons_of_neg (by simpa using hm)]

def LastMember (members : List (Literal × Tree)) (name : String) (t : Tree) : Prop :=
  ∃ before after, members = before ++ (some name, t) :: after ∧ ∀ m ∈ after, m.1 ≠ some name

theorem find?_reverse_eq_some_iff {members : List (Literal × Tree)} {name : String} {t : Tree} :
    (members.reverse.find? (·.1 == some name)).map (·.2) = some t ↔
      LastMember members name t := by
  constructor
  · intro h
    obtain ⟨⟨k, t⟩, hfind, rfl⟩ := Option.map_eq_some_iff.mp h
    obtain ⟨hk, after, before, hmembers, hafter⟩ := List.find?_eq_some_iff_append.mp hfind
    obtain rfl : k = some name := eq_of_beq hk
    refine ⟨before.reverse, after.reverse, ?_, ?_⟩
    · rw [← List.reverse_reverse members, hmembers]
      simp
    · intro m hm heq
      have hne := hafter m (List.mem_reverse.mp hm)
      simp [heq] at hne
  · rintro ⟨before, after, rfl, hafter⟩
    have hnone : after.reverse.find? (·.1 == some name) = none := by
      rw [List.find?_eq_none]
      intro m hm
      simpa using hafter m (List.mem_reverse.mp hm)
    simp [List.find?_append, hnone]

theorem map_of_membersAt? {depth : ℕ} {members : List (Literal × Tree)}
    {ms : List (String × Json)} (h : membersAt? depth members = some ms) :
    members.map (fun m => (m.1, m.2.valueAt? depth)) = ms.map fun m => (some m.1, some m.2) := by
  induction members generalizing ms with
  | nil =>
      cases h
      rfl
  | cons m members ih =>
      obtain ⟨k, t⟩ := m
      rw [membersAt?] at h
      obtain ⟨k, rfl, hrest⟩ := Option.bind_eq_some_iff.mp h
      obtain ⟨v, hv, hrest⟩ := Option.bind_eq_some_iff.mp hrest
      obtain ⟨vs, hvs, heq⟩ := Option.bind_eq_some_iff.mp hrest
      cases heq
      rw [List.map_cons, List.map_cons, ih hvs, hv]

theorem find?_of_membersAt? {depth : ℕ} {members : List (Literal × Tree)}
    {ms : List (String × Json)} (h : membersAt? depth members = some ms) (name : String) :
    (members.reverse.find? (·.1 == some name)).map (·.2.valueAt? depth) =
      (ms.reverse.find? (·.1 == name)).map fun m => some m.2 := by
  have hfind := congrArg (fun l => (l.reverse.find? (·.1 == some name)).map (·.2))
    (map_of_membersAt? h)
  simp only [← List.map_reverse, List.find?_map, Option.map_map] at hfind
  exact hfind

/-! ### What a text says -/

theorem valueAt?_eq_string_iff {t : Tree} {depth : ℕ} {s : String} :
    t.valueAt? depth = some (.string s) ↔ t = .string (some s) := by
  cases t <;> simp [Tree.valueAt?]

/-- **What a value has for a name** is the value of the last member of the name. -/
theorem get?_eq_some_iff {t : Tree} {depth : ℕ} {v w : Json} (h : t.valueAt? depth = some v)
    {name : String} : v.get? name = some w ↔
      ∃ members member, t = .object members ∧ LastMember members name member ∧
        member.valueAt? (depth - 1) = some w := by
  cases t with
  | object members =>
      rw [Tree.valueAt?] at h
      split_ifs at h
      obtain ⟨ms, hms, rfl⟩ := Option.map_eq_some_iff.mp h
      have hfind := find?_of_membersAt? hms name
      simp only [Tree.object.injEq, existsAndEq, true_and, ← find?_reverse_eq_some_iff]
      rw [get?, find?_sortMembers]
      cases hm : members.reverse.find? (·.1 == some name) with
      | none =>
          rw [hm, Option.map_none, eq_comm, Option.map_eq_none_iff] at hfind
          rw [hfind]
          simp
      | some m =>
          rw [hm, Option.map_some, eq_comm] at hfind
          obtain ⟨m', hm', heq⟩ := Option.map_eq_some_iff.mp hfind
          rw [hm', Option.map_some, Option.map_some, Option.some_inj]
          simp only [Option.some_inj, exists_eq_left']
          rw [← heq, Option.some_inj]
  | null | bool | number | string | array =>
      have hvalue : ∀ ms, v ≠ .object ms := by
        rintro ms rfl
        simp [Tree.valueAt?] at h
      cases v with
      | object ms => exact absurd rfl (hvalue ms)
      | null | bool | number | string | array => simp [get?]

/-- The text is a JSON object whose last member of the name has the value. -/
def Holds (text name : String) (v : Json) : Prop :=
  ∃ members member, IsJson text (.object members) ∧ LastMember members name member ∧
    member.valueAt? (maxDepth - 1) = some v

theorem holds_iff {text name : String} {w : Json} : Holds text name w ↔
    ∃ v, (Tree.ofString? text).bind Tree.value? = some v ∧ v.get? name = some w := by
  constructor
  · rintro ⟨members, member, hjson, hlast, hw⟩
    obtain ⟨htree, hvalue⟩ := isJson_iff.mp hjson
    obtain ⟨v, hv⟩ := Option.isSome_iff_exists.mp hvalue
    exact ⟨v, Option.bind_eq_some_iff.mpr ⟨_, htree, hv⟩,
      (get?_eq_some_iff hv).mpr ⟨members, member, rfl, hlast, hw⟩⟩
  · rintro ⟨v, hread, hget⟩
    obtain ⟨t, htree, hv⟩ := Option.bind_eq_some_iff.mp hread
    obtain ⟨members, member, rfl, hlast, hw⟩ := (get?_eq_some_iff hv).mp hget
    exact ⟨members, member, isJson_iff.mpr ⟨htree, Option.isSome_of_eq_some hv⟩, hlast, hw⟩

/-- The text is a JSON object whose last member of the name is the text `s`. -/
def Says (text name s : String) : Prop :=
  ∃ members, IsJson text (.object members) ∧ LastMember members name (.string (some s))

theorem says_eq_holds (text name s : String) : Says text name s = Holds text name (.string s) := by
  simp only [Says, Holds, valueAt?_eq_string_iff, existsAndEq, and_true]

theorem says_iff {text name s : String} :
    Says text name s ↔
      ∃ v, (Tree.ofString? text).bind Tree.value? = some v ∧ v.get? name = some (.string s) := by
  rw [says_eq_holds, holds_iff]

end PenPlotter.Json
