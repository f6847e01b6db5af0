import PenPlotter.Json.Reading
import PenPlotter.Proofs.Json.Printer

/-! # Printed records and numbers

A printed object whose members have different names is read as the record of these
(`Json.record?_object`), and a whole number of at most 64 bits as it was.  A double is read in
single steps, after which it need not be the same: a finite one that is, `ReadsBack`. -/

namespace PenPlotter

/-- Of members with different names the order does not matter. -/
theorem find?_reverse_of_nodup {τ : Type} {members : List (String × τ)}
    (hkeys : (members.map (·.1)).Nodup) (name : String) :
    members.reverse.find? (·.1 == name) = members.find? (·.1 == name) := by
  induction members with
  | nil => rfl
  | cons m members ih =>
      rw [List.map_cons, List.nodup_cons] at hkeys
      rw [List.reverse_cons, List.find?_append, ih hkeys.2, List.find?_cons]
      by_cases hm : m.1 = name
      · have hnone : members.find? (·.1 == name) = none := by
          rw [List.find?_eq_none]
          rintro m' hmem heq
          exact hkeys.1 (hm ▸ eq_of_beq heq ▸ List.mem_map_of_mem hmem)
        simp [hnone, hm]
      · have hfalse : (m.1 == name) = false := beq_eq_false_iff_ne.2 hm
        simp [hfalse]

namespace Json

theorem memberTrees_eq (members : List (String × Json)) :
    memberTrees members = members.map fun (k, v) => (some k, v.tree) := by
  induction members with
  | nil => rfl
  | cons m members ih => rw [memberTrees, ih, List.map_cons]

/-- The object with the given members. -/
def Tree.record (members : List (String × Tree)) : Tree :=
  .object (members.map fun (k, t) => (some k, t))

theorem Tree.knownMembers?_map {names : List String} {members : List (String × Tree)}
    (hnames : ∀ m ∈ members, m.1 ∈ names) (found : List (String × Tree))
    (hkeys : ((members.reverse ++ found).map (·.1)).Nodup) :
    knownMembers? names found (members.map fun (k, t) => (some k, t)) =
      some (members.reverse ++ found) := by
  induction members generalizing found with
  | nil => rfl
  | cons m members ih =>
      obtain ⟨k, t⟩ := m
      rw [List.forall_mem_cons] at hnames
      rw [List.reverse_cons, List.append_assoc] at hkeys ⊢
      have hnew : found.any (·.1 == k) = false := by
        rw [List.map_append, List.nodup_append] at hkeys
        have hcons := hkeys.2.1
        rw [List.singleton_append, List.map_cons, List.nodup_cons] at hcons
        rw [List.any_eq_false]
        intro m hm heq
        exact hcons.1 (eq_of_beq heq ▸ List.mem_map_of_mem (f := (·.1)) hm)
      simp only [List.map_cons, knownMembers?, Option.bind_eq_bind, Option.bind_some,
        List.contains_iff_mem.2 hnames.1, hnew, if_true, Bool.false_eq_true, if_false]
      exact ih hnames.2 _ hkeys

/-- A record whose members have different names is read as the fields that it has. -/
theorem Tree.record?_record (names : List String) (members : List (String × Tree))
    (hkeys : (members.map (·.1)).Nodup) (hnames : ∀ m ∈ members, m.1 ∈ names) :
    ∃ f, (record members).record? names = some f ∧
      ∀ name, f.get? name = (members.find? (·.1 == name)).map (·.2) := by
  have hknown := knownMembers?_map hnames [] (by simpa using hkeys)
  refine ⟨⟨false, members.reverse⟩, ?_, fun name => ?_⟩
  · rw [record, record?, hknown, List.append_nil]
    rfl
  · rw [Fields.get?, find?_reverse_of_nodup hkeys]

theorem record?_object (names : List String) (members : List (String × Json))
    (hkeys : (members.map (·.1)).Nodup) (hnames : ∀ m ∈ members, m.1 ∈ names) :
    ∃ f, (Json.object members).tree.record? names = some f ∧
      ∀ name, f.get? name = (members.find? (·.1 == name)).map (·.2.tree) := by
  have hkeys' : ((members.map fun (k, v) => (k, v.tree)).map (·.1)).Nodup := by
    simpa [Function.comp_def] using hkeys
  obtain ⟨f, hf, hget⟩ := Tree.record?_record names _ hkeys' (List.forall_mem_map.mpr hnames)
  refine ⟨f, ?_, fun name => ?_⟩
  · rw [tree, memberTrees_eq, ← hf, Tree.record, List.map_map]
    rfl
  · rw [hget, List.find?_map, Option.map_map]
    rfl

/-! ### Texts and numbers -/

theorem string?_string (s : String) : (Json.string s).tree.string? = some s := rfl

theorem name?_string (s : String) : (Json.string s).tree.name? = some s := rfl

theorem nullable?_stringOrNull (s : Option String) :
    (Json.stringOrNull s).tree.nullable? Tree.string? = some s := by
  cases s <;> rfl

theorem tree_natural (n : ℕ) :
    (Json.natural n).tree = .number ⟨false, Nat.toDigits 10 n, none, none⟩ := by
  have hsign : decide ((n : ℤ) < 0) = false := by simp
  rw [Json.natural, tree, JsonNumber.tree, Numeral.ofChars?_integer, hsign, Int.natAbs_natCast]

theorem natural?_natural {n bits : ℕ} (hn : n < 2 ^ bits) (hbits : bits ≤ 64) :
    (Json.natural n).tree.natural? bits = some n := by
  have hword : n < 2 ^ 64 := lt_of_lt_of_le hn (Nat.pow_le_pow_right (by decide) hbits)
  rw [tree_natural, Tree.natural?, Numeral.value?_digits hword]
  simpa using hn

/-- A finite double is read back from its numeral as it was. -/
def ReadsBack (x : Float) : Prop :=
  (Numeral.ofChars? (JsonNumber.float x).text.toList).bind Numeral.value? = some (.float x)

theorem ReadsBack.float?_float {x : Float} (hx : ReadsBack x) :
    (Json.float x).tree.float? = some x := by
  obtain ⟨m, hread, hvalue⟩ := Option.bind_eq_some_iff.1 hx
  rw [Json.float, tree, JsonNumber.tree, hread]
  simp only [Tree.float?, hvalue]

theorem float?_float_of_not_finite {x : Float} (hx : x.isFinite = false) :
    (Json.float x).tree.float? = none := by
  rw [Json.float, tree, JsonNumber.tree, JsonNumber.text, if_neg (by simp [hx])]
  rfl

end Json
end PenPlotter
