import PenPlotter.Proofs.Toml.Value
import PenPlotter.Toml.Document

/-! # Written TOML documents read back

`Says cs ss`: the text says the statements, as long as there is fuel for each of its characters.
A document of sections says a header for each and the pairs in it (`says_sections`), and following
these the tables are put together again (`ofString?_sectionsText`). -/

namespace PenPlotter.Toml

variable {cs rest : List Char} {name : String} {v : Toml} {s : Statement} {ss : List Statement}

/-- A name that stands in a key without quotation marks. -/
structure IsBare (name : String) : Prop where
  ne_nil : name.toList ≠ []
  chars : ∀ c ∈ name.toList, isKeyChar c

instance (name : String) : Decidable (IsBare name) :=
  decidable_of_iff (name.toList ≠ [] ∧ name.toList.all isKeyChar)
    ⟨fun h => ⟨h.1, List.all_eq_true.1 h.2⟩, fun h => ⟨h.ne_nil, List.all_eq_true.2 h.chars⟩⟩

/-! ### Keys -/

theorem head_bare (h : IsBare name) {c : Char} (hc : isKeyChar c = false) (rest : List Char) :
    (name.toList ++ rest).head? ≠ some c := by
  intro heq
  rw [List.head?_append_of_ne_nil _ h.ne_nil] at heq
  rw [h.chars c (List.mem_of_mem_head? heq)] at hc
  cases hc

theorem skipSpace_cons {c : Char} (h : isSpace c = false) (cs : List Char) :
    skipSpace (c :: cs) = c :: cs := List.dropWhile_cons_of_neg (by simp [h])

theorem isSpace_of_isKeyChar {c : Char} (h : isKeyChar c) : isSpace c = false := by
  by_contra hspace
  simp only [isSpace, Bool.not_eq_false, Bool.or_eq_true, beq_iff_eq] at hspace
  rcases hspace with rfl | rfl <;> exact absurd h (by decide)

theorem skipSpace_bare (h : IsBare name) (rest : List Char) :
    skipSpace (name.toList ++ rest) = name.toList ++ rest := by
  obtain ⟨c, cs, hname⟩ := List.exists_cons_of_ne_nil h.ne_nil
  rw [hname]
  exact skipSpace_cons (isSpace_of_isKeyChar (h.chars c (by simp [hname]))) (cs ++ rest)

theorem takeName?_bare (h : IsBare name) {c : Char} (hc : isKeyChar c = false) :
    takeName? (name.toList ++ c :: rest) = some (name, c :: rest) := by
  have hline : takeLineText? (name.toList ++ c :: rest) = none := by
    unfold takeLineText?
    split
    · rename_i heq
      exact absurd (congrArg List.head? heq) (head_bare h rfl _)
    · rename_i heq
      exact absurd (congrArg List.head? heq) (head_bare h rfl _)
    · rfl
  have hcut : (name.toList ++ c :: rest).takeWhile isKeyChar = name.toList ∧
      (name.toList ++ c :: rest).dropWhile isKeyChar = c :: rest := by
    rw [List.takeWhile_append_of_pos h.chars, List.dropWhile_append_of_pos h.chars]
    simp [hc]
  have hsome : name.toList.isEmpty = false := by simpa using h.ne_nil
  simp only [takeName?, hline, hcut, hsome, Bool.false_eq_true, if_false, String.ofList_toList]

theorem takeKey?_bare (h : IsBare name) {c d : Char} (hc : isKeyChar c = false)
    (hskip : skipSpace (c :: rest) = d :: cs) (hd : d ≠ '.') :
    takeKey? (nestingLimit - 1) (name.toList ++ c :: rest) = some ([name], d :: cs) := by
  have hlimit : nestingLimit - 1 = 78 + 1 := rfl
  rw [hlimit, takeKey?, skipSpace_bare h, takeName?_bare h hc]
  simp only [Option.bind_eq_bind, Option.bind_some, hskip]
  split
  · rename_i heq
    exact absurd (List.cons.inj heq).1 hd
  · rfl

/-! ### Lines -/

def Says (cs : List Char) (ss : List Statement) : Prop :=
  ∀ fuel, cs.length < fuel → statements? fuel cs = some ss

theorem says_nil : Says [] [] := by
  rintro (_ | fuel) hfuel
  · exact absurd hfuel (by simp)
  · rfl

theorem Says.emptyLine (h : Says rest ss) : Says ('\n' :: rest) ss := by
  rintro (_ | fuel) hfuel
  · exact absurd hfuel (by simp)
  · have hrest := h fuel (by simpa using hfuel)
    exact hrest

theorem Says.line {c : Char} (hhead : c ∉ [' ', '\t', '#', '\n', '\r'])
    (hs : takeStatement? (c :: cs ++ '\n' :: rest) = some (s, '\n' :: rest)) (h : Says rest ss) :
    Says (c :: cs ++ '\n' :: rest) (s :: ss) := by
  simp only [List.mem_cons, List.not_mem_nil, or_false, not_or] at hhead
  rintro (_ | fuel) hfuel
  · exact absurd hfuel (by simp)
  · have hrest : statements? fuel rest = some ss := by
      refine h fuel ?_
      simp only [List.cons_append, List.length_cons, List.length_append] at hfuel
      omega
    have hskip : skipSpace (c :: (cs ++ '\n' :: rest)) = c :: (cs ++ '\n' :: rest) :=
      skipSpace_cons (by simp [isSpace, hhead]) _
    have hafter : afterLine? ('\n' :: rest) = some rest := rfl
    rw [List.cons_append] at hs ⊢
    rw [statements?, hskip]
    simp only [List.head?_cons, Option.some.injEq, hhead, or_self, if_false, hs, hafter, hrest,
      Option.bind_eq_bind, Option.bind_some]

theorem Says.header (hname : IsBare name) (h : Says rest ss) :
    Says (("[" ++ name ++ "]\n").toList ++ rest) (.header false [] name :: ss) := by
  have hskip : skipSpace (']' :: '\n' :: rest) = ']' :: '\n' :: rest := rfl
  have hkey := takeKey?_bare hname (by decide) hskip (by decide)
  have hs : takeStatement? ('[' :: (name.toList ++ [']']) ++ '\n' :: rest) =
      some (.header false [] name, '\n' :: rest) := by
    have hitem : ∀ rest', name.toList ++ ']' :: '\n' :: rest = '[' :: rest' → False :=
      fun rest' heq => head_bare hname rfl _ (congrArg List.head? heq)
    have htext : '[' :: (name.toList ++ [']']) ++ '\n' :: rest =
        '[' :: (name.toList ++ ']' :: '\n' :: rest) := by simp
    rw [htext, takeStatement?, if_pos List.head?_cons, takeHeader?.eq_2 _ hitem, hkey]
    rfl
  have hline := h.line (c := '[') (by decide) hs
  simpa using hline

theorem Says.pair (hname : IsBare name) (hv : Simple v) {text : String}
    (htext : scalarText? v = some text) (h : Says rest ss) :
    Says ((name ++ " = " ++ text ++ "\n").toList ++ rest) (.pair [] name v :: ss) := by
  have hskip : skipSpace (' ' :: '=' :: ' ' :: (text.toList ++ '\n' :: rest)) =
      '=' :: ' ' :: (text.toList ++ '\n' :: rest) := rfl
  have hkey := takeKey?_bare hname (by decide) hskip (by decide)
  have hvalue : skipSpace (' ' :: (text.toList ++ '\n' :: rest)) = text.toList ++ '\n' :: rest := by
    obtain ⟨c, cs, hcons, hspace⟩ := exists_scalarText hv htext
    rw [hcons]
    exact skipSpace_cons hspace _
  have hs : takeStatement? (name.toList ++ ' ' :: '=' :: ' ' :: (text.toList ++ '\n' :: rest)) =
      some (.pair [] name v, '\n' :: rest) := by
    have hequals : takeChar? '=' ('=' :: ' ' :: (text.toList ++ '\n' :: rest)) =
        some (' ' :: (text.toList ++ '\n' :: rest)) := rfl
    have hsplit : splitKey? [name] = some ([], name) := rfl
    rw [takeStatement?, if_neg (head_bare hname rfl _), takePair?, hkey]
    simp only [Option.bind_eq_bind, Option.bind_some, hsplit, hequals, hvalue,
      takeValue?_scalarText hv htext, Option.map_some]
  obtain ⟨c, cs, hcons⟩ := List.exists_cons_of_ne_nil hname.ne_nil
  have hhead : c ∉ [' ', '\t', '#', '\n', '\r'] := by
    have hc := hname.chars c (by simp [hcons])
    intro hmem
    simp only [List.mem_cons, List.not_mem_nil, or_false] at hmem
    rcases hmem with rfl | rfl | rfl | rfl | rfl <;> exact absurd hc (by decide)
  have hs : takeStatement? (c :: (cs ++ ' ' :: '=' :: ' ' :: text.toList) ++ '\n' :: rest) =
      some (.pair [] name v, '\n' :: rest) := by simpa [hcons] using hs
  simpa [hcons] using h.line hhead hs

/-! ### Sections -/

def sectionStatements (name : String) (members : List (String × Toml)) : List Statement :=
  .header false [] name :: members.map fun (key, v) => .pair [] key v

theorem says_lines {members : List (String × Toml)} {lines : List String}
    (hmembers : ∀ m ∈ members, IsBare m.1 ∧ Simple m.2)
    (hlines : members.mapM (fun (key, v) => (scalarText? v).map fun text =>
      key ++ " = " ++ text ++ "\n") = some lines) (h : Says rest ss) :
    Says ((String.join lines).toList ++ rest)
      ((members.map fun (key, v) => Statement.pair [] key v) ++ ss) := by
  induction members generalizing lines with
  | nil =>
      cases Option.some.inj hlines
      exact h
  | cons m members ih =>
      obtain ⟨key, v⟩ := m
      rw [List.forall_mem_cons] at hmembers
      simp only [List.mapM_cons, Option.bind_eq_bind, Option.bind_eq_some_iff,
        Option.map_eq_some_iff] at hlines
      obtain ⟨_, ⟨text, htext, rfl⟩, lines', hlines', heq⟩ := hlines
      cases Option.some.inj heq
      rw [String.join_cons, String.toList_append, List.append_assoc]
      exact (ih hmembers.2 hlines').pair hmembers.1.1 hmembers.1.2 htext

theorem says_section {members : List (String × Toml)} {text : String} (hname : IsBare name)
    (hmembers : ∀ m ∈ members, IsBare m.1 ∧ Simple m.2)
    (htext : sectionText? name members = some text) (h : Says rest ss) :
    Says (text.toList ++ rest) (sectionStatements name members ++ ss) := by
  simp only [sectionText?, Option.bind_eq_bind, Option.bind_eq_some_iff] at htext
  obtain ⟨lines, hlines, heq⟩ := htext
  rw [← Option.some.inj heq, String.toList_append, List.append_assoc]
  exact (says_lines hmembers hlines h).header hname

theorem says_sections {sections : List (String × List (String × Toml))} {texts : List String}
    (hnames : ∀ s ∈ sections, IsBare s.1 ∧ ∀ m ∈ s.2, IsBare m.1 ∧ Simple m.2)
    (htexts : sections.mapM (fun (name, members) => sectionText? name members) = some texts) :
    Says ("\n".intercalate texts).toList
      (sections.flatMap fun (name, members) => sectionStatements name members) := by
  induction sections generalizing texts with
  | nil =>
      cases Option.some.inj htexts
      exact says_nil
  | cons s sections ih =>
      rw [List.forall_mem_cons] at hnames
      simp only [List.mapM_cons, Option.bind_eq_bind, Option.bind_eq_some_iff] at htexts
      obtain ⟨text, htext, texts', htexts', heq⟩ := htexts
      cases Option.some.inj heq
      have hrest := ih hnames.2 htexts'
      rw [List.flatMap_cons]
      cases texts' with
      | nil =>
          rw [String.intercalate_singleton]
          have hsection := says_section hnames.1.1 hnames.1.2 htext hrest
          simpa using hsection
      | cons text' texts =>
          rw [String.intercalate_cons_cons, String.toList_append, String.toList_append,
            List.append_assoc]
          exact says_section hnames.1.1 hnames.1.2 htext hrest.emptyLine

/-! ### Tables -/

section tables

variable {ms : Members} {node old : Node}

theorem get?_append (h : name ∉ ms.map (·.1)) (rest : Members) :
    Members.get? name (ms ++ rest) = Members.get? name rest := by
  have hnone : ms.find? (·.1 == name) = none := by
    rw [List.find?_eq_none]
    intro m hm heq
    exact h (eq_of_beq heq ▸ List.mem_map_of_mem hm)
  rw [Members.get?, Members.get?, List.find?_append, hnone, Option.none_or]

theorem get?_of_notMem (h : name ∉ ms.map (·.1)) : Members.get? name ms = none := by
  have hget := get?_append h []
  rwa [List.append_nil] at hget

theorem set_append (h : name ∉ ms.map (·.1)) (rest : Members) :
    Members.set name node (ms ++ rest) = ms ++ Members.set name node rest := by
  induction ms with
  | nil => rfl
  | cons m ms ih =>
      rw [List.map_cons, List.mem_cons, not_or] at h
      rw [List.cons_append, Members.set, if_neg fun heq => h.1 heq.symm, ih h.2, List.cons_append]

theorem set_of_notMem (h : name ∉ ms.map (·.1)) :
    Members.set name node ms = ms ++ [(name, node)] := by
  have hset : Members.set name node (ms ++ []) = ms ++ [(name, node)] := set_append h []
  rwa [List.append_nil] at hset

/-- The members of a table that holds nothing but values. -/
def valueNodes (members : List (String × Toml)) : Members :=
  members.map fun (key, v) => (key, .value v)

theorem follow?_pair {inner : Members} {key : String} (hname : name ∉ ms.map (·.1))
    (hkey : key ∉ inner.map (·.1)) :
    Draft.follow? ⟨ms ++ [(name, .table .defined inner)], [name]⟩ (.pair [] key v) =
      some ⟨ms ++ [(name, .table .defined (inner ++ [(key, .value v)]))], [name]⟩ := by
  have hget : Members.get? name (ms ++ [(name, .table .defined inner)]) =
      some (.table .defined inner) := by
    rw [get?_append hname]
    simp [Members.get?]
  have hput : Members.put? [] key v .defined inner =
      some (.defined, inner ++ [(key, .value v)]) := by
    rw [Members.put?, Members.alter?, get?_of_notMem hkey, set_of_notMem hkey]
    rfl
  have hset : Members.set name (.table .defined (inner ++ [(key, .value v)]))
      (ms ++ [(name, .table .defined inner)]) =
        ms ++ [(name, .table .defined (inner ++ [(key, .value v)]))] := by
    rw [set_append hname, Members.set, if_pos rfl]
  have halter : Members.alter? .implied (fun kind ms => ms.put? [] key v kind) [name] .defined
      (ms ++ [(name, .table .defined inner)]) =
        some (.defined, ms ++ [(name, .table .defined (inner ++ [(key, .value v)]))]) := by
    rw [Members.alter?, hget]
    simp only [reduceCtorEq, false_and, if_false, Members.alter?, hput, Option.bind_eq_bind,
      Option.bind_some, hset]
  simp only [Draft.follow?, halter, Option.bind_eq_bind, Option.bind_some]

theorem follow_pairs {members : List (String × Toml)} (inner : Members)
    (hname : name ∉ ms.map (·.1))
    (hkeys : (inner.map (·.1) ++ members.map (·.1)).Nodup) :
    (members.map fun (key, v) => Statement.pair [] key v).foldlM Draft.follow?
        ⟨ms ++ [(name, .table .defined inner)], [name]⟩ =
      some ⟨ms ++ [(name, .table .defined (inner ++ valueNodes members))], [name]⟩ := by
  induction members generalizing inner with
  | nil => simp [valueNodes]
  | cons m members ih =>
      obtain ⟨key, v⟩ := m
      have hkey : key ∉ inner.map (·.1) := fun hmem =>
        (List.nodup_append.1 hkeys).2.2 key hmem key (by simp) rfl
      have hrest := ih (inner ++ [(key, .value v)]) (by simpa using hkeys)
      rw [List.map_cons, List.foldlM_cons, follow?_pair hname hkey, Option.bind_eq_bind,
        Option.bind_some, hrest]
      simp [valueNodes]

/-- A header opens a table behind the others, and the pairs of the section fill it. -/
theorem follow_section {members : List (String × Toml)} {current : List String}
    (hname : name ∉ ms.map (·.1)) (hkeys : (members.map (·.1)).Nodup) :
    (sectionStatements name members).foldlM Draft.follow? ⟨ms, current⟩ =
      some ⟨ms ++ [(name, .table .defined (valueNodes members))], [name]⟩ := by
  have hopen : Draft.follow? ⟨ms, current⟩ (.header false [] name) =
      some ⟨ms ++ [(name, .table .defined [])], [name]⟩ := by
    have htable : ms.openTable? [] name = some (ms ++ [(name, .table .defined [])]) := by
      rw [Members.openTable?, Members.alter?, get?_of_notMem hname, set_of_notMem hname]
      rfl
    simp only [Draft.follow?, Bool.false_eq_true, if_false, htable, Option.bind_eq_bind,
      Option.bind_some, List.nil_append]
  rw [sectionStatements, List.foldlM_cons, hopen, Option.bind_eq_bind, Option.bind_some,
    follow_pairs [] hname hkeys, List.nil_append]

theorem follow_sections {sections : List (String × List (String × Toml))} (ms : Members)
    (current : List String)
    (hnames : (ms.map (·.1) ++ sections.map (·.1)).Nodup)
    (hkeys : ∀ s ∈ sections, (s.2.map (·.1)).Nodup) :
    ∃ current', (sections.flatMap fun (name, members) => sectionStatements name members).foldlM
        Draft.follow? ⟨ms, current⟩ =
      some ⟨ms ++ sections.map fun (name, members) => (name, .table .defined (valueNodes members)),
        current'⟩ := by
  induction sections generalizing ms current with
  | nil => exact ⟨current, by simp⟩
  | cons s sections ih =>
      obtain ⟨name, members⟩ := s
      rw [List.forall_mem_cons] at hkeys
      have hname : name ∉ ms.map (·.1) := fun hmem =>
        (List.nodup_append.1 hnames).2.2 name hmem name (by simp) rfl
      obtain ⟨current', hrest⟩ := ih (ms ++ [(name, .table .defined (valueNodes members))]) [name]
        (by simpa using hnames) hkeys.2
      refine ⟨current', ?_⟩
      rw [List.flatMap_cons, List.foldlM_append, follow_section hname hkeys.1, Option.bind_eq_bind,
        Option.bind_some, hrest]
      simp

theorem finishMembers_valueNodes (members : List (String × Toml)) :
    Node.finishMembers (valueNodes members) = members := by
  induction members with
  | nil => rfl
  | cons m members ih =>
      change (m.1, (Node.value m.2).finish) :: Node.finishMembers (valueNodes members) = _
      rw [ih, Node.finish]

theorem finishMembers_sections (sections : List (String × List (String × Toml))) :
    Node.finishMembers (sections.map fun (name, members) =>
        (name, .table .defined (valueNodes members))) =
      sections.map fun (name, members) => (name, .table members) := by
  induction sections with
  | nil => rfl
  | cons s sections ih =>
      rw [List.map_cons, Node.finishMembers, ih, Node.finish, finishMembers_valueNodes,
        List.map_cons]

end tables

/-! ### Documents -/

theorem head_sectionsText {sections : List (String × List (String × Toml))} {text : String}
    (htext : sectionsText? sections = some text) : text.toList.head? ≠ some byteOrderMark := by
  simp only [sectionsText?, Option.bind_eq_bind, Option.bind_eq_some_iff] at htext
  obtain ⟨texts, htexts, heq⟩ := htext
  rw [← Option.some.inj heq]
  cases sections with
  | nil =>
      cases Option.some.inj htexts
      simp
  | cons s sections =>
      simp only [List.mapM_cons, Option.bind_eq_bind, Option.bind_eq_some_iff] at htexts
      obtain ⟨text, htext, texts', -, heq⟩ := htexts
      simp only [sectionText?, Option.bind_eq_bind, Option.bind_eq_some_iff] at htext
      obtain ⟨lines, -, heq'⟩ := htext
      cases Option.some.inj heq'
      cases Option.some.inj heq
      cases texts' <;> simp [String.intercalate_cons_cons, byteOrderMark]

/-- **A document of sections** is read back as the tables that it was written from. -/
theorem ofString?_sectionsText {sections : List (String × List (String × Toml))} {text : String}
    (hnames : (sections.map (·.1)).Nodup) (hkeys : ∀ s ∈ sections, (s.2.map (·.1)).Nodup)
    (hbare : ∀ s ∈ sections, IsBare s.1 ∧ ∀ m ∈ s.2, IsBare m.1 ∧ Simple m.2)
    (htext : sectionsText? sections = some text) :
    ofString? text =
      some (.table (sections.map fun (name, members) => (name, .table members))) := by
  have hhead := head_sectionsText htext
  simp only [sectionsText?, Option.bind_eq_bind, Option.bind_eq_some_iff] at htext
  obtain ⟨texts, htexts, heq⟩ := htext
  cases Option.some.inj heq
  have hsays := says_sections hbare htexts _ (Nat.lt_succ_self _)
  obtain ⟨current, hfollow⟩ := follow_sections [] [] (by simpa using hnames) hkeys
  simp only [ofString?, if_neg hhead, hsays, Option.bind_eq_bind, Option.bind_some, ofStatements?,
    hfollow, List.nil_append, finishMembers_sections]

end PenPlotter.Toml
