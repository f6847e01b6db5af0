import PenPlotter.Json.Tree
import PenPlotter.Proofs.Json.Scan

/-! # What is printed reads back

`Json.tree` is the syntax tree of a printed value.  Its tokens are what the scanner makes of the
printed text (`scans_compact`, `scans_prettyAt`), and the reader puts them together again
(`run_tokens`), so every printed value is well-formed and read as its tree (`ofString?_compact`,
`ofString?_pretty`). -/

namespace PenPlotter

/-- What a printed number is read as. -/
def JsonNumber.tree (n : JsonNumber) : Json.Tree :=
  match Json.Numeral.ofChars? n.text.toList with
  | some m => .number m
  | none => .null

namespace Json

mutual

/-- What a printed value is read as. -/
def tree : Json → Tree
  | .null => .null
  | .bool b => .bool b
  | .number n => n.tree
  | .string s => .string (some s)
  | .array items => .array (itemTrees items)
  | .object members => .object (memberTrees members)

def itemTrees : List Json → List Tree
  | [] => []
  | v :: rest => v.tree :: itemTrees rest

def memberTrees : List (String × Json) → List (Literal × Tree)
  | [] => []
  | (k, v) :: rest => (some k, v.tree) :: memberTrees rest

end

mutual

def Tree.tokens : Tree → List Token
  | .null => [.null]
  | .bool b => [.bool b]
  | .number n => [.number n]
  | .string s => [.string s]
  | .array items => .openBracket :: (itemTokens items ++ [.closeBracket])
  | .object members => .openBrace :: (memberTokens members ++ [.closeBrace])

/-- The tokens of items with commas between them. -/
def itemTokens : List Tree → List Token
  | [] => []
  | [t] => t.tokens
  | t :: rest => t.tokens ++ .comma :: itemTokens rest

/-- The tokens of members with commas between them. -/
def memberTokens : List (Literal × Tree) → List Token
  | [] => []
  | [(k, t)] => .string k :: .colon :: t.tokens
  | (k, t) :: rest => .string k :: .colon :: (t.tokens ++ .comma :: memberTokens rest)

end

/-! ### Reading tokens -/

/-- A value may begin. -/
def Begins (e : Expectation) : Prop := e = .value ∨ e = .firstItem

/-- A key may begin, behind the given members. -/
def BeginsKey (e : Expectation) (done : List (Literal × Tree)) : Prop :=
  e = .key done ∨ e = .firstKey ∧ done = []

mutual

/-- **The tokens of a tree** are read as the tree. -/
theorem run_tokens (t : Tree) {e : Expectation} (he : Begins e) (frames : List Frame)
    (ts : List Token) : run e frames (t.tokens ++ ts) = run (.finished t) frames ts := by
  cases t with
  | null => rcases he with rfl | rfl <;> rfl
  | bool b => rcases he with rfl | rfl <;> rfl
  | number n => rcases he with rfl | rfl <;> rfl
  | string s => rcases he with rfl | rfl <;> rfl
  | array items =>
      have hopen : run e frames ((Tree.array items).tokens ++ ts) =
          run .firstItem (.array [] :: frames) (itemTokens items ++ .closeBracket :: ts) := by
        rw [Tree.tokens, List.cons_append, List.append_assoc]
        rcases he with rfl | rfl <;> rfl
      rw [hopen]
      cases items with
      | nil => rfl
      | cons t rest => exact run_itemTokens t rest (.inr rfl) [] frames ts
  | object members =>
      have hopen : run e frames ((Tree.object members).tokens ++ ts) =
          run .firstKey frames (memberTokens members ++ .closeBrace :: ts) := by
        rw [Tree.tokens, List.cons_append, List.append_assoc]
        rcases he with rfl | rfl <;> rfl
      rw [hopen]
      cases members with
      | nil => rfl
      | cons m rest => exact run_memberTokens m rest (.inr ⟨rfl, rfl⟩) frames ts
termination_by sizeOf t

theorem run_itemTokens (t : Tree) (items : List Tree) {e : Expectation} (he : Begins e)
    (done : List Tree) (frames : List Frame) (ts : List Token) :
    run e (.array done :: frames) (itemTokens (t :: items) ++ .closeBracket :: ts) =
      run (.finished (.array (done.reverse ++ t :: items))) frames ts := by
  cases items with
  | nil =>
      rw [itemTokens, run_tokens t he, run, step, List.reverse_cons]
  | cons t' rest =>
      rw [itemTokens, List.append_assoc, run_tokens t he, List.cons_append, run, step]
      · simp only
        rw [run_itemTokens t' rest (.inl rfl), List.reverse_cons, List.append_assoc]
        rfl
      · simp
termination_by sizeOf (t :: items)

theorem run_memberTokens (m : Literal × Tree) (members : List (Literal × Tree))
    {e : Expectation} {done : List (Literal × Tree)} (he : BeginsKey e done)
    (frames : List Frame) (ts : List Token) :
    run e frames (memberTokens (m :: members) ++ .closeBrace :: ts) =
      run (.finished (.object (done.reverse ++ m :: members))) frames ts := by
  obtain ⟨k, t⟩ := m
  have hkey : ∀ tokens, run e frames (.string k :: .colon :: tokens) =
      run .value (.object done k :: frames) tokens := by
    intro tokens
    rcases he with rfl | ⟨rfl, rfl⟩ <;> rfl
  cases members with
  | nil =>
      rw [memberTokens, List.cons_append, List.cons_append, hkey, run_tokens t (.inl rfl), run,
        step, List.reverse_cons]
  | cons m' rest =>
      rw [memberTokens, List.cons_append, List.cons_append, hkey, List.append_assoc,
        run_tokens t (.inl rfl), List.cons_append, run, step]
      · simp only
        rw [run_memberTokens m' rest (.inl rfl), List.reverse_cons, List.append_assoc]
        rfl
      · simp
termination_by sizeOf (m :: members)

end

/-! ### Scanning what is printed -/

theorem separated_cons {c : Char} (hpart : Numeral.isPart c = false) (halpha : c.isAlpha = false)
    (rest : List Char) : Separated (c :: rest) := by
  intro d hd
  rw [List.head?_cons, Option.mem_some_iff] at hd
  exact hd ▸ ⟨hpart, halpha⟩

theorem separated_newLine (level : ℕ) (cs rest : List Char) :
    Separated ((newLine level).toList ++ cs ++ rest) := by
  rw [newLine, String.toList_append]
  exact separated_cons rfl rfl _

theorem scans_newLine (level : ℕ) (rest : List Char) : Scans (newLine level).toList [] rest := by
  refine scans_spaces fun c hc => ?_
  have hc : c = '\n' ∨ c = ' ' := by
    simp only [newLine, String.toList_append, String.toList_ofList, List.mem_append] at hc
    exact hc.imp List.mem_singleton.1 List.eq_of_mem_replicate
  rcases hc with rfl | rfl <;> rfl

variable {rest : List Char}

theorem scans_number (n : JsonNumber) (hrest : Separated rest) :
    Scans n.text.toList n.tree.tokens rest := by
  by_cases hfinite : ∀ x, n = .float x → x.isFinite
  · obtain ⟨m, hread⟩ := Numeral.exists_numeral n hfinite
    have htree : n.tree = .number m := by rw [JsonNumber.tree, hread]
    rw [htree, Tree.tokens]
    exact scans_numeral hread hrest
  · -- what is not finite is written as the word
    simp only [not_forall] at hfinite
    obtain ⟨x, rfl, hx⟩ := hfinite
    have htext : (JsonNumber.float x).text = "null" := by rw [JsonNumber.text, if_neg hx]
    have htree : (JsonNumber.float x).tree = .null := by
      rw [JsonNumber.tree, htext]
      rfl
    rw [htree, htext, Tree.tokens]
    exact scans_word rfl hrest

mutual

theorem scans_compact (v : Json) {rest : List Char} (hrest : Separated rest) :
    Scans v.compact.toList v.tree.tokens rest := by
  cases v with
  | null => exact scans_word rfl hrest
  | bool b => cases b <;> exact scans_word rfl hrest
  | number n => exact scans_number n hrest
  | string s => exact scans_quoted s
  | array items =>
      cases items with
      | nil =>
          have hall := (scans_punctuation (c := '[') rfl _).append
            (scans_punctuation (c := ']') rfl rest)
          simpa [compact, compactItems, tree, itemTrees, Tree.tokens, itemTokens] using hall
      | cons v items =>
          have hitems := (scans_compactItems v items (separated_cons rfl rfl rest)).append
            (scans_punctuation (c := ']') rfl rest)
          have hall := (scans_punctuation (c := '[') rfl _).append hitems
          simpa [compact, tree, Tree.tokens] using hall
  | object members =>
      cases members with
      | nil =>
          have hall := (scans_punctuation (c := '\x7b') rfl _).append
            (scans_punctuation (c := '\x7d') rfl rest)
          simpa [compact, compactMembers, tree, memberTrees, Tree.tokens, memberTokens] using hall
      | cons m members =>
          have hmembers := (scans_compactMembers m members (separated_cons rfl rfl rest)).append
            (scans_punctuation (c := '\x7d') rfl rest)
          have hall := (scans_punctuation (c := '\x7b') rfl _).append hmembers
          simpa [compact, tree, Tree.tokens] using hall
termination_by sizeOf v

theorem scans_compactItems (v : Json) (items : List Json) {rest : List Char}
    (hrest : Separated rest) :
    Scans (compactItems (v :: items)).toList (itemTokens (itemTrees (v :: items))) rest := by
  cases items with
  | nil => exact scans_compact v hrest
  | cons v' items =>
      have hcomma := (scans_punctuation (c := ',') rfl _).append
        (scans_compactItems v' items hrest)
      have hall := (scans_compact v (separated_cons rfl rfl _)).append hcomma
      simpa [compactItems, itemTrees, itemTokens] using hall
termination_by sizeOf (v :: items)

theorem scans_compactMembers (m : String × Json) (members : List (String × Json))
    {rest : List Char} (hrest : Separated rest) :
    Scans (compactMembers (m :: members)).toList
      (memberTokens (memberTrees (m :: members))) rest := by
  obtain ⟨k, v⟩ := m
  cases members with
  | nil =>
      have hvalue := (scans_punctuation (c := ':') rfl _).append (scans_compact v hrest)
      have hall := (scans_quoted k).append hvalue
      simpa [compactMembers, memberTrees, memberTokens] using hall
  | cons m' members =>
      have hcomma := (scans_punctuation (c := ',') rfl _).append
        (scans_compactMembers m' members hrest)
      have hvalue := (scans_punctuation (c := ':') rfl _).append
        ((scans_compact v (separated_cons rfl rfl _)).append hcomma)
      have hall := (scans_quoted k).append hvalue
      simpa [compactMembers, memberTrees, memberTokens] using hall
termination_by sizeOf (m :: members)

end

mutual

theorem scans_prettyAt (v : Json) (level : ℕ) {rest : List Char} (hrest : Separated rest) :
    Scans (v.prettyAt level).toList v.tree.tokens rest := by
  cases v with
  | null => exact scans_compact .null hrest
  | bool b => exact scans_compact (.bool b) hrest
  | number n => exact scans_compact (.number n) hrest
  | string s => exact scans_compact (.string s) hrest
  | array items =>
      cases items with
      | nil =>
          have hall := (scans_punctuation (c := '[') rfl _).append
            (scans_punctuation (c := ']') rfl rest)
          simpa [prettyAt, tree, itemTrees, Tree.tokens, itemTokens] using hall
      | cons v items =>
          have hclose := (scans_newLine level _).append
            (scans_punctuation (c := ']') rfl rest)
          have hitems := (scans_prettyItems v items (level + 1)
            (separated_newLine level [']'] rest)).append hclose
          have hopen := (scans_newLine (level + 1) _).append hitems
          have hall := (scans_punctuation (c := '[') rfl _).append hopen
          simpa [prettyAt, tree, Tree.tokens] using hall
  | object members =>
      cases members with
      | nil =>
          have hall := (scans_punctuation (c := '\x7b') rfl _).append
            (scans_punctuation (c := '\x7d') rfl rest)
          simpa [prettyAt, tree, memberTrees, Tree.tokens, memberTokens] using hall
      | cons m members =>
          have hclose := (scans_newLine level _).append
            (scans_punctuation (c := '\x7d') rfl rest)
          have hmembers := (scans_prettyMembers m members (level + 1)
            (separated_newLine level ['\x7d'] rest)).append hclose
          have hopen := (scans_newLine (level + 1) _).append hmembers
          have hall := (scans_punctuation (c := '\x7b') rfl _).append hopen
          simpa [prettyAt, tree, Tree.tokens] using hall
termination_by sizeOf v

theorem scans_prettyItems (v : Json) (items : List Json) (level : ℕ) {rest : List Char}
    (hrest : Separated rest) :
    Scans (prettyItems level (v :: items)).toList (itemTokens (itemTrees (v :: items))) rest := by
  cases items with
  | nil => exact scans_prettyAt v level hrest
  | cons v' items =>
      have hitems := (scans_newLine level _).append (scans_prettyItems v' items level hrest)
      have hcomma := (scans_punctuation (c := ',') rfl _).append hitems
      have hall := (scans_prettyAt v level (separated_cons rfl rfl _)).append hcomma
      simpa [prettyItems, itemTrees, itemTokens] using hall
termination_by sizeOf (v :: items)

theorem scans_prettyMembers (m : String × Json) (members : List (String × Json)) (level : ℕ)
    {rest : List Char} (hrest : Separated rest) :
    Scans (prettyMembers level (m :: members)).toList
      (memberTokens (memberTrees (m :: members))) rest := by
  obtain ⟨k, v⟩ := m
  cases members with
  | nil =>
      have hvalue := scans_space.append (scans_prettyAt v level hrest)
      have hall := (scans_quoted k).append ((scans_punctuation (c := ':') rfl _).append hvalue)
      simpa [prettyMembers, memberTrees, memberTokens] using hall
  | cons m' members =>
      have hmembers := (scans_newLine level _).append (scans_prettyMembers m' members level hrest)
      have hcomma := (scans_punctuation (c := ',') rfl _).append hmembers
      have hvalue := scans_space.append
        ((scans_prettyAt v level (separated_cons rfl rfl _)).append hcomma)
      have hall := (scans_quoted k).append ((scans_punctuation (c := ':') rfl _).append hvalue)
      simpa [prettyMembers, memberTrees, memberTokens] using hall
termination_by sizeOf (m :: members)

end

/-- A text that is scanned as the tokens of a tree is read as the tree. -/
theorem ofString?_of_scans {text : String} {t : Tree} (h : Scans text.toList t.tokens []) :
    Tree.ofString? text = some t := by
  have hscan : scan (text.toList.map some) = some t.tokens := by
    unfold Scans at h
    rw [List.append_nil] at h
    rw [h]
    simp [scan]
  have hrun := run_tokens t (.inl rfl) [] []
  rw [List.append_nil] at hrun
  rw [Tree.ofString?, hscan]
  exact hrun

/-- **Every printed value is well-formed** and read as its tree. -/
theorem ofString?_pretty (v : Json) : Tree.ofString? v.pretty = some v.tree :=
  ofString?_of_scans (scans_prettyAt v 0 (by simp [Separated]))

theorem ofString?_compact (v : Json) : Tree.ofString? v.compact = some v.tree :=
  ofString?_of_scans (scans_compact v (by simp [Separated]))

end Json
end PenPlotter
