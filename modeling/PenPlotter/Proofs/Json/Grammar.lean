import PenPlotter.Proofs.Json.Reader

/-! # The grammar of JSON texts

A text is JSON if it is made of the tokens of a tree, with white space anywhere between them
(`Spells`); each token is written in one of four ways (`Writes`).  The grammar does not say where a
token ends: the reader takes as many letters, or parts of a numeral, as it can.  No harm comes of
it, because in a tree no two words, numerals or quoted texts meet (`apart_tokens`).  So a text is
read as a tree exactly if it spells the tree's tokens (`ofString?_eq_some_iff`). -/

namespace PenPlotter.Json

open Decimal

/-! ### The grammar -/

/-- The characters write digits, at least one. -/
def AreDigits (ds : List Char) : Prop := ds ≠ [] ∧ ∀ c ∈ ds, c.isDigit

/-- The characters write an exponent; or there are none, and it is missing. -/
inductive WritesExponent : List Char → Option (Bool × List Char) → Prop
  | missing : WritesExponent [] none
  | plain {mark : Char} {ds : List Char} : mark = 'e' ∨ mark = 'E' → AreDigits ds →
      WritesExponent (mark :: ds) (some (false, ds))
  | signed {mark : Char} {ds : List Char} (negative : Bool) : mark = 'e' ∨ mark = 'E' →
      AreDigits ds →
      WritesExponent (mark :: (if negative then '-' else '+') :: ds) (some (negative, ds))

/-- The characters write a numeral: a whole number without zeros in front of it, to which a
fraction and an exponent may be joined. -/
inductive WritesNumeral : List Char → Numeral → Prop
  | whole (negative : Bool) {whole cs : List Char} {e : Option (Bool × List Char)} :
      IsWhole whole → WritesExponent cs e →
      WritesNumeral (signChars negative ++ (whole ++ cs)) ⟨negative, whole, none, e⟩
  | fraction (negative : Bool) {whole fraction cs : List Char} {e : Option (Bool × List Char)} :
      IsWhole whole → AreDigits fraction → WritesExponent cs e →
      WritesNumeral (signChars negative ++ (whole ++ '.' :: (fraction ++ cs)))
        ⟨negative, whole, some fraction, e⟩

/-- The characters between two quotation marks write pieces of a quoted text. -/
inductive Quotes : List Char → List Piece → Prop
  | nil : Quotes [] []
  | plain {c : Char} {cs : List Char} {pieces : List Piece} :
      c ≠ '"' → c ≠ '\\' → 32 ≤ c.toNat → Quotes cs pieces → Quotes (c :: cs) (.char c :: pieces)
  | letter {e c : Char} {cs : List Char} {pieces : List Piece} :
      escaped? e = some c → Quotes cs pieces → Quotes ('\\' :: e :: cs) (.char c :: pieces)
  | unit {a b c d : Char} {i j k l : ℕ} {cs : List Char} {pieces : List Piece} :
      hexDigit? a = some i → hexDigit? b = some j → hexDigit? c = some k → hexDigit? d = some l →
      Quotes cs pieces →
      Quotes ('\\' :: 'u' :: a :: b :: c :: d :: cs)
        (.unit (((i * 16 + j) * 16 + k) * 16 + l) :: pieces)

/-- The characters write one token. -/
inductive Writes : List Char → Token → Prop
  | punctuation {c : Char} {t : Token} : punctuation? c = some t → Writes [c] t
  | word {cs : List Char} {t : Token} : word? cs = some t → Writes cs t
  | numeral {cs : List Char} {n : Numeral} : WritesNumeral cs n → Writes cs (.number n)
  | quoted {cs : List Char} {pieces : List Piece} : Quotes cs pieces →
      Writes ('"' :: (cs ++ ['"'])) (.string (literal pieces))

/-- The characters write the tokens one after the other, with white space anywhere between them. -/
inductive Spells : List Char → List Token → Prop
  | nil : Spells [] []
  | space {c : Char} {cs : List Char} {ts : List Token} :
      isSpace c = true → Spells cs ts → Spells (c :: cs) ts
  | token {written cs : List Char} {t : Token} {ts : List Token} :
      Writes written t → Spells cs ts → Spells (written ++ cs) (t :: ts)

/-! ### Numerals -/

section numerals

variable {cs ds : List Char}

theorem exponentOf?_eq_some_iff {negative : Bool} : Numeral.exponentOf? cs = some (negative, ds) ↔
    takeSign cs = (negative, ds) ∧ AreDigits ds := by
  unfold Numeral.exponentOf? AreDigits
  rcases htake : takeSign cs with ⟨negative', ds'⟩
  simp only [Option.ite_none_right_eq_some, Bool.and_eq_true, Bool.not_eq_true', List.all_eq_true,
    List.isEmpty_eq_false_iff, Option.some.injEq, Prod.mk.injEq]
  constructor
  · rintro ⟨hdigits, rfl, rfl⟩
    exact ⟨⟨rfl, rfl⟩, hdigits⟩
  · rintro ⟨⟨rfl, rfl⟩, hdigits⟩
    exact ⟨hdigits, rfl, rfl⟩

theorem AreDigits.takeSign_eq (h : AreDigits ds) : takeSign ds = (false, ds) := by
  unfold takeSign
  split
  case h_1 => exact absurd (h.2 '-' List.mem_cons_self) (by decide)
  case h_2 => exact absurd (h.2 '+' List.mem_cons_self) (by decide)
  case h_3 => rfl

theorem writesExponent_iff {e : Option (Bool × List Char)} :
    WritesExponent cs e ↔ Numeral.tail? cs = some e := by
  constructor
  · intro h
    cases h with
    | missing => rfl
    | plain hmark hds =>
        rw [Numeral.tail?, if_pos (Numeral.isMark_iff.mpr hmark),
          exponentOf?_eq_some_iff.mpr ⟨hds.takeSign_eq, hds⟩]
        rfl
    | @signed mark ds negative hmark hds =>
        have hsign : takeSign ((if negative then '-' else '+') :: ds) = (negative, ds) := by
          cases negative <;> rfl
        rw [Numeral.tail?, if_pos (Numeral.isMark_iff.mpr hmark),
          exponentOf?_eq_some_iff.mpr ⟨hsign, hds⟩]
        rfl
  · intro h
    cases cs with
    | nil =>
        cases h
        exact .missing
    | cons mark cs =>
        rw [Numeral.tail?, Option.ite_none_right_eq_some] at h
        obtain ⟨hmark, h⟩ := h
        rw [Numeral.isMark_iff] at hmark
        obtain ⟨⟨negative, ds⟩, hexponent, rfl⟩ := Option.map_eq_some_iff.mp h
        obtain ⟨hsign, hds⟩ := exponentOf?_eq_some_iff.mp hexponent
        unfold takeSign at hsign
        split at hsign
        case h_1 => cases hsign; exact .signed true hmark hds
        case h_2 => cases hsign; exact .signed false hmark hds
        case h_3 => cases hsign; exact .plain hmark hds

theorem isWhole_of_wholeOk {whole : List Char} (hdigits : ∀ c ∈ whole, c.isDigit)
    (h : Numeral.wholeOk whole) : IsWhole whole := by
  unfold Numeral.wholeOk at h
  split at h
  case h_1 => cases h
  case h_2 => exact ⟨by simp, hdigits, fun _ => rfl⟩
  case h_3 c cs hzero =>
      refine ⟨by simp, hdigits, fun hhead => ?_⟩
      rw [List.head?_cons, Option.some_inj] at hhead
      rw [hhead] at h
      cases h

theorem writesNumeral_iff {n : Numeral} : WritesNumeral cs n ↔ Numeral.ofChars? cs = some n := by
  constructor
  · intro h
    cases h with
    | whole negative hwhole he =>
        exact Numeral.ofChars?_whole hwhole (writesExponent_iff.mp he) negative
    | fraction negative hwhole hfraction he =>
        exact Numeral.ofChars?_fraction hwhole hfraction.1 hfraction.2
          (writesExponent_iff.mp he) negative
  · intro h
    unfold Numeral.ofChars? at h
    split at h
    case h_1 negative body hsign =>
      have hcs : cs = signChars negative ++ body := by
        split at hsign <;> cases hsign <;> rfl
      obtain ⟨⟨⟩, hwhole, h⟩ := Option.bind_eq_some_iff.mp h
      have hwhole : IsWhole (body.takeWhile Char.isDigit) :=
        isWhole_of_wholeOk (fun c hc => List.mem_takeWhile_imp hc) (by simpa using hwhole)
      rw [hcs, ← List.takeWhile_append_dropWhile (p := Char.isDigit) (l := body)]
      split at h
      case h_1 r hpoint =>
        obtain ⟨⟨⟩, hne, h⟩ := Option.bind_eq_some_iff.mp h
        obtain ⟨e, he, heq⟩ := Option.bind_eq_some_iff.mp h
        cases heq
        have hfraction : AreDigits (r.takeWhile Char.isDigit) :=
          ⟨by simpa using hne, fun c hc => List.mem_takeWhile_imp hc⟩
        have hparts := WritesNumeral.fraction negative hwhole hfraction (writesExponent_iff.mpr he)
        rwa [List.takeWhile_append_dropWhile, ← hpoint] at hparts
      case h_2 r hpoint =>
        obtain ⟨e, he, heq⟩ := Option.bind_eq_some_iff.mp h
        cases heq
        exact .whole negative hwhole (writesExponent_iff.mpr he)

end numerals

/-! ### What is read is spelled -/

section sound

variable {cs : List Char} {after : List (Option Char)} {t : Token} {ts : List Token}

theorem quotes_of_takeQuoted? {pieces : List Piece}
    (h : takeQuoted? (cs.map some) = some (pieces, after)) :
    ∃ body rest, cs = body ++ '"' :: rest ∧ after = rest.map some ∧ Quotes body pieces := by
  generalize hchars : cs.map some = chars at h
  fun_induction takeQuoted? chars generalizing cs pieces after with
  | case1 => cases h
  | case2 rest ih =>
      -- a text has no bytes that write no character
      obtain ⟨c, -, -, ⟨⟩, -⟩ := List.map_eq_cons_iff.mp hchars
  | case3 rest =>
      cases h
      obtain ⟨c, tail, rfl, ⟨⟩, rfl⟩ := List.map_eq_cons_iff.mp hchars
      exact ⟨[], tail, rfl, rfl, .nil⟩
  | case4 a b c d rest ih =>
      -- a unit is six characters
      obtain ⟨_, _, rfl, ⟨⟩, h1⟩ := List.map_eq_cons_iff.mp hchars
      obtain ⟨_, _, rfl, ⟨⟩, h2⟩ := List.map_eq_cons_iff.mp h1
      obtain ⟨a, _, rfl, ⟨⟩, h3⟩ := List.map_eq_cons_iff.mp h2
      obtain ⟨b, _, rfl, ⟨⟩, h4⟩ := List.map_eq_cons_iff.mp h3
      obtain ⟨c, _, rfl, ⟨⟩, h5⟩ := List.map_eq_cons_iff.mp h4
      obtain ⟨d, tail, rfl, ⟨⟩, hrest⟩ := List.map_eq_cons_iff.mp h5
      obtain ⟨i, hi, h⟩ := Option.bind_eq_some_iff.mp h
      obtain ⟨j, hj, h⟩ := Option.bind_eq_some_iff.mp h
      obtain ⟨k, hk, h⟩ := Option.bind_eq_some_iff.mp h
      obtain ⟨l, hl, h⟩ := Option.bind_eq_some_iff.mp h
      obtain ⟨⟨pieces, after⟩, htake, heq⟩ := Option.bind_eq_some_iff.mp h
      cases heq
      obtain ⟨body, rest, rfl, rfl, hbody⟩ := ih hrest htake
      exact ⟨_, rest, rfl, rfl, .unit hi hj hk hl hbody⟩
  | case5 e rest hunit ih =>
      obtain ⟨_, _, rfl, ⟨⟩, hletter⟩ := List.map_eq_cons_iff.mp hchars
      obtain ⟨e, tail, rfl, ⟨⟩, hrest⟩ := List.map_eq_cons_iff.mp hletter
      obtain ⟨c, hc, h⟩ := Option.bind_eq_some_iff.mp h
      obtain ⟨⟨pieces, after⟩, htake, heq⟩ := Option.bind_eq_some_iff.mp h
      cases heq
      obtain ⟨body, rest, rfl, rfl, hbody⟩ := ih hrest htake
      exact ⟨_, rest, rfl, rfl, .letter hc hbody⟩
  | case6 => cases h
  | case7 c rest hquote hunit hletter hplain ih =>
      obtain ⟨c, tail, rfl, ⟨⟩, hrest⟩ := List.map_eq_cons_iff.mp hchars
      obtain ⟨⟨pieces, after⟩, htake, heq⟩ := Option.bind_eq_some_iff.mp h
      cases heq
      obtain ⟨body, rest, rfl, rfl, hbody⟩ := ih hrest htake
      rw [not_or, not_lt] at hplain
      exact ⟨_, rest, rfl, rfl, .plain hquote hplain.2 hplain.1 hbody⟩

theorem span_map (p : Char → Bool) (cs : List Char) :
    span p (cs.map some) = (cs.takeWhile p, (cs.dropWhile p).map some) := by
  induction cs with
  | nil => rfl
  | cons c cs ih =>
      rw [List.map_cons, span, ih]
      cases hc : p c <;> simp [hc]

theorem writes_of_token? (h : token? (cs.map some) = some (t, after)) :
    ∃ written rest, cs = written ++ rest ∧ after = rest.map some ∧ Writes written t := by
  cases cs with
  | nil => cases h
  | cons c rest =>
      rw [List.map_cons, token?] at h
      split at h
      case h_1 u hu =>
        cases h
        exact ⟨[c], rest, rfl, rfl, .punctuation hu⟩
      case h_2 =>
        split_ifs at h with hquote halpha
        · obtain ⟨⟨pieces, after'⟩, htake, heq⟩ := Option.map_eq_some_iff.mp h
          cases heq
          obtain ⟨body, tail, rfl, rfl, hbody⟩ := quotes_of_takeQuoted? htake
          exact ⟨'"' :: (body ++ ['"']), tail, by simp [hquote], rfl, .quoted hbody⟩
        · rw [span_map] at h
          obtain ⟨u, hword, heq⟩ := Option.map_eq_some_iff.mp h
          cases heq
          exact ⟨_, _, by rw [List.cons_append, List.takeWhile_append_dropWhile], rfl, .word hword⟩
        · rw [span_map] at h
          obtain ⟨n, hnumeral, heq⟩ := Option.map_eq_some_iff.mp h
          cases heq
          exact ⟨_, _, by rw [List.cons_append, List.takeWhile_append_dropWhile], rfl,
            .numeral (writesNumeral_iff.mpr hnumeral)⟩

theorem spells_of_scan (h : scan (cs.map some) = some ts) : Spells cs ts := by
  generalize hchars : cs.map some = chars at h
  fun_induction scan chars generalizing cs ts with
  | case1 =>
      cases h
      rw [List.map_eq_nil_iff] at hchars
      rw [hchars]
      exact .nil
  | case2 c rest hspace ih =>
      obtain ⟨d, tail, rfl, rfl, hrest⟩ := List.map_eq_cons_iff.mp hchars
      exact .space hspace (ih hrest h)
  | case3 c rest hspace hnone => cases h
  | case4 c rest hspace t after htoken ih =>
      obtain ⟨ts', hscan, rfl⟩ := Option.map_eq_some_iff.mp h
      rw [← hchars] at htoken
      obtain ⟨written, tail, rfl, rfl, hwritten⟩ := writes_of_token? htoken
      exact .token hwritten (ih rfl hscan)

end sound

/-! ### Tokens that do not run together -/

def Token.isMark : Token → Bool
  | .openBracket | .closeBracket | .openBrace | .closeBrace | .comma | .colon => true
  | .null | .bool _ | .number _ | .string _ => false

/-- Of two tokens that meet, one is a mark. -/
def Apart (ts : List Token) : Prop := ts.IsChain fun a b => a.isMark ∨ b.isMark

section apart

variable {mark : Token} {before after : List Token}

theorem Apart.cons_mark (hmark : mark.isMark) (hafter : Apart after) : Apart (mark :: after) :=
  List.isChain_cons.mpr ⟨fun _ _ => .inl hmark, hafter⟩

theorem Apart.append_mark (hbefore : Apart before) (hmark : mark.isMark) (hafter : Apart after) :
    Apart (before ++ mark :: after) := by
  refine List.isChain_append.mpr ⟨hbefore, hafter.cons_mark hmark, fun _ _ next hnext => .inr ?_⟩
  rw [List.head?_cons, Option.mem_some_iff] at hnext
  exact hnext ▸ hmark

theorem Apart.string_colon (k : Literal) (hafter : Apart after) :
    Apart (.string k :: .colon :: after) := by
  have hkey : Apart [.string k] := List.isChain_singleton _
  exact hkey.append_mark rfl hafter

end apart

mutual

/-- **The tokens of a tree** are apart. -/
theorem apart_tokens (t : Tree) : Apart t.tokens := by
  cases t with
  | null => exact List.isChain_singleton _
  | bool b => exact List.isChain_singleton _
  | number n => exact List.isChain_singleton _
  | string s => exact List.isChain_singleton _
  | array items =>
      exact ((apart_itemTokens items).append_mark rfl List.isChain_nil).cons_mark rfl
  | object members =>
      exact ((apart_memberTokens members).append_mark rfl List.isChain_nil).cons_mark rfl
termination_by sizeOf t

theorem apart_itemTokens (items : List Tree) : Apart (itemTokens items) := by
  cases items with
  | nil => exact List.isChain_nil
  | cons t items =>
      rcases eq_or_ne items [] with rfl | hitems
      · exact apart_tokens t
      · rw [itemTokens_cons t hitems]
        exact (apart_tokens t).append_mark rfl (apart_itemTokens items)
termination_by sizeOf items

theorem apart_memberTokens (members : List (Literal × Tree)) : Apart (memberTokens members) := by
  cases members with
  | nil => exact List.isChain_nil
  | cons m members =>
      obtain ⟨k, t⟩ := m
      rcases eq_or_ne members [] with rfl | hmembers
      · exact (apart_tokens t).string_colon k
      · rw [memberTokens_cons (k, t) hmembers]
        exact ((apart_tokens t).append_mark rfl (apart_memberTokens members)).string_colon k
termination_by sizeOf members

end

/-! ### What is spelled is read -/

section complete

variable {cs : List Char} {t : Token} {ts : List Token}

theorem takeQuoted?_of_quotes {pieces : List Piece} (h : Quotes cs pieces)
    (rest : List (Option Char)) :
    takeQuoted? (cs.map some ++ some '"' :: rest) = some (pieces, rest) := by
  induction h with
  | nil => simp [takeQuoted?]
  | plain hquote hslash hcontrol _ ih =>
      rw [List.map_cons, List.cons_append, takeQuoted?_plain hquote hslash hcontrol, ih]
      rfl
  | @letter e c cs pieces hc _ ih =>
      have hu : e ≠ 'u' := by
        rintro rfl
        cases hc
      rw [List.map_cons, List.map_cons, List.cons_append, List.cons_append,
        takeQuoted?_letter hu hc, ih]
      rfl
  | unit ha hb hc hd _ ih =>
      simp only [List.map_cons, List.cons_append]
      rw [takeQuoted?, ha, hb, hc, hd, ih]
      rfl

theorem not_isMark_of_word? (h : word? cs = some t) : t.isMark = false := by
  unfold word? at h
  split_ifs at h <;> cases h <;> rfl

theorem scans_of_writes (h : Writes cs t) {rest : List Char} (hrest : t.isMark ∨ Separated rest) :
    Scans cs [t] rest := by
  cases h with
  | punctuation hc => exact scans_punctuation hc rest
  | word hword =>
      rw [not_isMark_of_word? hword] at hrest
      exact scans_word hword (hrest.resolve_left Bool.false_ne_true)
  | numeral hnumeral =>
      exact scans_numeral (writesNumeral_iff.mp hnumeral) (hrest.resolve_left Bool.false_ne_true)
  | quoted hpieces =>
      have hread := takeQuoted?_of_quotes hpieces (rest.map some)
      have hpunctuation : punctuation? '"' = none := rfl
      refine Scans.token rfl ?_
      rw [List.cons_append, List.append_assoc, List.singleton_append, List.map_cons,
        List.map_append, List.map_cons, token?]
      simp only [hpunctuation, if_true, hread, Option.map_some]

theorem separated_of_mem_marks {c : Char} (h : c ∈ marks) (rest : List Char) :
    Separated (c :: rest) := by
  have hall : marks.all (fun c => !Numeral.isPart c && !c.isAlpha) := by decide
  have hc := List.all_eq_true.mp hall c h
  rw [Bool.and_eq_true, Bool.not_eq_true', Bool.not_eq_true'] at hc
  exact separated_cons hc.1 hc.2 rest

theorem separated_of_writes (h : Writes cs t) (hmark : t.isMark) (rest : List Char) :
    Separated (cs ++ rest) := by
  cases h with
  | @punctuation c t hc =>
      refine separated_of_mem_marks (by_contra fun hmem => ?_) rest
      rw [(plain_of_notMem_marks hmem).2.2] at hc
      cases hc
  | word hword =>
      rw [not_isMark_of_word? hword] at hmark
      cases hmark
  | numeral => cases hmark
  | quoted => cases hmark

/-- What spells a mark first, or nothing at all, does not go on a word or a numeral. -/
theorem separated_of_spells (h : Spells cs ts) (hmark : ∀ t ∈ ts.head?, t.isMark) :
    Separated cs := by
  cases h with
  | nil => simp [Separated]
  | @space c cs ts hspace _ =>
      refine separated_of_mem_marks (by_contra fun hmem => ?_) cs
      rw [(plain_of_notMem_marks hmem).1] at hspace
      cases hspace
  | @token written cs t ts hwritten _ =>
      exact separated_of_writes hwritten (hmark t rfl) cs

/-- What is spelled is scanned, if the tokens are apart. -/
theorem scan_of_spells (h : Spells cs ts) (hapart : Apart ts) : scan (cs.map some) = some ts := by
  induction h with
  | nil => simp [scan]
  | @space c cs ts hspace _ ih =>
      rw [List.map_cons, scan, if_pos (by simpa using hspace)]
      exact ih hapart
  | @token written cs t ts hwritten hspells ih =>
      obtain ⟨hmeet, hapart⟩ := List.isChain_cons.mp hapart
      -- a token that could go on is followed by a mark, or by nothing
      have hrest : t.isMark ∨ Separated cs :=
        or_iff_not_imp_left.mpr fun ht =>
          separated_of_spells hspells fun next hnext => (hmeet next hnext).resolve_left ht
      rw [scans_of_writes hwritten hrest, ih hapart]
      rfl

end complete

/-- **The grammar of JSON**: a text is read as a tree exactly if it spells the tree's tokens. -/
theorem ofString?_eq_some_iff {text : String} {t : Tree} :
    Tree.ofString? text = some t ↔ Spells text.toList t.tokens := by
  constructor
  · intro h
    obtain ⟨ts, hscan, hrun⟩ := Option.bind_eq_some_iff.mp h
    rw [← (run_eq_some_iff ts t).mp hrun]
    exact spells_of_scan hscan
  · intro h
    refine Option.bind_eq_some_iff.mpr ⟨t.tokens, scan_of_spells h (apart_tokens t), ?_⟩
    exact (run_eq_some_iff _ t).mpr rfl

end PenPlotter.Json
