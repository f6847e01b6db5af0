import PenPlotter.Proofs.Url.StreamGrammar
import PenPlotter.Url.Basic

/-! # Where two readings of an address agree

An event stream's address is read twice: as a web address, which is repaired where it can be, and
byte by byte as it is written.  The first reading settles the host and the port.  What it leaves to
the second is how the address is spelled (`StreamAddress.Written`); of the addresses that it
accepts, the second accepts exactly those (`isValid_iff_written`). -/

namespace PenPlotter

open Text

namespace Url

theorem rdropWhile_append_stop {p : Char → Bool} {xs : List Char}
    (h : ∀ x ∈ xs.getLast?, p x = false) (ys : List Char) :
    (xs ++ ys).rdropWhile p = xs ++ ys.rdropWhile p := by
  induction ys using List.reverseRecOn with
  | nil =>
      rw [List.append_nil, List.rdropWhile_nil, List.append_nil, List.rdropWhile_eq_self_iff]
      intro hne
      simpa using h _ (List.getLast?_eq_some_getLast hne)
  | append_singleton ys y ih =>
      rw [← List.append_assoc]
      by_cases hy : p y
      · rw [List.rdropWhile_concat_pos _ _ _ hy, List.rdropWhile_concat_pos _ _ _ hy, ih]
      · rw [List.rdropWhile_concat_neg _ _ _ hy, List.rdropWhile_concat_neg _ _ _ hy,
          List.append_assoc]

/-- Controls and spaces: what is dropped around an address. -/
def isEdge (c : Char) : Bool := c.toNat ≤ 0x20

/-- All characters but tabs and line ends: what stays inside an address. -/
def isKept (c : Char) : Bool := c != '\t' && c != '\n' && c != '\r'

theorem isEdge_of_lt {c : Char} (h : 0x20 < c.toNat) : isEdge c = false := by
  simp only [isEdge, decide_eq_false_iff_not]
  omega

theorem isKept_of_lt {c : Char} (h : 0x20 < c.toNat) : isKept c = true := by
  simp only [isKept, Bool.and_eq_true, bne_iff_ne]
  refine ⟨⟨?_, ?_⟩, ?_⟩ <;> rintro rfl <;> exact absurd h (by decide)

theorem significant_eq (cs : List Char) :
    significant (String.ofList cs) = ((cs.dropWhile isEdge).rdropWhile isEdge).filter isKept := by
  rw [significant, trimBoth, String.toList_ofList]
  rfl

/-- What stands at the beginning without blanks stays, and so does the next character. -/
theorem significant_append (xs ys : List Char) (hne : xs ≠ []) (hx : ∀ c ∈ xs, 0x20 < c.toNat)
    (hy : ∀ c ∈ ys.head?, 0x20 < c.toNat) :
    ∃ zs, significant (String.ofList (xs ++ ys)) = xs ++ zs ∧ zs.head? = ys.head? := by
  have hkept : ∀ {cs : List Char}, (∀ c ∈ cs, 0x20 < c.toNat) → cs.filter isKept = cs :=
    fun h => List.filter_eq_self.2 fun c hc => isKept_of_lt (h c hc)
  have hlast : ∀ {cs : List Char}, (∀ c ∈ cs, 0x20 < c.toNat) →
      ∀ c ∈ cs.getLast?, isEdge c = false :=
    fun h c hc => isEdge_of_lt (h c (List.mem_of_getLast? hc))
  have hstart : (xs ++ ys).dropWhile isEdge = xs ++ ys := by
    refine dropWhile_of_stop fun c hc => ?_
    rw [List.head?_append_of_ne_nil _ hne] at hc
    exact isEdge_of_lt (hx c (List.mem_of_head? hc))
  rw [significant_eq, hstart]
  cases ys with
  | nil =>
      refine ⟨[], ?_, rfl⟩
      rw [rdropWhile_append_stop (hlast hx), List.rdropWhile_nil, List.append_nil, hkept hx]
  | cons c ys =>
      have hmiddle : ∀ d ∈ xs ++ [c], 0x20 < d.toNat := by
        intro d hd
        rcases List.mem_append.1 hd with hd | hd
        · exact hx d hd
        · exact List.mem_singleton.1 hd ▸ hy c rfl
      refine ⟨c :: (ys.rdropWhile isEdge).filter isKept, ?_, rfl⟩
      rw [List.append_cons, rdropWhile_append_stop (hlast hmiddle), List.filter_append,
        hkept hmiddle, List.append_assoc]
      rfl

theorem ofString?_of_significant {s : String} {name rest : List Char} (hname : ':' ∉ name)
    (h : significant s = name ++ ':' :: rest) :
    ofString? s = (Scheme.ofName? name).bind fun scheme => ofRest? scheme rest := by
  have hall : ∀ c ∈ name, (c != ':') = true := fun c hc => bne_iff_ne.2 fun h => hname (h ▸ hc)
  have hstop : ∀ c ∈ (':' :: rest).head?, (c != ':') = false := by simp
  simp only [ofString?, h, takeWhile_append_stop hall hstop, dropWhile_append_stop hall hstop]
  rfl

/-- What becomes a web address has a host and a port before its path. -/
theorem host_of_ofRest? {scheme : Scheme} {rest : List Char} {u : Url}
    (h : ofRest? scheme rest = some u) :
    ∃ host port, Host.ofChars? (splitPort false
        (afterUser ((rest.dropWhile isSlash).takeWhile (!endsAuthority ·)))).1 = some host ∧
      portOf? ((splitPort false
        (afterUser ((rest.dropWhile isSlash).takeWhile (!endsAuthority ·)))).2.getD []) =
          some port := by
  obtain ⟨host, hhost, h⟩ := Option.bind_eq_some_iff.1 h
  obtain ⟨port, hport, -⟩ := Option.bind_eq_some_iff.1 h
  exact ⟨host, port, hhost, hport⟩

theorem all_isDigit_of_portOf? {ds : List Char} {port : Option Nat} (h : portOf? ds = some port) :
    ds.all Char.isDigit = true := by
  rw [portOf?] at h
  split at h
  case isTrue hempty => simp [List.isEmpty_iff.1 hempty]
  case isFalse =>
    split at h
    case isTrue hdigits => exact hdigits
    case isFalse => cases h

end Url

namespace StreamAddress

theorem toNat_charOf {b : UInt8} (h : b < 0x80) : (charOf b).toNat = b.toNat := by
  have hb : b.toNat < 0x80 := h
  rw [charOf, Char.ofNat, dif_pos (Or.inl (by omega))]
  rfl

theorem charOf_eq_iff {b c : UInt8} (hb : b < 0x80) (hc : c < 0x80) :
    charOf b = charOf c ↔ b = c := by
  refine ⟨fun h => UInt8.toNat_inj.1 ?_, fun h => h ▸ rfl⟩
  rw [← toNat_charOf hb, ← toNat_charOf hc, h]

theorem count_colon_le_one {bytes : List UInt8} (hascii : ∀ b ∈ bytes, b < 0x80)
    (hopen : 0x5B ∉ bytes)
    (hport : ((Url.splitPort false (bytes.map charOf)).2.getD []).all Char.isDigit = true) :
    bytes.count 0x3A ≤ 1 := by
  induction bytes with
  | nil => simp
  | cons b bytes ih =>
      rw [List.forall_mem_cons] at hascii
      have hcolon : charOf b = ':' ↔ b = 0x3A := charOf_eq_iff (c := 0x3A) hascii.1 (by decide)
      have hbracket : charOf b = '[' ↔ b = 0x5B := charOf_eq_iff (c := 0x5B) hascii.1 (by decide)
      rw [List.map_cons, Url.splitPort] at hport
      by_cases hcut : b = 0x3A
      · -- digits follow
        rw [if_pos ⟨hcolon.2 hcut, rfl⟩] at hport
        have hcount : bytes.count 0x3A = 0 := List.count_eq_zero.2 fun h =>
          absurd (List.all_eq_true.1 hport _ (List.mem_map_of_mem h)) (by decide)
        rw [hcut, List.count_cons_self, hcount]
      · have hnotopen : charOf b ≠ '[' := fun h => hopen (by simp [hbracket.1 h])
        rw [if_neg fun h => hcut (hcolon.1 h.1), if_neg hnotopen, ite_self] at hport
        rw [List.count_cons_of_ne hcut]
        exact ih hascii.2 (fun h => hopen (List.mem_cons_of_mem b h)) hport

/-- **Colons of a port.**  If what follows the first colon outside brackets is a number, at most
one colon stands behind the closing bracket. -/
theorem count_latest_le_one {bytes : List UInt8} :
    ∀ {inBrackets : Bool}, (∀ b ∈ bytes, b < 0x80 ∧ b ≠ 0x40) → 0x5B ∉ latest bytes →
      (inBrackets = true → 0x5D ∈ bytes) →
      ((Url.splitPort inBrackets (bytes.map charOf)).2.getD []).all Char.isDigit = true →
      (latest bytes).count 0x3A ≤ 1 := by
  have hself {bytes : List UInt8} (hbytes : ∀ b ∈ bytes, b < 0x80 ∧ b ≠ 0x40)
      (hmark : 0x5D ∉ bytes) : latest bytes = bytes :=
    latest_eq_self fun b hb => by
      have hclose : b ≠ 0x5D := fun h => hmark (h ▸ hb)
      simp [endsStretch, (hbytes b hb).2, hclose]
  induction bytes with
  | nil =>
      intros
      simp [latest]
  | cons b bytes ih =>
      intro inBrackets hbytes hopen hclosed hport
      have htail := (List.forall_mem_cons.1 hbytes).2
      by_cases hmark : 0x5D ∈ b :: bytes
      · rw [List.map_cons, Url.splitPort] at hport
        rcases List.mem_cons.1 hmark with rfl | hmark
        · have hlatest : latest (0x5D :: bytes) = latest bytes :=
            latest_append_mark [] (by decide) bytes
          rw [hlatest] at hopen ⊢
          rw [if_neg fun h => absurd h.1 (by decide), if_neg (by decide),
            if_pos (by decide)] at hport
          exact ih htail hopen (by simp) hport
        · -- the port has not begun, since a bracket is no digit
          have hcut : ¬(charOf b = ':' ∧ !inBrackets) := by
            intro hcut
            rw [if_pos hcut] at hport
            exact absurd (List.all_eq_true.1 hport _ (List.mem_map_of_mem hmark)) (by decide)
          rw [if_neg hcut] at hport
          rw [latest_cons_of_mark b (by decide) hmark] at hopen ⊢
          exact ih htail hopen (fun _ => hmark) hport
      · have hascii : ∀ c ∈ b :: bytes, c < 0x80 := fun c hc => (hbytes c hc).1
        obtain rfl : inBrackets = false := by simpa using mt hclosed hmark
        rw [hself hbytes hmark] at hopen ⊢
        exact count_colon_le_one hascii hopen hport

/-- An address as it is written: well-formed parts of at most 65534 bytes, and between scheme and
path bytes that each may stand where they do.  A host there may not be percent-encoded, and the
bracket that is opened is closed. -/
def Written (url : String) : Prop :=
  ∃ p : Parts, p.bytes = Utf8.bytes url ∧ p.bytes.length ≤ maxLength ∧ p.WellFormed ∧
    p.authority ≠ [] ∧ Spelled p.authority ∧ (0x5B ∈ p.authority → 0x5D ∈ p.authority) ∧
    0x25 ∉ latest p.authority

theorem forall_authorityByte {P : UInt8 → Prop}
    (h : ∀ n : Fin 256, (isAuthorityByte (UInt8.ofNat n) ∨ UInt8.ofNat n = 0x25) →
      P (UInt8.ofNat n)) {b : UInt8} (hb : isAuthorityByte b ∨ b = 0x25) : P b := by
  have hn := h ⟨b.toNat, b.toNat_lt⟩
  rw [UInt8.ofNat_toNat] at hn
  exact hn hb

/-- The bytes of an authority are characters of ASCII that are neither blank nor a slash. -/
theorem Spelled.plain {bytes : List UInt8} (h : Spelled bytes) :
    ∀ b ∈ bytes, b < 0x80 ∧ 0x20 < (charOf b).toNat ∧ Url.endsAuthority (charOf b) = false := by
  intro b hb
  obtain ⟨before, after, rfl⟩ := List.append_of_mem hb
  exact forall_authorityByte (P := fun b =>
    b < 0x80 ∧ 0x20 < (charOf b).toNat ∧ Url.endsAuthority (charOf b) = false)
    (by decide +kernel) (h before b after rfl).1

theorem Parts.WellFormed.chars_scheme {p : Parts} (hp : p.WellFormed) :
    ∃ name, ':' ∉ name ∧ p.scheme.map charOf = name ++ [':', '/', '/'] ∧
      ∀ b ∈ p.scheme, b < 0x80 ∧ 0x20 < (charOf b).toNat := by
  rcases hp.scheme with h | h
  · rw [h, bytes_ws]
    exact ⟨['w', 's'], by decide, by decide, List.forall_iff_forall_mem.1 (by decide)⟩
  · rw [h, bytes_wss]
    exact ⟨['w', 's', 's'], by decide, by decide, List.forall_iff_forall_mem.1 (by decide)⟩

/-- What stands behind the authority begins with a character that ends it. -/
theorem Parts.WellFormed.head?_chars {p : Parts} (hp : p.WellFormed) {cs : List Char}
    (h : cs.flatMap String.utf8EncodeChar = p.rest) :
    ∀ c ∈ cs.head?, 0x20 < c.toNat ∧ Url.endsAuthority c = true := by
  intro c hc
  obtain ⟨cs, rfl⟩ : ∃ tail, cs = c :: tail := List.head?_eq_some_iff.1 hc
  rw [List.flatMap_cons] at h
  have hhead := hp.head?_rest
  rw [← h] at hhead
  rcases Utf8.encodeChar_cases c with ⟨hascii, henc⟩ | ⟨b, tail, henc, hb⟩
  · rw [henc] at hhead
    have hc : c = charOf (UInt8.ofNat c.toNat) := by
      rw [charOf, UInt8.toNat_ofNat', Nat.mod_eq_of_lt (by omega), Char.ofNat_toNat]
    have hend := hhead _ rfl
    simp only [endsAuthority, Bool.or_eq_true, beq_iff_eq] at hend
    rcases hend with (hmark | hmark) | hmark <;> rw [hc, hmark] <;> decide
  · rw [henc] at hhead
    have hend := hhead _ rfl
    simp only [endsAuthority, Bool.or_eq_true, beq_iff_eq] at hend
    rcases hend with (rfl | rfl) | rfl <;> exact absurd (by decide) hb

/-- Of an address as it is written only blanks at the end do not count. -/
theorem exists_significant {p : Parts} {url : String} (hbytes : p.bytes = Utf8.bytes url)
    (hp : p.WellFormed) (hne : p.authority ≠ []) (hspelled : Spelled p.authority) :
    ∃ name rest, ':' ∉ name ∧ (∀ c ∈ rest.head?, Url.endsAuthority c = true) ∧
      Url.significant url = name ++ ':' :: (['/', '/'] ++ (p.authority.map charOf ++ rest)) := by
  obtain ⟨name, hname, hscheme, hschemePlain⟩ := hp.chars_scheme
  have hfront : ∀ b ∈ p.scheme ++ p.authority, b < 0x80 ∧ 0x20 < (charOf b).toNat := by
    intro b hb
    rcases List.mem_append.1 hb with hb | hb
    · exact hschemePlain b hb
    · exact ⟨(hspelled.plain b hb).1, (hspelled.plain b hb).2.1⟩
  -- the bytes of the front are its characters
  rw [Utf8.bytes_eq, Parts.bytes] at hbytes
  obtain ⟨behind, hchars, hbehind⟩ :=
    Utf8.chars_of_ascii_bytes (fun b hb => (hfront b hb).1) hbytes.symm
  have hurl : String.ofList ((p.scheme ++ p.authority).map charOf ++ behind) = url := by
    rw [← String.ofList_toList (s := url), hchars]
    rfl
  have hstop := hp.head?_chars hbehind
  obtain ⟨rest, hsignificant, hrest⟩ := Url.significant_append
    ((p.scheme ++ p.authority).map charOf) behind (by simp [hne])
    (List.forall_mem_map.2 fun b hb => (hfront b hb).2) (fun c hc => (hstop c hc).1)
  refine ⟨name, rest, hname, fun c hc => (hstop c (hrest ▸ hc)).2, ?_⟩
  rw [← hurl, hsignificant, List.map_append, hscheme]
  simp only [List.append_assoc, List.cons_append, List.nil_append]

/-- **The reading as a web address** takes host and port from the bytes of the authority. -/
theorem host_of_ofString? {p : Parts} {url : String} {u : Url} (hbytes : p.bytes = Utf8.bytes url)
    (hp : p.WellFormed) (hne : p.authority ≠ []) (hspelled : Spelled p.authority)
    (h : Url.ofString? url = some u) :
    ∃ host port,
      Host.ofChars? (Url.splitPort false (Url.afterUser (p.authority.map charOf))).1 = some host ∧
        Url.portOf? ((Url.splitPort false (Url.afterUser (p.authority.map charOf))).2.getD []) =
          some port := by
  obtain ⟨name, rest, hname, hrest, hwritten⟩ := exists_significant hbytes hp hne hspelled
  rw [Url.ofString?_of_significant hname hwritten] at h
  obtain ⟨scheme, -, hread⟩ := Option.bind_eq_some_iff.1 h
  have hauthority : ∀ c ∈ p.authority.map charOf, Url.endsAuthority c = false :=
    List.forall_mem_map.2 fun b hb => (hspelled.plain b hb).2.2
  -- no slash of the authority is taken for one of those in front of it
  have hslashes : (['/', '/'] ++ (p.authority.map charOf ++ rest)).dropWhile Url.isSlash =
      p.authority.map charOf ++ rest := by
    refine dropWhile_append_stop (List.all_eq_true.1 rfl) fun c hc => ?_
    rw [List.head?_append_of_ne_nil _ (by simpa using hne)] at hc
    have hnone := hauthority c (List.mem_of_head? hc)
    simp only [Url.endsAuthority, Bool.or_eq_false_iff] at hnone
    exact hnone.1.1
  have hfound := Url.host_of_ofRest? hread
  rwa [hslashes, takeWhile_append_stop (fun c hc => by simp [hauthority c hc])
    (fun c hc => by simp [hrest c hc])] at hfound

theorem afterUser_map {bytes : List UInt8} (h : ∀ b ∈ bytes, b < 0x80) :
    Url.afterUser (bytes.map charOf) = (bytes.rtakeWhile (· != 0x40)).map charOf := by
  change (bytes.map charOf).rtakeWhile (· != '@') = _
  induction bytes using List.reverseRecOn with
  | nil => rfl
  | append_singleton bytes b ih =>
      have hb : charOf b = '@' ↔ b = 0x40 :=
        charOf_eq_iff (c := 0x40) (h b (by simp)) (by decide)
      rw [List.map_append, List.map_singleton, List.rtakeWhile_concat, List.rtakeWhile_concat,
        ih fun c hc => h c (List.mem_append_left _ hc)]
      by_cases hat : b = 0x40
      · rw [hb.2 hat, hat]
        rfl
      · simp [mt hb.1 hat, hat]

/-- The latest stretch stands behind the last at sign. -/
theorem latest_afterAt (bytes : List UInt8) :
    latest (bytes.rtakeWhile (· != 0x40)) = latest bytes := by
  induction bytes using List.reverseRecOn with
  | nil => rfl
  | append_singleton bytes b ih =>
      rw [List.rtakeWhile_concat]
      by_cases hat : b = 0x40
      · subst hat
        rw [latest_concat]
        rfl
      · rw [if_pos (bne_iff_ne.2 hat), latest_concat, latest_concat, ih]

theorem host_empty : Host.ofChars? [] = none := by decide +kernel

/-- **Two readings.**  Of the texts that are web addresses, the check accepts exactly those that are
written as it asks: that the host is not empty and that the port is a number is known already. -/
theorem isValid_iff_written {url : String} {u : Url} (h : Url.ofString? url = some u) :
    isValid url = true ↔ Written url := by
  rw [isValid_iff_parts]
  constructor
  · rintro ⟨p, hbytes, hlength, hp, hauthority⟩
    obtain ⟨hne, hspelled, hclosed, hpercent, -, -⟩ := (isAuthority_iff _).1 hauthority
    exact ⟨p, hbytes, hlength, hp, hne, hspelled, hclosed, hpercent⟩
  · rintro ⟨p, hbytes, hlength, hp, hne, hspelled, hclosed, hpercent⟩
    refine ⟨p, hbytes, hlength, hp, (isAuthority_iff _).2 ⟨hne, hspelled, hclosed, hpercent, ?_⟩⟩
    obtain ⟨host, port, hhost, hport⟩ := host_of_ofString? hbytes hp hne hspelled h
    rw [afterUser_map fun b hb => (hspelled.plain b hb).1] at hhost hport
    constructor
    · rw [← latest_afterAt]
      refine count_latest_le_one (fun b hb => ?_) ?_ (by simp) (Url.all_isDigit_of_portOf? hport)
      · exact ⟨(hspelled.plain b ((List.rtakeWhile_suffix _ _).subset hb)).1,
          by simpa using List.mem_rtakeWhile_imp hb⟩
      · rw [latest_afterAt]
        exact hspelled.open_notMem_latest hclosed
    · intro hlast
      obtain ⟨front, hfront⟩ := List.getLast?_eq_some_iff.1 hlast
      rw [hfront, List.rtakeWhile_concat_neg _ _ _ (by decide)] at hhost
      simp [Url.splitPort, host_empty] at hhost

-- A blank in front of an address is left out by one reading only.
example : (Url.ofString? " ws://host").isSome = true ∧ isValid " ws://host" = false ∧
    isValid "ws://[::1]:80#end" = true := by
  decide +kernel

end StreamAddress

end PenPlotter
