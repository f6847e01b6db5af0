import PenPlotter.Proofs.Text.Spans
import PenPlotter.Proofs.Text.Utf8
import PenPlotter.Proofs.Url.Authority

/-! # Addresses of event streams as they are written

`StreamAddress.isValid` cuts the bytes of a text into parts and checks each.  `Parts` are such a
cut, `Parts.WellFormed` says what the parts other than the authority have to be, and
`isValid_iff_parts` says that the check accepts exactly the texts with well-formed parts and an
authority. -/

namespace PenPlotter.StreamAddress

open Text

/-- The parts of an address; the query and the fragment have their marks. -/
structure Parts where
  scheme : List UInt8
  authority : List UInt8
  path : List UInt8
  query : List UInt8
  fragment : List UInt8

/-- What stands behind the authority. -/
def Parts.rest (p : Parts) : List UInt8 := p.path ++ p.query ++ p.fragment

/-- The whole address. -/
def Parts.bytes (p : Parts) : List UInt8 := p.scheme ++ p.authority ++ p.rest

/-- The parts are where they belong and are written with the bytes that may stand there.  Nothing
is asked of what an authority says. -/
structure Parts.WellFormed (p : Parts) : Prop where
  scheme : p.scheme = Utf8.bytes "ws://" ∨ p.scheme = Utf8.bytes "wss://"
  authority : ∀ b ∈ p.authority, endsAuthority b = false
  path : ∀ b ∈ p.path.head?, b = 0x2F
  pathBytes : ∀ b ∈ p.path, isPathByte b
  query : ∀ b ∈ p.query.head?, b = 0x3F
  queryBytes : ∀ b ∈ p.query.tail, isQueryByte b
  fragment : ∀ b ∈ p.fragment.head?, b = 0x23

theorem bytes_ws : Utf8.bytes "ws://" = [0x77, 0x73, 0x3A, 0x2F, 0x2F] := by
  rw [Utf8.bytes_eq]
  decide

theorem bytes_wss : Utf8.bytes "wss://" = [0x77, 0x73, 0x73, 0x3A, 0x2F, 0x2F] := by
  rw [Utf8.bytes_eq]
  decide

theorem afterScheme?_eq_some {bytes rest : List UInt8} :
    afterScheme? bytes = some rest ↔
      ∃ scheme, (scheme = Utf8.bytes "ws://" ∨ scheme = Utf8.bytes "wss://") ∧
        bytes = scheme ++ rest := by
  simp only [bytes_ws, bytes_wss]
  constructor
  · intro h
    unfold afterScheme? at h
    split at h
    · exact ⟨_, Or.inl rfl, by cases h; rfl⟩
    · exact ⟨_, Or.inr rfl, by cases h; rfl⟩
    · cases h
  · rintro ⟨scheme, rfl | rfl, rfl⟩ <;> rfl

namespace Parts

variable {p : Parts}

theorem WellFormed.head?_rest (h : p.WellFormed) : ∀ b ∈ p.rest.head?, endsAuthority b = true := by
  obtain ⟨scheme, authority, path, query, fragment⟩ := p
  intro b hb
  cases path with
  | cons c path =>
      obtain rfl : b = 0x2F := (Option.some.inj hb) ▸ h.path c rfl
      rfl
  | nil =>
      cases query with
      | cons c query =>
          obtain rfl : b = 0x3F := (Option.some.inj hb) ▸ h.query c rfl
          rfl
      | nil =>
          obtain rfl : b = 0x23 := h.fragment b hb
          rfl

theorem WellFormed.mem_path_ne (h : p.WellFormed) {b : UInt8} (hb : b ∈ p.path) :
    b ≠ 0x23 ∧ b ≠ 0x3F := by
  have hbyte := h.pathBytes b hb
  constructor <;> rintro rfl <;> exact absurd hbyte (by decide)

theorem WellFormed.mem_query_ne (h : p.WellFormed) {b : UInt8} (hb : b ∈ p.query) : b ≠ 0x23 := by
  cases hquery : p.query with
  | nil => simp [hquery] at hb
  | cons c query =>
      rw [hquery] at hb
      have hmark : c = 0x3F := h.query c (by simp [hquery])
      rcases List.mem_cons.1 hb with rfl | htail
      · rw [hmark]
        decide
      · have hbyte := h.queryBytes b (by simpa [hquery] using htail)
        rintro rfl
        exact absurd hbyte (by decide)

/-- The parts of an address that begins with the given scheme. -/
def ofRest (scheme rest : List UInt8) : Parts :=
  let behind := rest.dropWhile (!StreamAddress.endsAuthority ·)
  let after := behind.takeWhile (· != 0x23)
  ⟨scheme, rest.takeWhile (!StreamAddress.endsAuthority ·), after.takeWhile (· != 0x3F),
    after.dropWhile (· != 0x3F), behind.dropWhile (· != 0x23)⟩

theorem bytes_ofRest (scheme rest : List UInt8) : (ofRest scheme rest).bytes = scheme ++ rest := by
  simp [bytes, ofRest, Parts.rest]

theorem WellFormed.ofRest_eq (h : p.WellFormed) : ofRest p.scheme (p.authority ++ p.rest) = p := by
  have hauthority : ∀ b ∈ p.authority, (!StreamAddress.endsAuthority b) = true :=
    fun b hb => by rw [h.authority b hb]; rfl
  have hrest : ∀ b ∈ p.rest.head?, (!StreamAddress.endsAuthority b) = false :=
    fun b hb => by rw [h.head?_rest b hb]; rfl
  have hafter : ∀ b ∈ p.path ++ p.query, (b != 0x23) = true := by
    intro b hb
    rcases List.mem_append.1 hb with hb | hb
    · exact bne_iff_ne.2 (h.mem_path_ne hb).1
    · exact bne_iff_ne.2 (h.mem_query_ne hb)
  have hfragment : ∀ b ∈ p.fragment.head?, (b != 0x23) = false :=
    fun b hb => by rw [h.fragment b hb]; rfl
  have hpath : ∀ b ∈ p.path, (b != 0x3F) = true := fun b hb => bne_iff_ne.2 (h.mem_path_ne hb).2
  have hquery : ∀ b ∈ p.query.head?, (b != 0x3F) = false :=
    fun b hb => by rw [h.query b hb]; rfl
  simp only [ofRest, dropWhile_append_stop hauthority hrest, takeWhile_append_stop hauthority hrest]
  simp only [Parts.rest, takeWhile_append_stop hafter hfragment,
    dropWhile_append_stop hafter hfragment, takeWhile_append_stop hpath hquery,
    dropWhile_append_stop hpath hquery]

/-- What is found is well-formed as soon as the path and the query are written with the bytes that
may stand there. -/
theorem wellFormed_ofRest {scheme rest : List UInt8}
    (hscheme : scheme = Utf8.bytes "ws://" ∨ scheme = Utf8.bytes "wss://")
    (hpath : ∀ b ∈ (ofRest scheme rest).path, isPathByte b)
    (hquery : ∀ b ∈ (ofRest scheme rest).query.tail, isQueryByte b) :
    (ofRest scheme rest).WellFormed := by
  refine ⟨hscheme, fun b hb => ?_, fun b hb => ?_, hpath, fun b hb => ?_, hquery, fun b hb => ?_⟩
  · simpa using List.mem_takeWhile_imp hb
  · have hend := head?_dropWhile_stops (!StreamAddress.endsAuthority ·) rest
    simp only [ofRest] at hb
    generalize rest.dropWhile (!StreamAddress.endsAuthority ·) = behind at hb hend
    cases behind with
    | nil => simp at hb
    | cons c behind =>
        have hc : StreamAddress.endsAuthority c = true := by simpa using hend c rfl
        simp only [StreamAddress.endsAuthority, Bool.or_eq_true, beq_iff_eq] at hc
        rcases hc with (rfl | rfl) | rfl <;> simp_all
  · simpa using head?_dropWhile_stops _ _ b hb
  · simpa using head?_dropWhile_stops _ _ b hb

end Parts

/-- **The check accepts** what has well-formed parts, an authority, and at most 65534 bytes. -/
theorem isValid_iff_parts (url : String) :
    isValid url = true ↔
      ∃ p : Parts, p.bytes = Utf8.bytes url ∧ p.bytes.length ≤ maxLength ∧ p.WellFormed ∧
        isAuthority p.authority = true := by
  have hcheck : ∀ scheme rest, Utf8.bytes url = scheme ++ rest →
      afterScheme? (Utf8.bytes url) = some rest →
      (isValid url = true ↔ (Parts.ofRest scheme rest).bytes.length ≤ maxLength ∧
        isAuthority (Parts.ofRest scheme rest).authority = true ∧
        (∀ b ∈ (Parts.ofRest scheme rest).path, isPathByte b) ∧
        ∀ b ∈ (Parts.ofRest scheme rest).query.tail, isQueryByte b) := by
    intro scheme rest hbytes hrest
    rw [isValid, hrest, Parts.bytes_ofRest, ← hbytes]
    simp [Parts.ofRest, and_assoc]
  constructor
  · intro h
    cases hafter : afterScheme? (Utf8.bytes url) with
    | none => simp [isValid, hafter] at h
    | some rest =>
        obtain ⟨scheme, hscheme, hbytes⟩ := afterScheme?_eq_some.1 hafter
        obtain ⟨hlength, hauthority, hpath, hquery⟩ := (hcheck scheme rest hbytes hafter).1 h
        exact ⟨Parts.ofRest scheme rest, by rw [Parts.bytes_ofRest, hbytes], hlength,
          Parts.wellFormed_ofRest hscheme hpath hquery, hauthority⟩
  · rintro ⟨p, hbytes, hlength, hp, hauthority⟩
    have hsplit : Utf8.bytes url = p.scheme ++ (p.authority ++ p.rest) := by
      rw [← hbytes, Parts.bytes, List.append_assoc]
    have hafter := afterScheme?_eq_some.2 ⟨p.scheme, hp.scheme, hsplit⟩
    rw [hcheck _ _ hsplit hafter, hp.ofRest_eq]
    exact ⟨hlength, hauthority, hp.pathBytes, hp.queryBytes⟩

end PenPlotter.StreamAddress
