import Mathlib.Logic.Function.Defs
import PenPlotter.Settings.Format

/-! # Settings in layers

A layer gives some of the settings, by the names of their sections and fields.  `Settings.given t`
is the layer of a text's tree `t`, and `Settings.Fits t` says that the tree is made as settings
have to be: a record of records with fields of their kinds, each of which may be left out.  What is
read from a tree that fits is, field by field, what the tree gives and otherwise what is usual
(`Settings.read?_eq_some_iff`), so no section and no field lacks its usual value. -/

namespace PenPlotter

/-! ### Layers -/

/-- Settings of which only some are given, by section and field. -/
abbrev Layer := String → String → Option SettingValue

namespace Layer

/-- The layer that gives nothing. -/
def empty : Layer := fun _ _ => none

/-- Every setting as the first of the layers has it that gives it. -/
def merge (layers : List Layer) : Layer := fun name key => layers.findSome? (· name key)

theorem merge_pair (upper lower : Layer) (name key : String) :
    merge [upper, lower] name key = (upper name key).or (lower name key) := by
  rw [merge, List.findSome?_cons]
  cases upper name key <;> simp

theorem merge_cons (upper : Layer) (layers : List Layer) (name key : String) :
    merge (upper :: layers) name key = (upper name key).or (merge layers name key) := by
  rw [merge, List.findSome?_cons]
  cases upper name key <;> rfl

theorem merge_merge (upper : Layer) (layers : List Layer) :
    merge [upper, merge layers] = merge (upper :: layers) := by
  funext name key
  rw [merge_pair, merge_cons]

theorem merge_empty (lower : Layer) : merge [empty, lower] = lower := by
  funext name key
  rw [merge_pair, empty, Option.none_or]

end Layer

/-! ### Fields by kind -/

/-- The kinds of fields. -/
inductive FieldKind where
  | text
  | word
  | halfWord
  | float
  | textOrNone
deriving Repr, DecidableEq

/-- The fields of a section with their kinds. -/
abbrev SectionFormat := List (String × FieldKind)

def DeviceSettings.format : SectionFormat := [("base_url", .text), ("timeout_ms", .word)]

def StreamSettings.format : SectionFormat :=
  [("url", .text), ("reconnect_delay_ms", .word), ("seen_key_capacity", .word)]

def PreviewSettings.format : SectionFormat :=
  [("canvas_width", .halfWord), ("canvas_height", .halfWord), ("padding_px", .float),
    ("default_paper", .textOrNone)]

def ConsoleSettings.format : SectionFormat :=
  [("page_size", .word), ("response_preview_chars", .word), ("follow_threshold_px", .float)]

/-- The sections with their fields. -/
def Settings.format : List (String × SectionFormat) :=
  [("api", DeviceSettings.format), ("stream", StreamSettings.format),
    ("preview", PreviewSettings.format), ("console", ConsoleSettings.format)]

def DeviceSettings.values (d : DeviceSettings) : List (String × SettingValue) :=
  [("base_url", .text d.baseUrl), ("timeout_ms", .natural d.timeout.toNat)]

def StreamSettings.values (d : StreamSettings) : List (String × SettingValue) :=
  [("url", .text d.url), ("reconnect_delay_ms", .natural d.reconnectDelay.toNat),
    ("seen_key_capacity", .natural d.seenCapacity.toNat)]

def PreviewSettings.values (d : PreviewSettings) : List (String × SettingValue) :=
  [("canvas_width", .natural d.canvasWidth.toNat),
    ("canvas_height", .natural d.canvasHeight.toNat), ("padding_px", .float d.padding),
    ("default_paper", .textOrNone d.defaultPaper)]

def ConsoleSettings.values (d : ConsoleSettings) : List (String × SettingValue) :=
  [("page_size", .natural d.pageSize.toNat),
    ("response_preview_chars", .natural d.previewChars.toNat),
    ("follow_threshold_px", .float d.followThreshold)]

namespace Settings

/-- Complete settings as a layer. -/
def value? (s : Settings) : Layer := fun name key => (s.sections.lookup name).bind (·.lookup key)

end Settings

variable {τ : Type} [Readable τ]

def FieldKind.read? (kind : FieldKind) (t : τ) : Option SettingValue :=
  match kind with
  | .text => (Readable.string? t).map .text
  | .word => (readWord t).map fun n => .natural n.toNat
  | .halfWord => (readHalfWord t).map fun n => .natural n.toNat
  | .float => (Readable.float? t).map .float
  | .textOrNone => (Readable.nullable? Readable.string? t).map .textOrNone

namespace SectionFormat

/-- A record of known fields, each of its kind where it is given. -/
def Fits (format : SectionFormat) (t : τ) : Prop :=
  ∃ f : Fields τ, Readable.record? (format.map (·.1)) t = some f ∧
    ∀ m ∈ format, ∀ x ∈ f.get? m.1, (m.2.read? x).isSome

/-- What a record gives for a field. -/
def given (format : SectionFormat) (t : τ) (key : String) : Option SettingValue := do
  let kind ← format.lookup key
  let f ← Readable.record? (format.map (·.1)) t
  kind.read? (← f.get? key)

end SectionFormat

namespace Settings

/-- A record of known sections, each made as it has to be where it is given. -/
def Fits (t : τ) : Prop :=
  ∃ f : Fields τ, Readable.record? (format.map (·.1)) t = some f ∧
    ∀ m ∈ format, ∀ x ∈ f.get? m.1, m.2.Fits x

/-- What a tree gives of the settings. -/
def given (t : τ) : Layer := fun name key => do
  let sectionFormat ← format.lookup name
  let f ← Readable.record? (format.map (·.1)) t
  sectionFormat.given (← f.get? name) key

end Settings

/-! ### Reading a section -/

/-- What a field holds: the value that is given, which has to be of its kind, or else the usual
one. -/
def Fields.value? (f : Fields τ) (key : String) (kind : FieldKind) (usual : Option SettingValue) :
    Option SettingValue :=
  match f.get? key with
  | some x => kind.read? x
  | none => usual

section fields

variable {α : Type} {f : Fields τ} {key : String}

theorem Fields.value?_eq_map_orDefault {kind : FieldKind} {read : τ → Option α}
    (wrap : α → SettingValue) (hread : ∀ x, kind.read? x = (read x).map wrap) {default : α} :
    f.value? key kind (some (wrap default)) = (f.orDefault key default read).map wrap := by
  rw [value?, orDefault]
  cases f.get? key with
  | none => rfl
  | some x => exact hread x

@[simp] theorem Fields.value?_text {default : String} :
    f.value? key .text (some (.text default)) =
      (f.orDefault key default Readable.string?).map .text :=
  value?_eq_map_orDefault .text fun _ => rfl

@[simp] theorem Fields.value?_word {default : UInt64} :
    f.value? key .word (some (.natural default.toNat)) =
      (f.orDefault key default readWord).map fun n => .natural n.toNat :=
  value?_eq_map_orDefault (fun n : UInt64 => .natural n.toNat) fun _ => rfl

@[simp] theorem Fields.value?_halfWord {default : UInt32} :
    f.value? key .halfWord (some (.natural default.toNat)) =
      (f.orDefault key default readHalfWord).map fun n => .natural n.toNat :=
  value?_eq_map_orDefault (fun n : UInt32 => .natural n.toNat) fun _ => rfl

@[simp] theorem Fields.value?_float {default : Float} :
    f.value? key .float (some (.float default)) =
      (f.orDefault key default Readable.float?).map .float :=
  value?_eq_map_orDefault .float fun _ => rfl

@[simp] theorem Fields.value?_textOrNone {default : Option String} :
    f.value? key .textOrNone (some (.textOrNone default)) =
      (f.orDefault key default (Readable.nullable? Readable.string?)).map .textOrNone :=
  value?_eq_map_orDefault .textOrNone fun _ => rfl

theorem Fields.isSome_value? {kind : FieldKind} {usual : Option SettingValue}
    (hgiven : ∀ x ∈ f.get? key, (kind.read? x).isSome) (husual : usual.isSome) :
    (f.value? key kind usual).isSome := by
  rw [value?]
  cases hget : f.get? key with
  | none => exact husual
  | some x => exact hgiven x hget

theorem Fields.eq_value?_iff {kind : FieldKind} {usual value : Option SettingValue}
    (h : value.isSome) :
    value = f.value? key kind usual ↔ (∀ x ∈ f.get? key, (kind.read? x).isSome) ∧
      value = ((f.get? key).bind kind.read?).or usual := by
  obtain ⟨v, rfl⟩ := Option.isSome_iff_exists.1 h
  rw [value?]
  cases f.get? key with
  | none => simp
  | some x => cases hread : kind.read? x <;> simp [hread]

end fields

theorem mem_of_lookup {α : Type} {l : List (String × α)} {name : String} {a : α}
    (h : l.lookup name = some a) : (name, a) ∈ l := by
  obtain ⟨l₁, l₂, rfl, -⟩ := List.lookup_eq_some_iff.1 h
  simp

theorem lookup_of_mem {α : Type} {l : List (String × α)} (h : (l.map (·.1)).Nodup)
    {m : String × α} (hm : m ∈ l) : l.lookup m.1 = some m.2 := by
  obtain ⟨l₁, l₂, rfl⟩ := List.append_of_mem hm
  refine List.lookup_eq_some_iff.2 ⟨l₁, l₂, rfl, fun p hp => ?_⟩
  rw [List.map_append, List.map_cons] at h
  have hne := (List.nodup_append.1 h).2.2 p.1 (List.mem_map_of_mem hp) m.1 List.mem_cons_self
  simpa using hne.symm

namespace SectionFormat

/-- The values of all fields in order, if every field has one. -/
def collect (value? : String → FieldKind → Option SettingValue) :
    SectionFormat → Option (List (String × SettingValue))
  | [] => some []
  | (key, kind) :: rest =>
    (value? key kind).bind fun v => (collect value? rest).map ((key, v) :: ·)

/-- What a section takes from a record, field by field. -/
def read? (format : SectionFormat) (usual : List (String × SettingValue)) (t : τ) :
    Option (List (String × SettingValue)) :=
  (Readable.record? (format.map (·.1)) t).bind fun f =>
    format.collect fun key kind => f.value? key kind (usual.lookup key)

section collecting

variable {value? : String → FieldKind → Option SettingValue} {format : SectionFormat}
  {values : List (String × SettingValue)}

theorem collect_eq_some_iff (hnodup : (format.map (·.1)).Nodup)
    (hkeys : values.map (·.1) = format.map (·.1)) :
    format.collect value? = some values ↔
      ∀ m ∈ format, values.lookup m.1 = value? m.1 m.2 := by
  induction format generalizing values with
  | nil => simpa [collect] using hkeys
  | cons m rest ih =>
    obtain ⟨key, kind⟩ := m
    cases values with
    | nil => cases hkeys
    | cons v values =>
      obtain ⟨key', v⟩ := v
      rw [List.map_cons, List.map_cons, List.cons.injEq] at hkeys
      obtain ⟨rfl : key' = key, hkeys⟩ := hkeys
      obtain ⟨hnew, hnodup⟩ := List.nodup_cons.1 hnodup
      -- the lookups of the other fields pass over the first one
      have hpass : ∀ m ∈ rest, ((key', v) :: values).lookup m.1 = values.lookup m.1 := by
        intro m hm
        have hne : m.1 ≠ key' := by
          rintro rfl
          exact hnew (List.mem_map.2 ⟨m, hm, rfl⟩)
        rw [List.lookup_cons, beq_eq_false_iff_ne.2 hne]
      rw [List.forall_mem_cons, List.lookup_cons_self]
      have hrest : (∀ m ∈ rest, ((key', v) :: values).lookup m.1 = value? m.1 m.2) ↔
          collect value? rest = some values := by
        rw [ih hnodup hkeys]
        exact forall₂_congr fun m hm => by rw [hpass m hm]
      rw [hrest, collect]
      cases value? key' kind <;> cases collect value? rest <;> simp [eq_comm]

theorem exists_collect (h : ∀ m ∈ format, (value? m.1 m.2).isSome) :
    ∃ values, format.collect value? = some values := by
  induction format with
  | nil => exact ⟨[], rfl⟩
  | cons m rest ih =>
    rw [List.forall_mem_cons] at h
    obtain ⟨v, hv⟩ := Option.isSome_iff_exists.1 h.1
    obtain ⟨values, hvalues⟩ := ih h.2
    refine ⟨(m.1, v) :: values, ?_⟩
    rw [collect, hv, hvalues, Option.bind_some, Option.map_some]

end collecting

end SectionFormat

section sections

variable {σ : Type} {format : SectionFormat} {values : σ → List (String × SettingValue)}
  {usual : σ} {read : τ → Option σ} {f : Fields τ} {name : String} {t : τ}

/-- A section is its values, one for each field of the format. -/
structure SectionFormat.Describes (format : SectionFormat)
    (values : σ → List (String × SettingValue)) : Prop where
  nodup : (format.map (·.1)).Nodup
  keys : ∀ a, (values a).map (·.1) = format.map (·.1)
  injective : values.Injective

namespace SectionFormat.Describes

theorem isSome_lookup (h : format.Describes values) (a : σ) {m : String × FieldKind}
    (hm : m ∈ format) : ((values a).lookup m.1).isSome := by
  have hmem : m.1 ∈ (values a).map (·.1) := by
    rw [h.keys a]
    exact List.mem_map_of_mem hm
  obtain ⟨p, hp, heq⟩ := List.mem_map.1 hmem
  exact List.lookup_isSome_iff.2 ⟨p, hp, beq_iff_eq.2 heq.symm⟩

theorem ext (h : format.Describes values) {a b : σ}
    (heq : ∀ m ∈ format, (values a).lookup m.1 = (values b).lookup m.1) : a = b := by
  have ha : format.collect (fun key _ => (values b).lookup key) = some (values a) :=
    (collect_eq_some_iff h.nodup (h.keys a)).2 heq
  have hb : format.collect (fun key _ => (values b).lookup key) = some (values b) :=
    (collect_eq_some_iff h.nodup (h.keys b)).2 fun _ _ => rfl
  exact h.injective (Option.some.inj (ha.symm.trans hb))

end SectionFormat.Describes

/-- `read` takes the sections that a format describes field by field. -/
structure ReadsSection (format : SectionFormat) (values : σ → List (String × SettingValue))
    (usual : σ) (read : τ → Option σ) : Prop extends format.Describes values where
  map_read : ∀ t, (read t).map values = format.read? (values usual) t

namespace ReadsSection

/-- A section is read from records that are made as they have to be: what the record gives, and
otherwise what is usual. -/
theorem read_eq_some_iff (h : ReadsSection format values usual read) {a : σ} :
    read t = some a ↔ format.Fits t ∧
      ∀ m ∈ format, (values a).lookup m.1 = (format.given t m.1).or ((values usual).lookup m.1) := by
  have hread : read t = some a ↔ format.read? (values usual) t = some (values a) := by
    rw [← h.map_read]
    exact (Option.map_injective h.injective).eq_iff.symm
  rw [hread, SectionFormat.read?, SectionFormat.Fits]
  cases hrecord : Readable.record? (format.map (·.1)) t with
  | none => simp
  | some f =>
    have hfield : ∀ m ∈ format,
        (values a).lookup m.1 = f.value? m.1 m.2 ((values usual).lookup m.1) ↔
          (∀ x ∈ f.get? m.1, (m.2.read? x).isSome) ∧
            (values a).lookup m.1 = (format.given t m.1).or ((values usual).lookup m.1) := by
      intro m hm
      have hgiven : format.given t m.1 = (f.get? m.1).bind m.2.read? := by
        simp only [SectionFormat.given, lookup_of_mem h.nodup hm, hrecord, Option.bind_eq_bind,
          Option.bind_some]
      rw [Fields.eq_value?_iff (h.isSome_lookup a hm), hgiven]
    rw [Option.bind_some, SectionFormat.collect_eq_some_iff h.nodup (h.keys a),
      forall₂_congr hfield]
    simp only [Option.some.injEq, exists_eq_left', forall_and]

theorem exists_read (h : ReadsSection format values usual read) (hfits : format.Fits t) :
    ∃ a, read t = some a := by
  obtain ⟨f, hf, hgiven⟩ := hfits
  have hvalues : ∃ vs, format.collect
      (fun key kind => f.value? key kind ((values usual).lookup key)) = some vs :=
    SectionFormat.exists_collect fun m hm =>
      Fields.isSome_value? (hgiven m hm) (h.isSome_lookup usual hm)
  obtain ⟨vs, hvs⟩ := hvalues
  have hmap : (read t).map values = some vs := by
    rw [h.map_read, SectionFormat.read?, hf]
    exact hvs
  obtain ⟨a, ha, -⟩ := Option.map_eq_some_iff.1 hmap
  exact ⟨a, ha⟩

end ReadsSection

/-- A section that may be left out is made as it has to be if it is given, and its values are the
given ones or else the usual ones. -/
def Fields.TakesSection (f : Fields τ) (name : String) (format : SectionFormat)
    (usual value : String → Option SettingValue) : Prop :=
  (∀ x ∈ f.get? name, format.Fits x) ∧
    ∀ m ∈ format, value m.1 = ((f.get? name).bind (format.given · m.1)).or (usual m.1)

theorem ReadsSection.orDefault_eq_some_iff (h : ReadsSection format values usual read) {a : σ} :
    f.orDefault name usual read = some a ↔
      f.TakesSection name format ((values usual).lookup ·) ((values a).lookup ·) := by
  rw [Fields.orDefault, Fields.TakesSection]
  cases f.get? name with
  | some t => simp [h.read_eq_some_iff]
  | none =>
    simp only [Option.some.injEq, Option.bind_none, Option.none_or, Option.mem_def, reduceCtorEq,
      false_implies, implies_true, true_and]
    constructor
    · rintro rfl m -
      rfl
    · intro heq
      exact (h.ext heq).symm

theorem ReadsSection.exists_orDefault (h : ReadsSection format values usual read)
    (hfits : ∀ x ∈ f.get? name, format.Fits x) : ∃ a, f.orDefault name usual read = some a := by
  rw [Fields.orDefault]
  cases hget : f.get? name with
  | none => exact ⟨usual, rfl⟩
  | some t => exact h.exists_read (hfits t hget)

end sections

theorem DeviceSettings.describes : format.Describes values where
  nodup := by decide
  keys _ := rfl
  injective a b h := by
    cases a
    cases b
    simpa [values, UInt64.toNat_inj] using h

theorem DeviceSettings.readsSection :
    ReadsSection format values {} (DeviceSettings.read? (τ := τ)) where
  toDescribes := describes
  map_read t := by
    rw [read?]
    generalize ({} : DeviceSettings) = usual
    simp [SectionFormat.read?, SectionFormat.collect, format, values, Option.map_bind,
      List.lookup_cons, Option.bind_map, Function.comp_def]

theorem StreamSettings.describes : format.Describes values where
  nodup := by decide
  keys _ := rfl
  injective a b h := by
    cases a
    cases b
    simpa [values, UInt64.toNat_inj] using h

theorem StreamSettings.readsSection :
    ReadsSection format values {} (StreamSettings.read? (τ := τ)) where
  toDescribes := describes
  map_read t := by
    rw [read?]
    generalize ({} : StreamSettings) = usual
    simp [SectionFormat.read?, SectionFormat.collect, format, values, Option.map_bind,
      List.lookup_cons, Option.bind_map, Function.comp_def]

theorem PreviewSettings.describes : format.Describes values where
  nodup := by decide
  keys _ := rfl
  injective a b h := by
    cases a
    cases b
    simpa [values, UInt32.toNat_inj] using h

theorem PreviewSettings.readsSection :
    ReadsSection format values {} (PreviewSettings.read? (τ := τ)) where
  toDescribes := describes
  map_read t := by
    rw [read?]
    generalize ({} : PreviewSettings) = usual
    simp [SectionFormat.read?, SectionFormat.collect, format, values, Option.map_bind,
      List.lookup_cons, Option.bind_map, Function.comp_def]

theorem ConsoleSettings.describes : format.Describes values where
  nodup := by decide
  keys _ := rfl
  injective a b h := by
    cases a
    cases b
    simpa [values, UInt64.toNat_inj] using h

theorem ConsoleSettings.readsSection :
    ReadsSection format values {} (ConsoleSettings.read? (τ := τ)) where
  toDescribes := describes
  map_read t := by
    rw [read?]
    generalize ({} : ConsoleSettings) = usual
    simp [SectionFormat.read?, SectionFormat.collect, format, values, Option.map_bind,
      List.lookup_cons, Option.bind_map, Function.comp_def]

namespace Settings

theorem read?_eq_some_iff_takes {t : τ} {s : Settings} :
    read? t = some s ↔ ∃ f : Fields τ, Readable.record? (format.map (·.1)) t = some f ∧
      ∀ m ∈ format, f.TakesSection m.1 m.2 (value? {} m.1) (s.value? m.1) := by
  obtain ⟨device, stream, preview, console⟩ := s
  simp only [read?, Option.bind_eq_bind, Option.bind_eq_some_iff, Option.some.injEq, mk.injEq,
    DeviceSettings.readsSection.orDefault_eq_some_iff,
    StreamSettings.readsSection.orDefault_eq_some_iff,
    PreviewSettings.readsSection.orDefault_eq_some_iff,
    ConsoleSettings.readsSection.orDefault_eq_some_iff]
  constructor
  · rintro ⟨f, hf, _, h₁, _, h₂, _, h₃, _, h₄, rfl, rfl, rfl, rfl⟩
    exact ⟨f, hf, by simpa only [format, List.forall_mem_cons] using ⟨h₁, h₂, h₃, h₄, by simp⟩⟩
  · rintro ⟨f, hf, h⟩
    simp only [format, List.forall_mem_cons] at h
    exact ⟨f, hf, _, h.1, _, h.2.1, _, h.2.2.1, _, h.2.2.2.1, rfl, rfl, rfl, rfl⟩

/-- The names of a field and its section. -/
def Known (name key : String) : Prop := ∃ m ∈ format, m.1 = name ∧ ∃ k ∈ m.2, k.1 = key

theorem value?_of_not_known {name key : String} (h : ¬ Known name key) (s : Settings) :
    s.value? name key = none := by
  have hnames : s.sections.map (fun m => (m.1, m.2.map (·.1))) =
      format.map (fun m => (m.1, m.2.map (·.1))) := rfl
  rw [Option.eq_none_iff_forall_ne_some]
  intro v hv
  obtain ⟨fields, hfields, hkey⟩ := Option.bind_eq_some_iff.1 hv
  have hmem : (name, fields.map (·.1)) ∈ format.map (fun m => (m.1, m.2.map (·.1))) := by
    rw [← hnames]
    exact List.mem_map_of_mem (mem_of_lookup hfields)
  obtain ⟨m, hm, heq⟩ := List.mem_map.1 hmem
  obtain ⟨rfl, hkeys⟩ := Prod.mk.inj heq
  have hmem' : key ∈ m.2.map (·.1) := by
    rw [hkeys]
    exact List.mem_map_of_mem (mem_of_lookup hkey)
  obtain ⟨k, hk, rfl⟩ := List.mem_map.1 hmem'
  exact h ⟨m, hm, rfl, k, hk, rfl⟩

theorem given_of_not_known {name key : String} (h : ¬ Known name key) (t : τ) :
    given t name key = none := by
  rw [Option.eq_none_iff_forall_ne_some]
  intro v hv
  obtain ⟨sectionFormat, hformat, hv⟩ := Option.bind_eq_some_iff.1 hv
  obtain ⟨f, -, hv⟩ := Option.bind_eq_some_iff.1 hv
  obtain ⟨x, -, hv⟩ := Option.bind_eq_some_iff.1 hv
  obtain ⟨kind, hkind, -⟩ := Option.bind_eq_some_iff.1 hv
  exact h ⟨_, mem_of_lookup hformat, rfl, _, mem_of_lookup hkind, rfl⟩

/-- **Settings are read** from trees that are made as they have to be: what the tree gives, and
otherwise what is usual. -/
theorem read?_eq_some_iff {t : τ} {s : Settings} :
    read? t = some s ↔ Fits t ∧ s.value? = Layer.merge [given t, value? {}] := by
  rw [read?_eq_some_iff_takes, Fits]
  cases hread : Readable.record? (format.map (·.1)) t with
  | none => simp
  | some f =>
    have hgiven : ∀ m ∈ format, ∀ key,
        given t m.1 key = (f.get? m.1).bind (m.2.given · key) := by
      intro m hm key
      have hnodup : (format.map (·.1)).Nodup := by decide
      simp only [given, lookup_of_mem hnodup hm, hread, Option.bind_eq_bind, Option.bind_some]
    simp only [Option.some.injEq, exists_eq_left', Fields.TakesSection]
    constructor
    · intro h
      refine ⟨fun m hm => (h m hm).1, ?_⟩
      funext name key
      rw [Layer.merge_pair]
      by_cases hknown : Known name key
      · obtain ⟨m, hm, rfl, k, hk, rfl⟩ := hknown
        rw [hgiven m hm]
        exact (h m hm).2 k hk
      · rw [value?_of_not_known hknown, value?_of_not_known hknown, given_of_not_known hknown,
          Option.none_or]
    · rintro ⟨hfits, hvalue⟩ m hm
      refine ⟨hfits m hm, fun k hk => ?_⟩
      rw [hvalue, Layer.merge_pair, hgiven m hm]

theorem exists_read? {t : τ} (h : Fits t) : ∃ s, read? t = some s := by
  obtain ⟨f, hf, h⟩ := h
  simp only [format, List.forall_mem_cons] at h
  obtain ⟨device, hdevice⟩ := DeviceSettings.readsSection.exists_orDefault h.1
  obtain ⟨stream, hstream⟩ := StreamSettings.readsSection.exists_orDefault h.2.1
  obtain ⟨preview, hpreview⟩ := PreviewSettings.readsSection.exists_orDefault h.2.2.1
  obtain ⟨console, hconsole⟩ := ConsoleSettings.readsSection.exists_orDefault h.2.2.2.1
  refine ⟨⟨device, stream, preview, console⟩, ?_⟩
  simp only [format, List.map_cons, List.map_nil] at hf
  simp only [read?, hf, hdevice, hstream, hpreview, hconsole, Option.bind_eq_bind,
    Option.bind_some]

theorem value?_injective : value?.Injective := by
  intro a b h
  have hlookup : ∀ name key, a.value? name key = b.value? name key := by simp [h]
  have hdevice : a.device = b.device := DeviceSettings.describes.ext fun m _ => hlookup "api" m.1
  have hstream : a.stream = b.stream := StreamSettings.describes.ext fun m _ => hlookup "stream" m.1
  have hpreview : a.preview = b.preview :=
    PreviewSettings.describes.ext fun m _ => hlookup "preview" m.1
  have hconsole : a.console = b.console :=
    ConsoleSettings.describes.ext fun m _ => hlookup "console" m.1
  cases a
  cases b
  congr

end Settings

end PenPlotter
