import Mathlib.Algebra.Group.Nat.Defs
import Mathlib.Data.List.Nodup
import Mathlib.Data.Nat.Notation
import PenPlotter.Settings.Format

/-! # Settings as records

`Faithful write record`: fields are written by `write`, where some may be left out, and put into
records by `record`, so that the reader takes what was written; only of doubles it is left open
what is taken.  Settings that are written so are read back but for their two doubles, which are
those that the reader takes (`Settings.read?_written`). -/

namespace PenPlotter

section fields

variable {τ α : Type} {f : Fields τ} {name : String} {default : α} {read : τ → Option α}

theorem Fields.orDefault_of_some {t : τ} (h : f.get? name = some t) :
    f.orDefault name default read = read t := by rw [Fields.orDefault, h]

theorem Fields.orDefault_of_none (h : f.get? name = none) :
    f.orDefault name default read = some default := by rw [Fields.orDefault, h]

end fields

variable {τ : Type} [Readable τ]

/-- A way to write fields and records, from which the reader takes what was written. -/
structure Faithful (write : SettingValue → Option τ) (record : List (String × τ) → τ) : Prop where
  fields : ∀ (names : List String) (members : List (String × τ)), (members.map (·.1)).Nodup →
    (∀ m ∈ members, m.1 ∈ names) → ∃ f : Fields τ,
      Readable.record? names (record members) = some f ∧
      ∀ name, f.get? name = (members.find? (·.1 == name)).map (·.2)
  text : ∀ s, ∃ t, write (.text s) = some t ∧ Readable.string? t = some s
  natural : ∀ {n bits : ℕ}, n < 2 ^ bits → bits ≤ 64 →
    ∃ t, write (.natural n) = some t ∧ Readable.natural? bits t = some n
  float : ∀ x, ∃ t, write (.float x) = some t
  noText : ∀ t ∈ write (.textOrNone none),
    Readable.nullable? Readable.string? t = some (none : Option String)
  someText : ∀ s, ∃ t, write (.textOrNone (some s)) = some t ∧
    Readable.nullable? Readable.string? t = some (some s)

/-- The fields of a section that are not left out. -/
def writtenFields (write : SettingValue → Option τ) (fields : List (String × SettingValue)) :
    List (String × τ) :=
  fields.filterMap fun (key, v) => (write v).map fun t => (key, t)

def writtenSection (write : SettingValue → Option τ) (record : List (String × τ) → τ)
    (fields : List (String × SettingValue)) : τ :=
  record (writtenFields write fields)

def Settings.written (write : SettingValue → Option τ) (record : List (String × τ) → τ)
    (s : Settings) : τ :=
  record (s.sections.map fun (name, fields) => (name, writtenSection write record fields))

/-- What the reader takes for a double. -/
def readBack (write : SettingValue → Option τ) (x : Float) : Option Float :=
  (write (.float x)).bind Readable.float?

section sections

variable {write : SettingValue → Option τ} {record : List (String × τ) → τ}

omit [Readable τ] in
theorem writtenFields_cons (m : String × SettingValue) (fields : List (String × SettingValue)) :
    writtenFields write (m :: fields) = match write m.2 with
      | some t => (m.1, t) :: writtenFields write fields
      | none => writtenFields write fields := by
  obtain ⟨key, v⟩ := m
  cases h : write v <;> simp [writtenFields, h]

omit [Readable τ] in
theorem keys_writtenFields (fields : List (String × SettingValue)) :
    ((writtenFields write fields).map (·.1)).Sublist (fields.map (·.1)) := by
  induction fields with
  | nil => exact .slnil
  | cons m fields ih =>
      rw [writtenFields_cons]
      cases write m.2 with
      | none => exact ih.cons m.1
      | some t => exact ih.cons_cons m.1

omit [Readable τ] in
theorem find?_writtenFields {fields : List (String × SettingValue)}
    (hkeys : (fields.map (·.1)).Nodup) {m : String × SettingValue} (hmem : m ∈ fields) :
    ((writtenFields write fields).find? (·.1 == m.1)).map (·.2) = write m.2 := by
  induction fields with
  | nil => simp at hmem
  | cons m' fields ih =>
      rw [List.map_cons, List.nodup_cons] at hkeys
      rw [writtenFields_cons]
      rcases List.mem_cons.1 hmem with rfl | hmem
      · cases write m.2 with
        | some t => simp
        | none =>
            -- no other field has the name
            have hnone : (writtenFields write fields).find? (·.1 == m.1) = none := by
              rw [List.find?_eq_none]
              rintro m' hmem heq
              exact hkeys.1 (eq_of_beq heq ▸ (keys_writtenFields fields).mem
                (List.mem_map_of_mem hmem))
            simp only [hnone, Option.map_none]
      · have hne : m'.1 ≠ m.1 := fun heq => hkeys.1 (heq ▸ List.mem_map_of_mem hmem)
        rw [← ih hkeys.2 hmem]
        cases write m'.2 <;> simp [hne]

theorem Faithful.section (hf : Faithful write record) (fields : List (String × SettingValue))
    (hkeys : (fields.map (·.1)).Nodup) :
    ∃ f, Readable.record? (fields.map (·.1)) (writtenSection write record fields) = some f ∧
      ∀ m ∈ fields, f.get? m.1 = write m.2 := by
  have hsub : ((writtenFields write fields).map (·.1)).Sublist (fields.map (·.1)) :=
    keys_writtenFields fields
  obtain ⟨f, hread, hget⟩ := hf.fields _ _ (hkeys.sublist hsub)
    fun m hm => hsub.mem (List.mem_map_of_mem hm)
  exact ⟨f, hread, fun m hm => by rw [hget, find?_writtenFields hkeys hm]⟩

theorem Faithful.word (hf : Faithful write record) (n : UInt64) :
    ∃ t, write (.natural n.toNat) = some t ∧ readWord t = some n := by
  obtain ⟨t, hwrite, hread⟩ := hf.natural n.toNat_lt (Nat.le_refl 64)
  exact ⟨t, hwrite, by rw [readWord, hread, Option.map_some, UInt64.ofNat_toNat]⟩

theorem Faithful.halfWord (hf : Faithful write record) (n : UInt32) :
    ∃ t, write (.natural n.toNat) = some t ∧ readHalfWord t = some n := by
  obtain ⟨t, hwrite, hread⟩ := hf.natural n.toNat_lt (by decide)
  exact ⟨t, hwrite, by rw [readHalfWord, hread, Option.map_some, UInt32.ofNat_toNat]⟩

theorem DeviceSettings.read?_written (hf : Faithful write record) (d : DeviceSettings) :
    DeviceSettings.read? (writtenSection write record
      [("base_url", .text d.baseUrl), ("timeout_ms", .natural d.timeout.toNat)]) = some d := by
  obtain ⟨url, hurl, rurl⟩ := hf.text d.baseUrl
  obtain ⟨timeout, htimeout, rtimeout⟩ := hf.word d.timeout
  obtain ⟨f, hread, hget⟩ := hf.section
    [("base_url", .text d.baseUrl), ("timeout_ms", .natural d.timeout.toNat)] (by simp)
  simp only [List.forall_mem_cons, hurl, htimeout] at hget
  obtain ⟨g₁, g₂, -⟩ := hget
  simp only [List.map_cons, List.map_nil] at hread
  simp only [DeviceSettings.read?, hread, Option.bind_eq_bind, Option.bind_some,
    Fields.orDefault_of_some g₁, Fields.orDefault_of_some g₂, rurl, rtimeout]

theorem StreamSettings.read?_written (hf : Faithful write record) (d : StreamSettings) :
    StreamSettings.read? (writtenSection write record
      [("url", .text d.url), ("reconnect_delay_ms", .natural d.reconnectDelay.toNat),
        ("seen_key_capacity", .natural d.seenCapacity.toNat)]) = some d := by
  obtain ⟨url, hurl, rurl⟩ := hf.text d.url
  obtain ⟨delay, hdelay, rdelay⟩ := hf.word d.reconnectDelay
  obtain ⟨capacity, hcapacity, rcapacity⟩ := hf.word d.seenCapacity
  obtain ⟨f, hread, hget⟩ := hf.section
    [("url", .text d.url), ("reconnect_delay_ms", .natural d.reconnectDelay.toNat),
      ("seen_key_capacity", .natural d.seenCapacity.toNat)] (by simp)
  simp only [List.forall_mem_cons, hurl, hdelay, hcapacity] at hget
  obtain ⟨g₁, g₂, g₃, -⟩ := hget
  simp only [List.map_cons, List.map_nil] at hread
  simp only [StreamSettings.read?, hread, Option.bind_eq_bind, Option.bind_some,
    Fields.orDefault_of_some g₁, Fields.orDefault_of_some g₂, Fields.orDefault_of_some g₃, rurl,
    rdelay, rcapacity]

theorem Faithful.orDefault_paper (hf : Faithful write record) {f : Fields τ}
    {paper : Option String} (hget : f.get? "default_paper" = write (.textOrNone paper)) :
    f.orDefault "default_paper" none (Readable.nullable? Readable.string?) = some paper := by
  cases paper with
  | some name =>
      obtain ⟨t, hwrite, hread⟩ := hf.someText name
      rw [Fields.orDefault_of_some (hget.trans hwrite), hread]
  | none =>
      cases hwrite : write (.textOrNone none) with
      | none => exact Fields.orDefault_of_none (hget.trans hwrite)
      | some t => rw [Fields.orDefault_of_some (hget.trans hwrite), hf.noText t hwrite]

theorem PreviewSettings.read?_written (hf : Faithful write record) (d : PreviewSettings) :
    PreviewSettings.read? (writtenSection write record
      [("canvas_width", .natural d.canvasWidth.toNat),
        ("canvas_height", .natural d.canvasHeight.toNat), ("padding_px", .float d.padding),
        ("default_paper", .textOrNone d.defaultPaper)]) =
      (readBack write d.padding).map fun x => { d with padding := x } := by
  obtain ⟨width, hwidth, rwidth⟩ := hf.halfWord d.canvasWidth
  obtain ⟨height, hheight, rheight⟩ := hf.halfWord d.canvasHeight
  obtain ⟨padding, hpadding⟩ := hf.float d.padding
  obtain ⟨f, hread, hget⟩ := hf.section [("canvas_width", .natural d.canvasWidth.toNat),
    ("canvas_height", .natural d.canvasHeight.toNat), ("padding_px", .float d.padding),
    ("default_paper", .textOrNone d.defaultPaper)] (by simp)
  simp only [List.forall_mem_cons, hwidth, hheight, hpadding] at hget
  obtain ⟨g₁, g₂, g₃, g₄, -⟩ := hget
  simp only [List.map_cons, List.map_nil] at hread
  simp only [PreviewSettings.read?, hread, Option.bind_eq_bind, Option.bind_some,
    Fields.orDefault_of_some g₁, Fields.orDefault_of_some g₂, Fields.orDefault_of_some g₃,
    hf.orDefault_paper g₄, rwidth, rheight, readBack, hpadding]
  cases Readable.float? padding <;> rfl

theorem ConsoleSettings.read?_written (hf : Faithful write record) (d : ConsoleSettings) :
    ConsoleSettings.read? (writtenSection write record
      [("page_size", .natural d.pageSize.toNat),
        ("response_preview_chars", .natural d.previewChars.toNat),
        ("follow_threshold_px", .float d.followThreshold)]) =
      (readBack write d.followThreshold).map fun x => { d with followThreshold := x } := by
  obtain ⟨size, hsize, rsize⟩ := hf.word d.pageSize
  obtain ⟨chars, hchars, rchars⟩ := hf.word d.previewChars
  obtain ⟨threshold, hthreshold⟩ := hf.float d.followThreshold
  obtain ⟨f, hread, hget⟩ := hf.section [("page_size", .natural d.pageSize.toNat),
    ("response_preview_chars", .natural d.previewChars.toNat),
    ("follow_threshold_px", .float d.followThreshold)] (by simp)
  simp only [List.forall_mem_cons, hsize, hchars, hthreshold] at hget
  obtain ⟨g₁, g₂, g₃, -⟩ := hget
  simp only [List.map_cons, List.map_nil] at hread
  simp only [ConsoleSettings.read?, hread, Option.bind_eq_bind, Option.bind_some,
    Fields.orDefault_of_some g₁, Fields.orDefault_of_some g₂, Fields.orDefault_of_some g₃, rsize,
    rchars, readBack, hthreshold]
  cases Readable.float? threshold <;> rfl

/-- **Written settings** are read back but for their doubles. -/
theorem Settings.read?_written (hf : Faithful write record) (s : Settings) :
    Settings.read? (s.written write record) =
      (readBack write s.preview.padding).bind fun x =>
        (readBack write s.console.followThreshold).map fun y =>
          { s with
            preview := { s.preview with padding := x }
            console := { s.console with followThreshold := y } } := by
  obtain ⟨f, hread, hget⟩ := hf.fields ["api", "stream", "preview", "console"]
    (s.sections.map fun (name, fields) => (name, writtenSection write record fields))
    (by simp [sections]) (by simp [sections])
  have g₁ : f.get? "api" = some _ := hget "api"
  have g₂ : f.get? "stream" = some _ := hget "stream"
  have g₃ : f.get? "preview" = some _ := hget "preview"
  have g₄ : f.get? "console" = some _ := hget "console"
  simp only [Settings.read?, Settings.written, hread, Option.bind_eq_bind, Option.bind_some,
    Fields.orDefault_of_some g₁, Fields.orDefault_of_some g₂, Fields.orDefault_of_some g₃,
    Fields.orDefault_of_some g₄, DeviceSettings.read?_written hf, StreamSettings.read?_written hf,
    PreviewSettings.read?_written hf, ConsoleSettings.read?_written hf]
  cases readBack write s.preview.padding <;> cases readBack write s.console.followThreshold <;> rfl

end sections

end PenPlotter
