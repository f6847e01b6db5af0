import PenPlotter.CommandLine.Execution
import PenPlotter.Proofs.Settings.Layers

/-! # The settings of a command

A command runs with three layers of settings: the addresses among its arguments, the settings file
and the usual settings.  The file has to be valid on its own, with the usual settings below it,
before the addresses are laid over it; the outcome is checked once more. -/

namespace PenPlotter

namespace Settings

variable {fs : FileSystem} {l : Location} {format : SettingsFormat} {text : String}
  {layer : Layer} {s : Settings} {e : SettingsError} {place : Option Location}

/-! ### Settings files -/

/-- A text of a notation gives a layer. -/
inductive TextGives : SettingsFormat → String → Layer → Prop where
  | json {text : String} {t : Json.Tree} (htree : Json.Tree.ofString? text = some t)
      (hfits : Fits t) : TextGives .json text (given t)
  | toml {text : String} {t : Toml} (htree : Toml.ofString? text = some t)
      (hfits : Fits t) : TextGives .toml text (given t)

/-- What is said of a text that gives no layer. -/
def undecodable : SettingsFormat → SettingsError
  | .json => .badJson
  | .toml => .badToml

/-- The settings that a text of a notation writes. -/
def decode? (format : SettingsFormat) (text : String) : Option Settings :=
  match format with
  | .json => (Json.Tree.ofString? text).bind read?
  | .toml => (Toml.ofString? text).bind read?

theorem ofText_eq (format : SettingsFormat) (text : String) :
    ofText format text = (decode? format text).elim (.error (undecodable format)) .ok := by
  cases format with
  | json =>
    rw [ofText, decode?]
    cases (Json.Tree.ofString? text).bind read? <;> rfl
  | toml =>
    rw [ofText, decode?]
    cases (Toml.ofString? text).bind read? <;> rfl

theorem decode?_eq_some_iff : decode? format text = some s ↔
    ∃ layer, TextGives format text layer ∧ s.value? = Layer.merge [layer, value? {}] := by
  constructor
  · intro h
    cases format with
    | json =>
      obtain ⟨t, htree, hread⟩ := Option.bind_eq_some_iff.1 h
      obtain ⟨hfits, hvalue⟩ := read?_eq_some_iff.1 hread
      exact ⟨_, .json htree hfits, hvalue⟩
    | toml =>
      obtain ⟨t, htree, hread⟩ := Option.bind_eq_some_iff.1 h
      obtain ⟨hfits, hvalue⟩ := read?_eq_some_iff.1 hread
      exact ⟨_, .toml htree hfits, hvalue⟩
  · rintro ⟨layer, htext, hvalue⟩
    cases htext with
    | json htree hfits =>
      exact Option.bind_eq_some_iff.2 ⟨_, htree, read?_eq_some_iff.2 ⟨hfits, hvalue⟩⟩
    | toml htree hfits =>
      exact Option.bind_eq_some_iff.2 ⟨_, htree, read?_eq_some_iff.2 ⟨hfits, hvalue⟩⟩

theorem decode?_eq_none_iff :
    decode? format text = none ↔ ∀ layer, ¬ TextGives format text layer := by
  constructor
  · rintro h layer htext
    -- what fits can be read
    have hread : ∃ s, decode? format text = some s := by
      cases htext with
      | json htree hfits =>
        obtain ⟨s, hs⟩ := exists_read? hfits
        exact ⟨s, Option.bind_eq_some_iff.2 ⟨_, htree, hs⟩⟩
      | toml htree hfits =>
        obtain ⟨s, hs⟩ := exists_read? hfits
        exact ⟨s, Option.bind_eq_some_iff.2 ⟨_, htree, hs⟩⟩
    obtain ⟨s, hs⟩ := hread
    rw [h] at hs
    cases hs
  · intro h
    rw [Option.eq_none_iff_forall_ne_some]
    intro s hs
    obtain ⟨layer, htext, -⟩ := decode?_eq_some_iff.1 hs
    exact h layer htext

/-- A settings file gives a layer, and with the usual settings below it is valid. -/
structure FileGives (fs : FileSystem) (l : Location) (layer : Layer) (s : Settings) : Prop where
  text : ∃ format text, formatOf l = .ok format ∧ fs.readText l = .ok text ∧
    TextGives format text layer
  value : s.value? = Layer.merge [layer, value? {}]
  valid : s.problem? = none

/-- Why settings are not loaded from a file. -/
inductive LoadFails (fs : FileSystem) (l : Location) : SettingsError → Prop where
  | unsupported {e : SettingsError} (hformat : formatOf l = .error e) : LoadFails fs l e
  | unreadable {format : SettingsFormat} {e : FileError} (hformat : formatOf l = .ok format)
      (hread : fs.readText l = .error e) : LoadFails fs l (.load l.text e.message)
  | undecodable {format : SettingsFormat} {text : String} (hformat : formatOf l = .ok format)
      (hread : fs.readText l = .ok text) (htext : ∀ layer, ¬ TextGives format text layer) :
      LoadFails fs l (undecodable format)
  | invalid {format : SettingsFormat} {text : String} {layer : Layer} {s : Settings}
      {p : SettingsProblem} (hformat : formatOf l = .ok format)
      (hread : fs.readText l = .ok text) (htext : TextGives format text layer)
      (hvalue : s.value? = Layer.merge [layer, value? {}]) (hproblem : s.problem? = some p) :
      LoadFails fs l (.invalid p)

theorem load_of_decode?_eq_some (hformat : formatOf l = .ok format)
    (hread : fs.readText l = .ok text) (hdecode : decode? format text = some s) :
    load fs l = s.check.map fun _ => s := by
  have htext : ofText format text = .ok s := by rw [ofText_eq, hdecode, Option.elim_some]
  rw [load, hformat, hread]
  change (ofText format text >>= fun s => s.check >>= fun _ => pure s) = _
  rw [htext]
  change (s.check >>= fun _ => pure s) = _
  cases s.check <;> rfl

theorem FileGives.load_eq (h : FileGives fs l layer s) : load fs l = .ok s := by
  obtain ⟨⟨format, text, hformat, hread, htext⟩, hvalue, hvalid⟩ := h
  have hdecode : decode? format text = some s := decode?_eq_some_iff.2 ⟨layer, htext, hvalue⟩
  rw [load_of_decode?_eq_some hformat hread hdecode, check, hvalid]
  rfl

theorem LoadFails.load_eq (h : LoadFails fs l e) : load fs l = .error e := by
  cases h with
  | unsupported hformat =>
    rw [load, hformat]
    rfl
  | unreadable hformat hread =>
    rw [load, hformat, hread]
    rfl
  | undecodable hformat hread htext =>
    rename_i format text
    have htext : ofText format text = .error (Settings.undecodable format) := by
      rw [ofText_eq, decode?_eq_none_iff.2 htext, Option.elim_none]
    rw [load, hformat, hread]
    change (ofText format text >>= fun _ => _) = _
    rw [htext]
    rfl
  | invalid hformat hread htext hvalue hproblem =>
    have hdecode := decode?_eq_some_iff.2 ⟨_, htext, hvalue⟩
    rw [load_of_decode?_eq_some hformat hread hdecode, check, hproblem]
    rfl

/-- A file gives settings, or there is a reason why not. -/
theorem fileGives_or_loadFails (fs : FileSystem) (l : Location) :
    (∃ layer s, FileGives fs l layer s) ∨ ∃ e, LoadFails fs l e := by
  cases hformat : formatOf l with
  | error e => exact .inr ⟨e, .unsupported hformat⟩
  | ok format =>
    cases hread : fs.readText l with
    | error e => exact .inr ⟨_, .unreadable hformat hread⟩
    | ok text =>
      cases hdecode : decode? format text with
      | none => exact .inr ⟨_, .undecodable hformat hread (decode?_eq_none_iff.1 hdecode)⟩
      | some s =>
        obtain ⟨layer, htext, hvalue⟩ := decode?_eq_some_iff.1 hdecode
        cases hproblem : s.problem? with
        | none => exact .inl ⟨layer, s, ⟨format, text, hformat, hread, htext⟩, hvalue, hproblem⟩
        | some p => exact .inr ⟨_, .invalid hformat hread htext hvalue hproblem⟩

theorem load_eq_ok_iff : load fs l = .ok s ↔ ∃ layer, FileGives fs l layer s := by
  constructor
  · intro h
    rcases fileGives_or_loadFails fs l with ⟨layer, s', hs'⟩ | ⟨e, he⟩
    · rw [hs'.load_eq] at h
      cases h
      exact ⟨layer, hs'⟩
    · rw [he.load_eq] at h
      cases h
  · rintro ⟨layer, hs⟩
    exact hs.load_eq

/-- What the settings file contributes: nothing if there is none. -/
inductive Contributes (fs : FileSystem) : Option Location → Layer → Settings → Prop where
  | nowhere : Contributes fs none Layer.empty {}
  | missing {l : Location} (h : fs.isThere l = false) : Contributes fs (some l) Layer.empty {}
  | file {l : Location} {layer : Layer} {s : Settings} (hthere : fs.isThere l = true)
      (h : FileGives fs l layer s) : Contributes fs (some l) layer s

theorem Contributes.value (h : Contributes fs place layer s) :
    s.value? = Layer.merge [layer, value? {}] := by
  cases h with
  | nowhere => rw [Layer.merge_empty]
  | missing => rw [Layer.merge_empty]
  | file _ h => exact h.value

/-- The place of the settings file: the named one, or else the usual one. -/
def place? (d : UserDirectories) (l : Option Location) : Option Location :=
  l <|> (usualPlace d).toOption

theorem loadFrom_eq (fs : FileSystem) (d : UserDirectories) (l : Option Location) :
    loadFrom fs d l = match place? d l with
      | some l => loadIfThere fs l
      | none => .ok {} := by
  cases l with
  | some l => rfl
  | none =>
    rw [loadFrom, place?]
    cases usualPlace d <;> rfl

theorem loadFrom_eq_ok_iff {d : UserDirectories} {l : Option Location} :
    loadFrom fs d l = .ok s ↔ ∃ layer, Contributes fs (place? d l) layer s := by
  rw [loadFrom_eq]
  cases place? d l with
  | none =>
    constructor
    · rintro ⟨⟩
      exact ⟨_, .nowhere⟩
    · rintro ⟨_, ⟨⟩⟩
      rfl
  | some l =>
    simp only [loadIfThere]
    cases hthere : fs.isThere l with
    | false =>
      constructor
      · rintro ⟨⟩
        exact ⟨_, .missing hthere⟩
      · rintro ⟨_, _ | _ | ⟨hthere', _⟩⟩
        · rfl
        · rw [hthere] at hthere'
          cases hthere'
    | true =>
      rw [if_pos rfl, load_eq_ok_iff]
      constructor
      · rintro ⟨layer, h⟩
        exact ⟨layer, .file hthere h⟩
      · rintro ⟨_, _ | hthere' | ⟨_, h⟩⟩
        · rw [hthere] at hthere'
          cases hthere'
        · exact ⟨_, h⟩

end Settings

namespace CommandLine

variable (c : CommandLine)

/-- The addresses given among the arguments. -/
def overrides : Layer := fun name key =>
  if name = "api" ∧ key = "base_url" then c.deviceUrl.map .text
  else if name = "stream" ∧ key = "url" then c.streamUrl.map .text
  else none

/-- Settings with the addresses of the arguments. -/
def override (s : Settings) : Settings :=
  { s with
    device := { s.device with baseUrl := c.deviceUrl.getD s.device.baseUrl }
    stream := { s.stream with url := c.streamUrl.getD s.stream.url } }

theorem value?_override (s : Settings) :
    (c.override s).value? = Layer.merge [c.overrides, s.value?] := by
  funext name key
  rw [Layer.merge_pair, overrides]
  by_cases hdevice : name = "api"
  · subst hdevice
    change (c.override s).device.values.lookup key = Option.or _ (s.device.values.lookup key)
    by_cases hkey : key = "base_url"
    · subst hkey
      cases hurl : c.deviceUrl <;> simp [override, DeviceSettings.values, hurl]
    · simp [override, DeviceSettings.values, List.lookup_cons, hkey, beq_false_of_ne hkey]
  · by_cases hstream : name = "stream"
    · subst hstream
      change (c.override s).stream.values.lookup key = Option.or _ (s.stream.values.lookup key)
      by_cases hkey : key = "url"
      · subst hkey
        cases hurl : c.streamUrl <;> simp [override, StreamSettings.values, hurl]
      · simp [override, StreamSettings.values, List.lookup_cons, hkey, beq_false_of_ne hkey]
    · simp [override, Settings.value?, Settings.sections, List.lookup_cons, hdevice, hstream,
        beq_false_of_ne hdevice, beq_false_of_ne hstream]

theorem settings_eq (fs : FileSystem) (d : Settings.UserDirectories) :
    c.settings fs d = match Settings.loadFrom fs d c.settingsFile with
      | .error e => .error ⟨["loading configuration"], .settings e⟩
      | .ok own => match (c.override own).problem? with
        | some p => .error ⟨["invalid configuration"], .problem p⟩
        | none => .ok (c.override own) := by
  rw [settings]
  cases Settings.loadFrom fs d c.settingsFile <;> rfl

variable {c : CommandLine} {fs : FileSystem} {d : Settings.UserDirectories} {s : Settings}
  {layer : Layer}

theorem settings_of_contributes {own : Settings}
    (h : Settings.Contributes fs (Settings.place? d c.settingsFile) layer own)
    (hvalue : s.value? = Layer.merge [c.overrides, layer, Settings.value? {}]) :
    c.settings fs d = match s.problem? with
      | some p => .error ⟨["invalid configuration"], .problem p⟩
      | none => .ok s := by
  have hs : c.override own = s := by
    apply Settings.value?_injective
    rw [value?_override, h.value, hvalue, Layer.merge_merge]
  rw [settings_eq, Settings.loadFrom_eq_ok_iff.2 ⟨layer, h⟩, ← hs]

/-- **The settings of a command** are valid, and each is what the arguments give, or else the
settings file, or else the usual one.  There are none if a file is there from which settings are
not loaded, or if the three layers together are not valid. -/
theorem settings_layers (c : CommandLine) (fs : FileSystem) (d : Settings.UserDirectories) :
    (∀ s, c.settings fs d = .ok s ↔ s.problem? = none ∧
      ∃ layer own, Settings.Contributes fs (Settings.place? d c.settingsFile) layer own ∧
        s.value? = Layer.merge [c.overrides, layer, Settings.value? {}]) ∧
    (∀ l e, Settings.place? d c.settingsFile = some l → fs.isThere l = true →
      Settings.LoadFails fs l e →
        c.settings fs d = .error ⟨["loading configuration"], .settings e⟩) ∧
    ∀ (layer : Layer) (own s : Settings) (p : SettingsProblem),
      Settings.Contributes fs (Settings.place? d c.settingsFile) layer own →
      s.value? = Layer.merge [c.overrides, layer, Settings.value? {}] → s.problem? = some p →
        c.settings fs d = .error ⟨["invalid configuration"], .problem p⟩ := by
  refine ⟨fun s => ⟨fun h => ?_, ?_⟩, ?_, ?_⟩
  · rw [settings_eq] at h
    split at h
    · cases h
    rename_i own hload
    split at h <;> cases h
    rename_i hvalid
    obtain ⟨layer, hlayer⟩ := Settings.loadFrom_eq_ok_iff.1 hload
    refine ⟨hvalid, layer, own, hlayer, ?_⟩
    rw [value?_override, hlayer.value, Layer.merge_merge]
  · rintro ⟨hvalid, layer, own, hlayer, hvalue⟩
    rw [settings_of_contributes hlayer hvalue, hvalid]
  · intro l e hplace hthere hfails
    rw [settings_eq, Settings.loadFrom_eq, hplace]
    simp only [Settings.loadIfThere, hthere, if_pos, hfails.load_eq]
  · intro layer own s p hlayer hvalue hproblem
    rw [settings_of_contributes hlayer hvalue, hproblem]

/-- A file that gives one field leaves all other fields of its section as usual. -/
example :
    let fs : FileSystem := ⟨[(["pen.toml"], .file (.text "[console]\npage_size = 25\n"))]⟩
    let c : CommandLine := ⟨some ⟨"pen.toml"⟩, some "http://plotter/api", none, .pretty, .ports⟩
    (c.settings fs ⟨none, ""⟩).toOption.map (fun s => (s.device, s.stream, s.console.pageSize,
      s.console.previewChars)) = some (⟨"http://plotter/api", 5000⟩, {}, 25, 200) := by
  decide +kernel

end CommandLine

end PenPlotter
