import PenPlotter.Proofs.Files.Writing
import PenPlotter.Proofs.Settings.Json
import PenPlotter.Proofs.Settings.Toml
import PenPlotter.Settings.Store

/-! # Saved settings are loaded again

What was saved is valid and stands in the file.  From TOML it is loaded as it was.  In JSON a
double that is not finite is written as null, which is not read as a double: the margin is always
finite, but the threshold of the console need not be, and then the file is refused. -/

namespace PenPlotter
namespace Settings

variable {fs fs' : FileSystem} {l : Location} {s : Settings} {format : SettingsFormat}
  {text : String}

/-! ### Valid settings -/

theorem padding_of_valid (h : s.problem? = none) :
    0.0 ≤ s.preview.padding ∧ s.preview.padding.isFinite = true := by
  have hpadding := problem?_eq_none_iff.1 h
    (atLeastZero s.preview.padding && s.preview.padding.isFinite,
      .outOfRange "preview.padding_px" (numberText s.preview.padding)) (by simp [requirements])
  simpa [atLeastZero] using hpadding

theorem threshold_of_valid (h : s.problem? = none) : 0.0 ≤ s.console.followThreshold := by
  have hthreshold := problem?_eq_none_iff.1 h
    (atLeastZero s.console.followThreshold,
      .outOfRange "console.follow_threshold_px" (numberText s.console.followThreshold))
    (by simp [requirements])
  simpa [atLeastZero] using hthreshold

theorem check_of_valid (h : s.problem? = none) : s.check = .ok () := by rw [check, h]

theorem valid_of_check (h : s.check = .ok ()) : s.problem? = none := by
  unfold check at h
  split at h
  · cases h
  · assumption

/-! ### Files -/

/-- The file at a location holds the settings, which are valid, in the notation of its name. -/
structure Saved (fs : FileSystem) (l : Location) (s : Settings) (format : SettingsFormat)
    (text : String) : Prop where
  valid : s.problem? = none
  format_eq : formatOf l = .ok format
  text_eq : s.toText format = .ok text
  file : fs.readText l = .ok text

theorem textFor_eq_ok (h : s.textFor l = .ok text) :
    s.problem? = none ∧ ∃ format, formatOf l = .ok format ∧ s.toText format = .ok text := by
  unfold textFor at h
  cases hcheck : s.check with
  | error e =>
      rw [hcheck] at h
      cases h
  | ok =>
      rw [hcheck] at h
      cases hformat : formatOf l with
      | error e =>
          rw [hformat] at h
          cases h
      | ok format =>
          rw [hformat] at h
          exact ⟨valid_of_check hcheck, format, rfl, h⟩

theorem saved_of_save (h : save fs l s = (fs', .ok ())) :
    ∃ format text, Saved fs' l s format text := by
  unfold save at h
  split at h
  · cases (Prod.mk.inj h).2
  rename_i text htext
  split at h
  · cases (Prod.mk.inj h).2
  rename_i fs₁ hparent
  generalize hwrite : fs₁.writeText l text = written at h
  obtain ⟨fs₂, outcome⟩ := written
  cases outcome with
  | error e => cases (Prod.mk.inj h).2
  | ok =>
      obtain rfl : fs₂ = fs' := (Prod.mk.inj h).1
      obtain ⟨hvalid, format, hformat, htext⟩ := textFor_eq_ok htext
      exact ⟨format, text, hvalid, hformat, htext, FileSystem.readText_of_writeText hwrite⟩

theorem Saved.load_eq_ok (h : Saved fs l s format text) (hread : ofText format text = .ok s) :
    load fs l = .ok s := by
  rw [load, h.format_eq, h.file]
  change (ofText format text >>= fun s => s.check >>= fun _ => pure s) = _
  rw [hread]
  change (s.check >>= fun _ => pure s) = _
  rw [check_of_valid h.valid]
  rfl

theorem Saved.load_eq_error (h : Saved fs l s format text) {e : SettingsError}
    (hread : ofText format text = .error e) : load fs l = .error e := by
  rw [load, h.format_eq, h.file]
  change (ofText format text >>= fun s => s.check >>= fun _ => pure s) = _
  rw [hread]
  rfl

theorem Saved.format_json (h : Saved fs l s format text) (hname : l.extension? = some "json") :
    format = .json := by
  have hformat := h.format_eq
  rw [formatOf, SettingsFormat.ofLocation, hname] at hformat
  exact (Except.ok.inj hformat).symm

theorem Saved.format_toml (h : Saved fs l s format text) (hname : l.extension? ≠ some "json") :
    format = .toml := by
  have hformat := h.format_eq
  unfold formatOf SettingsFormat.ofLocation at hformat
  split at hformat
  case h_1 hjson => exact absurd hjson hname
  case h_2 => exact (Except.ok.inj hformat).symm
  all_goals cases hformat

/-! ### Texts -/

theorem ofText_toml (h : s.problem? = none) (htext : s.toText .toml = .ok text) :
    ofText .toml text = .ok s := by
  rw [toText] at htext
  cases htoml : s.toToml? with
  | none =>
      rw [htoml] at htext
      cases htext
  | some written =>
      rw [htoml] at htext
      obtain rfl : written = text := Except.ok.inj htext
      have hread := read?_toml ⟨(padding_of_valid h).1, threshold_of_valid h⟩ htoml
      simp only [ofText, hread]

/-- Of valid settings only the threshold can be one that JSON does not hold. -/
theorem ofText_json (h : s.problem? = none)
    (hfloats : ∀ x ∈ [s.preview.padding, s.console.followThreshold], x.isFinite = true →
      Json.ReadsBack x) :
    ofText .json s.toJson.pretty =
      if s.console.followThreshold.isFinite then .ok s else .error .badJson := by
  have hpadding := readBack_json (hfloats _ (by simp) (padding_of_valid h).2)
  have hread := s.read?_json
  rw [hpadding, Option.bind_some] at hread
  split_ifs with hfinite
  · rw [readBack_json (hfloats _ (by simp) hfinite), Option.map_some] at hread
    simp only [ofText, hread]
  · rw [readBack_json_of_not_finite (by simpa using hfinite), Option.map_none] at hread
    simp only [ofText, hread]

/-- **Saved settings.**  They are loaded as they were from every file that they were saved to,
except that a JSON file with a threshold that is not finite is refused. -/
theorem load_of_save {fs fs' : FileSystem} {l : Location} {s : Settings}
    (hsave : save fs l s = (fs', .ok ()))
    (hjson : l.extension? = some "json" →
      ∀ x ∈ [s.preview.padding, s.console.followThreshold], x.isFinite = true →
        Json.ReadsBack x) :
    load fs' l =
      if l.extension? = some "json" ∧ s.console.followThreshold.isFinite = false then
        .error .badJson
      else .ok s := by
  obtain ⟨format, text, hsaved⟩ := saved_of_save hsave
  by_cases hname : l.extension? = some "json"
  · obtain rfl := hsaved.format_json hname
    obtain rfl : s.toJson.pretty = text := Except.ok.inj hsaved.text_eq
    have hread := ofText_json hsaved.valid (hjson hname)
    cases hfinite : s.console.followThreshold.isFinite with
    | false =>
        rw [hfinite, if_neg Bool.false_ne_true] at hread
        rw [if_pos ⟨hname, rfl⟩, hsaved.load_eq_error hread]
    | true =>
        rw [hfinite, if_pos rfl] at hread
        rw [if_neg (by simp), hsaved.load_eq_ok hread]
  · obtain rfl := hsaved.format_toml hname
    rw [if_neg fun h => hname h.1, hsaved.load_eq_ok (ofText_toml hsaved.valid hsaved.text_eq)]

/-- The usual settings come back from a JSON file, in which their doubles are 20.0 and 80.0. -/
theorem load_of_save_usual :
    let (fs, outcome) := save ⟨[]⟩ ⟨"settings.json"⟩ {}
    outcome = .ok () ∧ (∀ x ∈ [(20.0 : Float), 80.0], x.isFinite = true → Json.ReadsBack x) ∧
      load fs ⟨"settings.json"⟩ = .ok {} := by
  have hsave : (save ⟨[]⟩ ⟨"settings.json"⟩ {}).2 = .ok () := by decide +kernel
  have hfloats : ∀ x ∈ [(20.0 : Float), 80.0], x.isFinite = true → Json.ReadsBack x := by
    intro x hx _
    simp only [List.mem_cons, List.not_mem_nil, or_false] at hx
    rcases hx with rfl | rfl <;> rfl
  have hfinite : ({} : Settings).console.followThreshold.isFinite = true := by decide +kernel
  refine ⟨hsave, hfloats, ?_⟩
  have hload := load_of_save (Prod.ext rfl hsave) fun _ => hfloats
  rwa [hfinite, if_neg (by simp)] at hload

/-- An infinite threshold is valid and can be saved, but then the JSON file is refused. -/
theorem infinite_threshold_refused :
    let s : Settings := { console := { followThreshold := 1.0 / 0.0 } }
    let (fs, outcome) := save ⟨[]⟩ ⟨"c.json"⟩ s
    s.problem? = none ∧ outcome = .ok () ∧ load fs ⟨"c.json"⟩ = .error .badJson := by
  have hsave : (save ⟨[]⟩ ⟨"c.json"⟩ { console := { followThreshold := 1.0 / 0.0 } }).2 =
      .ok () := by
    decide +kernel
  obtain ⟨format, text, hsaved⟩ := saved_of_save (Prod.ext rfl hsave)
  obtain rfl := hsaved.format_json (by decide +kernel)
  obtain rfl := Except.ok.inj hsaved.text_eq
  refine ⟨hsaved.valid, hsave, hsaved.load_eq_error ?_⟩
  rw [ofText_json hsaved.valid, if_neg (by decide +kernel)]
  intro x hx hfinite
  simp only [List.mem_cons, List.not_mem_nil, or_false] at hx
  rcases hx with rfl | rfl
  · rfl
  · exact absurd hfinite (by decide +kernel)

end Settings
end PenPlotter
