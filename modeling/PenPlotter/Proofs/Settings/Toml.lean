import PenPlotter.Proofs.Settings.Reading
import PenPlotter.Proofs.Toml.Document

/-! # Settings in TOML

A table is read as the record of its members, so TOML is a faithful notation for settings.  Their
names need no quotation marks, and their doubles are at least zero where they are valid, so that
what is written is read back as it was (`read?_toml`). -/

namespace PenPlotter

namespace Settings

theorem faithful_toml : Faithful SettingValue.toToml? Toml.table where
  fields := by
    intro names members hkeys hnames
    have hall : members.filter (fun m => names.contains m.1) = members :=
      List.filter_eq_self.2 fun m hm => List.contains_iff_mem.2 (hnames m hm)
    refine ⟨⟨false, members⟩, ?_, fun _ => rfl⟩
    change some (⟨false, members.filter fun m => names.contains m.1⟩ : Fields Toml) = _
    rw [hall]
  text s := ⟨_, rfl, rfl⟩
  natural := by
    intro n bits hn _
    refine ⟨_, rfl, ?_⟩
    change Toml.natural? bits (.integer n) = _
    rw [Toml.natural?]
    simpa using hn
  float x := ⟨_, rfl⟩
  noText t ht := by cases ht
  someText s := ⟨_, rfl, rfl⟩

theorem readBack_toml (x : Float) : readBack SettingValue.toToml? x = some x := rfl

/-- The doubles of settings are at least zero. -/
def FloatsOk (s : Settings) : Prop := 0.0 ≤ s.preview.padding ∧ 0.0 ≤ s.console.followThreshold

/-- The names of sections and fields need no quotation marks, and none comes twice. -/
theorem bare_sections (s : Settings) : (s.sections.map (·.1)).Nodup ∧ ∀ m ∈ s.sections,
    Toml.IsBare m.1 ∧ (m.2.map (·.1)).Nodup ∧ ∀ f ∈ m.2, Toml.IsBare f.1 := by
  simp only [sections, List.map_cons, List.map_nil, List.forall_mem_cons, List.not_mem_nil,
    false_imp_iff, implies_true, and_true]
  decide

theorem simple_sections {s : Settings} (hfloats : s.FloatsOk) : ∀ m ∈ s.sections,
    ∀ f ∈ m.2, ∀ t ∈ f.2.toToml?, Toml.Simple t := by
  have htext (s : String) : ∀ t ∈ (SettingValue.text s).toToml?, Toml.Simple t := by
    rintro _ ⟨⟩
    exact .string s
  have hnatural (n : ℕ) : ∀ t ∈ (SettingValue.natural n).toToml?, Toml.Simple t := by
    rintro _ ⟨⟩
    exact .integer n
  have hfloat {x : Float} (hx : 0.0 ≤ x) : ∀ t ∈ (SettingValue.float x).toToml?, Toml.Simple t := by
    rintro _ ⟨⟩
    exact .float hx
  have hpaper (s : Option String) : ∀ t ∈ (SettingValue.textOrNone s).toToml?, Toml.Simple t := by
    intro t ht
    cases s with
    | none => cases ht
    | some s => exact htext s t ht
  simp only [sections, List.forall_mem_cons]
  exact ⟨⟨htext _, hnatural _, by simp⟩, ⟨htext _, hnatural _, hnatural _, by simp⟩,
    ⟨hnatural _, hnatural _, hfloat hfloats.1, hpaper _, by simp⟩,
    ⟨hnatural _, hnatural _, hfloat hfloats.2, by simp⟩, by simp⟩

/-- **Settings saved as TOML** are read back. -/
theorem read?_toml {s : Settings} (hfloats : s.FloatsOk) {text : String}
    (htext : s.toToml? = some text) : (Toml.ofString? text).bind read? = some s := by
  obtain ⟨hnames, hbare⟩ := s.bare_sections
  have hwritten : Toml.sectionsText? (s.sections.map fun m =>
      (m.1, writtenFields SettingValue.toToml? m.2)) = some text := htext
  have hread := Toml.ofString?_sectionsText (by rwa [List.map_map]) ?_ ?_ hwritten
  · rw [hread, List.map_map, Option.bind_some]
    change read? (s.written SettingValue.toToml? Toml.table) = _
    rw [read?_written faithful_toml, readBack_toml, readBack_toml]
    rfl
  · rintro _ hmem
    obtain ⟨m, hm, rfl⟩ := List.mem_map.1 hmem
    exact (hbare m hm).2.1.sublist (keys_writtenFields m.2)
  · rintro _ hmem
    obtain ⟨m, hm, rfl⟩ := List.mem_map.1 hmem
    refine ⟨(hbare m hm).1, fun f hf => ?_⟩
    obtain ⟨field, hfield, hwrite⟩ := List.mem_filterMap.1 hf
    obtain ⟨t, ht, rfl⟩ := Option.map_eq_some_iff.1 hwrite
    exact ⟨(hbare m hm).2.2 field hfield, simple_sections hfloats m hm field hfield t ht⟩

end Settings

end PenPlotter
