import PenPlotter.Proofs.Json.Record
import PenPlotter.Proofs.Settings.Reading

/-! # Settings in JSON

A printed object is read as the record of its members, so JSON is a faithful notation for settings
but for the doubles: a finite one is read as `Json.Tree.float?` takes it from its numeral, and one
that is not finite is printed as null and not read at all. -/

namespace PenPlotter

namespace Settings

def jsonField (v : SettingValue) : Option Json.Tree := some v.toJson.tree

theorem faithful_json : Faithful jsonField Json.Tree.record where
  fields _ _ hkeys hnames := Json.Tree.record?_record _ _ hkeys hnames
  text s := ⟨_, rfl, rfl⟩
  natural hn hbits := ⟨_, rfl, Json.natural?_natural hn hbits⟩
  float x := ⟨_, rfl⟩
  noText t ht := by
    rw [← Option.some.inj ht]
    rfl
  someText s := ⟨_, rfl, rfl⟩

theorem writtenFields_json (fields : List (String × SettingValue)) :
    writtenFields jsonField fields = fields.map fun (key, v) => (key, v.toJson.tree) := by
  induction fields with
  | nil => rfl
  | cons m fields ih =>
      rw [writtenFields_cons, ih]
      rfl

theorem tree_toJson (s : Settings) : s.toJson.tree = s.written jsonField Json.Tree.record := by
  simp only [toJson, Json.tree, Json.memberTrees_eq, written, Json.Tree.record, writtenSection,
    writtenFields_json, List.map_map]
  rfl

theorem readBack_json {x : Float} (hx : Json.ReadsBack x) : readBack jsonField x = some x :=
  hx.float?_float

theorem readBack_json_of_not_finite {x : Float} (hx : x.isFinite = false) :
    readBack jsonField x = none :=
  Json.float?_float_of_not_finite hx

/-- **Settings saved as JSON** are read back, up to what the reader makes of the doubles. -/
theorem read?_json (s : Settings) : (Json.Tree.ofString? s.toJson.pretty).bind read? =
    (readBack jsonField s.preview.padding).bind fun x =>
      (readBack jsonField s.console.followThreshold).map fun y =>
        { s with
          preview := { s.preview with padding := x }
          console := { s.console with followThreshold := y } } := by
  rw [Json.ofString?_pretty, Option.bind_some, tree_toJson, read?_written faithful_json]

end Settings

end PenPlotter
