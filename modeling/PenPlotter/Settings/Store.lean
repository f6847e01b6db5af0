import PenPlotter.Files.System
import PenPlotter.Settings.Format

/-! # Settings files

Settings are loaded from and saved to files whose names end in `.json` or `.toml`.  What is
loaded is valid, and only what is valid is saved. -/

namespace PenPlotter

/-- Failures to load or save settings. -/
inductive SettingsError where
  | load (path reason : String)
  | save (path reason : String)
  | directory (text : String)
  | files (e : FileError)
  | badJson
  | badToml
  /-- The settings cannot be written as TOML. -/
  | tomlOutput
  | invalid (p : SettingsProblem)
deriving Repr, DecidableEq, Inhabited

def SettingsError.message : SettingsError → String
  | .load path reason => "Failed to load settings from " ++ path ++ ": " ++ reason
  | .save path reason => "Failed to save settings to " ++ path ++ ": " ++ reason
  | .directory text => "Config directory error: " ++ text
  | .files e => "I/O error: " ++ e.message
  | .badJson => "JSON error: not settings"
  | .badToml => "TOML error: not settings"
  | .tomlOutput => "TOML error: number too great"
  | .invalid p => "Config error: " ++ p.message

/-- The notations of settings files. -/
inductive SettingsFormat where
  | json
  | toml
deriving Repr, DecidableEq, Inhabited

/-- The notation that the name of a file asks for. -/
def SettingsFormat.ofLocation (l : Location) : Except SettingsProblem SettingsFormat :=
  match l.extension? with
  | some "json" => .ok .json
  | some "toml" => .ok .toml
  | some other => .error (.unsupportedFormat other)
  | none => .error (.unsupportedFormat "<none>")

namespace Settings

def ofText (format : SettingsFormat) (s : String) : Except SettingsError Settings :=
  match format with
  | .json =>
    match (Json.Tree.ofString? s).bind read? with
    | some settings => .ok settings
    | none => .error .badJson
  | .toml =>
    match (Toml.ofString? s).bind read? with
    | some settings => .ok settings
    | none => .error .badToml

def toText (format : SettingsFormat) (s : Settings) : Except SettingsError String :=
  match format with
  | .json => .ok s.toJson.pretty
  | .toml => s.toToml?.elim (.error .tomlOutput) .ok

/-- Refuses settings that are not valid. -/
def check (s : Settings) : Except SettingsError Unit :=
  match s.problem? with
  | some p => .error (.invalid p)
  | none => .ok ()

/-- The notation of a settings file. -/
def formatOf (l : Location) : Except SettingsError SettingsFormat :=
  (SettingsFormat.ofLocation l).mapError .invalid

def load (fs : FileSystem) (l : Location) : Except SettingsError Settings := do
  let format ← formatOf l
  let text ← (fs.readText l).mapError fun e => .load l.text e.message
  let s ← ofText format text
  s.check
  return s

/-- Loads settings if the file is there; otherwise they are the usual ones. -/
def loadIfThere (fs : FileSystem) (l : Location) : Except SettingsError Settings :=
  if fs.isThere l then load fs l else .ok {}

/-- What is written to save settings. -/
def textFor (s : Settings) (l : Location) : Except SettingsError String := do
  s.check
  s.toText (← formatOf l)

/-- Saves settings, and makes the directory that the file goes to. -/
def save (fs : FileSystem) (l : Location) (s : Settings) :
    FileSystem × Except SettingsError Unit :=
  match s.textFor l with
  | .error e => (fs, .error e)
  | .ok text =>
    match fs.makeParent l with
    | (fs', .error e) => (fs', .error (.files e))
    | (fs', .ok ()) =>
      let (fs'', outcome) := fs'.writeText l text
      (fs'', outcome.mapError fun e => .save l.text e.message)

/-! ### The usual place -/

/-- The directories of an operator: the one for settings, if it is set, and the home directory. -/
structure UserDirectories where
  settings : Option String
  home : String
deriving Repr, Inhabited

/-- The directory under which programs keep their settings.  A relative one does not count. -/
def UserDirectories.base? (d : UserDirectories) : Option Location :=
  match d.settings.filter fun dir => (Location.mk dir).isAbsolute with
  | some dir => some ⟨dir⟩
  | none => if d.home.isEmpty then none else some ((Location.mk d.home).join ".config")

/-- The name of the program's own directory. -/
def directoryName : String := "polarplot"

/-- Where settings are kept when no other place is named. -/
def usualPlace (d : UserDirectories) : Except SettingsError Location :=
  match d.base? with
  | some base => .ok ((base.join directoryName).join "config.toml")
  | none => .error (.directory "no configuration directory on this platform")

/-- Loads settings from the named place, or from the usual one. -/
def loadFrom (fs : FileSystem) (d : UserDirectories) (l : Option Location) :
    Except SettingsError Settings :=
  match l with
  | some l => loadIfThere fs l
  | none =>
    match usualPlace d with
    | .ok l => loadIfThere fs l
    | .error _ => .ok {}

end Settings

end PenPlotter
