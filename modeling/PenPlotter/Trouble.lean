import PenPlotter.Failure
import PenPlotter.Settings.Store

/-! # Troubles

A trouble ends a command.  It tells what was being done, from the whole to the part, and what
went wrong. -/

namespace PenPlotter

/-- What went wrong. -/
inductive Cause where
  | text (s : String)
  | files (e : FileError)
  | settings (e : SettingsError)
  | problem (p : SettingsProblem)
  | device (e : DeviceError)
  | connection (e : ConnectionError)
deriving Repr, DecidableEq, Inhabited

/-- The texts of a cause, each explained by the next. -/
def Cause.texts : Cause → List String
  | .text s => [s]
  | .files e => [e.message]
  | .settings (.invalid p) => [(SettingsError.invalid p).message, p.message]
  | .settings (.files e) => [(SettingsError.files e).message, e.message]
  | .settings e => [e.message]
  | .problem p => [p.message]
  | .device e => [e.message]
  | .connection e => [e.message]

/-- A failure together with what was being done. -/
structure Trouble where
  doing : List String
  cause : Cause
deriving Repr, DecidableEq, Inhabited

/-- All texts of a trouble, the outermost first. -/
def Trouble.texts (t : Trouble) : List String := t.doing ++ t.cause.texts

def Trouble.message (t : Trouble) : String := ": ".intercalate t.texts

/-- Gives a failure the cause it is. -/
def troubled {ε α : Type} (cause : ε → Cause) (doing : List String) :
    Except ε α → Except Trouble α :=
  Except.mapError fun e => ⟨doing, cause e⟩

end PenPlotter
