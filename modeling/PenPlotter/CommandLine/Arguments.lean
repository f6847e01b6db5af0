import PenPlotter.Decimal.Basic

/-! # Arguments

How the arguments of a command are told apart.  A grammar lists the options and the positional
arguments of a command; `Scan.all` takes arguments one by one.  The value of an option or a
positional argument is checked when the next one begins or the arguments end, so an argument
that nobody knows is reported before a bad value right in front of it. -/

namespace PenPlotter

/-- Why arguments are refused, or what is shown in place of running a command. -/
inductive UsageError where
  | displayHelp
  | displayVersion
  /-- Nothing was given, so help is shown. -/
  | helpOnMissing
  | missingSubcommand
  | missingRequired
  | unknownArgument
  | tooManyValues
  | invalidSubcommand
  | invalidValue
  | valueValidation
  | argumentConflict
deriving Repr, DecidableEq, Inhabited

def UsageError.name : UsageError → String
  | .displayHelp => "DisplayHelp"
  | .displayVersion => "DisplayVersion"
  | .helpOnMissing => "DisplayHelpOnMissingArgumentOrSubcommand"
  | .missingSubcommand => "MissingSubcommand"
  | .missingRequired => "MissingRequiredArgument"
  | .unknownArgument => "UnknownArgument"
  | .tooManyValues => "TooManyValues"
  | .invalidSubcommand => "InvalidSubcommand"
  | .invalidValue => "InvalidValue"
  | .valueValidation => "ValueValidation"
  | .argumentConflict => "ArgumentConflict"

/-- What the program ends with. -/
def UsageError.exitCode : UsageError → Nat
  | .displayHelp => 0
  | .displayVersion => 0
  | _ => 2

/-- What a value has to be. -/
inductive ValueKind where
  /-- The location of a file. -/
  | location
  | text
  | oneOf (names : List String)
  /-- A whole number of 32 bits. -/
  | whole
  | number
deriving Repr, DecidableEq, Inhabited

/-- The whole number of 32 bits that a text writes, with or without a sign. -/
def wholeOf? (s : String) : Option UInt32 :=
  let (negative, ds) := Decimal.takeSign s.toList
  if ds.isEmpty ∨ !ds.all Char.isDigit then none
  else
    let n := Decimal.digitsFrom 0 ds
    if n < 0x100000000 ∧ (!negative ∨ n = 0) then some (UInt32.ofNat n) else none

def ValueKind.check (kind : ValueKind) (s : String) : Except UsageError Unit :=
  match kind with
  | .location => if s.isEmpty then .error .invalidValue else .ok ()
  | .text => .ok ()
  | .oneOf names => if names.contains s then .ok () else .error .invalidValue
  | .whole => if (wholeOf? s).isSome then .ok () else .error .valueValidation
  | .number => if (floatOfText? s).isSome then .ok () else .error .valueValidation

/-- What an option does. -/
inductive OptionRole where
  /-- Takes a value, which may look like an option if `hyphens`. -/
  | value (kind : ValueKind) (hyphens : Bool)
  | flag
  | help
  | version
deriving Repr, DecidableEq, Inhabited

/-- An option. -/
structure OptionRule where
  name : String
  letter : Option Char
  role : OptionRole
deriving Repr, Inhabited

/-- What arguments a command takes. -/
structure Grammar where
  options : List OptionRule
  positionals : List (String × ValueKind)
  /-- The names of subcommands; a command with subcommands has no positional arguments. -/
  subcommands : List String
deriving Repr, Inhabited

/-- A value that was begun and is not checked yet. -/
structure Pending where
  name : String
  kind : ValueKind
  value : Option String
  /-- Whether the next argument is the value even if it looks like an option. -/
  hyphens : Bool
deriving Repr, Inhabited

/-- What was found so far. -/
structure Scan where
  values : List (String × String)
  pending : Option Pending
  /-- The number of positional arguments so far. -/
  positionals : Nat
  /-- Whether only positional arguments follow. -/
  trailing : Bool
deriving Repr, Inhabited

namespace Scan

/-- Before the first argument. -/
def start : Scan := ⟨[], none, 0, false⟩

def get? (s : Scan) (name : String) : Option String :=
  (s.values.find? (·.1 == name)).map (·.2)

/-- Checks and keeps a value. -/
def keep (s : Scan) (name : String) (kind : ValueKind) (value : String) :
    Except UsageError Scan := do
  if (s.get? name).isSome then throw .argumentConflict
  kind.check value
  return { s with values := (name, value) :: s.values }

/-- Checks the pending value. -/
def flush (s : Scan) : Except UsageError Scan :=
  match s.pending with
  | none => .ok s
  | some p =>
    match p.value with
    | none => .error .invalidValue
    | some v => { s with pending := none }.keep p.name p.kind v

/-- Whether the next argument is the value of an option. -/
def awaitsValue (s : Scan) : Bool := s.pending.any (·.value.isNone)

/-- Whether the next argument is the value of an option, whatever it looks like. -/
def takesHyphens (s : Scan) : Bool := s.pending.any fun p => p.value.isNone && p.hyphens

/-- Begins the value of an option, which may be attached. -/
def beginValue (s : Scan) (name : String) (kind : ValueKind) (hyphens : Bool)
    (attached : Option String) : Except UsageError Scan := do
  let s ← s.flush
  match attached with
  | some v => s.keep name kind v
  | none => return { s with pending := some ⟨name, kind, none, hyphens⟩ }

/-- Takes an option without a value. -/
def takeFlag (s : Scan) (rule : OptionRule) : Except UsageError Scan := do
  let s ← s.flush
  match rule.role with
  | .help => throw .displayHelp
  | .version => throw .displayVersion
  | _ => s.keep rule.name .text "true"

/-- Takes an option by its name, with the text after an equals sign. -/
def takeLong (g : Grammar) (s : Scan) (name : String) (attached : Option String) :
    Except UsageError Scan :=
  match g.options.find? (·.name == name) with
  | none => .error .unknownArgument
  | some rule =>
    match rule.role with
    | .value kind hyphens => s.beginValue rule.name kind hyphens attached
    | _ => if attached.isSome then .error .tooManyValues else s.takeFlag rule

/-- Takes options by their letters; what follows the letter of an option with a value is the
value. -/
def takeLetters (g : Grammar) (s : Scan) : List Char → Except UsageError Scan
  | [] => .ok s
  | c :: rest =>
    match g.options.find? (·.letter == some c) with
    | none => .error .unknownArgument
    | some rule =>
      match rule.role with
      | .value kind hyphens =>
        let attached := match rest with
          | [] => none
          | '=' :: more => some (String.ofList more)
          | more => some (String.ofList more)
        s.beginValue rule.name kind hyphens attached
      | _ => do takeLetters g (← s.takeFlag rule) rest

/-- Takes the value of the pending option. -/
def fill (s : Scan) (arg : String) : Scan :=
  { s with pending := s.pending.map fun p => { p with value := some arg } }

def takePositional (g : Grammar) (s : Scan) (arg : String) : Except UsageError Scan :=
  match g.positionals[s.positionals]? with
  | some (name, kind) => do
    let s ← s.flush
    return { s with
      pending := some ⟨name, kind, some arg, false⟩, positionals := s.positionals + 1 }
  | none =>
    if g.subcommands.isEmpty ∨ (s.trailing ∧ g.subcommands.contains arg) then
      .error .unknownArgument
    else .error .invalidSubcommand

/-- Takes an argument that names no subcommand. -/
def take (g : Grammar) (s : Scan) (arg : String) : Except UsageError Scan :=
  if s.trailing then s.takePositional g arg
  else if s.takesHyphens then .ok (s.fill arg)
  else
    match arg.toList with
    | ['-', '-'] => .ok { s with trailing := true }
    | '-' :: '-' :: body =>
      let name := String.ofList (body.takeWhile (· != '='))
      match body.dropWhile (· != '=') with
      | [] => s.takeLong g name none
      | _ :: value => s.takeLong g name (some (String.ofList value))
    | '-' :: c :: letters => s.takeLetters g (c :: letters)
    | _ => if s.awaitsValue then .ok (s.fill arg) else s.takePositional g arg

/-- Takes arguments up to the first that names a subcommand; gives that name and what follows
it. -/
def all (g : Grammar) (s : Scan) :
    List String → Except UsageError (Scan × Option (String × List String))
  | [] => .ok (s, none)
  | arg :: rest =>
    if !s.trailing ∧ !s.awaitsValue ∧ g.subcommands.contains arg then .ok (s, some (arg, rest))
    else do all g (← s.take g arg) rest

/-- Takes all arguments of a command without subcommands. -/
def complete (g : Grammar) (args : List String) : Except UsageError Scan := do
  let (s, _) ← all g start args
  let s ← s.flush
  if g.positionals.any fun (name, _) => (s.get? name).isNone then throw .missingRequired
  return s

end Scan

end PenPlotter
