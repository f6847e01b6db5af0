/-! # Records

A record read from a structured text: the fields that were found, by name.  `Readable` says what
a notation must offer so that records, texts and numbers can be taken from it. -/

namespace PenPlotter

/-- The fields of a record that were found. -/
structure Fields (τ : Type) where
  /-- Whether the fields were given by position. -/
  positional : Bool
  found : List (String × τ)
deriving Repr, Inhabited

namespace Fields

variable {τ α : Type}

def get? (f : Fields τ) (name : String) : Option τ := (f.found.find? (·.1 == name)).map (·.2)

/-- A field that must be given. -/
def required (f : Fields τ) (name : String) (read : τ → Option α) : Option α :=
  (f.get? name).bind read

/-- A field without which there is no value; it has to be there where fields are given by
position. -/
def nullable (f : Fields τ) (name : String) (read : τ → Option (Option α)) : Option (Option α) :=
  match f.get? name with
  | some t => read t
  | none => if f.positional then none else some none

/-- A field that has a value of its own when it is left out. -/
def orDefault (f : Fields τ) (name : String) (default : α) (read : τ → Option α) : Option α :=
  match f.get? name with
  | some t => read t
  | none => some default

end Fields

/-- What can be taken from a text of some notation. -/
class Readable (τ : Type) where
  string? : τ → Option String
  /-- A whole number of at most the given number of bits. -/
  natural? : Nat → τ → Option Nat
  float? : τ → Option Float
  /-- What a reader takes, or none where the notation has a value that stands for nothing. -/
  nullable? : {α : Type} → (τ → Option α) → τ → Option (Option α)
  /-- The fields of a record with the given names. -/
  record? : List String → τ → Option (Fields τ)

end PenPlotter
