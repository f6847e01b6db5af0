import PenPlotter.Json.Tree
import PenPlotter.Record

/-! # Reading typed values

How records, choices, numbers and texts are taken from a syntax tree.  A record is an object in
which every known member occurs at most once and other members are passed over, or an array of
the fields in their order.  A choice is a name, or an object whose only member has that name. -/

namespace PenPlotter.Json

namespace Tree

def string? : Tree → Option String
  | .string s => s
  | _ => none

def bool? : Tree → Option Bool
  | .bool b => some b
  | _ => none

def float? : Tree → Option Float
  | .number n =>
    match n.value? with
    | some (.float x) => some x
    | some (.integer i) =>
      let magnitude := i.natAbs.toUInt64.toFloat
      some (if i < 0 then -magnitude else magnitude)
    | none => none
  | _ => none

/-- A whole number of at most `bits` bits. -/
def natural? (bits : Nat) : Tree → Option Nat
  | .number n =>
    match n.value? with
    | some (.integer i) => if 0 ≤ i ∧ i.toNat < Nat.pow 2 bits then some i.toNat else none
    | _ => none
  | _ => none

/-- Null, or what `read` makes of the tree. -/
def nullable? {α : Type} (read : Tree → Option α) : Tree → Option (Option α)
  | .null => some none
  | t => (read t).map some

/-- An array of which `read` accepts each item. -/
def list? {α : Type} (read : Tree → Option α) : Tree → Option (List α)
  | .array items => items.mapM read
  | _ => none

/-- The name of a choice and its content, if it has one. -/
def choice? : Tree → Option (String × Option Tree)
  | .string s => s.map fun name => (name, none)
  | .object [(name, content)] => name.map fun n => (n, some content)
  | _ => none

/-- The name of a choice without content; null may stand for the content. -/
def name? (t : Tree) : Option String :=
  match t.choice? with
  | some (name, none) => some name
  | some (name, some .null) => some name
  | _ => none

/-- Takes the known members of an object, each at most once. -/
def knownMembers? (names : List String) (found : List (String × Tree)) :
    List (Literal × Tree) → Option (List (String × Tree))
  | [] => some found
  | (key, t) :: rest => do
    let k ← key
    if names.contains k then
      if found.any (·.1 == k) then none else knownMembers? names ((k, t) :: found) rest
    else knownMembers? names found rest

/-- The fields of a record with the given names. -/
def record? (names : List String) : Tree → Option (Fields Tree)
  | .object members => (knownMembers? names [] members).map fun found => ⟨false, found⟩
  | .array items =>
    if items.length ≤ names.length then some ⟨true, names.zip items⟩ else none
  | _ => none

end Tree

instance : Readable Tree where
  string? := Tree.string?
  natural? := Tree.natural?
  float? := Tree.float?
  nullable? := Tree.nullable?
  record? := Tree.record?

end PenPlotter.Json
