import PenPlotter.Toml.Value
import PenPlotter.Record

/-! # TOML documents

A document is a list of lines: pairs, and headers that say to which table the pairs after them
belong.  `Toml.ofString?` puts the tables together. -/

namespace PenPlotter.Toml

/-- A line that says something. -/
inductive Statement where
  /-- The header `[path.name]`, or `[[path.name]]` for one more table of an array. -/
  | header (isItem : Bool) (path : List String) (name : String)
  /-- The pair `path.name = value`. -/
  | pair (path : List String) (name : String) (value : Toml)
deriving Repr, Inhabited

/-- What follows the rest of a line that holds nothing but white space and a comment. -/
def afterLine? (cs : List Char) : Option (List Char) :=
  match skipComment (skipSpace cs) with
  | [] => some []
  | rest => takeNewline? rest

def takeHeader? (cs : List Char) : Option (Statement × List Char) :=
  match cs with
  | '[' :: '[' :: rest => do
    let (names, after) ← takeKey? (nestingLimit - 1) rest
    let (path, name) ← splitKey? names
    some (.header true path name, ← takeChar? ']' (← takeChar? ']' after))
  | '[' :: rest => do
    let (names, after) ← takeKey? (nestingLimit - 1) rest
    let (path, name) ← splitKey? names
    some (.header false path name, ← takeChar? ']' after)
  | _ => none

/-- Cuts a header or a pair off. -/
def takeStatement? (cs : List Char) : Option (Statement × List Char) :=
  if cs.head? = some '[' then takeHeader? cs
  else (takePair? takeValue? cs).map fun ((path, name, v), rest) => (.pair path name v, rest)

/-- The statements of a text; `fuel` bounds the number of lines. -/
def statements? (fuel : Nat) (cs : List Char) : Option (List Statement) :=
  match fuel with
  | 0 => none
  | fuel + 1 =>
    match skipSpace cs with
    | [] => some []
    | start =>
      if start.head? = some '#' ∨ start.head? = some '\n' ∨ start.head? = some '\r' then do
        statements? fuel (← afterLine? start)
      else do
        let (s, after) ← takeStatement? start
        let rest ← statements? fuel (← afterLine? after)
        some (s :: rest)

/-- A document under construction: its tables, and the path to the table that pairs go to. -/
structure Draft where
  members : Members
  current : List String
deriving Inhabited

def Draft.follow? (draft : Draft) : Statement → Option Draft
  | .header isItem path name => do
    let members ← if isItem then draft.members.openItem? path name
      else draft.members.openTable? path name
    some ⟨members, path ++ [name]⟩
  | .pair path name v => do
    let (_, members) ← draft.members.alter? .implied (fun kind ms => ms.put? path name v kind)
      draft.current .defined
    some { draft with members }

def ofStatements? (ss : List Statement) : Option Toml := do
  let draft ← ss.foldlM Draft.follow? ⟨[], []⟩
  some (.table (Node.finishMembers draft.members))

/-- A mark that may stand before a text and is not part of it. -/
def byteOrderMark : Char := '\uFEFF'

def ofString? (s : String) : Option Toml := do
  let cs := s.toList
  let body := if cs.head? = some byteOrderMark then cs.tail else cs
  ofStatements? (← statements? (body.length + 1) body)

/-! ### Typed values -/

def string? : Toml → Option String
  | .string s => some s
  | _ => none

def float? : Toml → Option Float
  | .float x => some x
  | .integer n =>
    let magnitude := n.natAbs.toUInt64.toFloat
    some (if n < 0 then -magnitude else magnitude)
  | _ => none

/-- A whole number of at most `bits` bits. -/
def natural? (bits : Nat) : Toml → Option Nat
  | .integer n => if 0 ≤ n ∧ n.toNat < Nat.pow 2 bits then some n.toNat else none
  | _ => none

/-- The fields of a record: a table, or an array of the fields in their order.  A date or time is
a record without known fields. -/
def record? (names : List String) : Toml → Option (Fields Toml)
  | .table members => some ⟨false, members.filter fun (name, _) => names.contains name⟩
  | .array items => some ⟨true, names.zip items⟩
  | .moment _ => some ⟨false, []⟩
  | _ => none

instance : Readable Toml where
  string? := string?
  natural? := natural?
  float? := float?
  nullable? := fun read t => (read t).map some
  record? := record?

end PenPlotter.Toml
