import PenPlotter.Toml.Basic

/-! # Tables under construction

A TOML text may come back to a table in several places, and the way in which a table came about
decides what may still be added to it.  `Members.put?` adds a pair under a dotted key,
`Members.openTable?` and `Members.openItem?` follow the headers `[path]` and `[[path]]`. -/

namespace PenPlotter.Toml

/-- How a table came about. -/
inductive TableKind where
  /-- By its own header or as an inline table. -/
  | defined
  /-- As a step of a header's path. -/
  | implied
  /-- As a step of a dotted key. -/
  | dotted
deriving Repr, DecidableEq, Inhabited

/-- A member of a table under construction. -/
inductive Node where
  | value (v : Toml)
  | table (kind : TableKind) (members : List (String × Node))
  /-- The tables of an array, the latest first. -/
  | tables (items : List (List (String × Node)))
deriving Inhabited

/-- The members of a table under construction. -/
abbrev Members := List (String × Node)

namespace Members

/-- The member of the given name. -/
def get? (name : String) (ms : Members) : Option Node := (ms.find? (·.1 == name)).map (·.2)

/-- Gives a member a new content, or adds it at the end. -/
def set (name : String) (node : Node) : Members → Members
  | [] => [(name, node)]
  | (n, old) :: rest => if n = name then (n, node) :: rest else (n, old) :: set name node rest

/-- Changes the table that a path leads to.  Missing tables on the way come about as `step`
says.  Of an array of tables the latest is taken.  A dotted key cannot enter a table that was
defined. -/
def alter? (step : TableKind) (change : TableKind → Members → Option (TableKind × Members)) :
    List String → TableKind → Members → Option (TableKind × Members)
  | [], kind, ms => change kind ms
  | name :: path, kind, ms =>
    match get? name ms with
    | none => do
      let (k, inner) ← alter? step change path step []
      some (kind, set name (.table k inner) ms)
    | some (.value _) => none
    | some (.table k inner) =>
      if step = .dotted ∧ k = .defined then none
      else do
        let (k', inner') ← alter? step change path k inner
        some (kind, set name (.table k' inner') ms)
    | some (.tables []) => none
    | some (.tables (latest :: earlier)) => do
      let (_, latest') ← alter? step change path .defined latest
      some (kind, set name (.tables (latest' :: earlier)) ms)

/-- Adds a pair whose key is the last name after a dotted path.  Its table has to have come about
by dotted keys alone, if there is a path. -/
def put? (path : List String) (name : String) (v : Toml) (kind : TableKind) (ms : Members) :
    Option (TableKind × Members) :=
  alter? .dotted (fun k inner =>
    if (k == .dotted) == path.isEmpty then none
    else if (get? name inner).isSome then none
    else some (k, set name (.value v) inner)) path kind ms

def openTable? (path : List String) (name : String) (ms : Members) : Option Members :=
  (alter? .implied (fun k inner =>
    match get? name inner with
    | none => some (k, set name (.table .defined []) inner)
    | some (.table .implied content) => some (k, set name (.table .defined content) inner)
    | _ => none) path .defined ms).map (·.2)

/-- Opens a further table of an array by its header. -/
def openItem? (path : List String) (name : String) (ms : Members) : Option Members :=
  (alter? .implied (fun k inner =>
    match get? name inner with
    | none => some (k, set name (.tables [[]]) inner)
    | some (.tables items) => some (k, set name (.tables ([] :: items)) inner)
    | _ => none) path .defined ms).map (·.2)

end Members

mutual

def Node.finish : Node → Toml
  | .value v => v
  | .table _ members => .table (Node.finishMembers members)
  | .tables items => .array (Node.finishItems items).reverse

def Node.finishMembers : List (String × Node) → List (String × Toml)
  | [] => []
  | (name, node) :: rest => (name, node.finish) :: Node.finishMembers rest

def Node.finishItems : List (List (String × Node)) → List Toml
  | [] => []
  | members :: rest => .table (Node.finishMembers members) :: Node.finishItems rest

end

end PenPlotter.Toml
