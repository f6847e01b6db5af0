import PenPlotter.Json.Token
import PenPlotter.Text.Utf8

/-! # JSON syntax trees

A tree is a text that was read but not yet evaluated: numerals are kept as written, members of
objects in order and with their repetitions.  Parts of a tree that nobody asks for are never
evaluated, so that they may hold numerals that are too large or texts without a value.

The reader keeps the containers that are still open in a list of frames, and takes one token at
a time.  `Tree.value?` evaluates a whole tree; it refuses nesting deeper than `maxDepth`. -/

namespace PenPlotter.Json

/-- A JSON text as it is written. -/
inductive Tree where
  | null
  | bool (b : Bool)
  | number (n : Numeral)
  | string (s : Literal)
  | array (items : List Tree)
  | object (members : List (Literal × Tree))
deriving Repr, Inhabited

/-- A container that is still open, with its finished parts in reverse. -/
inductive Frame where
  | array (done : List Tree)
  /-- An object whose member of the given key is being read. -/
  | object (done : List (Literal × Tree)) (key : Literal)
deriving Repr, Inhabited

/-- What the reader expects next. -/
inductive Expectation where
  | value
  /-- An item, or the end of an array that has none yet. -/
  | firstItem
  /-- A key, or the end of an object that has no member yet. -/
  | firstKey
  | key (done : List (Literal × Tree))
  | colon (done : List (Literal × Tree)) (key : Literal)
  /-- A value was read. -/
  | finished (t : Tree)
deriving Repr, Inhabited

/-- Reads one token where a value may begin. -/
def beginValue (frames : List Frame) : Token → Option (Expectation × List Frame)
  | .null => some (.finished .null, frames)
  | .bool b => some (.finished (.bool b), frames)
  | .number n => some (.finished (.number n), frames)
  | .string s => some (.finished (.string s), frames)
  | .openBracket => some (.firstItem, .array [] :: frames)
  | .openBrace => some (.firstKey, frames)
  | _ => none

def step (e : Expectation) (frames : List Frame) (t : Token) :
    Option (Expectation × List Frame) :=
  match e with
  | .value => beginValue frames t
  | .firstItem =>
    match t, frames with
    | .closeBracket, .array _ :: outer => some (.finished (.array []), outer)
    | _, _ => beginValue frames t
  | .firstKey =>
    match t with
    | .closeBrace => some (.finished (.object []), frames)
    | .string k => some (.colon [] k, frames)
    | _ => none
  | .key done =>
    match t with
    | .string k => some (.colon done k, frames)
    | _ => none
  | .colon done k => if t = .colon then some (.value, .object done k :: frames) else none
  | .finished v =>
    match frames, t with
    | .array done :: outer, .comma => some (.value, .array (v :: done) :: outer)
    | .array done :: outer, .closeBracket => some (.finished (.array (v :: done).reverse), outer)
    | .object done k :: outer, .comma => some (.key ((k, v) :: done), outer)
    | .object done k :: outer, .closeBrace =>
      some (.finished (.object ((k, v) :: done).reverse), outer)
    | _, _ => none

/-- Reads the remaining tokens; at the end one value must be finished and nothing open. -/
def run (e : Expectation) (frames : List Frame) : List Token → Option Tree
  | [] =>
    match e, frames with
    | .finished v, [] => some v
    | _, _ => none
  | t :: ts =>
    match step e frames t with
    | some (e', frames') => run e' frames' ts
    | none => none

def Tree.ofString? (s : String) : Option Tree := do
  run .value [] (← scan (s.toList.map some))

/-- The tree of bytes.  They need not be well-formed inside quoted texts that nobody asks for. -/
def Tree.ofBytes? (bytes : List UInt8) : Option Tree := do
  run .value [] (← scan (Utf8.decode bytes))

/-- How deep arrays and objects may be nested in a value. -/
def maxDepth : Nat := 127

mutual

/-- The value of a tree in which containers may still be nested `depth` deep; members are sorted
by name, and of members with one name the last counts. -/
def Tree.valueAt? (depth : Nat) : Tree → Option Json
  | .null => some .null
  | .bool b => some (.bool b)
  | .number n => n.value?.map .number
  | .string s => s.map .string
  | .array items =>
    if depth = 0 then none else (valuesAt? (depth - 1) items).map .array
  | .object members =>
    if depth = 0 then none
    else (membersAt? (depth - 1) members).map fun ms => .object (sortMembers ms)

def valuesAt? (depth : Nat) : List Tree → Option (List Json)
  | [] => some []
  | t :: ts => do
    let v ← t.valueAt? depth
    let vs ← valuesAt? depth ts
    some (v :: vs)

def membersAt? (depth : Nat) : List (Literal × Tree) → Option (List (String × Json))
  | [] => some []
  | (k, t) :: ts => do
    let k ← k
    let v ← t.valueAt? depth
    let vs ← membersAt? depth ts
    some ((k, v) :: vs)

end

def Tree.value? (t : Tree) : Option Json := t.valueAt? maxDepth

end PenPlotter.Json
