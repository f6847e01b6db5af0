/-! # JSON values

A value keeps the members of its objects in order.  Whole numbers are kept apart from
floating-point ones, because they are written differently. -/

namespace PenPlotter

/-- A JSON number. -/
inductive JsonNumber where
  | integer (n : Int)
  | float (x : Float)
deriving Repr, Inhabited

/-- A JSON value. -/
inductive Json where
  | null
  | bool (b : Bool)
  | number (n : JsonNumber)
  | string (s : String)
  | array (items : List Json)
  | object (members : List (String × Json))
deriving Repr, Inhabited

namespace Json

def natural (n : Nat) : Json := .number (.integer n)

def float (x : Float) : Json := .number (.float x)

def stringOrNull : Option String → Json
  | some s => .string s
  | none => .null

/-- The member of a name, if the value is an object that has one. -/
def get? (name : String) : Json → Option Json
  | .object members => (members.find? (·.1 == name)).map (·.2)
  | _ => none

def string? : Json → Option String
  | .string s => some s
  | _ => none

/-- Puts a member into a list that is sorted by name; a member of that name is replaced. -/
def insertMember (name : String) (value : Json) :
    List (String × Json) → List (String × Json)
  | [] => [(name, value)]
  | (n, v) :: rest =>
    if name < n then (name, value) :: (n, v) :: rest
    else if name = n then (name, value) :: rest
    else (n, v) :: insertMember name value rest

/-- The members sorted by name; of members with one name the last is kept. -/
def sortMembers (members : List (String × Json)) : List (String × Json) :=
  members.foldl (fun acc m => insertMember m.1 m.2 acc) []

end Json

end PenPlotter
