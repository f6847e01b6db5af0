import Std.Data.HashSet

/-! # Recently seen keys

A bounded set of keys.  A key that is not in the set is added; when the set grows beyond its
capacity, the key that was added first is forgotten.  The keys are kept twice, as a queue in the
order of addition and as a hash set for looking them up.  Nothing is reserved ahead, so no capacity
is too large. -/

namespace PenPlotter

/-- The keys seen last, the oldest first. -/
structure SeenKeys where
  capacity : Nat
  queue : List String
  members : Std.HashSet String
deriving Inhabited

namespace SeenKeys

/-- The empty set; a capacity of zero counts as one. -/
def new (capacity : Nat) : SeenKeys := ⟨max capacity 1, [], ∅⟩

def contains (s : SeenKeys) (key : String) : Bool := s.members.contains key

def size (s : SeenKeys) : Nat := s.queue.length

/-- Forgets the oldest keys until at most `capacity` are left. -/
def evict (capacity : Nat) : List String → Std.HashSet String → List String × Std.HashSet String
  | [], members => ([], members)
  | k :: rest, members =>
    if capacity < rest.length + 1 then evict capacity rest (members.erase k)
    else (k :: rest, members)

/-- Adds a key; tells whether it was new. -/
def insert (s : SeenKeys) (key : String) : SeenKeys × Bool :=
  if s.contains key then (s, false)
  else
    let (queue, members) := evict s.capacity (s.queue ++ [key]) (s.members.insert key)
    ({ s with queue, members }, true)

/-- Adds a list of keys. -/
def insertAll (s : SeenKeys) (keys : List String) : SeenKeys :=
  keys.foldl (fun s k => (s.insert k).1) s

def clear (s : SeenKeys) : SeenKeys := { s with queue := [], members := ∅ }

end SeenKeys

end PenPlotter
