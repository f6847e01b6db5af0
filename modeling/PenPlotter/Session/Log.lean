import PenPlotter.Session.Entry
import PenPlotter.Session.SeenKeys

/-! # The session log

The log holds the entries of a session in the order of their arrival.  An entry whose key was
seen lately is dropped: the first delivery of an exchange is the one that is kept. -/

namespace PenPlotter

/-- The entries and the keys seen lately. -/
structure SessionLog where
  entries : List Entry
  seen : SeenKeys
deriving Inhabited

namespace SessionLog

def new (capacity : Nat) : SessionLog := ⟨[], SeenKeys.new capacity⟩

def size (l : SessionLog) : Nat := l.entries.length

/-- Appends an entry unless its key was seen; tells whether it was appended. -/
def merge (l : SessionLog) (e : Entry) : SessionLog × Bool :=
  match l.seen.insert e.key with
  | (_, false) => (l, false)
  | (seen, true) => (⟨l.entries ++ [e], seen⟩, true)

/-- Replaces all entries; the keys of the last ones, as many as are kept, count as seen. -/
def replace (l : SessionLog) (entries : List Entry) : SessionLog :=
  let newest := entries.drop (entries.length - l.seen.capacity)
  ⟨entries, l.seen.clear.insertAll (newest.map Entry.key)⟩

/-- Forgets all entries and keys. -/
def clear (l : SessionLog) : SessionLog := ⟨[], l.seen.clear⟩

end SessionLog

end PenPlotter
