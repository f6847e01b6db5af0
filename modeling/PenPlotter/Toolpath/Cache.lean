import PenPlotter.Text.SipHash
import PenPlotter.Toolpath.Program

/-! # Cached toolpaths

A cache keeps the toolpath of the last program it was given, with the hash of the program's
text, and reads a program only when its hash differs. -/

namespace PenPlotter

/-- The last toolpath and the hash of the text it was read from. -/
structure ToolpathCache (α : Type) where
  hash : Option UInt64
  toolpath : Toolpath α
deriving Repr, Inhabited

namespace ToolpathCache

variable {α : Type}

/-- The cache that holds nothing. -/
def empty : ToolpathCache α := ⟨none, Toolpath.empty⟩

/-- Whether the text would be read. -/
def needsUpdate (c : ToolpathCache α) (source : String) : Bool :=
  c.hash != some (SipHash.ofString source)

/-- Reads the text unless its hash is the one of the last text; tells whether it was read. -/
def update [Scalar α] (c : ToolpathCache α) (source : String) : ToolpathCache α × Bool :=
  let hash := SipHash.ofString source
  if c.hash == some hash then (c, false) else (⟨some hash, Toolpath.ofProgram source⟩, true)

theorem update_snd [Scalar α] (c : ToolpathCache α) (source : String) :
    (c.update source).2 = c.needsUpdate source := by
  unfold update needsUpdate
  by_cases h : c.hash = some (SipHash.ofString source) <;> simp [h]

end ToolpathCache

end PenPlotter
