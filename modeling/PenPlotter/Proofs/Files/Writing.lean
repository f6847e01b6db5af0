import Mathlib.Tactic.SplitIfs
import PenPlotter.Files.System

/-! # Files that are written and files that stay

`FileSystem.KeepsFiles` says that something was done to the files at a few places only, and that all
directories are left.  Ways lead through directories alone, so every location still leads to the
place that it led to (`KeepsFiles.locate`), and a file that is kept is read as before
(`KeepsFiles.readText`).

Making directories keeps all files, also when it fails half-way (`keepsFiles_makeParent`).  Writing a
file changes nothing, or what is at one place where no directory is (`writeText_cases`), and then the
text that was written is read there (`readText_of_writeText`). -/

namespace PenPlotter
namespace FileSystem

variable {fs fs' fs'' : FileSystem} {place other : Place} {node : FileNode} {l : Location}
  {text : String} {changed : List Place}

/-! ### Putting something at a place -/

/-- A place at which something can be put. -/
def IsListed (place : Place) : Prop := ¬(isOnTop place ∨ place = ["/"])

theorem isListed_of_not_directory (h : fs.find? place ≠ some .directory) : IsListed place :=
  fun htop => h (if_pos htop)

theorem find?_put_self (h : IsListed place) : (fs.put place node).find? place = some node := by
  rw [find?, if_neg h]
  simp [put]

theorem find?_put_of_ne (h : other ≠ place) : (fs.put place node).find? other = fs.find? other := by
  have hnodes : (fs.put place node).nodes.find? (·.1 == other) =
      fs.nodes.find? (·.1 == other) := by
    rw [put, List.find?_cons_of_neg (by simpa using h.symm), List.find?_filter]
    congr 1
    funext m
    by_cases hm : m.1 = other
    · simp [hm, h]
    · simp [hm]
  simp only [find?, hnodes]

/-! ### What stays -/

section keeping

/-- Directories stay, and so do all files but those at a few places; no other file appears. -/
structure KeepsFiles (changed : List Place) (fs fs' : FileSystem) : Prop where
  directory : ∀ place, fs.find? place = some .directory → fs'.find? place = some .directory
  file_iff : ∀ place content, place ∉ changed →
    (fs'.find? place = some (.file content) ↔ fs.find? place = some (.file content))

theorem KeepsFiles.refl (changed : List Place) (fs : FileSystem) : KeepsFiles changed fs fs :=
  ⟨fun _ => id, fun _ _ _ => Iff.rfl⟩

theorem KeepsFiles.trans (h : KeepsFiles changed fs fs') (h' : KeepsFiles changed fs' fs'') :
    KeepsFiles changed fs fs'' :=
  ⟨fun place hplace => h'.directory place (h.directory place hplace),
    fun place content hplace =>
      (h'.file_iff place content hplace).trans (h.file_iff place content hplace)⟩

theorem KeepsFiles.weaken (h : KeepsFiles [] fs fs') (changed : List Place) :
    KeepsFiles changed fs fs' :=
  ⟨h.directory, fun place content _ => h.file_iff place content List.not_mem_nil⟩

/-- What is put where no directory was changes one place. -/
theorem keepsFiles_put (h : fs.find? place ≠ some .directory) :
    KeepsFiles [place] fs (fs.put place node) where
  directory other hother := by
    by_cases heq : other = place
    · exact absurd (heq ▸ hother) h
    · rw [find?_put_of_ne heq, hother]
  file_iff other content hother := by
    rw [find?_put_of_ne (List.ne_of_not_mem_cons hother)]

theorem keepsFiles_put_directory (h : fs.find? place = none) :
    KeepsFiles [] fs (fs.put place .directory) := by
  have hplace : fs.find? place ≠ some .directory := by simp [h]
  refine ⟨(keepsFiles_put hplace).directory, fun other content _ => ?_⟩
  by_cases heq : other = place
  · rw [heq, find?_put_self (isListed_of_not_directory hplace), h]
    simp
  · rw [find?_put_of_ne heq]

/-! ### Ways -/

theorem KeepsFiles.enter (h : KeepsFiles changed fs fs') {start goal : Place} {name : String}
    (henter : fs.enter start name = .ok goal) : fs'.enter start name = .ok goal := by
  unfold FileSystem.enter at henter ⊢
  split at henter
  · cases henter
  · cases henter
  · rename_i hdirectory
    rw [h.directory _ hdirectory]
    exact henter

theorem KeepsFiles.foldlM_enter (h : KeepsFiles changed fs fs') {steps : List String}
    {start goal : Place} (hsteps : steps.foldlM fs.enter start = .ok goal) :
    steps.foldlM fs'.enter start = .ok goal := by
  induction steps generalizing start with
  | nil => exact hsteps
  | cons name steps ih =>
      rw [List.foldlM_cons] at hsteps ⊢
      cases henter : fs.enter start name with
      | error e =>
          rw [henter] at hsteps
          cases hsteps
      | ok next =>
          rw [henter] at hsteps
          rw [h.enter henter]
          exact ih hsteps

theorem KeepsFiles.locate (h : KeepsFiles changed fs fs') (hlocate : fs.locate l = .ok other) :
    fs'.locate l = .ok other := by
  unfold FileSystem.locate follow at hlocate ⊢
  generalize (if l.isAbsolute then ["/"] else []) = start at hlocate ⊢
  split_ifs at hlocate with hname hlong hempty
  rw [if_neg hname, if_neg hlong, if_neg hempty]
  exact h.foldlM_enter hlocate

/-! ### Reading -/

theorem readText_eq_ok_iff : fs.readText l = .ok text ↔ l.endsInSlash = false ∧
    ∃ place content, fs.locate l = .ok place ∧ fs.find? place = some (.file content) ∧
      content.text? = some text := by
  unfold FileSystem.readText look
  cases hlocate : fs.locate l with
  | error e => simp [bind, Except.bind]
  | ok place =>
      cases hfound : fs.find? place with
      | none => simp [bind, Except.bind, hfound]
      | some node =>
          cases node with
          | directory => simp [bind, Except.bind, hfound]
          | file content =>
              cases hslash : l.endsInSlash <;> cases htext : content.text? <;>
                simp [bind, Except.bind, hfound, htext]

theorem KeepsFiles.readText (h : KeepsFiles changed fs fs')
    (hl : ∀ place, fs.locate l = .ok place → place ∉ changed) (hread : fs.readText l = .ok text) :
    fs'.readText l = .ok text := by
  obtain ⟨hslash, place, content, hlocate, hfile, htext⟩ := readText_eq_ok_iff.mp hread
  exact readText_eq_ok_iff.mpr ⟨hslash, place, content, h.locate hlocate,
    (h.file_iff place content (hl place hlocate)).mpr hfile, htext⟩

end keeping

/-! ### Making directories -/

section directories

theorem keepsFiles_makeDirectory (fs : FileSystem) (l : Location) :
    KeepsFiles [] fs (fs.makeDirectory l).1 := by
  unfold makeDirectory
  split
  · exact .refl _ _
  split
  · exact .refl _ _
  · rename_i hnone
    exact keepsFiles_put_directory hnone

theorem settle_fst (l : Location) (r : FileSystem × Except FileError Unit) :
    (settle l r).1 = r.1 := by
  obtain ⟨fs, _ | _⟩ := r
  · unfold settle
    dsimp only
    split <;> rfl
  · rfl

/-- Whatever directories are made before one cannot be made, files stay. -/
theorem keepsFiles_makeDirectories (fs : FileSystem) (ls : List Location) :
    KeepsFiles [] fs (fs.makeDirectories ls).1 := by
  induction ls with
  | nil => exact .refl _ _
  | cons l above ih =>
      unfold makeDirectories
      split
      · split
        · rename_i fs₁ habove
          rw [habove] at ih
          rw [settle_fst]
          exact ih.trans (keepsFiles_makeDirectory fs₁ l)
        · exact ih
      · rw [settle_fst]
        exact keepsFiles_makeDirectory fs l

theorem keepsFiles_makeParent (fs : FileSystem) (l : Location) :
    KeepsFiles [] fs (fs.makeParent l).1 :=
  keepsFiles_makeDirectories fs l.above

-- The way leads through a directory that is made, and ends at a file.
example :
    let made := (⟨[(["old"], .file (.text "kept"))]⟩ : FileSystem).makeParent ⟨"new/../old/file"⟩
    made.2.isOk = false ∧
      made.1.nodes = [(["new"], .directory), (["old"], .file (.text "kept"))] := by
  decide +kernel

end directories

/-! ### Writing -/

section writing

/-- A file can be written at a place, to which a location leads. -/
structure Writable (fs : FileSystem) (l : Location) (place : Place) : Prop where
  locateFile_eq : fs.locateFile l = .ok place
  not_directory : fs.find? place ≠ some .directory

theorem locate_of_locateFile (h : fs.locateFile l = .ok place) :
    l.endsInSlash = false ∧ fs.locate l = .ok place := by
  unfold locateFile at h
  split_ifs at h with hslash
  · -- whatever is entered, the outcome is a failure
    cases hfollow : fs.follow l l.steps.dropLast with
    | error e =>
        rw [hfollow] at h
        cases h
    | ok before =>
        rw [hfollow] at h
        change (fs.enter before "." >>= fun _ => Except.error FileError.isDirectory) = _ at h
        cases henter : fs.enter before "." <;> rw [henter] at h <;> cases h
  · exact ⟨by simpa using hslash, h⟩

/-- A file is written, or nothing is done. -/
theorem writeText_cases (fs : FileSystem) (l : Location) (text : String) :
    (∃ place, fs.Writable l place ∧
      fs.writeText l text = (fs.put place (.file (.text text)), .ok ())) ∨
    ((∀ place, ¬fs.Writable l place) ∧ ∃ e, fs.writeText l text = (fs, .error e)) := by
  unfold writeText
  cases hlocate : fs.locateFile l with
  | error e =>
      refine .inr ⟨fun place h => ?_, e, rfl⟩
      cases hlocate.symm.trans h.locateFile_eq
  | ok place =>
      by_cases hplace : fs.find? place = some .directory
      · refine .inr ⟨fun place' h => ?_, .isDirectory, by simp only [hplace]⟩
        obtain rfl := Except.ok.inj (hlocate.symm.trans h.locateFile_eq)
        exact h.not_directory hplace
      · refine .inl ⟨place, ⟨hlocate, hplace⟩, ?_⟩
        dsimp only
        split
        · rename_i hdirectory
          exact absurd hdirectory hplace
        · rfl

theorem Writable.keepsFiles (h : fs.Writable l place) :
    KeepsFiles [place] fs (fs.put place node) :=
  keepsFiles_put h.not_directory

/-- The location still leads to the place at which it was written. -/
theorem Writable.locate (h : fs.Writable l place) :
    (fs.put place node).locate l = .ok place :=
  h.keepsFiles.locate (locate_of_locateFile h.locateFile_eq).2

theorem Writable.find? (h : fs.Writable l place) :
    (fs.put place node).find? place = some node :=
  find?_put_self (isListed_of_not_directory h.not_directory)

theorem Writable.readText (h : fs.Writable l place) (text : String) :
    (fs.put place (.file (.text text))).readText l = .ok text :=
  readText_eq_ok_iff.mpr ⟨(locate_of_locateFile h.locateFile_eq).1, place, .text text, h.locate,
    h.find?, rfl⟩

/-- **What is written to a file** is read there. -/
theorem readText_of_writeText (h : fs.writeText l text = (fs', .ok ())) :
    fs'.readText l = .ok text := by
  rcases fs.writeText_cases l text with ⟨place, hplace, hwrite⟩ | ⟨_, e, hwrite⟩
  · rw [← (Prod.mk.inj (hwrite.symm.trans h)).1]
    exact hplace.readText text
  · cases (Prod.mk.inj (hwrite.symm.trans h)).2

end writing

end FileSystem
end PenPlotter
