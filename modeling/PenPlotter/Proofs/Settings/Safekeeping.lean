import PenPlotter.Proofs.Files.Writing
import PenPlotter.Proofs.Settings.Merging

/-! # Files that a save leaves alone

Settings are checked and written as a text before anything is done to files, and the text is put at
its place in one step after everything else (`Settings.save_cases`).  What comes in between, making
the directory, keeps all files.  So a save that fails, wherever it does, leaves every file with what
it holds, though it may leave new directories; and one that succeeds changes one file
(`Settings.save_spares_files`). -/

namespace PenPlotter
namespace Settings

open FileSystem (KeepsFiles)

variable {fs fs' : FileSystem} {l : Location} {s : Settings}

theorem load_of_keepsFiles (h : KeepsFiles [] fs fs') (hload : load fs l = .ok s) :
    load fs' l = .ok s := by
  obtain ⟨layer, ⟨format, text, hformat, hread, htext⟩, hvalue, hvalid⟩ := load_eq_ok_iff.1 hload
  have hread' : fs'.readText l = .ok text := h.readText (fun _ _ => List.not_mem_nil) hread
  exact load_eq_ok_iff.2 ⟨layer, ⟨format, text, hformat, hread', htext⟩, hvalue, hvalid⟩

/-- A save ends before it has done anything, or it ends with the directory made as far as possible,
or it puts its text where a file can be written then. -/
theorem save_cases (fs : FileSystem) (l : Location) (s : Settings) :
    (∃ e, s.textFor l = .error e ∧ save fs l s = (fs, .error e)) ∨
    (∃ e, ((fs.makeParent l).2 ≠ .ok () ∨ ∀ place, ¬(fs.makeParent l).1.Writable l place) ∧
      save fs l s = ((fs.makeParent l).1, .error e)) ∨
    ∃ text place, s.textFor l = .ok text ∧ (fs.makeParent l).2 = .ok () ∧
      (fs.makeParent l).1.Writable l place ∧
      save fs l s = ((fs.makeParent l).1.put place (.file (.text text)), .ok ()) := by
  unfold save
  cases htext : s.textFor l with
  | error e => exact .inl ⟨e, rfl, rfl⟩
  | ok text =>
      rcases hparent : fs.makeParent l with ⟨fs₁, e | _⟩
      · exact .inr (.inl ⟨.files e, .inl nofun, rfl⟩)
      · dsimp only
        rcases fs₁.writeText_cases l text with ⟨place, hplace, hwrite⟩ | ⟨hnone, e, hwrite⟩
        · rw [hwrite]
          exact .inr (.inr ⟨text, place, rfl, rfl, hplace, rfl⟩)
        · rw [hwrite]
          exact .inr (.inl ⟨.save l.text e.message, .inr hnone, rfl⟩)

theorem keepsFiles_of_save_error {e : SettingsError} (h : (save fs l s).2 = .error e) :
    KeepsFiles [] fs (save fs l s).1 := by
  rcases save_cases fs l s with ⟨e', _, hsave⟩ | ⟨e', _, hsave⟩ | ⟨text, place, _, _, _, hsave⟩
  · rw [hsave]
    exact .refl [] fs
  · rw [hsave]
    exact fs.keepsFiles_makeParent l
  · rw [hsave] at h
    cases h

theorem exists_of_save_ok (h : (save fs l s).2 = .ok ()) :
    ∃ text place, s.textFor l = .ok text ∧ (save fs l s).1.locate l = .ok place ∧
      (save fs l s).1.find? place = some (.file (.text text)) ∧
      KeepsFiles [place] fs (save fs l s).1 := by
  rcases save_cases fs l s with
    ⟨e, _, hsave⟩ | ⟨e, _, hsave⟩ | ⟨text, place, htext, _, hplace, hsave⟩
  · rw [hsave] at h
    cases h
  · rw [hsave] at h
    cases h
  · rw [hsave]
    exact ⟨text, place, htext, hplace.locate, hplace.find?,
      ((fs.keepsFiles_makeParent l).weaken [place]).trans hplace.keepsFiles⟩

/-- A save succeeds if there is a text to be written and a place for it. -/
theorem save_ok_iff : (save fs l s).2 = .ok () ↔ (∃ text, s.textFor l = .ok text) ∧
    (fs.makeParent l).2 = .ok () ∧ ∃ place, (fs.makeParent l).1.Writable l place := by
  rcases save_cases fs l s with
    ⟨e, hnone, hsave⟩ | ⟨e, hnone, hsave⟩ | ⟨text, place, htext, hparent, hplace, hsave⟩ <;>
    rw [hsave]
  · refine iff_of_false nofun ?_
    rintro ⟨⟨text, htext⟩, _⟩
    cases hnone.symm.trans htext
  · refine iff_of_false nofun ?_
    rintro ⟨_, hparent, place, hplace⟩
    exact hnone.elim (· hparent) (· place hplace)
  · exact iff_of_true rfl ⟨⟨text, htext⟩, hparent, place, hplace⟩

/-- **A failed save damages nothing.**  Whatever the settings, the location and the files are, a
save fails if the settings have no text that can be written, if the directory cannot be made or if no
file can be written at the location, and then every file is as it was and none has appeared, every
text that was read before is still read, and so are the settings that were stored at the location.
Otherwise the file to which the location leads holds the text of the settings, and every other file
is as it was. -/
theorem save_spares_files (fs : FileSystem) (l : Location) (s : Settings) :
    let fs' := (save fs l s).1
    let outcome := (save fs l s).2
    (outcome = .ok () ↔ (∃ text, s.textFor l = .ok text) ∧ (fs.makeParent l).2 = .ok () ∧
      ∃ place, (fs.makeParent l).1.Writable l place) ∧
    (∀ e, outcome = .error e →
      KeepsFiles [] fs fs' ∧
      (∀ other text, fs.readText other = .ok text → fs'.readText other = .ok text) ∧
      ∀ stored, load fs l = .ok stored → load fs' l = .ok stored) ∧
    (outcome = .ok () → ∃ text place, s.textFor l = .ok text ∧ fs'.locate l = .ok place ∧
      fs'.find? place = some (.file (.text text)) ∧ KeepsFiles [place] fs fs') := by
  intro fs' outcome
  refine ⟨save_ok_iff, fun e he => ?_, exists_of_save_ok⟩
  have hkeeps : KeepsFiles [] fs fs' := keepsFiles_of_save_error he
  exact ⟨hkeeps, fun other text => hkeeps.readText fun _ _ => List.not_mem_nil,
    fun stored => load_of_keepsFiles hkeeps⟩

end Settings
end PenPlotter
