import Mathlib.Data.Nat.Notation
import Mathlib.Tactic.SplitIfs
import PenPlotter.Json.Printer
import PenPlotter.Json.Token

/-! # Quoted JSON text reads back

Every character that is written between quotation marks is read as one piece that stands for it,
so a quoted text is read as the text (`token?_quoted`). -/

namespace PenPlotter.Json

/-- A piece that stands for a character, whatever follows it. -/
def StandsFor (piece : Piece) (c : Char) : Prop :=
  ∀ pieces, joinPieces (piece :: pieces) = (joinPieces pieces).map (c :: ·)

theorem standsFor_char (c : Char) : StandsFor (.char c) c := fun _ => rfl

theorem standsFor_unit {c : Char} (h : c.toNat < 0xD800) : StandsFor (.unit c.toNat) c := by
  have hhigh : ¬ (0xD800 ≤ c.toNat ∧ c.toNat < 0xDC00) := by omega
  have hlow : ¬ (0xDC00 ≤ c.toNat ∧ c.toNat < 0xE000) := by omega
  have hany : ¬ (0xD800 ≤ c.toNat ∧ c.toNat < 0xE000) := by omega
  intro pieces
  cases pieces with
  | nil => simp only [joinPieces, hany, if_false, Char.ofNat_toNat]
  | cons piece pieces =>
      cases piece with
      | unit low => simp only [joinPieces, hhigh, hlow, if_false, Char.ofNat_toNat]
      | char d => simp only [joinPieces, hany, if_false, Char.ofNat_toNat]
      | broken => simp only [joinPieces, hany, if_false, Char.ofNat_toNat]

theorem hexDigit?_digitChar : ∀ n < 16, hexDigit? (Nat.digitChar n) = some n := by decide

theorem takeQuoted?_letter {e c : Char} (hu : e ≠ 'u') (h : escaped? e = some c)
    (rest : List (Option Char)) :
    takeQuoted? (some '\\' :: some e :: rest) =
      (takeQuoted? rest).map fun r => (.char c :: r.1, r.2) := by
  rw [takeQuoted?.eq_5 _ _ fun _ _ _ _ _ _ he => hu he, h]
  cases takeQuoted? rest <;> rfl

theorem takeQuoted?_unit (n : ℕ) (h : n < 256) (rest : List (Option Char)) :
    takeQuoted? (some '\\' :: some 'u' :: some '0' :: some '0' ::
        some (Nat.digitChar (n / 16)) :: some (Nat.digitChar (n % 16)) :: rest) =
      (takeQuoted? rest).map fun r => (.unit n :: r.1, r.2) := by
  have hzero : hexDigit? '0' = some 0 := by decide
  have hhigh := hexDigit?_digitChar (n / 16) (by omega)
  have hlow := hexDigit?_digitChar (n % 16) (by omega)
  have hn : ((0 * 16 + 0) * 16 + n / 16) * 16 + n % 16 = n := by omega
  rw [takeQuoted?]
  simp only [hzero, hhigh, hlow, Option.bind_eq_bind, Option.bind_some, hn]
  cases takeQuoted? rest <;> rfl

theorem takeQuoted?_plain {c : Char} (hquote : c ≠ '"') (hslash : c ≠ '\\')
    (hcontrol : 32 ≤ c.toNat) (rest : List (Option Char)) :
    takeQuoted? (some c :: rest) = (takeQuoted? rest).map fun r => (.char c :: r.1, r.2) := by
  have hplain : ¬(c.toNat < 32 ∨ c = '\\') := by
    rintro (h | h)
    · omega
    · exact hslash h
  rw [takeQuoted?.eq_6 _ _ hquote (fun _ _ _ _ _ _ h => hslash h) (fun _ _ _ h => hslash h),
    if_neg hplain]
  cases takeQuoted? rest <;> rfl

theorem takeQuoted?_escape (c : Char) :
    ∃ piece, StandsFor piece c ∧ ∀ rest, takeQuoted? ((escape c).map some ++ rest) =
      (takeQuoted? rest).map fun r => (piece :: r.1, r.2) := by
  have hchar (n : ℕ) (h : c.toNat = n) : c = Char.ofNat n := by rw [← h, Char.ofNat_toNat]
  unfold escape
  split_ifs with hquote hslash h8 h9 h10 h12 h13 hcontrol
  · exact ⟨_, standsFor_char c, takeQuoted?_letter (by decide) (by rw [hquote]; rfl)⟩
  · exact ⟨_, standsFor_char c, takeQuoted?_letter (by decide) (by rw [hslash]; rfl)⟩
  · exact ⟨_, standsFor_char c, takeQuoted?_letter (by decide) (by rw [hchar 8 h8]; rfl)⟩
  · exact ⟨_, standsFor_char c, takeQuoted?_letter (by decide) (by rw [hchar 9 h9]; rfl)⟩
  · exact ⟨_, standsFor_char c, takeQuoted?_letter (by decide) (by rw [hchar 10 h10]; rfl)⟩
  · exact ⟨_, standsFor_char c, takeQuoted?_letter (by decide) (by rw [hchar 12 h12]; rfl)⟩
  · exact ⟨_, standsFor_char c, takeQuoted?_letter (by decide) (by rw [hchar 13 h13]; rfl)⟩
  · exact ⟨_, standsFor_unit (by omega), takeQuoted?_unit c.toNat (by omega)⟩
  · exact ⟨_, standsFor_char c, takeQuoted?_plain hquote hslash (by omega)⟩

/-- **A quoted text** is read as the text. -/
theorem takeQuoted?_flatMap (cs : List Char) (rest : List (Option Char)) :
    ∃ pieces, takeQuoted? ((cs.flatMap escape).map some ++ some '"' :: rest) =
      some (pieces, rest) ∧ joinPieces pieces = some cs := by
  induction cs with
  | nil => exact ⟨[], by simp [takeQuoted?], rfl⟩
  | cons c cs ih =>
      obtain ⟨pieces, hread, hjoin⟩ := ih
      obtain ⟨piece, hstands, hpiece⟩ := takeQuoted?_escape c
      refine ⟨piece :: pieces, ?_, ?_⟩
      · rw [List.flatMap_cons, List.map_append, List.append_assoc, hpiece, hread]
        rfl
      · rw [hstands, hjoin]
        rfl

theorem token?_quoted (s : String) (rest : List (Option Char)) :
    token? ((quoted s).toList.map some ++ rest) = some (.string (some s), rest) := by
  obtain ⟨pieces, hread, hjoin⟩ := takeQuoted?_flatMap s.toList rest
  have hchars : (quoted s).toList.map some ++ rest =
      some '"' :: ((s.toList.flatMap escape).map some ++ some '"' :: rest) := by
    simp [quoted]
  have hpunctuation : punctuation? '"' = none := rfl
  rw [hchars, token?]
  simp only [hpunctuation, if_true, hread, Option.map_some, literal, hjoin, String.ofList_toList]

end PenPlotter.Json
