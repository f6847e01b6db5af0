import PenPlotter.Proofs.Toolpath.Coordinates

/-! # Motion programs follow their rules

`segments_ofProgram`: the toolpath of every text is the one that the rules of `Reference` give.
A line commands a move exactly if it has a motion word and both of its coordinates are in order
(`ofLine?_eq`); the walk through the moves is then an induction over the lines. -/

namespace PenPlotter

open Reference

theorem ofLine?_eq_bind (line : List Char) :
    (Move.ofLine? line : Option (Move Float)) =
      (motion? (code line)).bind fun penDown =>
        (given? ['X', 'x'] (code line)).bind fun x =>
          (given? ['Y', 'y'] (code line)).map fun y => ⟨penDown, x, y⟩ := by
  have hx (c : Char) : c.toLower = 'x' ↔ c ∈ ['X', 'x'] := by
    rw [toLower_eq_iff (u := 'X') (by decide) (by decide)]
    simp
  have hy (c : Char) : c.toLower = 'y' ↔ c ∈ ['Y', 'y'] := by
    rw [toLower_eq_iff (u := 'Y') (by decide) (by decide)]
    simp
  unfold Move.ofLine?
  dsimp only
  rw [code_eq, motion?_eq, given?_eq hx, given?_eq hy]
  cases motion? (code line) with
  | none => rfl
  | some penDown =>
      cases given? ['X', 'x'] (code line) with
      | none => rfl
      | some x => cases given? ['Y', 'y'] (code line) <;> rfl

theorem ofLine?_eq (cursor : Point Float) (line : List Char) :
    ((Move.ofLine? line : Option (Move Float)).map fun m => (m.penDown, m.target cursor)) =
      (motion? (code line)).bind fun penDown =>
        (target? cursor (code line)).map fun target => (penDown, target) := by
  unfold target?
  rw [ofLine?_eq_bind, coordinate?_eq, coordinate?_eq]
  cases motion? (code line) with
  | none => rfl
  | some penDown =>
      cases given? ['X', 'x'] (code line) with
      | none => rfl
      | some x => cases given? ['Y', 'y'] (code line) <;> rfl

theorem interpret_cons (cursor : Point Float) (line : List Char) (rest : List (List Char)) :
    interpret cursor (line :: rest) =
      match (Move.ofLine? line : Option (Move Float)) with
      | none => interpret cursor rest
      | some m =>
        if m.target cursor == cursor then interpret cursor rest
        else ⟨cursor, m.target cursor, m.penDown⟩ :: interpret (m.target cursor) rest := by
  have h := ofLine?_eq cursor line
  rw [interpret]
  cases ho : (Move.ofLine? line : Option (Move Float)) with
  | none =>
      rw [ho, Option.map_none] at h
      cases hm : motion? (code line) with
      | none => rfl
      | some penDown =>
          cases ht : target? cursor (code line) with
          | none => rfl
          | some target => simp [hm, ht] at h
  | some m =>
      rw [ho, Option.map_some] at h
      obtain ⟨penDown, hm, hbind⟩ := Option.bind_eq_some_iff.mp h.symm
      obtain ⟨target, ht, he⟩ := Option.map_eq_some_iff.mp hbind
      obtain ⟨rfl, rfl⟩ := Prod.mk.inj he
      rw [hm, ht]
      rfl

theorem walk_eq (cursor : Point Float) (ls : List (List Char)) :
    walk cursor (ls.filterMap Move.ofLine?) = interpret cursor ls := by
  induction ls generalizing cursor with
  | nil => rfl
  | cons line rest ih =>
      rw [interpret_cons]
      cases h : (Move.ofLine? line : Option (Move Float)) with
      | none => rw [List.filterMap_cons_none h, ih]
      | some m =>
          rw [List.filterMap_cons_some h, walk]
          simp only [ih]

/-- **The toolpath of a text** is the one that the rules give, for every text. -/
theorem segments_ofProgram (text : String) :
    (Toolpath.ofProgram text : Toolpath Float).segments = Reference.segments text := by
  have hzero : (0.0 : Float) = 0 := by decide +kernel
  have horigin : (Point.origin : Point Float) = ⟨0, 0⟩ := by
    show (⟨0.0, 0.0⟩ : Point Float) = _
    rw [hzero]
  unfold Toolpath.ofProgram Program.moves Reference.segments
  rw [Toolpath.segments_ofSegments, walk_eq, lines_eq, horigin]

end PenPlotter
