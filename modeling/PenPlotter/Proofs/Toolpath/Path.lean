import PenPlotter.Proofs.Toolpath.Rewriting

/-! # Toolpaths are paths

The segments of a program lead on from the origin, each from the point where the one before it
ends, and every one of them to another point.  `Path p segments q` says so of segments that lead
from `p` to `q`.

The pen is where the path ends, and nowhere else is kept where it is: what further moves make of it
depends on the end of the path alone (`exists_path_walk`).  So lines that command nothing, and moves
to the point where the pen already is, may stand anywhere between two segments.  Doubles may be
numerically equal and still differ, as the two zeros do; the points at which segments meet are the
same. -/

namespace PenPlotter

section path

variable {α : Type} [Scalar α]

/-- The segments lead from one point to another: each starts where the one before it ends, and ends
at another point than it starts. -/
inductive Path : Point α → List (Segment α) → Point α → Prop
  | nil (p : Point α) : Path p [] p
  | cons {s : Segment α} {rest : List (Segment α)} {q : Point α}
      (hmoves : (s.stop == s.start) = false) (hrest : Path s.stop rest q) :
      Path s.start (s :: rest) q

/-- Where the pen is after the segments of a program. -/
def penAfter (segments : List (Segment α)) : Point α :=
  (segments.getLast?.map Segment.stop).getD Point.origin

variable {p q : Point α} {segments : List (Segment α)}

theorem Path.start_eq (h : Path p segments q) : ∀ s ∈ segments.head?, s.start = p := by
  cases h with
  | nil => nofun
  | cons => exact fun s hs => by rw [Option.some.inj hs]

theorem Path.isChain (h : Path p segments q) :
    segments.IsChain fun s t => t.start = s.stop := by
  induction h with
  | nil => exact List.isChain_nil
  | cons _ hrest ih => exact List.isChain_cons.mpr ⟨hrest.start_eq, ih⟩

theorem Path.stop_ne_start (h : Path p segments q) :
    ∀ s ∈ segments, (s.stop == s.start) = false := by
  induction h with
  | nil => nofun
  | cons hmoves _ ih => exact List.forall_mem_cons.mpr ⟨hmoves, ih⟩

theorem Path.stop_eq (h : Path p segments q) : (segments.getLast?.map Segment.stop).getD p = q := by
  induction h with
  | nil => rfl
  | cons _ _ ih => rw [List.getLast?_cons, Option.map_some, Option.getD_some, ← ih, Option.getD_map]

/-- The segments of a walk are a path, at whose end further moves go on. -/
theorem exists_path_walk (p : Point α) (ms : List (Move α)) :
    ∃ q, Path p (walk p ms) q ∧ ∀ ms', walk p (ms ++ ms') = walk p ms ++ walk q ms' := by
  induction ms generalizing p with
  | nil => exact ⟨p, .nil p, fun _ => rfl⟩
  | cons m ms ih =>
      cases hstays : m.target p == p with
      | true =>
          -- the pen stays exactly where it is, although the target may be another zero
          obtain ⟨q, hpath, hon⟩ := ih p
          refine ⟨q, ?_, fun ms' => ?_⟩
          · simpa only [walk, hstays, if_true] using hpath
          · simpa only [walk, List.cons_append, hstays, if_true] using hon ms'
      | false =>
          obtain ⟨q, hpath, hon⟩ := ih (m.target p)
          refine ⟨q, ?_, fun ms' => ?_⟩
          · simp only [walk, hstays, Bool.false_eq_true, if_false]
            exact .cons (s := ⟨p, m.target p, m.penDown⟩) hstays hpath
          · simp only [walk, List.cons_append, hstays, Bool.false_eq_true, if_false, hon]

end path

/-! ### Finite coordinates -/

section finite

/-- Both coordinates are finite. -/
structure Point.IsFinite (p : Point Float) : Prop where
  x : p.x.isFinite = true
  y : p.y.isFinite = true

/-- The coordinates that are given are finite. -/
structure Move.IsFinite (m : Move Float) : Prop where
  x : ∀ v ∈ m.x, v.isFinite = true
  y : ∀ v ∈ m.y, v.isFinite = true

theorem finite_origin : (Point.origin : Point Float).IsFinite :=
  ⟨by decide, by decide⟩

theorem finite_of_coordinate {axis : Char} {cs : List Char} {given : Option Float}
    (h : (Program.coordinate axis cs : Program.Coordinate Float).given? = some given) :
    ∀ v ∈ given, v.isFinite = true := by
  unfold Program.coordinate at h
  split at h
  case h_1 => cases h; nofun
  case h_2 run hrun =>
    split at h
    case h_1 => cases h
    case h_2 d hd =>
      dsimp only at h
      split at h
      case isTrue hfinite => cases h; exact fun v hv => Option.some.inj hv ▸ hfinite
      case isFalse => cases h

theorem finite_of_ofLine? {line : List Char} {m : Move Float} (h : Move.ofLine? line = some m) :
    m.IsFinite := by
  simp only [Move.ofLine?, Option.bind_eq_bind, Option.bind_eq_some_iff] at h
  obtain ⟨_, _, x, hx, y, hy, hm⟩ := h
  cases hm
  exact ⟨finite_of_coordinate hx, finite_of_coordinate hy⟩

theorem finite_of_mem_moves {text : String} {m : Move Float} (h : m ∈ Program.moves text) :
    m.IsFinite := by
  obtain ⟨_, _, hline⟩ := List.mem_filterMap.mp h
  exact finite_of_ofLine? hline

theorem Move.IsFinite.target {m : Move Float} (hm : m.IsFinite) {p : Point Float}
    (hp : p.IsFinite) : (m.target p).IsFinite where
  x := by
    cases h : m.x with
    | none => simpa [Move.target, h] using hp.x
    | some v => simpa [Move.target, h] using hm.x v h
  y := by
    cases h : m.y with
    | none => simpa [Move.target, h] using hp.y
    | some v => simpa [Move.target, h] using hm.y v h

theorem finite_walk {p : Point Float} (hp : p.IsFinite) {ms : List (Move Float)}
    (hms : ∀ m ∈ ms, m.IsFinite) : ∀ s ∈ walk p ms, s.start.IsFinite ∧ s.stop.IsFinite := by
  induction ms generalizing p with
  | nil => nofun
  | cons m ms ih =>
      rw [List.forall_mem_cons] at hms
      rw [walk]
      split
      · exact ih hp hms.2
      · have htarget := hms.1.target hp
        exact List.forall_mem_cons.mpr ⟨⟨hp, htarget⟩, ih htarget hms.2⟩

end finite

/-- **The toolpath of a text is one connected path.**  The first segment starts at the origin, every
other one at the very point where the one before it ends; no segment ends at a point that is
numerically equal to its start, and all coordinates are finite.  Any further line, whether it is
skipped, void, or leads to where the pen is, adds at most the segment that its move makes from the
end of the path on. -/
theorem connected_ofProgram (text : String) :
    let segments := (Toolpath.ofProgram text : Toolpath Float).segments
    (∀ s ∈ segments.head?, s.start = Point.origin) ∧
    segments.IsChain (fun s t => t.start = s.stop) ∧
    (∀ s ∈ segments, (s.stop == s.start) = false) ∧
    (∀ s ∈ segments, s.start.IsFinite ∧ s.stop.IsFinite) ∧
    ∀ line : String, '\n' ∉ line.toList →
      (Toolpath.ofProgram (text ++ "\n" ++ line) : Toolpath Float).segments =
        segments ++ walk (penAfter segments) (Move.ofLine? line.toList).toList := by
  intro segments
  obtain ⟨q, hpath, hon⟩ := exists_path_walk (Point.origin : Point Float) (Program.moves text)
  refine ⟨hpath.start_eq, hpath.isChain, hpath.stop_ne_start,
    finite_walk finite_origin fun m hm => finite_of_mem_moves hm, fun line hline => ?_⟩
  have hmoves : (Program.moves (text ++ "\n" ++ line) : List (Move Float)) =
      Program.moves text ++ (Move.ofLine? line.toList).toList := by
    have hchars : (text ++ "\n" ++ line).toList = text.toList ++ '\n' :: line.toList := by simp
    rw [Program.moves_eq_movesOf, Program.moves_eq_movesOf, hchars, Program.movesOf_append,
      Program.movesOf_line hline]
  show walk Point.origin (Program.moves (text ++ "\n" ++ line)) = _
  rw [hmoves, hon, ← hpath.stop_eq]
  rfl

/-- A move to the other zero, a void line and a comment stand between two segments. -/
example :
    ((Toolpath.ofProgram "G1 X-0\nG1 X1\nG1 X1e5 Y2\nG1 X1..2\n; G1 X9\nG0 Y-2.5" :
      Toolpath Float).segments.map fun s => (s.start.x.toBits, s.start.y.toBits)) =
      [(0, 0), ((1.0 : Float).toBits, 0), ((1.0 : Float).toBits, (2.0 : Float).toBits)] := by
  decide +kernel

end PenPlotter
