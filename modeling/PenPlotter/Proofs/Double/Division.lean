import PenPlotter.Proofs.Double.Order

/-! # Division by zero

A quotient by zero is infinite or no number (`not_isFinite_div`), and no product, sum or difference
brings such a double back (`not_isFinite_mul`, `not_isFinite_add`, `not_isFinite_sub`). -/

namespace PenPlotter
namespace Double

open Float.Model Float.Model.UnpackedFloat

/-! ### Lost doubles -/

/-- The datum is infinite or no number. -/
def Lost (u : UnpackedFloat) : Prop := u = .notANumber ∨ ∃ s, u = .infinity s

theorem lost_of_not_isFinite {x : Float} (hx : x.isFinite = false) : Lost x.toModel.unpack := by
  change x.toModel.unpack.isFinite = false at hx
  cases h : x.toModel.unpack with
  | notANumber => exact .inl rfl
  | infinity s => exact .inr ⟨s, rfl⟩
  | zero s => rw [h] at hx; cases hx
  | finite s m e hm => rw [h] at hx; cases hx

theorem not_isFinite_of_lost {u : UnpackedFloat} (hu : Lost u) :
    (Float.ofModel (.pack u)).isFinite = false := by
  obtain rfl | ⟨s, rfl⟩ := hu
  · rfl
  · cases s <;> rfl

section arithmetic

variable {x y : Float}

theorem not_isFinite_mul (hx : x.isFinite = false) (y : Float) : (x * y).isFinite = false := by
  refine not_isFinite_of_lost (u := UnpackedFloat.mul _ x.toModel.unpack y.toModel.unpack) ?_
  obtain hu | ⟨s, hu⟩ := lost_of_not_isFinite hx
  · rw [hu]
    exact .inl rfl
  · rw [hu]
    cases y.toModel.unpack with
    | notANumber => exact .inl rfl
    | zero => exact .inl rfl
    | infinity => exact .inr ⟨_, rfl⟩
    | finite => exact .inr ⟨_, rfl⟩

theorem not_isFinite_add (x : Float) (hy : y.isFinite = false) : (x + y).isFinite = false := by
  refine not_isFinite_of_lost (u := UnpackedFloat.add _ x.toModel.unpack y.toModel.unpack) ?_
  obtain hu | ⟨s, hu⟩ := lost_of_not_isFinite hy
  · rw [hu]
    cases x.toModel.unpack <;> exact .inl rfl
  · rw [hu]
    cases x.toModel.unpack with
    | notANumber => exact .inl rfl
    | infinity s' =>
        cases s <;> cases s'
        · exact .inr ⟨_, rfl⟩
        · exact .inl rfl
        · exact .inl rfl
        · exact .inr ⟨_, rfl⟩
    | zero => exact .inr ⟨_, rfl⟩
    | finite => exact .inr ⟨_, rfl⟩

theorem not_isFinite_sub (x : Float) (hy : y.isFinite = false) : (x - y).isFinite = false := by
  refine not_isFinite_of_lost (u := UnpackedFloat.sub _ x.toModel.unpack y.toModel.unpack) ?_
  obtain hu | ⟨s, hu⟩ := lost_of_not_isFinite hy
  · rw [hu]
    cases x.toModel.unpack <;> exact .inl rfl
  · rw [hu]
    cases x.toModel.unpack with
    | notANumber => exact .inl rfl
    | infinity s' =>
        cases s <;> cases s'
        · exact .inl rfl
        · exact .inr ⟨_, rfl⟩
        · exact .inr ⟨_, rfl⟩
        · exact .inl rfl
    | zero => exact .inr ⟨_, rfl⟩
    | finite => exact .inr ⟨_, rfl⟩

/-! ### Zeros -/

theorem unpack_of_beq_zero (hy : (y == 0.0) = true) : ∃ s, y.toModel.unpack = .zero s := by
  have hzero : (0.0 : Float) = Float.ofModel (.pack (.zero .positive)) := by decide
  rw [hzero] at hy
  change (y.toModel.unpack.compare (.zero .positive) == some .eq) = true at hy
  rw [beq_iff_eq] at hy
  cases h : y.toModel.unpack with
  | zero s => exact ⟨s, rfl⟩
  | notANumber => rw [h] at hy; cases hy
  | infinity s => rw [h] at hy; cases s <;> cases hy
  | finite s m e hm => rw [h] at hy; cases s <;> cases hy

/-- A quotient by zero, or by what is no number, is infinite or no number. -/
theorem not_isFinite_div (x : Float) (hy : (y == 0.0) = true ∨ y.isNaN = true) :
    (x / y).isFinite = false := by
  refine not_isFinite_of_lost (u := UnpackedFloat.div _ x.toModel.unpack y.toModel.unpack) ?_
  rcases hy with hzero | hnan
  · obtain ⟨s, hu⟩ := unpack_of_beq_zero hzero
    rw [hu]
    cases x.toModel.unpack with
    | notANumber => exact .inl rfl
    | zero => exact .inl rfl
    | infinity => exact .inr ⟨_, rfl⟩
    | finite => exact .inr ⟨_, rfl⟩
  · change y.toModel.unpack.isNaN = true at hnan
    cases h : y.toModel.unpack with
    | notANumber => cases x.toModel.unpack <;> exact .inl rfl
    | _ => rw [h] at hnan; cases hnan

/-- A product with zero is zero, unless the other factor is infinite or no number. -/
theorem mul_zero_cases (x : Float) (hy : (y == 0.0) = true) :
    (x * y == 0.0) = true ∨ (x * y).isNaN = true := by
  have hmul : x * y = Float.ofModel (.pack
    (UnpackedFloat.mul .binary64 x.toModel.unpack y.toModel.unpack)) := rfl
  have hzero (s : Sign) : (Float.ofModel (.pack (.zero s)) == 0.0) = true := by
    cases s <;> decide
  have hnan : (Float.ofModel (.pack .notANumber)).isNaN = true := by decide
  obtain ⟨s, hu⟩ := unpack_of_beq_zero hy
  rw [hmul, hu]
  cases x.toModel.unpack with
  | notANumber => exact .inr hnan
  | infinity => exact .inr hnan
  | zero => exact .inl (hzero _)
  | finite => exact .inl (hzero _)

end arithmetic

end Double
end PenPlotter
