import Mathlib
import FactorGraph.Proofs.Lie.Rotation

set_option autoImplicit false

namespace FactorGraph

theorem literal_four : (4.0 : ℝ) = 4 := by norm_num

namespace Quat

section OfMatrix

variable (q : Quat ℝ)

theorem aligned (s : ℝ) (nonzero : s ≠ 0) :
    (⟨s * q.w / |s|, s * q.x / |s|, s * q.y / |s|, s * q.z / |s|⟩ : Quat ℝ) = q ∨
      (⟨s * q.w / |s|, s * q.x / |s|, s * q.y / |s|, s * q.z / |s|⟩ : Quat ℝ) = -q := by
  rcases lt_or_gt_of_ne nonzero with negative | positive
  · right
    rw [abs_of_neg negative, neg_def]
    ext <;> field_simp
  · left
    rw [abs_of_pos positive]
    ext <;> field_simp

theorem root_four_squares (s a : ℝ) (square : a = 4 * (s * s)) : Scalar.sqrt a * (2 : ℝ) = 4 * |s| := by
  have half : a = (2 * s) ^ 2 := by rw [square]; ring
  change Real.sqrt a * 2 = _
  rw [half, Real.sqrt_sq_eq_abs, abs_mul, abs_two]
  ring

theorem own_component (s : ℝ) : 4 * |s| / 4.0 = s * s / |s| := by
  rw [← abs_mul_abs_self s, literal_four, mul_self_div_self]
  ring

theorem other_component (s t a : ℝ) (product : a = 4 * (s * t)) : a / (4 * |s|) = s * t / |s| := by
  rw [product, mul_div_mul_left _ _ four_ne_zero]

theorem of_matrix_to_matrix (unit : q.Unit) : ofMatrix q.toMatrix = q ∨ ofMatrix q.toMatrix = -q := by
  -- Whichever component is divided by is not zero: it is the largest.
  have squares : q.w * q.w + q.x * q.x + q.y * q.y + q.z * q.z = 1 := unit
  unfold ofMatrix
  simp only [toMatrix, literal_two]
  split_ifs with trace first second
  · have nonzero : q.w ≠ 0 := by
      intro zero
      rw [zero] at trace squares
      linarith
    rw [root_four_squares q.w _ (by linear_combination (-1 : ℝ) * squares), own_component,
      other_component q.w q.x _ (by ring), other_component q.w q.y _ (by ring), other_component q.w q.z _ (by ring)]
    exact aligned q q.w nonzero
  · have nonzero : q.x ≠ 0 := by
      intro zero
      rw [zero] at first
      nlinarith [first.1, mul_self_nonneg q.y]
    rw [root_four_squares q.x _ (by linear_combination (-1 : ℝ) * squares), own_component,
      other_component q.x q.w _ (by ring), other_component q.x q.y _ (by ring), other_component q.x q.z _ (by ring)]
    exact aligned q q.x nonzero
  · have nonzero : q.y ≠ 0 := by
      intro zero
      rw [zero] at second
      nlinarith [second, mul_self_nonneg q.z]
    rw [root_four_squares q.y _ (by linear_combination (-1 : ℝ) * squares), own_component,
      other_component q.y q.w _ (by ring), other_component q.y q.x _ (by ring), other_component q.y q.z _ (by ring)]
    exact aligned q q.y nonzero
  · have nonzero : q.z ≠ 0 := by
      intro zero
      rw [zero] at trace first second squares
      have flat : q.y = 0 := by nlinarith [mul_self_nonneg q.y]
      rw [flat] at trace first squares
      have thin : q.x = 0 := by
        by_contra other
        have positive := mul_self_pos.mpr other
        exact first ⟨by linarith, by linarith⟩
      rw [thin] at trace squares
      linarith
    rw [root_four_squares q.z _ (by linear_combination (-1 : ℝ) * squares), own_component,
      other_component q.z q.w _ (by ring), other_component q.z q.x _ (by ring), other_component q.z q.y _ (by ring)]
    exact aligned q q.z nonzero

end OfMatrix

section Axis

variable (q : Quat ℝ)

noncomputable def halfAngle : ℝ := Complex.arg ⟨|q.w|, q.imaginary.norm⟩

theorem angle_eq : q.angle = 2 * q.halfAngle := by
  change Complex.arg ⟨Scalar.abs q.w, _⟩ * 2.0 = _
  rw [scalar_abs_eq, literal_two, mul_comm]
  rfl

theorem half_angle_nonneg : 0 ≤ q.halfAngle := Complex.arg_nonneg_iff.mpr (Vec3.norm_nonneg _)

theorem half_angle_le : q.halfAngle ≤ Real.pi / 2 := Complex.arg_le_pi_div_two_iff.mpr (.inl (abs_nonneg _))

theorem half_angle_point (unit : q.Unit) :
    Real.cos q.halfAngle = |q.w| ∧ Real.sin q.halfAngle = q.imaginary.norm := by
  have squares : q.w * q.w + q.x * q.x + q.y * q.y + q.z * q.z = 1 := unit
  have parts : q.imaginary.norm * q.imaginary.norm = q.x * q.x + q.y * q.y + q.z * q.z := Vec3.norm_mul_self _
  have length : ‖(⟨|q.w|, q.imaginary.norm⟩ : ℂ)‖ = 1 := by
    rw [Complex.norm_def, Complex.normSq_mk, abs_mul_abs_self, parts, ← add_assoc, ← add_assoc, squares, Real.sqrt_one]
  have nonzero : (⟨|q.w|, q.imaginary.norm⟩ : ℂ) ≠ 0 := by
    rw [← norm_ne_zero_iff, length]
    exact one_ne_zero
  rw [halfAngle, Complex.cos_arg nonzero, Complex.sin_arg, length, div_one, div_one]
  exact ⟨rfl, rfl⟩

theorem half_angle_of_still (still : q.imaginary.norm = 0) : q.halfAngle = 0 := by
  rw [halfAngle, still]
  exact Complex.arg_ofReal_of_nonneg (abs_nonneg _)

theorem half_angle_neg : (-q).halfAngle = q.halfAngle := by
  have length : (-q).imaginary.norm = q.imaginary.norm := Vec3.norm_neg q.imaginary
  rw [halfAngle, length, neg_def, abs_neg]
  rfl

theorem scaled_axis_eq :
    q.scaledAxis =
      (2 * q.halfAngle / q.imaginary.norm) * (if 0 ≤ q.w then q.imaginary else -q.imaginary) := by
  -- The axis is taken from the representative with a nonnegative real part. Where there is no axis, the quotient is
  -- zero.
  unfold scaledAxis
  rw [angle_eq]
  have length : (if 0 ≤ q.w then q.imaginary else -q.imaginary).norm = q.imaginary.norm := by
    split
    · rfl
    · exact Vec3.norm_neg _
  generalize (if 0 ≤ q.w then q.imaginary else -q.imaginary) = v at length
  rw [← length]
  by_cases turns : 0 < v.normSquared
  · rw [if_pos turns]
    ext <;> simp only [Vec3.smul_def, Vec3.div_def] <;> ring
  · have still : v.norm = 0 := Real.sqrt_eq_zero_of_nonpos (not_lt.mp turns)
    rw [if_neg turns, still, div_zero]
    ext <;> simp [Vec3.smul_def]

theorem scaled_axis_of_nonneg (upper : 0 ≤ q.w) :
    q.scaledAxis = (2 * q.halfAngle / q.imaginary.norm) * q.imaginary := by
  rw [scaled_axis_eq, if_pos upper]

theorem scaled_axis_of_still (still : q.imaginary.norm = 0) : q.scaledAxis = 0 := by
  rw [scaled_axis_eq, still, div_zero]
  ext <;> simp [Vec3.smul_def]

theorem scaled_axis_norm_squared (turns : q.imaginary.norm ≠ 0) :
    q.scaledAxis.normSquared = (2 * q.halfAngle) ^ 2 := by
  have length : (if 0 ≤ q.w then q.imaginary else -q.imaginary).normSquared = q.imaginary.norm ^ 2 := by
    split
    · rw [sq, Vec3.norm_mul_self]
    · rw [← Vec3.norm_neg, sq, Vec3.norm_mul_self]
  rw [scaled_axis_eq, Vec3.norm_squared_smul, length, ← mul_pow, div_mul_cancel₀ _ turns]

theorem one_eq_or_eq_neg (unit : q.Unit) (still : q.imaginary.norm = 0) : 1 = q ∨ 1 = -q := by
  have squares : q.w * q.w + q.x * q.x + q.y * q.y + q.z * q.z = 1 := unit
  obtain ⟨x, y, z⟩ := Vec3.ext_iff.mp (Vec3.eq_zero_of_norm _ still)
  change q.x = 0 at x
  change q.y = 0 at y
  change q.z = 0 at z
  rw [x, y, z] at squares
  rw [one_def, neg_def, x, y, z]
  rcases mul_self_eq_one_iff.mp (by linarith : q.w * q.w = 1) with positive | negative
  · left
    ext <;> simp [positive, x, y, z]
  · right
    ext <;> simp [negative]

theorem to_matrix_of_still (unit : q.Unit) (still : q.imaginary.norm = 0) : q.toMatrix = 1 := by
  rcases q.one_eq_or_eq_neg unit still with equal | opposite
  · rw [← equal, to_matrix_one]
  · rw [← to_matrix_neg, ← opposite, to_matrix_one]

theorem scaled_axis_neg (nonzero : q.w ≠ 0) : (-q).scaledAxis = q.scaledAxis := by
  have length : (-q).imaginary.norm = q.imaginary.norm := Vec3.norm_neg q.imaginary
  rw [scaled_axis_eq, scaled_axis_eq q, half_angle_neg, length]
  rcases lt_or_gt_of_ne nonzero with negative | positive
  · have upper : 0 ≤ (-q).w := neg_nonneg.mpr negative.le
    rw [if_pos upper, if_neg (not_le.mpr negative)]
    rfl
  · have lower : ¬ 0 ≤ (-q).w := not_le.mpr (neg_neg_of_pos positive)
    rw [if_neg lower, if_pos positive.le]
    ext <;> simp [neg_def, imaginary, Vec3.neg_def]

end Axis

end Quat

end FactorGraph
