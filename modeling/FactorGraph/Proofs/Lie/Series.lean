import Mathlib
import FactorGraph.Proofs.Lie.Logarithm

set_option autoImplicit false

namespace FactorGraph

namespace Vec3

noncomputable def series (a b : ℝ) (t y : Vec3 ℝ) : Vec3 ℝ := y + a * t.cross y + b * t.cross (t.cross y)

theorem series_eq_mul (a b : ℝ) (t y : Vec3 ℝ) :
    (1 + a * Mat3.skew t + b * Mat3.skew t * Mat3.skew t) * y = series a b t y := by
  rw [Mat3.one_def]
  ext <;> simp only [series, Mat3.skew, Mat3.add_def, Mat3.smul_def, Mat3.mul_def, Mat3.rowMul, Mat3.transpose,
    Mat3.ofColumns, Mat3.mul_vec_def, dot, cross, add_def, smul_def] <;> ring

theorem series_series (a b c d : ℝ) (t y : Vec3 ℝ) :
    series a b t (series c d t y) =
      series (a + c - t.normSquared * (a * d + b * c)) (b + d + a * c - t.normSquared * (b * d)) t y := by
  ext <;> simp only [series, normSquared, dot, cross, add_def, smul_def] <;> ring

theorem series_zero (t y : Vec3 ℝ) : series 0 0 t y = y := by
  ext <;> simp [series, add_def, smul_def]

theorem series_of_still (a b : ℝ) (y : Vec3 ℝ) : series a b 0 y = y := by
  rw [series, zero_cross, zero_cross]
  ext <;> simp [add_def, smul_def]

theorem series_smul (a b g : ℝ) (t y : Vec3 ℝ) : series a b (g * t) y = series (a * g) (b * g ^ 2) t y := by
  ext <;> simp only [series, cross, add_def, smul_def] <;> ring

theorem series_neg (a b : ℝ) (t y : Vec3 ℝ) : series a b (-t) y = series (-a) b t y := by
  ext <;> simp only [series, cross, add_def, smul_def, neg_def] <;> ring

end Vec3

namespace Rotation

variable (t y : Vec3 ℝ)

noncomputable def sinc : ℝ := Real.sin t.norm / t.norm

noncomputable def versed : ℝ := (1 - Real.cos t.norm) / t.normSquared

noncomputable def arc : ℝ := (t.norm - Real.sin t.norm) / (t.normSquared * t.norm)

noncomputable def cotangent : ℝ := 1 / t.normSquared - (1 + Real.cos t.norm) / (2.0 * t.norm * Real.sin t.norm)

theorem cotangent_neg : cotangent (-t) = cotangent t := by
  rw [cotangent, Vec3.norm_squared_neg, Vec3.norm_neg, cotangent]

theorem left_jacobian_of_short (short : t.normSquared < smallAngleSquared) :
    leftJacobian t * y = Vec3.series (0.5 - t.normSquared / 24.0) (1 / 6.0 - t.normSquared / 120.0) t y := by
  rw [← Vec3.series_eq_mul, leftJacobian]
  simp only [jacobianCoefficients, if_pos short]

theorem left_jacobian_of_long (long : ¬ t.normSquared < smallAngleSquared) :
    leftJacobian t * y = Vec3.series (versed t) (arc t) t y := by
  rw [← Vec3.series_eq_mul, leftJacobian]
  simp only [jacobianCoefficients, if_neg long]
  rfl

theorem one_sub_half_skew (c : ℝ) :
    1 - (1 / 2 : ℝ) * Mat3.skew t + c * Mat3.skew t * Mat3.skew t =
      1 + (-(1 / 2) : ℝ) * Mat3.skew t + c * Mat3.skew t * Mat3.skew t := by
  ext <;> simp only [Mat3.add_def, Mat3.sub_def, Mat3.smul_def, Vec3.add_def, Vec3.sub_def, Vec3.smul_def] <;> ring

theorem left_jacobian_inverse_of_short (short : t.normSquared < smallAngleSquared) :
    leftJacobianInverse t * y = Vec3.series (-(1 / 2)) (1 / 12.0 + t.normSquared / 720.0) t y := by
  rw [← Vec3.series_eq_mul, ← one_sub_half_skew, leftJacobianInverse]
  simp only [inverseCoefficient, if_pos short, literal_half]

theorem left_jacobian_inverse_of_long (long : ¬ t.normSquared < smallAngleSquared) :
    leftJacobianInverse t * y = Vec3.series (-(1 / 2)) (cotangent t) t y := by
  rw [← Vec3.series_eq_mul, ← one_sub_half_skew, leftJacobianInverse]
  simp only [inverseCoefficient, if_neg long, literal_half]
  rfl

section Coefficients

variable (φ s c : ℝ) (nonzero : φ ≠ 0) (regular : s ≠ 0)

include nonzero regular

theorem jacobian_inverse_first (circle : s ^ 2 + c ^ 2 = 1) :
    (1 - c) / (φ * φ) + -(1 / 2) -
      φ * φ * ((1 - c) / (φ * φ) * (1 / (φ * φ) - (1 + c) / (2 * φ * s)) + (φ - s) / (φ * φ * φ) * -(1 / 2)) = 0 := by
  field_simp
  linear_combination -φ * circle

theorem jacobian_inverse_second :
    (φ - s) / (φ * φ * φ) + (1 / (φ * φ) - (1 + c) / (2 * φ * s)) + (1 - c) / (φ * φ) * -(1 / 2) -
      φ * φ * ((φ - s) / (φ * φ * φ) * (1 / (φ * φ) - (1 + c) / (2 * φ * s))) = 0 := by
  field_simp
  ring

theorem inverse_jacobian_first (circle : s ^ 2 + c ^ 2 = 1) :
    -(1 / 2) + (1 - c) / (φ * φ) -
      φ * φ * (-(1 / 2) * ((φ - s) / (φ * φ * φ)) + (1 / (φ * φ) - (1 + c) / (2 * φ * s)) * ((1 - c) / (φ * φ))) = 0 := by
  field_simp
  linear_combination -φ * circle

theorem inverse_jacobian_second :
    (1 / (φ * φ) - (1 + c) / (2 * φ * s)) + (φ - s) / (φ * φ * φ) + -(1 / 2) * ((1 - c) / (φ * φ)) -
      φ * φ * ((1 / (φ * φ) - (1 + c) / (2 * φ * s)) * ((φ - s) / (φ * φ * φ))) = 0 := by
  field_simp
  ring

theorem inverse_rotation_first :
    -(1 / 2) + s / φ -
      φ * φ * (-(1 / 2) * ((1 - c) / (φ * φ)) + (1 / (φ * φ) - (1 + c) / (2 * φ * s)) * (s / φ)) = 1 / 2 := by
  field_simp
  ring

theorem inverse_rotation_second (circle : s ^ 2 + c ^ 2 = 1) :
    (1 / (φ * φ) - (1 + c) / (2 * φ * s)) + (1 - c) / (φ * φ) + -(1 / 2) * (s / φ) -
      φ * φ * ((1 / (φ * φ) - (1 + c) / (2 * φ * s)) * ((1 - c) / (φ * φ))) =
    1 / (φ * φ) - (1 + c) / (2 * φ * s) := by
  field_simp
  linear_combination -φ * circle

end Coefficients

section Inverse

variable (long : ¬ t.normSquared < smallAngleSquared) (turns : Real.sin t.norm ≠ 0)

include turns in
theorem norm_ne_zero_of_sin : t.norm ≠ 0 := fun zero => turns (by rw [zero, Real.sin_zero])

include long turns

theorem left_jacobian_mul_inverse : leftJacobian t * (leftJacobianInverse t * y) = y := by
  have nonzero := norm_ne_zero_of_sin t turns
  have circle := Real.sin_sq_add_cos_sq t.norm
  rw [left_jacobian_of_long _ _ long, left_jacobian_inverse_of_long _ _ long, Vec3.series_series,
    versed, arc, cotangent, literal_two, ← Vec3.norm_mul_self t, jacobian_inverse_first _ _ _ nonzero turns circle,
    jacobian_inverse_second _ _ _ nonzero turns, Vec3.series_zero]

theorem inverse_mul_left_jacobian : leftJacobianInverse t * (leftJacobian t * y) = y := by
  have nonzero := norm_ne_zero_of_sin t turns
  have circle := Real.sin_sq_add_cos_sq t.norm
  rw [left_jacobian_of_long _ _ long, left_jacobian_inverse_of_long _ _ long, Vec3.series_series,
    versed, arc, cotangent, literal_two, ← Vec3.norm_mul_self t, inverse_jacobian_first _ _ _ nonzero turns circle,
    inverse_jacobian_second _ _ _ nonzero turns, Vec3.series_zero]

theorem inverse_mul_rotation :
    leftJacobianInverse t * Vec3.series (sinc t) (versed t) t y = leftJacobianInverse (-t) * y := by
  have nonzero := norm_ne_zero_of_sin t turns
  have circle := Real.sin_sq_add_cos_sq t.norm
  have opposite : ¬ (-t).normSquared < smallAngleSquared := by rwa [Vec3.norm_squared_neg]
  rw [left_jacobian_inverse_of_long _ _ long, left_jacobian_inverse_of_long _ _ opposite, Vec3.series_series,
    Vec3.series_neg, cotangent_neg, neg_neg, sinc, versed, cotangent, literal_two, ← Vec3.norm_mul_self t,
    inverse_rotation_first _ _ _ nonzero turns, inverse_rotation_second _ _ _ nonzero turns circle]

end Inverse

end Rotation

namespace Quat

variable (q : Quat ℝ) (unit : q.Unit) (upper : 0 ≤ q.w) (turns : q.imaginary.norm ≠ 0)

include turns in
theorem scaled_axis_norm : q.scaledAxis.norm = 2 * q.halfAngle := by
  change Real.sqrt _ = _
  rw [q.scaled_axis_norm_squared turns]
  exact Real.sqrt_sq (mul_nonneg zero_le_two q.half_angle_nonneg)

include unit upper in
theorem cos_angle : Real.cos (2 * q.halfAngle) = 2 * (q.w * q.w) - 1 := by
  rw [Real.cos_two_mul, (q.half_angle_point unit).1, abs_of_nonneg upper, sq]

include unit upper in
theorem sin_angle : Real.sin (2 * q.halfAngle) = 2 * q.imaginary.norm * q.w := by
  rw [Real.sin_two_mul, (q.half_angle_point unit).1, (q.half_angle_point unit).2, abs_of_nonneg upper]

include unit in
theorem imaginary_norm_squared : q.imaginary.norm * q.imaginary.norm = 1 - q.w * q.w := by
  have squares : q.w * q.w + q.x * q.x + q.y * q.y + q.z * q.z = 1 := unit
  rw [Vec3.norm_mul_self]
  simp only [imaginary, Vec3.normSquared, Vec3.dot]
  linarith

include unit turns in
theorem half_angle_ne_zero : q.halfAngle ≠ 0 := fun zero =>
  turns (by rw [← (q.half_angle_point unit).2, zero, Real.sin_zero])

include unit in
theorem to_matrix_mul_eq_imaginary (y : Vec3 ℝ) : q.toMatrix * y = Vec3.series (2 * q.w) 2 q.imaginary y := by
  rw [← q.rotate_eq_mul unit]
  ext <;> simp only [rotate, imaginary, Vec3.series, Vec3.cross, Vec3.add_def, Vec3.smul_def, literal_two] <;> ring

include unit upper turns in
theorem to_matrix_mul_eq_series (y : Vec3 ℝ) :
    q.toMatrix * y = Vec3.series (Rotation.sinc q.scaledAxis) (Rotation.versed q.scaledAxis) q.scaledAxis y := by
  have length : q.scaledAxis.norm = 2 * q.halfAngle := q.scaled_axis_norm turns
  have rises := q.half_angle_ne_zero unit turns
  have square := q.imaginary_norm_squared unit
  have sine : 2 * q.imaginary.norm * q.w / (2 * q.halfAngle) * (2 * q.halfAngle / q.imaginary.norm) = 2 * q.w := by
    field_simp
  have versed : (1 - (2 * (q.w * q.w) - 1)) / (2 * q.halfAngle * (2 * q.halfAngle)) *
      (2 * q.halfAngle / q.imaginary.norm) ^ 2 = 2 := by
    field_simp
    linear_combination -2 * square
  rw [Rotation.sinc, Rotation.versed, ← Vec3.norm_mul_self, length, q.cos_angle unit upper, q.sin_angle unit upper,
    q.to_matrix_mul_eq_imaginary unit, q.scaled_axis_of_nonneg upper, Vec3.series_smul, sine, versed]

end Quat

end FactorGraph
