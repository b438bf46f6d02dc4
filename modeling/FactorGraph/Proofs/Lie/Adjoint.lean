import Mathlib
import FactorGraph.Proofs.Lie.Coupling
import FactorGraph.Proofs.Lie.Pose2
import FactorGraph.Proofs.Lie.Pose3RoundTrip

set_option autoImplicit false

namespace FactorGraph

-- The left Jacobian at a tangent vector is the right one, carried by the adjoint of the exponential.
def LieGroup.JacobiansAgree (G : Type) {T J : Type} [LieGroup ℝ G T J] (t : T) : Prop :=
  LieGroup.leftJacobian (G := G) t =
    LieGroup.multiply G (LieGroup.adjoint (LieGroup.exp (G := G) t)) (LieGroup.rightJacobian (G := G) t)

theorem Mat3.ext_mul_vec (a b : Mat3 ℝ) (alike : ∀ v : Vec3 ℝ, a * v = b * v) : a = b := by
  have column (v : Vec3 ℝ) := Vec3.ext_iff.mp (alike v)
  simp only [mul_vec_def, Vec3.dot] at column
  have first := column ⟨1, 0, 0⟩
  have second := column ⟨0, 1, 0⟩
  have third := column ⟨0, 0, 1⟩
  simp only [mul_one, mul_zero, add_zero, zero_add] at first second third
  ext
  · exact first.1
  · exact second.1
  · exact third.1
  · exact first.2.1
  · exact second.2.1
  · exact third.2.1
  · exact first.2.2
  · exact second.2.2
  · exact third.2.2

theorem Mat6.eq_triangular_mul (j q r p k u : Mat3 ℝ) (diagonal : ∀ y : Vec3 ℝ, j * y = r * (k * y))
    (corner : ∀ y : Vec3 ℝ, q * y = r * (u * y) + p * (r * (k * y))) :
    (⟨j, q, 0, j⟩ : Mat6 ℝ) = ⟨r, p * r, 0, r⟩ * ⟨k, u, 0, k⟩ := by
  change _ = (⟨r * k + p * r * 0, r * u + p * r * k, 0 * k + r * 0, 0 * u + r * k⟩ : Mat6 ℝ)
  refine Mat6.ext ?_ ?_ ?_ ?_ <;> refine Mat3.ext_mul_vec _ _ fun y => ?_ <;>
    simp only [Mat3.add_mul_vec, Mat3.mul_mul_vec, Mat3.zero_mul_vec, Mat3.mul_vec_zero, Vec3.add_zero, Vec3.zero_add,
      ← diagonal, corner]

namespace Rotation

variable (t y : Vec3 ℝ)

theorem left_jacobian_transpose : (leftJacobian t).transpose = leftJacobian (-t) := by
  unfold leftJacobian
  rw [Vec3.norm_squared_neg]
  generalize jacobianCoefficients t.normSquared = coefficients
  rw [Mat3.one_def]
  ext <;> simp only [Mat3.transpose, Mat3.ofColumns, Mat3.skew, Mat3.add_def, Mat3.smul_def, Mat3.mul_def, Mat3.rowMul,
    Mat3.mul_vec_def, Vec3.dot, Vec3.add_def, Vec3.smul_def, Vec3.neg_def] <;> ring

theorem versed_neg : versed (-t) = versed t := by
  rw [versed, Vec3.norm_squared_neg, Vec3.norm_neg, versed]

theorem arc_neg : arc (-t) = arc t := by
  rw [arc, Vec3.norm_squared_neg, Vec3.norm_neg, arc]

section Coefficients

variable (φ s c : ℝ) (nonzero : φ ≠ 0)

include nonzero

theorem rotated_jacobian_first (circle : s ^ 2 + c ^ 2 = 1) :
    s / φ + -((1 - c) / (φ * φ)) - φ * φ * (s / φ * ((φ - s) / (φ * φ * φ)) + (1 - c) / (φ * φ) * -((1 - c) / (φ * φ))) =
      (1 - c) / (φ * φ) := by
  field_simp
  linear_combination circle

theorem rotated_jacobian_second :
    (1 - c) / (φ * φ) + (φ - s) / (φ * φ * φ) + s / φ * -((1 - c) / (φ * φ)) -
      φ * φ * ((1 - c) / (φ * φ) * ((φ - s) / (φ * φ * φ))) = (φ - s) / (φ * φ * φ) := by
  field_simp
  ring

end Coefficients

section Long

variable (long : ¬ t.normSquared < smallAngleSquared)

include long

theorem norm_pos : 0 < t.norm := by
  refine Real.sqrt_pos.mpr (lt_of_lt_of_le ?_ (not_lt.mp long))
  rw [smallAngleSquared]
  norm_num

theorem exp_mul_eq_series : (exp t).toMatrix * y = Vec3.series (sinc t) (versed t) t y := by
  have turns := norm_pos t long
  have halved : (t / (2.0 : ℝ)) = (1 / 2 : ℝ) * t := by
    ext <;> simp only [Vec3.div_def, Vec3.smul_def, literal_two] <;> ring
  have length : ((1 / 2 : ℝ) * t).norm = t.norm / 2 := by
    rw [Vec3.norm_smul_of_nonneg _ _ (by norm_num)]
    ring
  -- Half the rotation vector is still long enough for the quaternion in closed form.
  have far : ¬ ((1 / 2 : ℝ) * t).normSquared ≤ Scalar.epsilon * Scalar.epsilon := by
    rw [not_le, Vec3.norm_squared_smul, epsilon_eq]
    refine lt_of_lt_of_le ?_ (mul_le_mul_of_nonneg_left (not_lt.mp long) (by norm_num))
    rw [smallAngleSquared]
    norm_num
  have wide : Scalar.epsilon < t.normSquared := by
    refine lt_of_lt_of_le ?_ (not_lt.mp long)
    rw [epsilon_eq, smallAngleSquared]
    norm_num
  have quat : (exp t).quat = Quat.ofParts (Real.cos (t.norm / 2))
      ((Real.sin (t.norm / 2) / (t.norm / 2)) * ((1 / 2 : ℝ) * t)) := by
    rw [exp, if_pos wide, ofScaledAxis, Quat.ofScaledAxis, halved, ← length]
    exact if_neg far
  have imaginary (w : ℝ) (v : Vec3 ℝ) : (Quat.ofParts w v).imaginary = v := rfl
  have real (w : ℝ) (v : Vec3 ℝ) : (Quat.ofParts w v).w = w := rfl
  rw [toMatrix, Quat.to_matrix_mul_eq_imaginary _ (unit_exp t), quat, imaginary, real, Vec3.smul_smul, Vec3.series_smul]
  have sine := Real.sin_two_mul (t.norm / 2)
  have cosine := Real.cos_two_mul (t.norm / 2)
  have circle := Real.sin_sq_add_cos_sq (t.norm / 2)
  rw [mul_div_cancel₀ _ two_ne_zero] at sine cosine
  rw [sinc, versed, ← Vec3.norm_mul_self, sine, cosine]
  congr 1
  · field_simp
  · field_simp
    linear_combination 2 * circle

theorem exp_mul_right_jacobian : (exp t).toMatrix * (leftJacobian (-t) * y) = leftJacobian t * y := by
  have nonzero := (norm_pos t long).ne'
  have circle := Real.sin_sq_add_cos_sq t.norm
  have opposite : ¬ (-t).normSquared < smallAngleSquared := by rwa [Vec3.norm_squared_neg]
  rw [exp_mul_eq_series t _ long, left_jacobian_of_long _ _ opposite, left_jacobian_of_long _ _ long, Vec3.series_neg,
    versed_neg, arc_neg, Vec3.series_series, sinc, versed, arc, ← Vec3.norm_mul_self t,
    rotated_jacobian_first _ _ _ nonzero circle, rotated_jacobian_second _ _ _ nonzero]

end Long

theorem exp_mul_right_jacobian_zero : (exp (0 : Vec3 ℝ)).toMatrix * (leftJacobian (-(0 : Vec3 ℝ)) * y) =
    leftJacobian (0 : Vec3 ℝ) * y := by
  rw [exp_zero, Vec3.neg_zero, left_jacobian_zero]
  exact (congrArg (· * y) Quat.to_matrix_one).trans (Mat3.one_mul_vec y)

theorem exp_carries_jacobian (closed : t.norm = 0 ∨ smallAngleSquared ≤ t.normSquared) :
    (exp t).toMatrix * (leftJacobian (-t) * y) = leftJacobian t * y := by
  rcases closed with still | long
  · rw [Vec3.eq_zero_of_norm t still]
    exact exp_mul_right_jacobian_zero y
  · exact exp_mul_right_jacobian t y (not_lt.mpr long)

theorem jacobians_agree (closed : t.norm = 0 ∨ smallAngleSquared ≤ t.normSquared) :
    LieGroup.JacobiansAgree (Rotation ℝ) t := by
  refine Mat3.ext_mul_vec _ _ fun y => ?_
  change leftJacobian t * y = (exp t).toMatrix * (leftJacobian t).transpose * y
  rw [Mat3.mul_mul_vec, left_jacobian_transpose, exp_carries_jacobian t y closed]

end Rotation

namespace Pose2

variable (t : Twist2 ℝ)

theorem adjoint_exp (a b : ℝ) (coefficients : Twist2.arcCoefficients t.theta = (a, b)) : adjoint (exp t) =
    ⟨⟨Real.cos t.theta, -Real.sin t.theta, b * t.x + a * t.y⟩,
      ⟨Real.sin t.theta, Real.cos t.theta, -(a * t.x - b * t.y)⟩, ⟨0, 0, 1⟩⟩ := by
  have cos : Real.cos (exp t).angle = (exp t).turn.cos := Turn.cos_angle _ (unit_exp t)
  have sin : Real.sin (exp t).angle = (exp t).turn.sin := Turn.sin_angle _ (unit_exp t)
  change (⟨⟨Real.cos (exp t).angle, -Real.sin (exp t).angle, (exp t).position.y⟩,
    ⟨Real.sin (exp t).angle, Real.cos (exp t).angle, -(exp t).position.x⟩, ⟨0, 0, 1⟩⟩ : Mat3 ℝ) = _
  rw [cos, sin, exp_eq t a b coefficients]

theorem bordered_mul (c s p q : ℝ) (m : Mat2 ℝ) (v : Vec2 ℝ) :
    (⟨⟨c, -s, q⟩, ⟨s, c, -p⟩, ⟨0, 0, 1⟩⟩ : Mat3 ℝ) * Twist2.bordered m v =
      Twist2.bordered ⟨⟨c * m.r0.x - s * m.r1.x, c * m.r0.y - s * m.r1.y⟩, ⟨s * m.r0.x + c * m.r1.x, s * m.r0.y + c * m.r1.y⟩⟩
        ⟨c * v.x - s * v.y + q, s * v.x + c * v.y - p⟩ := by
  ext <;> simp only [Twist2.bordered, Mat3.mul_def, Mat3.rowMul, Mat3.transpose, Mat3.ofColumns, Mat3.mul_vec_def,
    Vec3.dot] <;> ring

theorem left_jacobian_eq (a b : ℝ) (coefficients : Twist2.arcCoefficients t.theta = (a, b)) :
    LieGroup.leftJacobian (G := Pose2 ℝ) t = Twist2.bordered ⟨⟨a, -b⟩, ⟨b, a⟩⟩ t.leftColumn := by
  change Twist2.bordered (Twist2.leftArc t.theta) t.leftColumn = _
  rw [Twist2.leftArc, coefficients]

theorem right_jacobian_eq (a b : ℝ) (coefficients : Twist2.arcCoefficients t.theta = (a, b)) :
    LieGroup.rightJacobian (G := Pose2 ℝ) t = Twist2.bordered ⟨⟨a, b⟩, ⟨-b, a⟩⟩ t.rightColumn := by
  change Twist2.bordered (Twist2.rightArc t.theta) t.rightColumn = _
  rw [Twist2.rightArc, coefficients]

theorem jacobians_agree_of_columns (a b : ℝ) (coefficients : Twist2.arcCoefficients t.theta = (a, b))
    (arc : (⟨⟨a, -b⟩, ⟨b, a⟩⟩ : Mat2 ℝ) =
      ⟨⟨Real.cos t.theta * a - Real.sin t.theta * -b, Real.cos t.theta * b - Real.sin t.theta * a⟩,
        ⟨Real.sin t.theta * a + Real.cos t.theta * -b, Real.sin t.theta * b + Real.cos t.theta * a⟩⟩)
    (column : t.leftColumn =
      ⟨Real.cos t.theta * t.rightColumn.x - Real.sin t.theta * t.rightColumn.y + (b * t.x + a * t.y),
        Real.sin t.theta * t.rightColumn.x + Real.cos t.theta * t.rightColumn.y - (a * t.x - b * t.y)⟩) :
    LieGroup.JacobiansAgree (Pose2 ℝ) t := by
  rw [LieGroup.JacobiansAgree, left_jacobian_eq t a b coefficients, right_jacobian_eq t a b coefficients]
  change _ = adjoint (exp t) * _
  rw [adjoint_exp t a b coefficients, bordered_mul, ← arc, ← column]

theorem jacobians_agree_still (still : t.theta = 0) : LieGroup.JacobiansAgree (Pose2 ℝ) t := by
  have small : |t.theta| < Twist2.smallAngle := by
    rw [still, abs_zero]
    exact small_angle_pos
  have coefficients : Twist2.arcCoefficients t.theta = (1, 0) := by
    rw [arc_coefficients_of_small t.theta small, still]
    simp
  have left : t.leftColumn = ⟨t.y / 2, -t.x / 2⟩ := by
    rw [Twist2.leftColumn, scalar_abs_eq, if_pos small, still, literal_two]
    simp
  have right : t.rightColumn = ⟨-t.y / 2, t.x / 2⟩ := by
    rw [Twist2.rightColumn, scalar_abs_eq, if_pos small, still, literal_two]
    simp
  refine jacobians_agree_of_columns t 1 0 coefficients ?_ ?_
  · rw [still, Real.cos_zero, Real.sin_zero]
    ext <;> simp
  · rw [left, right, still, Real.cos_zero, Real.sin_zero]
    ext <;> simp only <;> ring

theorem jacobians_agree_turning (long : Twist2.smallAngle ≤ |t.theta|) : LieGroup.JacobiansAgree (Pose2 ℝ) t := by
  have nonzero : t.theta ≠ 0 := abs_pos.mp (small_angle_pos.trans_le long)
  have circle := Real.sin_sq_add_cos_sq t.theta
  have left : t.leftColumn =
      ⟨(t.theta * t.x + t.y - t.y * Real.cos t.theta - t.x * Real.sin t.theta) / (t.theta * t.theta),
        (-t.x + t.theta * t.y + t.x * Real.cos t.theta - t.y * Real.sin t.theta) / (t.theta * t.theta)⟩ := by
    rw [Twist2.leftColumn, scalar_abs_eq, if_neg (not_lt.mpr long)]
    rfl
  have right : t.rightColumn =
      ⟨(t.theta * t.x - t.y + t.y * Real.cos t.theta - t.x * Real.sin t.theta) / (t.theta * t.theta),
        (t.x + t.theta * t.y - t.x * Real.cos t.theta - t.y * Real.sin t.theta) / (t.theta * t.theta)⟩ := by
    rw [Twist2.rightColumn, scalar_abs_eq, if_neg (not_lt.mpr long)]
    rfl
  refine jacobians_agree_of_columns t _ _ (arc_coefficients_of_large t.theta (not_lt.mpr long)) ?_ ?_
  · ext <;> field_simp
    · ring
    · linear_combination circle
    · linear_combination -circle
    · ring
  · rw [left, right]
    ext <;> field_simp
    · linear_combination -t.y * circle
    · linear_combination t.x * circle

theorem jacobians_agree (closed : t.theta = 0 ∨ Twist2.smallAngle ≤ |t.theta|) :
    LieGroup.JacobiansAgree (Pose2 ℝ) t :=
  closed.elim (jacobians_agree_still t) (jacobians_agree_turning t)

end Pose2

namespace Vec3

theorem cross_series (a b : ℝ) (t r y : Vec3 ℝ) : (series a b t r).cross (series a b t y) =
    mixed ((1 - b * t.normSquared) ^ 2 + a ^ 2 * t.normSquared) 0 a (a ^ 2 - b + b ^ 2 * t.normSquared) 0 0 r t y := by
  ext <;> simp only [series, mixed, normSquared, dot, cross, add_def, smul_def] <;> ring

theorem mixed_add (r' rt tr ttr t' tt s' st ts tts u' uu : ℝ) (r t y : Vec3 ℝ) :
    mixed r' rt tr ttr t' tt r t y + mixed s' st ts tts u' uu r t y =
      mixed (r' + s') (rt + st) (tr + ts) (ttr + tts) (t' + u') (tt + uu) r t y := by
  ext <;> simp only [mixed, cross, add_def, smul_def] <;> ring

theorem neg_neg_self (a : Vec3 ℝ) : -(-a) = a := by
  ext <;> simp only [neg_def, neg_neg]

theorem neg_dot_neg (a b : Vec3 ℝ) : (-a).dot (-b) = a.dot b := by
  simp only [dot, neg_def, neg_mul_neg]

theorem mixed_neg (r' rt tr t' tt : ℝ) (r t y : Vec3 ℝ) :
    mixed r' rt tr 0 t' tt (-r) (-t) y = mixed (-r') rt tr 0 (-t') tt r t y := by
  ext <;> simp only [mixed, cross, add_def, smul_def, neg_def] <;> ring

end Vec3

namespace Twist3

section Coefficients

variable (φ s c : ℝ) (nonzero : φ ≠ 0)

include nonzero

theorem shifted_coupling_third :
    -2 * ((φ - s) / (φ * φ * φ)) - φ * φ * ((3 * s - 2 * φ - φ * c) / (φ * φ * (φ * φ) * φ)) + (1 - c) / (φ * φ) =
      (φ - s) / (φ * φ * φ) := by
  field_simp
  ring

theorem shifted_coupling_fifth (σ : ℝ) : (φ * s - 2 * (1 - c)) / (φ * φ * (φ * φ)) * σ =
    -(σ * ((φ - s) / (φ * φ * φ) - 2 * ((φ * φ + 2 * c - 2) / (2 * (φ * φ * (φ * φ)))))) := by
  field_simp
  ring

theorem shifted_coupling_sixth (σ : ℝ) : (3 * s - 2 * φ - φ * c) / (φ * φ * (φ * φ) * φ) * σ =
    -2 * ((2 * φ - 3 * s + φ * c) / (2 * (φ * φ * (φ * φ)) * φ)) * σ := by
  field_simp
  ring

variable (circle : s ^ 2 + c ^ 2 = 1)

include circle

theorem shifted_coupling_first :
    -((1 - c) / (φ * φ)) + ((1 - (φ - s) / (φ * φ * φ) * (φ * φ)) ^ 2 + ((1 - c) / (φ * φ)) ^ 2 * (φ * φ)) =
      -((φ * φ + 2 * c - 2) / (2 * (φ * φ * (φ * φ))) * (φ * φ) - 1 / 2) := by
  field_simp
  linear_combination 2 * circle

theorem shifted_coupling_fourth :
    (φ * s - 2 * (1 - c)) / (φ * φ * (φ * φ)) +
      (((1 - c) / (φ * φ)) ^ 2 - (φ - s) / (φ * φ * φ) + ((φ - s) / (φ * φ * φ)) ^ 2 * (φ * φ)) = 0 := by
  field_simp
  linear_combination circle

end Coefficients

section Long

variable (r t y : Vec3 ℝ) (long : ¬ t.normSquared < 1e-4)

include long

theorem coupling_forward : couplingBlock r t * y =
    Vec3.mixed (-((t.normSquared + 2 * Real.cos t.norm - 2) / (2 * (t.normSquared * t.normSquared)) * t.normSquared - 1 / 2))
      (Rotation.arc t) (Rotation.arc t) 0
      (-(t.dot r * (Rotation.arc t -
        2 * ((t.normSquared + 2 * Real.cos t.norm - 2) / (2 * (t.normSquared * t.normSquared))))))
      (-2 * ((2 * t.norm - 3 * Real.sin t.norm + t.norm * Real.cos t.norm) /
        (2 * (t.normSquared * t.normSquared) * t.norm)) * t.dot r) r t y := by
  have opposite : ¬ (-t).normSquared < 1e-4 := by rwa [Vec3.norm_squared_neg]
  have block := coupling_of_long (-r) (-t) y opposite
  rwa [Vec3.neg_neg_self, Vec3.neg_neg_self, Vec3.norm_squared_neg, Vec3.norm_neg, Rotation.arc_neg, Vec3.neg_dot_neg,
    Vec3.mixed_neg] at block

theorem coupling_eq_opposite (nonzero : t.norm ≠ 0) : couplingBlock r t * y =
    Vec3.series (Rotation.sinc t) (Rotation.versed t) t (couplingBlock (-r) (-t) * y) +
      (Vec3.series (Rotation.versed t) (Rotation.arc t) t r).cross
        (Vec3.series (Rotation.versed t) (Rotation.arc t) t y) := by
  have circle := Real.sin_sq_add_cos_sq t.norm
  rw [coupling_forward r t y long, rotation_mul_coupling r t y long nonzero, Vec3.series_change_eq_mixed,
    Vec3.cross_series, Vec3.mixed_add, Rotation.versed, Rotation.arc, versedRate, arcRate, literal_two, literal_three,
    ← Vec3.norm_mul_self, shifted_coupling_first _ _ _ nonzero circle, shifted_coupling_third _ _ _ nonzero,
    shifted_coupling_fourth _ _ _ nonzero circle, add_zero, add_zero, add_zero, shifted_coupling_fifth _ _ _ nonzero,
    shifted_coupling_sixth _ _ _ nonzero]

end Long

theorem coupling_of_still (r y : Vec3 ℝ) : couplingBlock r 0 * y = (1 / 2 : ℝ) * r.cross y := by
  unfold couplingBlock
  generalize couplingCoefficients (0 : Vec3 ℝ).normSquared = coefficients
  rw [literal_half]
  ext <;> simp [Mat3.skew, Mat3.add_def, Mat3.sub_def, Mat3.smul_def, Mat3.mul_def, Mat3.rowMul, Mat3.transpose,
    Mat3.ofColumns, Mat3.mul_vec_def, Vec3.dot, Vec3.cross, Vec3.add_def, Vec3.sub_def, Vec3.smul_def] <;> ring

end Twist3

namespace Pose3

variable (t : Twist3 ℝ)

theorem small_angle_squared_le : (Rotation.smallAngleSquared : ℝ) ≤ 1e-4 := by
  rw [Rotation.smallAngleSquared]
  norm_num

theorem coupling_carried (y : Vec3 ℝ) (closed : t.theta.norm = 0 ∨ 1e-4 ≤ t.theta.normSquared) :
    Twist3.couplingBlock t.rho t.theta * y =
      (Rotation.exp t.theta).toMatrix * (Twist3.couplingBlock (-t.rho) (-t.theta) * y) +
        (Rotation.leftJacobian t.theta * t.rho).cross (Rotation.leftJacobian t.theta * y) := by
  rcases closed with still | long
  · rw [Vec3.eq_zero_of_norm _ still, Vec3.neg_zero, Rotation.exp_zero, Rotation.left_jacobian_zero,
      Rotation.left_jacobian_zero, Twist3.coupling_of_still, Twist3.coupling_of_still]
    refine Eq.trans ?_ (congrArg (· + t.rho.cross y) ((congrArg (· * _) Quat.to_matrix_one).trans (Mat3.one_mul_vec _))).symm
    ext <;> simp only [Vec3.cross, Vec3.add_def, Vec3.smul_def, Vec3.neg_def] <;> ring
  · have far := not_lt.mpr (small_angle_squared_le.trans long)
    rw [Rotation.exp_mul_eq_series _ _ far, Rotation.left_jacobian_of_long _ _ far, Rotation.left_jacobian_of_long _ _ far]
    exact Twist3.coupling_eq_opposite t.rho t.theta y (not_lt.mpr long) (Rotation.norm_pos t.theta far).ne'

theorem jacobians_agree (closed : t.theta.norm = 0 ∨ 1e-4 ≤ t.theta.normSquared) :
    LieGroup.JacobiansAgree (Pose3 ℝ) t := by
  have turned : t.theta.norm = 0 ∨ Rotation.smallAngleSquared ≤ t.theta.normSquared :=
    closed.imp_right small_angle_squared_le.trans
  have carried := Rotation.exp_carries_jacobian t.theta
  refine Mat6.eq_triangular_mul _ _ _ _ _ _ (fun y => (carried y turned).symm) fun y => ?_
  rw [coupling_carried t y closed, ← carried y turned, ← Mat3.skew_mul_vec]
  rfl

end Pose3

/-- Where the closed forms hold, and where nothing turns, the adjoint of the exponential carries the right Jacobian to the
left one: for rotations of space, and for poses of the plane and of space. -/
theorem adjoint_exp_carries_right_jacobian :
    (∀ t : Vec3 ℝ, t.norm = 0 ∨ 1e-10 ≤ t.normSquared → LieGroup.JacobiansAgree (Rotation ℝ) t) ∧
    (∀ t : Twist2 ℝ, t.theta = 0 ∨ 1e-4 ≤ |t.theta| → LieGroup.JacobiansAgree (Pose2 ℝ) t) ∧
    ∀ t : Twist3 ℝ, t.theta.norm = 0 ∨ 1e-4 ≤ t.theta.normSquared → LieGroup.JacobiansAgree (Pose3 ℝ) t :=
  ⟨Rotation.jacobians_agree, Pose2.jacobians_agree, Pose3.jacobians_agree⟩

theorem adjoint_exp_carries_right_jacobian_turning :
    LieGroup.JacobiansAgree (Rotation ℝ) ⟨1, 2, 2⟩ ∧
    LieGroup.JacobiansAgree (Pose2 ℝ) ⟨3, -1, -2⟩ ∧ LieGroup.JacobiansAgree (Pose2 ℝ) ⟨3, -1, 0⟩ ∧
    LieGroup.JacobiansAgree (Pose3 ℝ) ⟨⟨1, 0, 2⟩, ⟨1, 2, 2⟩⟩ ∧ LieGroup.JacobiansAgree (Pose3 ℝ) ⟨⟨1, 0, 2⟩, 0⟩ := by
  have nine : (⟨1, 2, 2⟩ : Vec3 ℝ).normSquared = 9 := by
    norm_num [Vec3.normSquared, Vec3.dot]
  have still : (0 : Vec3 ℝ).norm = 0 := (congrArg Real.sqrt Vec3.norm_squared_zero).trans Real.sqrt_zero
  obtain ⟨rotation, plane, space⟩ := adjoint_exp_carries_right_jacobian
  exact ⟨rotation _ (.inr (by rw [nine]; norm_num)), plane _ (.inr (by norm_num)), plane _ (.inl rfl),
    space _ (.inr (by rw [nine]; norm_num)), space _ (.inl still)⟩

end FactorGraph
