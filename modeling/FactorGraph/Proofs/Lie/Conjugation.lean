import Mathlib
import FactorGraph.Proofs.Lie.Adjoint

set_option autoImplicit false

namespace FactorGraph

-- Conjugated with `x`, the exponential of `t` is that of the tangent vector with the coordinates that the adjoint of
-- `x` makes of those of `t`.
def LieGroup.Conjugates (G : Type) {T J : Type} [LieGroup ℝ G T J] (x : G) (t : T) : Prop :=
  ∃ carried, ofCoordinates? (G := G) ((toBlock (G := G) (adjoint x)).mulVec (coordinates (G := G) t)) = some carried ∧
    x * exp t * x⁻¹ = exp carried

theorem Mat3.mul_vec_smul (m : Mat3 ℝ) (s : ℝ) (v : Vec3 ℝ) : m * (s * v) = s * (m * v) := by
  ext <;> simp only [mul_vec_def, Vec3.dot, Vec3.smul_def] <;> ring

theorem Vec3.series_cross (a b : ℝ) (t y : Vec3 ℝ) :
    series a b t (y.cross t) = y - series (1 - b * t.normSquared) a t y := by
  ext <;> simp only [series, normSquared, dot, cross, add_def, sub_def, smul_def] <;> ring

namespace Quat

variable (q : Quat ℝ) (unit : q.Unit)

include unit

theorem mul_parts_conjugate (w : ℝ) (v : Vec3 ℝ) : q * ofParts w v * q.conjugate = ofParts w (q.toMatrix * v) := by
  have squares : q.w * q.w + q.x * q.x + q.y * q.y + q.z * q.z = 1 := unit
  ext <;> simp only [ofParts, conjugate, mul_def, toMatrix, Mat3.mul_vec_def, Vec3.dot, literal_two]
  · linear_combination w * squares
  all_goals ring

theorem norm_squared_mul (v : Vec3 ℝ) : (q.toMatrix * v).normSquared = v.normSquared := by
  have homogeneous : (q.toMatrix * v).normSquared =
      (q.w * q.w + q.x * q.x + q.y * q.y + q.z * q.z) ^ 2 * v.normSquared := by
    simp only [toMatrix, Vec3.normSquared, Mat3.mul_vec_def, Vec3.dot, literal_two]
    ring
  rw [homogeneous, unit, one_pow, one_mul]

theorem to_matrix_mul_series (a b : ℝ) (t y : Vec3 ℝ) :
    q.toMatrix * Vec3.series a b t y = Vec3.series a b (q.toMatrix * t) (q.toMatrix * y) := by
  simp only [Vec3.series, Mat3.mul_vec_add, Mat3.mul_vec_smul, q.to_matrix_mul_cross unit]

end Quat

namespace Rotation

theorem exp_by_length : ∃ real factor : ℝ → ℝ, ∀ t : Vec3 ℝ,
    (exp t).quat = Quat.ofParts (real t.normSquared) (factor t.normSquared * t) := by
  refine ⟨fun n => if Scalar.epsilon < n then
      if n / 4 ≤ Scalar.epsilon * Scalar.epsilon then 1 else Real.cos (Real.sqrt (n / 4)) else 1 / Real.sqrt (n / 4 + 1),
    fun n => if Scalar.epsilon < n then
      if n / 4 ≤ Scalar.epsilon * Scalar.epsilon then 0 else Real.sin (Real.sqrt (n / 4)) / Real.sqrt (n / 4) / 2
      else 1 / 2 / Real.sqrt (n / 4 + 1), fun t => ?_⟩
  have half : (t / (2.0 : ℝ)).normSquared = t.normSquared / 4 := by
    simp only [Vec3.normSquared, Vec3.dot, Vec3.div_def, literal_two]
    ring
  by_cases long : Scalar.epsilon < t.normSquared
  · simp only [exp, if_pos long, ofScaledAxis, Quat.ofScaledAxis, half]
    by_cases tiny : t.normSquared / 4 ≤ Scalar.epsilon * Scalar.epsilon
    · simp only [if_pos tiny]
      ext <;> simp [Quat.ofParts, Quat.one_def, Vec3.smul_def]
    · simp only [if_neg tiny]
      refine congrArg (Quat.ofParts _) ?_
      ext <;> simp only [Vec3.smul_def, Vec3.div_def, literal_two] <;> exact (mul_div_left_comm _ _ _).trans (mul_comm _ _)
  · have norm : Quat.norm ⟨1, t.x / 2, t.y / 2, t.z / 2⟩ = Real.sqrt (t.normSquared / 4 + 1) := by
      refine congrArg Real.sqrt ?_
      simp only [Vec3.normSquared, Vec3.dot]
      ring
    simp only [exp, if_neg long, literal_two, Quat.normalize, norm]
    ext <;> simp only [Quat.ofParts, Vec3.smul_def] <;> ring

theorem left_jacobian_by_length : ∃ first second : ℝ → ℝ, ∀ t y : Vec3 ℝ,
    leftJacobian t * y = Vec3.series (first t.normSquared) (second t.normSquared) t y := by
  refine ⟨fun n => (if n < smallAngleSquared then (0.5 - n / 24.0, 1 / 6.0 - n / 120.0) else
    ((1 - Real.cos (Real.sqrt n)) / n, (Real.sqrt n - Real.sin (Real.sqrt n)) / (n * Real.sqrt n)) : ℝ × ℝ).1,
    fun n => (if n < smallAngleSquared then (0.5 - n / 24.0, 1 / 6.0 - n / 120.0) else
    ((1 - Real.cos (Real.sqrt n)) / n, (Real.sqrt n - Real.sin (Real.sqrt n)) / (n * Real.sqrt n)) : ℝ × ℝ).2, fun t y => ?_⟩
  rw [← Vec3.series_eq_mul]
  rfl

section Carried

variable (r : Rotation ℝ) (unit : r.Unit) (t y : Vec3 ℝ)

include unit

theorem conjugate_exp : r * exp t * r⁻¹ = exp (r.toMatrix * t) := by
  obtain ⟨real, factor, form⟩ := exp_by_length
  refine Rotation.ext ?_
  change r.quat * (exp t).quat * r.quat.conjugate = (exp (r.quat.toMatrix * t)).quat
  rw [form, form, r.quat.mul_parts_conjugate unit, r.quat.norm_squared_mul unit, Mat3.mul_vec_smul]

theorem conjugates : LieGroup.Conjugates (Rotation ℝ) r t :=
  ⟨r.toMatrix * t, congrArg Vec3.ofList? (r.toMatrix.to_block_mul_vec t), conjugate_exp r unit t⟩

theorem left_jacobian_carried : leftJacobian (r.toMatrix * t) * (r.toMatrix * y) = r.toMatrix * (leftJacobian t * y) := by
  obtain ⟨first, second, form⟩ := left_jacobian_by_length
  rw [form, form, toMatrix, r.quat.to_matrix_mul_series unit, r.quat.norm_squared_mul unit]

end Carried

theorem left_jacobian_mul_cross (t p : Vec3 ℝ) (closed : t.norm = 0 ∨ smallAngleSquared ≤ t.normSquared) :
    leftJacobian t * p.cross t = p - (exp t).toMatrix * p := by
  rcases closed with still | far
  · have none : (1 : Rotation ℝ).toMatrix = 1 := Quat.to_matrix_one
    rw [Vec3.eq_zero_of_norm t still, exp_zero, Vec3.cross_zero, Mat3.mul_vec_zero, none, Mat3.one_mul_vec,
      ← Vec3.add_neg_eq_sub, Vec3.add_neg_self]
  · have long := not_lt.mpr far
    have nonzero := (norm_pos t long).ne'
    have sinc : 1 - arc t * t.normSquared = sinc t := by
      rw [arc, Rotation.sinc, ← Vec3.norm_mul_self]
      field_simp
      ring
    rw [exp_mul_eq_series t p long, left_jacobian_of_long t _ long, Vec3.series_cross, sinc]

end Rotation

namespace Pose3

theorem adjoint_mul_twist (p : Pose3 ℝ) (t : Twist3 ℝ) : (adjoint p).mulTwist t =
    ⟨p.rotation.toMatrix * t.rho + p.position.cross (p.rotation.toMatrix * t.theta), p.rotation.toMatrix * t.theta⟩ := by
  refine Twist3.ext ?_ ?_
  · change p.rotation.toMatrix * t.rho + Mat3.skew p.position * p.rotation.toMatrix * t.theta = _
    rw [Mat3.mul_mul_vec, Mat3.skew_mul_vec]
  · change (0 : Mat3 ℝ) * t.rho + p.rotation.toMatrix * t.theta = _
    rw [Mat3.zero_mul_vec, Vec3.zero_add]

theorem conjugate_exp (p : Pose3 ℝ) (unit : p.Unit) (t : Twist3 ℝ)
    (closed : t.theta.norm = 0 ∨ Rotation.smallAngleSquared ≤ t.theta.normSquared) :
    p * exp t * p⁻¹ = exp ((adjoint p).mulTwist t) := by
  have turned := Rotation.conjugate_exp p.rotation unit t.theta
  have far : (p.rotation.toMatrix * t.theta).norm = 0 ∨
      Rotation.smallAngleSquared ≤ (p.rotation.toMatrix * t.theta).normSquared := by
    have length : (p.rotation.toMatrix * t.theta).normSquared = t.theta.normSquared :=
      p.rotation.quat.norm_squared_mul unit t.theta
    have same : (p.rotation.toMatrix * t.theta).norm = t.theta.norm := congrArg Real.sqrt length
    rwa [length, same]
  have matrix : (p.rotation.quat * (Rotation.exp t.theta).quat).toMatrix * p.rotation.quat.conjugate.toMatrix =
      (Rotation.exp (p.rotation.toMatrix * t.theta)).toMatrix :=
    (Quat.to_matrix_mul _ _).symm.trans (congrArg Rotation.toMatrix turned)
  have arm := Rotation.left_jacobian_mul_cross _ p.position far
  rw [adjoint_mul_twist]
  refine Pose3.ext turned ?_
  rw [mul_eq _ _ (unit_mul p _ unit (unit_exp t)), mul_eq _ _ unit, inv_eq p unit]
  change (p.rotation.quat * (Rotation.exp t.theta).quat).toMatrix *
      -(p.rotation.quat.conjugate.toMatrix * p.position) +
      (p.rotation.toMatrix * (Rotation.leftJacobian t.theta * t.rho) + p.position) =
    Rotation.leftJacobian (p.rotation.toMatrix * t.theta) *
      (p.rotation.toMatrix * t.rho + p.position.cross (p.rotation.toMatrix * t.theta))
  rw [Mat3.mul_vec_add, Rotation.left_jacobian_carried p.rotation unit, arm, Mat3.mul_vec_neg, ← Mat3.mul_mul_vec, matrix]
  ext <;> simp only [Vec3.add_def, Vec3.sub_def, Vec3.neg_def] <;> ring

theorem conjugates (p : Pose3 ℝ) (unit : p.Unit) (t : Twist3 ℝ)
    (closed : t.theta.norm = 0 ∨ Rotation.smallAngleSquared ≤ t.theta.normSquared) :
    LieGroup.Conjugates (Pose3 ℝ) p t :=
  ⟨(adjoint p).mulTwist t, congrArg Twist3.ofList? ((adjoint p).to_block_mul_vec t), conjugate_exp p unit t closed⟩

end Pose3

namespace Pose2

theorem arc_mul_angle (θ a b : ℝ) (closed : θ = 0 ∨ Twist2.smallAngle ≤ |θ|)
    (coefficients : Twist2.arcCoefficients θ = (a, b)) : θ * a = Real.sin θ ∧ θ * b = 1 - Real.cos θ := by
  rcases closed with still | long
  · rw [still, Real.sin_zero, Real.cos_zero]
    simp
  · have nonzero : θ ≠ 0 := abs_pos.mp (small_angle_pos.trans_le long)
    rw [arc_coefficients_of_large θ (not_lt.mpr long)] at coefficients
    obtain ⟨rfl, rfl⟩ := Prod.mk.inj coefficients
    exact ⟨mul_div_cancel₀ _ nonzero, mul_div_cancel₀ _ nonzero⟩

variable (p : Pose2 ℝ) (unit : p.Unit) (t : Twist2 ℝ)

include unit

theorem adjoint_mul_triple : adjoint p * t.triple =
    ⟨p.turn.cos * t.x - p.turn.sin * t.y + p.position.y * t.theta,
      p.turn.sin * t.x + p.turn.cos * t.y - p.position.x * t.theta, t.theta⟩ := by
  have cos : Real.cos p.angle = p.turn.cos := Turn.cos_angle _ unit
  have sin : Real.sin p.angle = p.turn.sin := Turn.sin_angle _ unit
  change (⟨⟨Real.cos p.angle, -Real.sin p.angle, p.position.y⟩, ⟨Real.sin p.angle, Real.cos p.angle, -p.position.x⟩,
    ⟨0, 0, 1⟩⟩ : Mat3 ℝ) * t.triple = _
  rw [cos, sin]
  ext <;> simp only [Mat3.mul_vec_def, Vec3.dot, Twist2.triple] <;> ring

theorem conjugate_exp (closed : t.theta = 0 ∨ Twist2.smallAngle ≤ |t.theta|) : p * exp t * p⁻¹ =
    exp ⟨p.turn.cos * t.x - p.turn.sin * t.y + p.position.y * t.theta,
      p.turn.sin * t.x + p.turn.cos * t.y - p.position.x * t.theta, t.theta⟩ := by
  generalize coefficients : Twist2.arcCoefficients t.theta = arc
  obtain ⟨a, b⟩ := arc
  obtain ⟨sine, versed⟩ := arc_mul_angle t.theta a b closed coefficients
  have circle : p.turn.cos * p.turn.cos + p.turn.sin * p.turn.sin = 1 := unit
  rw [exp_eq t a b coefficients]
  refine Eq.trans ?_ (exp_eq _ a b (by exact coefficients)).symm
  ext <;> simp only [mul_def, inv_def]
  case position.x =>
    linear_combination (-Real.cos t.theta * p.position.x + Real.sin t.theta * p.position.y) * circle -
      p.position.y * sine - p.position.x * versed
  case position.y =>
    linear_combination (-Real.sin t.theta * p.position.x - Real.cos t.theta * p.position.y) * circle +
      p.position.x * sine - p.position.y * versed
  case turn.cos => linear_combination Real.cos t.theta * circle
  case turn.sin => linear_combination Real.sin t.theta * circle

theorem conjugates (closed : t.theta = 0 ∨ Twist2.smallAngle ≤ |t.theta|) : LieGroup.Conjugates (Pose2 ℝ) p t := by
  refine ⟨_, ?_, conjugate_exp p unit t closed⟩
  have product := (adjoint p).to_block_mul_vec t.triple
  rw [adjoint_mul_triple p unit t] at product
  exact congrArg Twist2.ofList? product

end Pose2

/-- Conjugation carries the exponential of a tangent vector to that of its image under the adjoint: for every rotation of
space and every vector, and for every pose of the plane and of space where nothing turns or the closed forms hold. -/
theorem adjoint_conjugates_exp :
    (∀ (r : Rotation ℝ) (t : Vec3 ℝ), r.Unit → LieGroup.Conjugates (Rotation ℝ) r t) ∧
    (∀ (p : Pose2 ℝ) (t : Twist2 ℝ), p.Unit → |t.theta| = 0 ∨ 1e-4 ≤ |t.theta| → LieGroup.Conjugates (Pose2 ℝ) p t) ∧
    ∀ (p : Pose3 ℝ) (t : Twist3 ℝ), p.Unit → t.theta.normSquared = 0 ∨ 1e-10 ≤ t.theta.normSquared →
      LieGroup.Conjugates (Pose3 ℝ) p t := by
  refine ⟨fun r t unit => Rotation.conjugates r unit t, fun p t unit closed => ?_, fun p t unit closed => ?_⟩
  · exact Pose2.conjugates p unit t (closed.imp_left abs_eq_zero.mp)
  · exact Pose3.conjugates p unit t (closed.imp_left fun none => (congrArg Real.sqrt none).trans Real.sqrt_zero)

theorem adjoint_conjugates_exp_moved :
    let p : Pose2 ℝ := ⟨⟨1, 2⟩, ⟨3 / 5, 4 / 5⟩⟩
    let q : Pose3 ℝ := ⟨⟨⟨4 / 5, 0, 3 / 5, 0⟩⟩, ⟨1, 2, 3⟩⟩
    LieGroup.Conjugates (Rotation ℝ) q.rotation ⟨1, 2, 2⟩ ∧ LieGroup.Conjugates (Rotation ℝ) q.rotation ⟨1e-9, 0, 0⟩ ∧
    LieGroup.Conjugates (Pose2 ℝ) p ⟨3, -1, -2⟩ ∧ LieGroup.Conjugates (Pose2 ℝ) p ⟨3, -1, 0⟩ ∧
    LieGroup.Conjugates (Pose3 ℝ) q ⟨⟨1, 0, 2⟩, ⟨1, 2, 2⟩⟩ ∧ LieGroup.Conjugates (Pose3 ℝ) q ⟨⟨1, 0, 2⟩, 0⟩ := by
  intro p q
  have plane : p.Unit := by
    change (3 / 5 : ℝ) * (3 / 5) + 4 / 5 * (4 / 5) = 1
    norm_num
  have space : q.Unit := by
    change (4 / 5 : ℝ) * (4 / 5) + 0 * 0 + 3 / 5 * (3 / 5) + 0 * 0 = 1
    norm_num
  have nine : (⟨1, 2, 2⟩ : Vec3 ℝ).normSquared = 9 := by
    norm_num [Vec3.normSquared, Vec3.dot]
  obtain ⟨rotations, poses, spatial⟩ := adjoint_conjugates_exp
  exact ⟨rotations _ _ space, rotations _ _ space, poses p _ plane (.inr (by norm_num)), poses p _ plane (.inl abs_zero),
    spatial q _ space (.inr (by rw [nine]; norm_num)), spatial q _ space (.inl Vec3.norm_squared_zero)⟩

end FactorGraph
