import Mathlib
import FactorGraph.Proofs.Lie.RotationRoundTrip

set_option autoImplicit false

namespace FactorGraph

theorem Vec3.beq_iff (a b : Vec3 ℝ) : (a == b) = true ↔ a = b := by
  change (a.x == b.x && (a.y == b.y && a.z == b.z)) = true ↔ a = b
  simp only [Bool.and_eq_true, scalar_beq_iff, Vec3.ext_iff]

namespace Rotation

-- A rotation vector that has an inverse of its left Jacobian: it is zero, or the closed forms hold and its angle is
-- no multiple of half a turn.
def Regular (t : Vec3 ℝ) : Prop := t.norm = 0 ∨ smallAngleSquared ≤ t.normSquared ∧ Real.sin t.norm ≠ 0

section Jacobian

variable (t y : Vec3 ℝ)

theorem short_zero : (0 : Vec3 ℝ).normSquared < smallAngleSquared := by
  rw [Vec3.norm_squared_zero, smallAngleSquared]
  norm_num

theorem left_jacobian_zero : leftJacobian (0 : Vec3 ℝ) * y = y := by
  rw [left_jacobian_of_short 0 y short_zero, Vec3.series_of_still]

theorem left_jacobian_inverse_zero : leftJacobianInverse (0 : Vec3 ℝ) * y = y := by
  rw [left_jacobian_inverse_of_short 0 y short_zero, Vec3.series_of_still]

section Regular

variable (regular : Regular t)

include regular

theorem jacobian_mul_inverse_of_regular : leftJacobian t * (leftJacobianInverse t * y) = y := by
  rcases regular with still | ⟨long, turns⟩
  · rw [Vec3.eq_zero_of_norm t still, left_jacobian_zero, left_jacobian_inverse_zero]
  · exact left_jacobian_mul_inverse t y (not_lt.mpr long) turns

theorem inverse_mul_jacobian_of_regular : leftJacobianInverse t * (leftJacobian t * y) = y := by
  rcases regular with still | ⟨long, turns⟩
  · rw [Vec3.eq_zero_of_norm t still, left_jacobian_inverse_zero, left_jacobian_zero]
  · exact inverse_mul_left_jacobian t y (not_lt.mpr long) turns

end Regular

theorem sine_of_long (long : 1e-10 ≤ t.norm ^ 2) (below : t.norm < Real.pi) : Real.sin t.norm ≠ 0 :=
  (Real.sin_pos_of_pos_of_lt_pi (norm_pos_of_long t long) below).ne'

variable (closed : ClosedForm t.norm)

include closed

theorem regular_of_closed : Regular t :=
  closed.still_or_long.imp_right fun long => ⟨not_lt.mp (closed_of_long t long), sine_of_long t long closed.below⟩

theorem jacobian_mul_inverse : leftJacobian t * (leftJacobianInverse t * y) = y :=
  jacobian_mul_inverse_of_regular t y (regular_of_closed t closed)

theorem inverse_mul_jacobian : leftJacobianInverse t * (leftJacobian t * y) = y :=
  inverse_mul_jacobian_of_regular t y (regular_of_closed t closed)

end Jacobian

end Rotation

namespace Pose3

theorem beq_iff (a b : Pose3 ℝ) : (a == b) = true ↔ (a.rotation == b.rotation) = true ∧ a.position = b.position := by
  change (a.rotation == b.rotation && a.position == b.position) = true ↔ _
  rw [Bool.and_eq_true, Vec3.beq_iff]

theorem mul_beq (x a b : Pose3 ℝ) (unit : x.Unit) (same : a == b) : x * a == x * b := by
  rw [beq_iff] at same ⊢
  obtain ⟨turned, moved⟩ := same
  rw [mul_eq x a unit, mul_eq x b unit, moved]
  exact ⟨Rotation.mul_beq x.rotation _ _ turned, rfl⟩

theorem unit_exp (t : Twist3 ℝ) : (exp t).Unit := Rotation.unit_exp t.theta

theorem exp_log (p : Pose3 ℝ) (unit : p.Unit) (closed : Rotation.ClosedForm p.rotation.angle) : exp (log p) == p := by
  have angle : Rotation.ClosedForm p.rotation.log.norm := by rwa [Rotation.norm_log]
  rw [beq_iff]
  exact ⟨Rotation.exp_log p.rotation unit closed, Rotation.jacobian_mul_inverse _ p.position angle⟩

theorem log_exp (t : Twist3 ℝ) (closed : Rotation.ClosedForm t.theta.norm) : log (exp t) = t := by
  have angle : (exp t).rotation.log = t.theta := Rotation.log_exp t.theta closed
  refine Twist3.ext ?_ angle
  change Rotation.leftJacobianInverse (exp t).rotation.log * (Rotation.leftJacobian t.theta * t.rho) = t.rho
  rw [angle]
  exact Rotation.inverse_mul_jacobian _ t.rho closed

theorem log_of_still (p : Pose3 ℝ) (still : 1 == p) : log p = ⟨0, 0⟩ := by
  obtain ⟨turned, moved⟩ := (beq_iff 1 p).mp still
  have axis : p.rotation.quat.imaginary.norm = 0 := by
    rw [← Quat.still_one]
    rcases (Rotation.beq_iff 1 p.rotation).mp turned with equal | opposite
    · exact congrArg (·.imaginary.norm) equal.symm
    · exact (Vec3.norm_neg _).symm.trans (congrArg (·.imaginary.norm) opposite.symm)
  refine Twist3.ext ?_ (Quat.scaled_axis_of_still _ axis)
  change Rotation.leftJacobianInverse p.rotation.log * p.position = 0
  rw [← moved]
  exact Mat3.mul_vec_zero _

theorem retract_eq (x : Pose3 ℝ) (t : Twist3 ℝ) : Manifold.retract x t.toList = .ok (x * exp t) := rfl

theorem local_coordinates_eq (x y : Pose3 ℝ) : Manifold.localCoordinates x y = .ok (log (x⁻¹ * y)).toList := rfl

section Relative

variable (x y : Pose3 ℝ) (first : x.Unit) (second : y.Unit) (closed : Rotation.ClosedForm (x⁻¹ * y).rotation.angle)

include first second closed

theorem mul_exp_log : x * exp (log (x⁻¹ * y)) == y := by
  have same := mul_beq x _ _ first (exp_log _ (unit_mul _ _ (unit_inv x first) second) closed)
  rwa [laws.mul_inv_mul x y first second] at same

theorem log_zero_iff : log (x⁻¹ * y) = ⟨0, 0⟩ ↔ x == y := by
  constructor
  · intro none
    have same := mul_exp_log x y first second closed
    rwa [none, exp_zero, laws.mul_one x first] at same
  · intro same
    have relative := mul_beq x⁻¹ _ _ (unit_inv x first) same
    rw [laws.inv_mul x first] at relative
    exact log_of_still _ relative

theorem retract_local_coordinates :
    ∃ z, (Manifold.localCoordinates x y >>= Manifold.retract x) = .ok z ∧ z == y :=
  ⟨_, by rw [local_coordinates_eq, Outcome.ok_bind, retract_eq], mul_exp_log x y first second closed⟩

end Relative

theorem local_coordinates_retract (x : Pose3 ℝ) (d : Twist3 ℝ) (unit : x.Unit) (closed : Rotation.ClosedForm d.theta.norm) :
    (Manifold.retract x d.toList >>= Manifold.localCoordinates x) = .ok d.toList := by
  rw [retract_eq, Outcome.ok_bind, local_coordinates_eq, laws.inv_mul_mul x _ unit (unit_exp d), log_exp d closed]

/-- In closed form and below half a turn, retraction and local coordinates undo each other: a rotation and a pose come back as
the same transformation, a tangent vector as it was. -/
theorem space_retract_undoes_local_coordinates :
    (∀ x y : Rotation ℝ, x.Unit → y.Unit → Rotation.ClosedForm (x⁻¹ * y).angle →
      ∃ z, (Manifold.localCoordinates x y >>= Manifold.retract x) = .ok z ∧ z.toMatrix = y.toMatrix) ∧
    (∀ x y : Pose3 ℝ, x.Unit → y.Unit → Rotation.ClosedForm (x⁻¹ * y).rotation.angle →
      ∃ z, (Manifold.localCoordinates x y >>= Manifold.retract x) = .ok z ∧
        z.rotation.toMatrix = y.rotation.toMatrix ∧ z.position = y.position) ∧
    (∀ (x : Rotation ℝ) (d : Vec3 ℝ), x.Unit → Rotation.ClosedForm d.norm →
      (Manifold.retract x d.toList >>= Manifold.localCoordinates x) = .ok d.toList) ∧
    ∀ (x : Pose3 ℝ) (d : Twist3 ℝ), x.Unit → Rotation.ClosedForm d.theta.norm →
      (Manifold.retract x d.toList >>= Manifold.localCoordinates x) = .ok d.toList := by
  refine ⟨fun x y first second closed => ?_, fun x y first second closed => ?_, Rotation.local_coordinates_retract,
    local_coordinates_retract⟩
  · obtain ⟨z, reached, same⟩ := Rotation.retract_local_coordinates x y first second closed
    exact ⟨z, reached, Rotation.to_matrix_of_beq z y same⟩
  · obtain ⟨z, reached, same⟩ := retract_local_coordinates x y first second closed
    obtain ⟨turned, moved⟩ := (beq_iff z y).mp same
    exact ⟨z, reached, Rotation.to_matrix_of_beq _ _ turned, moved⟩

theorem space_retract_undoes_local_coordinates_negative :
    let x : Pose3 ℝ := ⟨⟨⟨4 / 5, 0, 3 / 5, 0⟩⟩, ⟨1, 2, 3⟩⟩
    let y : Pose3 ℝ := ⟨⟨⟨-(12 / 25), -(16 / 25), -(9 / 25), 12 / 25⟩⟩, ⟨0, 1, 1⟩⟩
    let d : Twist3 ℝ := ⟨⟨1, 0, 2⟩, ⟨1, 2, 2⟩⟩
    (x⁻¹ * y).rotation.quat.w < 0 ∧
      (∃ z, (Manifold.localCoordinates x.rotation y.rotation >>= Manifold.retract x.rotation) = .ok z ∧
        z.toMatrix = y.rotation.toMatrix) ∧
      (∃ z, (Manifold.localCoordinates x y >>= Manifold.retract x) = .ok z ∧
        z.rotation.toMatrix = y.rotation.toMatrix ∧ z.position = y.position) ∧
      (Manifold.retract x.rotation d.theta.toList >>= Manifold.localCoordinates x.rotation) = .ok d.theta.toList ∧
      (Manifold.retract x d.toList >>= Manifold.localCoordinates x) = .ok d.toList := by
  intro x y d
  have first : x.Unit := by
    change (4 / 5 : ℝ) * (4 / 5) + 0 * 0 + 3 / 5 * (3 / 5) + 0 * 0 = 1
    norm_num
  have second : y.Unit := by
    change -(12 / 25 : ℝ) * -(12 / 25) + -(16 / 25) * -(16 / 25) + -(9 / 25) * -(9 / 25) + 12 / 25 * (12 / 25) = 1
    norm_num
  have turn : (x⁻¹ * y).rotation.quat = ⟨-(3 / 5), -(4 / 5), 0, 0⟩ := by
    change x.rotation.quat.conjugate * y.rotation.quat = _
    ext <;> norm_num [x, y, Quat.conjugate, Quat.mul_def]
  have closed : Rotation.ClosedForm (x⁻¹ * y).rotation.angle := by
    refine Rotation.closed_of_parts _ (unit_mul _ _ (unit_inv x first) second) (by rw [turn]; norm_num) ?_
    rw [turn]
    change (1e-10 : ℝ) ≤ 4 * (-(4 / 5) * -(4 / 5) + 0 * 0 + 0 * 0)
    norm_num
  have three : d.theta.norm = 3 := by
    change Real.sqrt (1 * 1 + 2 * 2 + 2 * 2) = 3
    rw [Real.sqrt_eq_iff_mul_self_eq (by norm_num) (by norm_num)]
    norm_num
  have near : Rotation.ClosedForm d.theta.norm := by
    rw [three]
    exact ⟨.inr (by norm_num), Real.pi_gt_three⟩
  obtain ⟨turns, moves, turnsBack, movesBack⟩ := space_retract_undoes_local_coordinates
  exact ⟨by rw [turn]; norm_num, turns _ _ first second closed, moves x y first second closed,
    turnsBack _ d.theta first near, movesBack x d first near⟩

end Pose3

end FactorGraph
