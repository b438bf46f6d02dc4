import Mathlib
import FactorGraph.Proofs.Lie.Pose3Log
import FactorGraph.Proofs.Outcome

set_option autoImplicit false

namespace FactorGraph

theorem scalar_beq_iff (a b : ℝ) : (a == b) = true ↔ a = b := decide_eq_true_iff

theorem Vec3.norm_smul_of_nonneg (s : ℝ) (a : Vec3 ℝ) (nonneg : 0 ≤ s) : (s * a).norm = s * a.norm := by
  change Real.sqrt (s * a).normSquared = s * Real.sqrt a.normSquared
  rw [norm_squared_smul, Real.sqrt_mul (sq_nonneg s), Real.sqrt_sq nonneg]

theorem Vec3.smul_smul (s t : ℝ) (a : Vec3 ℝ) : s * (t * a) = (s * t) * a := by
  ext <;> simp only [smul_def] <;> ring

theorem Vec3.one_smul (a : Vec3 ℝ) : (1 : ℝ) * a = a := by
  ext <;> simp [smul_def]

namespace Quat

theorem same_rotation_iff (p q : Quat ℝ) : p.sameRotation q = true ↔ p = q ∨ p = -q := by
  simp only [sameRotation, Bool.or_eq_true, Bool.and_eq_true, scalar_beq_iff, Quat.ext_iff]
  tauto

theorem neg_mul_right (p q : Quat ℝ) : p * -q = -(p * q) := by
  ext <;> simp only [mul_def, neg_def] <;> ring

end Quat

namespace Rotation

def Unit (r : Rotation ℝ) : Prop := r.quat.Unit

theorem laws : GroupOn Unit where
  unit_one := Quat.unit_one
  unit_mul _ _ := Quat.unit_mul _ _
  unit_inv _ := Quat.unit_conjugate _
  one_mul _ _ := Rotation.ext (Quat.one_mul_self _)
  mul_assoc _ _ _ _ _ _ := Rotation.ext (Quat.mul_assoc_self _ _ _)
  inv_mul _ unit := Rotation.ext (Quat.conjugate_mul_self _ unit)

theorem beq_iff (a b : Rotation ℝ) : (a == b) = true ↔ a.quat = b.quat ∨ a.quat = -b.quat :=
  Quat.same_rotation_iff _ _

theorem to_matrix_of_beq (a b : Rotation ℝ) (same : a == b) : a.toMatrix = b.toMatrix := by
  rcases (beq_iff a b).mp same with equal | opposite
  · exact congrArg Quat.toMatrix equal
  · exact (congrArg Quat.toMatrix opposite).trans (Quat.to_matrix_neg _)

theorem mul_beq (r a b : Rotation ℝ) (same : a == b) : r * a == r * b := by
  rw [beq_iff] at same ⊢
  rcases same with equal | opposite
  · exact .inl (congrArg (r.quat * ·) equal)
  · exact .inr ((congrArg (r.quat * ·) opposite).trans (Quat.neg_mul_right _ _))

-- An angle below half a turn which is zero or where the closed forms are used.
structure ClosedForm (angle : ℝ) : Prop where
  still_or_long : angle = 0 ∨ 1e-10 ≤ angle ^ 2
  below : angle < Real.pi

theorem exp_zero : exp (0 : Vec3 ℝ) = 1 := congrArg Pose3.rotation Pose3.exp_zero

theorem log_one : log (1 : Rotation ℝ) = 0 := congrArg Twist3.theta Pose3.log_one

section Long

variable (t : Vec3 ℝ) (long : 1e-10 ≤ t.norm ^ 2)

include long

theorem norm_pos_of_long : 0 < t.norm := by
  refine lt_of_le_of_ne t.norm_nonneg fun zero => ?_
  rw [← zero] at long
  norm_num at long

theorem closed_of_long : ¬ t.normSquared < smallAngleSquared := by
  rw [← Vec3.norm_mul_self, ← sq]
  exact not_lt.mpr long

theorem exp_of_long :
    (exp t).quat = Quat.ofParts (Real.cos (t.norm / 2)) ((Real.sin (t.norm / 2) / t.norm) * t) := by
  have nonzero := (norm_pos_of_long t long).ne'
  have square : t.norm ^ 2 = t.x * t.x + t.y * t.y + t.z * t.z := (sq _).trans (Vec3.norm_mul_self t)
  have half : (t / (2.0 : ℝ)).normSquared = (t.norm / 2) ^ 2 := by
    simp only [Vec3.div_def, Vec3.normSquared, Vec3.dot, literal_two]
    linear_combination -square / 4
  have root : Scalar.sqrt (t / (2.0 : ℝ)).normSquared = t.norm / 2 := by
    rw [half]
    exact Real.sqrt_sq (div_nonneg t.norm_nonneg zero_le_two)
  have turns : Scalar.epsilon < t.normSquared := by
    rw [← Vec3.norm_mul_self, ← sq, epsilon_eq]
    exact lt_of_lt_of_le (by norm_num) long
  have halfTurns : ¬ (t / (2.0 : ℝ)).normSquared ≤ Scalar.epsilon * Scalar.epsilon := by
    rw [half, epsilon_eq, not_le]
    refine lt_of_lt_of_le ?_ (by linarith : (1e-10 : ℝ) / 4 ≤ (t.norm / 2) ^ 2)
    norm_num
  rw [exp, if_pos turns]
  change Quat.ofScaledAxis t = _
  rw [Quat.ofScaledAxis]
  simp only [if_neg halfTurns, root]
  change Quat.ofParts (Real.cos (t.norm / 2)) ((Real.sin (t.norm / 2) / (t.norm / 2)) * (t / (2.0 : ℝ))) = _
  refine congrArg _ ?_
  ext <;> simp only [Vec3.smul_def, Vec3.div_def, literal_two] <;> field_simp

theorem log_exp_of_long (below : t.norm < Real.pi) : log (exp t) = t := by
  have positive := norm_pos_of_long t long
  have quat := exp_of_long t long
  have cosine : 0 < Real.cos (t.norm / 2) := Real.cos_pos_of_mem_Ioo ⟨by linarith [Real.pi_pos], by linarith⟩
  have sine : 0 < Real.sin (t.norm / 2) := Real.sin_pos_of_pos_of_lt_pi (by linarith) (by linarith)
  have axis : (exp t).quat.imaginary = (Real.sin (t.norm / 2) / t.norm) * t := by rw [quat]; rfl
  have real : (exp t).quat.w = Real.cos (t.norm / 2) := by rw [quat]; rfl
  have length : (exp t).quat.imaginary.norm = Real.sin (t.norm / 2) := by
    rw [axis, Vec3.norm_smul_of_nonneg _ _ (div_nonneg sine.le positive.le), div_mul_cancel₀ _ positive.ne']
  have half : (exp t).quat.halfAngle = t.norm / 2 := by
    refine Real.injOn_cos ⟨(exp t).quat.half_angle_nonneg, ?_⟩ ⟨by linarith, by linarith⟩ ?_
    · linarith [(exp t).quat.half_angle_le, Real.pi_pos]
    · rw [((exp t).quat.half_angle_point (unit_exp t)).1, real, abs_of_pos cosine]
  change (exp t).quat.scaledAxis = t
  rw [Quat.scaled_axis_of_nonneg _ (real ▸ cosine.le), half, length, axis, Vec3.smul_smul]
  have one : 2 * (t.norm / 2) / Real.sin (t.norm / 2) * (Real.sin (t.norm / 2) / t.norm) = 1 := by
    field_simp
  rw [one, Vec3.one_smul]

end Long

theorem log_exp (t : Vec3 ℝ) (closed : ClosedForm t.norm) : log (exp t) = t := by
  rcases closed.still_or_long with still | long
  · rw [Vec3.eq_zero_of_norm t still, exp_zero, log_one]
  · exact log_exp_of_long t long closed.below

theorem norm_log (r : Rotation ℝ) : r.log.norm = r.angle := by
  change r.quat.scaledAxis.norm = r.quat.angle
  rw [Quat.angle_eq]
  by_cases still : r.quat.imaginary.norm = 0
  · rw [Quat.scaled_axis_of_still _ still, Quat.half_angle_of_still _ still, mul_zero]
    exact Vec3.norm_zero
  · exact r.quat.scaled_axis_norm still

theorem exp_log_of_long (r : Rotation ℝ) (unit : r.Unit) (long : 1e-10 ≤ r.angle ^ 2) : exp r.log == r := by
  have length : r.log.norm = 2 * r.quat.halfAngle := (norm_log r).trans r.quat.angle_eq
  rw [← norm_log r] at long
  have rises : r.quat.halfAngle ≠ 0 := fun none => by
    have positive := norm_pos_of_long _ long
    rw [length, none, mul_zero] at positive
    exact lt_irrefl 0 positive
  have turns : r.quat.imaginary.norm ≠ 0 := fun still => rises (r.quat.half_angle_of_still still)
  have half : r.log.norm / 2 = r.quat.halfAngle := by
    rw [length]
    exact mul_div_cancel_left₀ _ two_ne_zero
  have one : r.quat.imaginary.norm / (2 * r.quat.halfAngle) * (2 * r.quat.halfAngle / r.quat.imaginary.norm) = 1 := by
    field_simp
  obtain ⟨cosine, sine⟩ := r.quat.half_angle_point unit
  have axis : r.log = (2 * r.quat.halfAngle / r.quat.imaginary.norm) *
      (if 0 ≤ r.quat.w then r.quat.imaginary else -r.quat.imaginary) := r.quat.scaled_axis_eq
  rw [beq_iff, exp_of_long _ long, half, cosine, sine, length, axis, Vec3.smul_smul, one, Vec3.one_smul]
  -- The axis was taken from the representative with the real part `|w|`.
  by_cases upper : 0 ≤ r.quat.w
  · rw [if_pos upper, abs_of_nonneg upper]
    exact .inl rfl
  · rw [if_neg upper, abs_of_neg (not_le.mp upper)]
    exact .inr rfl

theorem exp_log (r : Rotation ℝ) (unit : r.Unit) (closed : ClosedForm r.angle) : exp r.log == r := by
  rcases closed.still_or_long with still | long
  · have axis : r.log = 0 := Vec3.eq_zero_of_norm _ ((norm_log r).trans still)
    have half : r.quat.halfAngle = 0 := by
      have double := r.quat.angle_eq.symm.trans still
      exact (mul_eq_zero.mp double).resolve_left two_ne_zero
    have none : r.quat.imaginary.norm = 0 := by
      rw [← (r.quat.half_angle_point unit).2, half, Real.sin_zero]
    rw [axis, exp_zero, beq_iff]
    exact r.quat.one_eq_or_eq_neg unit none
  · exact exp_log_of_long r unit long

theorem retract_eq (x : Rotation ℝ) (t : Vec3 ℝ) : Manifold.retract x t.toList = .ok (x * exp t) := rfl

theorem local_coordinates_eq (x y : Rotation ℝ) : Manifold.localCoordinates x y = .ok (log (x⁻¹ * y)).toList := rfl

theorem retract_local_coordinates (x y : Rotation ℝ) (first : x.Unit) (second : y.Unit)
    (closed : ClosedForm (x⁻¹ * y).angle) :
    ∃ z, (Manifold.localCoordinates x y >>= Manifold.retract x) = .ok z ∧ z == y := by
  have relative := laws.unit_mul _ _ (laws.unit_inv x first) second
  have same := mul_beq x _ _ (exp_log _ relative closed)
  rw [laws.mul_inv_mul x y first second] at same
  exact ⟨_, by rw [local_coordinates_eq, Outcome.ok_bind, retract_eq], same⟩

theorem local_coordinates_retract (x : Rotation ℝ) (d : Vec3 ℝ) (unit : x.Unit) (closed : ClosedForm d.norm) :
    (Manifold.retract x d.toList >>= Manifold.localCoordinates x) = .ok d.toList := by
  rw [retract_eq, Outcome.ok_bind, local_coordinates_eq, laws.inv_mul_mul x _ unit (unit_exp d), log_exp d closed]

theorem closed_of_parts (r : Rotation ℝ) (unit : r.Unit) (real : r.quat.w ≠ 0)
    (turned : 1e-10 ≤ 4 * r.quat.imaginary.normSquared) : ClosedForm r.angle := by
  have root : 0 ≤ 2 * r.quat.imaginary.norm := mul_nonneg zero_le_two r.quat.imaginary.norm_nonneg
  have long : 1e-10 ≤ r.angle ^ 2 := calc
    1e-10 ≤ 4 * r.quat.imaginary.normSquared := turned
    _ = (2 * r.quat.imaginary.norm) ^ 2 := by rw [← Vec3.norm_mul_self]; ring
    _ ≤ r.angle ^ 2 := pow_le_pow_left₀ root (r.quat.le_angle unit) 2
  exact ⟨.inr long, r.quat.angle_lt_pi unit real⟩

end Rotation

end FactorGraph
