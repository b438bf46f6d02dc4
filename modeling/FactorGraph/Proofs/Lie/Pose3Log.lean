import Mathlib
import FactorGraph.Proofs.Lie.Coupling

set_option autoImplicit false

open Filter Topology

namespace FactorGraph

variable {E : Type} [NormedAddCommGroup E] [NormedSpace ℝ E]

namespace Quat

noncomputable def turning (q : Quat ℝ) (ω : Vec3 ℝ) : Quat ℝ := q * ofParts 0 (ω / (2.0 : ℝ))

theorem turning_real (q : Quat ℝ) (ω : Vec3 ℝ) : (q.turning ω).w = -(q.imaginary.dot ω) / 2 := by
  simp only [turning, literal_two, mul_def, ofParts, imaginary, Vec3.div_def, Vec3.dot]
  ring

theorem turning_imaginary (q : Quat ℝ) (ω : Vec3 ℝ) :
    (q.turning ω).imaginary = (1 / 2 : ℝ) * (q.w * ω + q.imaginary.cross ω) := by
  ext <;> simp only [turning, literal_two, mul_def, ofParts, imaginary, Vec3.div_def, Vec3.cross, Vec3.smul_def, Vec3.add_def] <;> ring

theorem right_inverse_eq_series (q : Quat ℝ) (unit : q.Unit) (upper : 0 < q.w) (turns : q.imaginary.norm ≠ 0)
    (long : ¬ q.scaledAxis.normSquared < Rotation.smallAngleSquared) (y : Vec3 ℝ) :
    Rotation.leftJacobianInverse (-q.scaledAxis) * y =
      Vec3.series (q.halfAngle / q.imaginary.norm)
        ((1 - q.halfAngle * q.w / q.imaginary.norm) / (q.imaginary.norm * q.imaginary.norm)) q.imaginary y := by
  have opposite : ¬ (-q.scaledAxis).normSquared < Rotation.smallAngleSquared := by rwa [Vec3.norm_squared_neg]
  have rises := q.half_angle_ne_zero unit turns
  have real := upper.ne'
  rw [Rotation.left_jacobian_inverse_of_long _ _ opposite, Vec3.series_neg, Rotation.cotangent_neg, Rotation.cotangent,
    literal_two, ← Vec3.norm_mul_self, q.scaled_axis_norm turns, q.cos_angle unit upper.le, q.sin_angle unit upper.le,
    q.scaled_axis_of_nonneg upper.le, Vec3.series_smul]
  refine congrArg₂ (Vec3.series · · q.imaginary y) ?_ ?_
  · ring
  · field_simp
    ring

section Turning

variable {p : E → Quat ℝ} {ω : E → Vec3 ℝ} (moves : QuatMoves p fun v => (p 0).turning (ω v)) (unit : (p 0).Unit)
  (upper : 0 < (p 0).w) (turns : (p 0).imaginary.norm ≠ 0)

include moves upper in
theorem upper_near : ∀ᶠ v in 𝓝 0, 0 < (p v).w := moves.w.continuous.eventually_const_lt upper

include moves turns in
theorem axis_moves :
    Moves (fun v => (p v).imaginary.norm)
      fun v => (p 0).w * (p 0).imaginary.dot (ω v) / (2 * (p 0).imaginary.norm) :=
  (moves.imaginary.norm turns).congr_slope fun v => by
    rw [turning_imaginary]
    simp only [Vec3.dot, Vec3.smul_def, Vec3.add_def, Vec3.cross]
    field_simp
    ring

include moves unit upper turns in
theorem half_angle_moves :
    Moves (fun v => (p v).halfAngle) fun v => (p 0).imaginary.dot (ω v) / (2 * (p 0).imaginary.norm) := by
  have square := (p 0).imaginary_norm_squared unit
  have near : (fun v => (p v).halfAngle) =ᶠ[𝓝 0] fun v => Complex.arg ⟨(p v).w, (p v).imaginary.norm⟩ := by
    filter_upwards [upper_near moves upper] with v positive
    rw [halfAngle, abs_of_pos positive]
  refine ((moves.w.arg (axis_moves moves turns) upper).congr_near near).congr_slope fun v => ?_
  have circle : (p 0).w * (p 0).w + (p 0).imaginary.norm * (p 0).imaginary.norm = 1 := by
    linear_combination square
  rw [turning_real, circle]
  field_simp
  linear_combination (p 0).imaginary.dot (ω v) * circle

include moves unit upper turns in
theorem scaled_axis_moves (long : ¬ (p 0).scaledAxis.normSquared < Rotation.smallAngleSquared) :
    Vec3Moves (fun v => (p v).scaledAxis) fun v => Rotation.leftJacobianInverse (-(p 0).scaledAxis) * ω v := by
  have near : (fun v => (p v).scaledAxis) =ᶠ[𝓝 0]
      fun v => (2 * (p v).halfAngle / (p v).imaginary.norm) * (p v).imaginary := by
    filter_upwards [upper_near moves upper] with v positive
    exact (p v).scaled_axis_of_nonneg positive.le
  have ratio := ((half_angle_moves moves unit upper turns).const_mul 2).div (axis_moves moves turns) turns
  refine ((Vec3Moves.smul ratio moves.imaginary).congr_near near).congr_slope fun v => ?_
  have square : (p 0).imaginary.norm * (p 0).imaginary.norm = (p 0).imaginary.dot (p 0).imaginary :=
    Vec3.norm_mul_self _
  rw [right_inverse_eq_series _ unit upper turns long, turning_imaginary]
  generalize (p 0).halfAngle = h
  generalize (p 0).imaginary.norm = n at *
  ext <;> simp only [Vec3.series, Vec3.cross, Vec3.dot, Vec3.add_def, Vec3.smul_def] at square ⊢ <;> field_simp
  · linear_combination (h * (p 0).w - n) * (ω v).x * square
  · linear_combination (h * (p 0).w - n) * (ω v).y * square
  · linear_combination (h * (p 0).w - n) * (ω v).z * square

end Turning

end Quat

section Series

variable {t dt : E → Vec3 ℝ} (moves : Vec3Moves t dt) (nonzero : (t 0).norm ≠ 0)

include moves nonzero

theorem Vec3Moves.versed :
    Moves (fun v => Rotation.versed (t v)) fun v => Twist3.versedRate (t 0) * (t 0).dot (dt v) := by
  have square := Vec3.norm_mul_self (t 0)
  have positive : (t 0).normSquared ≠ 0 := by
    rw [← square]
    exact mul_ne_zero nonzero nonzero
  have cosine := (moves.norm nonzero).comp Real.cos _ (Real.hasDerivAt_cos _)
  refine (((Moves.const 1).sub cosine).div moves.norm_squared positive).congr_slope fun v => ?_
  rw [Twist3.versedRate, literal_two, ← square]
  field_simp
  ring

theorem Vec3Moves.arc : Moves (fun v => Rotation.arc (t v)) fun v => Twist3.arcRate (t 0) * (t 0).dot (dt v) := by
  have square := Vec3.norm_mul_self (t 0)
  have positive : (t 0).normSquared ≠ 0 := by
    rw [← square]
    exact mul_ne_zero nonzero nonzero
  have norm := moves.norm nonzero
  have sine := norm.comp Real.sin _ (Real.hasDerivAt_sin _)
  refine ((norm.sub sine).div (moves.norm_squared.mul norm) (mul_ne_zero positive nonzero)).congr_slope fun v => ?_
  rw [Twist3.arcRate, literal_two, literal_three, ← square]
  field_simp
  ring

theorem Vec3Moves.cotangent (turns : Real.sin (t 0).norm ≠ 0) :
    ∃ rate, Moves (fun v => Rotation.cotangent (t v)) rate := by
  have positive : (t 0).normSquared ≠ 0 := by
    rw [← Vec3.norm_mul_self (t 0)]
    exact mul_ne_zero nonzero nonzero
  have norm := moves.norm nonzero
  have sine := norm.comp Real.sin _ (Real.hasDerivAt_sin _)
  have cosine := norm.comp Real.cos _ (Real.hasDerivAt_cos _)
  have double : (2.0 : ℝ) * (t 0).norm ≠ 0 := mul_ne_zero (by norm_num) nonzero
  exact ⟨_, ((Moves.const 1).div moves.norm_squared positive).sub (((Moves.const 1).add cosine).div
    ((norm.const_mul 2.0).mul sine) (mul_ne_zero double turns))⟩

end Series

theorem Vec3Moves.inverse_jacobian {t dt s ds : E → Vec3 ℝ} (turn : Vec3Moves t dt) (moves : Vec3Moves s ds)
    (long : Rotation.smallAngleSquared < (t 0).normSquared) (turns : Real.sin (t 0).norm ≠ 0) :
    ∃ rate, Vec3Moves (fun v => Rotation.leftJacobianInverse (t v) * s v) rate ∧ ∀ v,
      Rotation.leftJacobian (t 0) * rate v =
        ds v - Vec3.seriesChange (Rotation.versed (t 0)) (Rotation.arc (t 0))
          (Twist3.versedRate (t 0) * (t 0).dot (dt v)) (Twist3.arcRate (t 0) * (t 0).dot (dt v)) (t 0) (dt v)
          (Rotation.leftJacobianInverse (t 0) * s 0) := by
  -- The left Jacobian times the inverse is the vector itself, and stays so. That determines the slope.
  have nonzero := Rotation.norm_ne_zero_of_sin _ turns
  have longer : ∀ᶠ v in 𝓝 0, ¬ (t v).normSquared < Rotation.smallAngleSquared := by
    filter_upwards [turn.norm_squared.continuous.eventually_const_lt long] with v above
    exact not_lt.mpr above.le
  have sines : ∀ᶠ v in 𝓝 0, Real.sin (t v).norm ≠ 0 :=
    ((turn.norm nonzero).comp Real.sin _ (Real.hasDerivAt_sin _)).continuous.eventually_ne turns
  obtain ⟨_, cotangent⟩ := turn.cotangent nonzero turns
  have near : (fun v => Rotation.leftJacobianInverse (t v) * s v) =ᶠ[𝓝 0]
      fun v => Vec3.series (-(1 / 2)) (Rotation.cotangent (t v)) (t v) (s v) := by
    filter_upwards [longer] with v above
    exact Rotation.left_jacobian_inverse_of_long _ _ above
  obtain ⟨rate, explicit⟩ : ∃ rate, Vec3Moves (fun v => Rotation.leftJacobianInverse (t v) * s v) rate :=
    ⟨_, (Vec3Moves.series (Moves.const (-(1 / 2))) cotangent turn moves).congr_near near⟩
  have same : s =ᶠ[𝓝 0] fun v => Vec3.series (Rotation.versed (t v)) (Rotation.arc (t v)) (t v)
      (Rotation.leftJacobianInverse (t v) * s v) := by
    filter_upwards [longer, sines] with v above regular
    rw [← Rotation.left_jacobian_of_long _ _ above, Rotation.left_jacobian_mul_inverse _ _ above regular]
  have implicit := (Vec3Moves.series (turn.versed nonzero) (turn.arc nonzero) turn explicit).congr_near same
  refine ⟨rate, explicit, fun v => ?_⟩
  rw [moves.unique implicit v, Rotation.left_jacobian_of_long _ _ (not_lt.mpr long.le)]
  exact (Vec3.add_sub_self _ _).symm

namespace Quat

theorem turns_of_angle (q : Quat ℝ) (positive : 0 < q.angle) : q.imaginary.norm ≠ 0 := fun still => by
  rw [angle_eq, q.half_angle_of_still still, mul_zero] at positive
  exact lt_irrefl 0 positive

theorem real_of_angle (q : Quat ℝ) (unit : q.Unit) (below : q.angle < Real.pi) : q.w ≠ 0 := fun zero => by
  have half : q.halfAngle < Real.pi / 2 := by
    rw [angle_eq] at below
    linarith
  have positive := Real.cos_pos_of_mem_Ioo ⟨(neg_neg_of_pos Real.pi_div_two_pos).trans_le q.half_angle_nonneg, half⟩
  rw [(q.half_angle_point unit).1, zero, abs_zero] at positive
  exact lt_irrefl 0 positive

theorem angle_lt_pi (q : Quat ℝ) (unit : q.Unit) (real : q.w ≠ 0) : q.angle < Real.pi := by
  have right : q.halfAngle ≠ Real.pi / 2 := fun straight => by
    have cosine := (q.half_angle_point unit).1
    rw [straight, Real.cos_pi_div_two] at cosine
    exact real (abs_eq_zero.mp cosine.symm)
  rw [angle_eq]
  linarith [lt_of_le_of_ne q.half_angle_le right]

theorem le_angle (q : Quat ℝ) (unit : q.Unit) : 2 * q.imaginary.norm ≤ q.angle := by
  rw [angle_eq, ← (q.half_angle_point unit).2]
  linarith [Real.sin_le q.half_angle_nonneg]

end Quat

namespace Pose3

structure Regular (e : Pose3 ℝ) : Prop where
  far : 1e-2 < e.rotation.angle
  below : e.rotation.angle < Real.pi

theorem regular_of_parts (e : Pose3 ℝ) (unit : e.Unit) (real : e.rotation.quat.w ≠ 0)
    (turned : 1e-2 < 2 * e.rotation.quat.imaginary.norm) : e.Regular :=
  ⟨turned.trans_le (e.rotation.quat.le_angle unit), e.rotation.quat.angle_lt_pi unit real⟩

namespace Regular

variable {h : Pose3 ℝ} (regular : h.Regular)

include regular

theorem turns : h.rotation.quat.imaginary.norm ≠ 0 := Quat.turns_of_angle _ (lt_trans (by norm_num) regular.far)

theorem coupled : (1e-4 : ℝ) < h.rotation.log.normSquared := by
  have square : h.rotation.log.normSquared = h.rotation.angle ^ 2 := by
    change h.rotation.quat.scaledAxis.normSquared = h.rotation.quat.angle ^ 2
    rw [Quat.scaled_axis_norm_squared _ regular.turns, Quat.angle_eq]
  rw [square]
  nlinarith [regular.far]

theorem long : Rotation.smallAngleSquared < h.rotation.log.normSquared := by
  refine lt_trans ?_ regular.coupled
  rw [Rotation.smallAngleSquared]
  norm_num

theorem sine (unit : h.Unit) (upper : 0 < h.rotation.quat.w) : Real.sin h.rotation.log.norm ≠ 0 := by
  change Real.sin h.rotation.quat.scaledAxis.norm ≠ 0
  rw [Quat.scaled_axis_norm _ regular.turns, Quat.sin_angle _ unit upper.le]
  exact mul_ne_zero (mul_ne_zero two_ne_zero regular.turns) upper.ne'

end Regular

section Velocity

variable {k : E → Pose3 ℝ} {twist : E → Twist3 ℝ} (velocity : Velocity k twist) (h : Pose3 ℝ) (unit : h.Unit)

include velocity unit

theorem moved_start : h * k 0 = h := by
  rw [velocity.start]
  exact laws.mul_one h unit

theorem moved_position :
    Vec3Moves (fun v => (h * k v).position) fun v => h.rotation.quat.toMatrix * (twist v).rho :=
  (((velocity.position.mul_vec h.rotation.quat.toMatrix).add (.const h.position)).congr_near
    (.of_forall fun v => congrArg Pose3.position (mul_eq h (k v) unit))).congr_slope fun _ => Vec3.add_zero _

theorem moved_rotation :
    QuatMoves (fun v => (h * k v).rotation.quat) fun v => (h * k 0).rotation.quat.turning (twist v).theta :=
  (velocity.rotation.const_mul h.rotation.quat).congr_slope fun v => by
    rw [moved_start velocity h unit, Quat.turning, literal_two]

section Upper

variable (regular : h.Regular) (upper : 0 < h.rotation.quat.w)

include regular upper

theorem log_theta_moves :
    Vec3Moves (fun v => (log (h * k v)).theta) fun v =>
      Rotation.leftJacobianInverse (-h.rotation.log) * (twist v).theta := by
  have moves := Quat.scaled_axis_moves (moved_rotation velocity h unit)
  simp only [moved_start velocity h unit] at moves
  exact moves unit upper regular.turns (not_lt.mpr regular.long.le)

theorem log_rho_moves :
    Vec3Moves (fun v => (log (h * k v)).rho) fun v =>
      Rotation.leftJacobianInverse (-h.rotation.log) * (twist v).rho -
        Rotation.leftJacobianInverse (-h.rotation.log) * (Twist3.couplingBlock (-(log h).rho) (-h.rotation.log) *
          (Rotation.leftJacobianInverse (-h.rotation.log) * (twist v).theta)) := by
  -- The rotation carries the coupling block to the change of the left Jacobian, so the left Jacobian of the slope is
  -- a rotated vector as a whole.
  have start := moved_start velocity h unit
  have sine := regular.sine unit upper
  have long := not_lt.mpr regular.long.le
  obtain ⟨rate, moves, slope⟩ := (log_theta_moves velocity h unit regular upper).inverse_jacobian
    (moved_position velocity h unit) (by simp only [start]; exact regular.long) (by simp only [start]; exact sine)
  simp only [start] at slope
  refine moves.congr_slope fun v => ?_
  have carried : h.rotation.quat.toMatrix * (twist v).rho =
      Vec3.series (Rotation.sinc h.rotation.log) (Rotation.versed h.rotation.log) h.rotation.log (twist v).rho :=
    Quat.to_matrix_mul_eq_series _ unit upper.le regular.turns _
  have pushed : Rotation.leftJacobian h.rotation.log * rate v =
      Vec3.series (Rotation.sinc h.rotation.log) (Rotation.versed h.rotation.log) h.rotation.log (twist v).rho -
        Vec3.series (Rotation.sinc h.rotation.log) (Rotation.versed h.rotation.log) h.rotation.log
          (Twist3.couplingBlock (-(log h).rho) (-h.rotation.log) *
            (Rotation.leftJacobianInverse (-h.rotation.log) * (twist v).theta)) := by
    rw [Twist3.rotation_mul_coupling _ _ _ (not_lt.mpr regular.coupled.le) (Rotation.norm_ne_zero_of_sin _ sine), ← carried]
    exact slope v
  rw [← Rotation.inverse_mul_left_jacobian _ (rate v) long sine, pushed, Mat3.mul_vec_sub,
    Rotation.inverse_mul_rotation _ _ long sine, Rotation.inverse_mul_rotation _ _ long sine]

end Upper

end Velocity

noncomputable def opposite (p : Pose3 ℝ) : Pose3 ℝ := ⟨⟨-p.rotation.quat⟩, p.position⟩

theorem unit_opposite (p : Pose3 ℝ) (unit : p.Unit) : p.opposite.Unit := Quat.unit_neg _ unit

theorem opposite_mul (p k : Pose3 ℝ) (unit : p.Unit) : p.opposite * k = (p * k).opposite := by
  rw [mul_eq _ _ (unit_opposite p unit), mul_eq p k unit]
  refine Pose3.ext (Rotation.ext ?_) ?_
  · change -p.rotation.quat * k.rotation.quat = -(p.rotation.quat * k.rotation.quat)
    ext <;> simp only [Quat.neg_def, Quat.mul_def] <;> ring
  · change (-p.rotation.quat).toMatrix * k.position + p.position = p.rotation.quat.toMatrix * k.position + p.position
    rw [Quat.to_matrix_neg]

theorem log_opposite (p : Pose3 ℝ) (nonzero : p.rotation.quat.w ≠ 0) : log p.opposite = log p := by
  have same : p.opposite.rotation.log = p.rotation.log := Quat.scaled_axis_neg _ nonzero
  simp only [log, same]
  rfl

theorem regular_opposite (p : Pose3 ℝ) (regular : p.Regular) : p.opposite.Regular := by
  have same : p.opposite.rotation.angle = p.rotation.angle := by
    change (-p.rotation.quat).angle = p.rotation.quat.angle
    rw [Quat.angle_eq, Quat.half_angle_neg, Quat.angle_eq]
  exact ⟨same ▸ regular.far, same ▸ regular.below⟩

theorem log_moves {k : E → Pose3 ℝ} {twist : E → Twist3 ℝ} (velocity : Velocity k twist) (h : Pose3 ℝ) (unit : h.Unit)
    (regular : h.Regular) :
    Twist3Moves (fun v => log (h * k v)) fun v => (Twist3.leftJacobianInverse (-log h)).mulTwist (twist v) := by
  wlog upper : 0 < h.rotation.quat.w generalizing h with other
  · have nonzero := Quat.real_of_angle _ unit regular.below
    have turned : 0 < h.opposite.rotation.quat.w := neg_pos.mpr (lt_of_le_of_ne (not_lt.mp upper) nonzero)
    have start : (h * k 0).rotation.quat.w ≠ 0 := by rwa [moved_start velocity h unit]
    have near : (fun v => log (h * k v)) =ᶠ[𝓝 0] fun v => log (h.opposite * k v) := by
      filter_upwards [(moved_rotation velocity h unit).w.continuous.eventually_ne start] with v regular
      rw [opposite_mul h _ unit, log_opposite _ regular]
    exact ((other h.opposite (unit_opposite h unit) (regular_opposite h regular) turned).congr_near near).congr_slope
      fun _ => by rw [log_opposite h nonzero]
  refine ⟨(log_rho_moves velocity h unit regular upper).congr_slope fun v => ?_,
    (log_theta_moves velocity h unit regular upper).congr_slope fun v => ?_⟩
  · change _ = Rotation.leftJacobianInverse (-h.rotation.log) * (twist v).rho +
      -Rotation.leftJacobianInverse (-h.rotation.log) * Twist3.couplingBlock (-(log h).rho) (-h.rotation.log) *
        Rotation.leftJacobianInverse (-h.rotation.log) * (twist v).theta
    rw [Mat3.mul_mul_vec, Mat3.mul_mul_vec, Mat3.neg_mul_vec, Vec3.add_neg_eq_sub]
  · change _ = (0 : Mat3 ℝ) * (twist v).rho + Rotation.leftJacobianInverse (-h.rotation.log) * (twist v).theta
    rw [Mat3.zero_mul_vec, Vec3.zero_add]

section Errors

variable {t : E → Twist3 ℝ} (coordinates : Twist3Moves t t)

include coordinates

theorem prior_moves (given x : Pose3 ℝ) (first : given.Unit) (second : x.Unit) (regular : (given⁻¹ * x).Regular) :
    Twist3Moves (fun v => log (given⁻¹ * (x * exp (t v)))) fun v =>
      (Twist3.leftJacobianInverse (-log (given⁻¹ * x))).mulTwist (t v) := by
  have velocity := velocity_exp t coordinates
  have moves := log_moves velocity _ (unit_mul _ _ (unit_inv _ first) second) regular
  refine moves.congr_near (.of_forall fun v => congrArg log ?_)
  exact (laws.mul_assoc _ _ _ (unit_inv _ first) second (velocity.unit v)).symm

variable (z a b : Pose3 ℝ) (measured : z.Unit) (first : a.Unit) (second : b.Unit)
  (regular : (z⁻¹ * (a⁻¹ * b)).Regular)

include measured first second regular

theorem between_second_moves :
    Twist3Moves (fun v => log (z⁻¹ * (a⁻¹ * (b * exp (t v))))) fun v =>
      (Twist3.leftJacobianInverse (-log (z⁻¹ * (a⁻¹ * b)))).mulTwist (t v) := by
  have velocity := velocity_exp t coordinates
  have relative := unit_mul _ _ (unit_inv _ first) second
  have moves := log_moves velocity _ (unit_mul _ _ (unit_inv _ measured) relative) regular
  refine moves.congr_near (.of_forall fun v => congrArg log ?_)
  exact laws.between_second _ _ _ _ measured first second (velocity.unit v)

theorem between_first_moves :
    Twist3Moves (fun v => log (z⁻¹ * ((a * exp (t v))⁻¹ * b))) fun v =>
      (-(Twist3.leftJacobianInverse (-log (z⁻¹ * (a⁻¹ * b))) * adjoint (a⁻¹ * b)⁻¹)).mulTwist (t v) := by
  have velocity := velocity_exp t coordinates
  have relative := unit_mul _ _ (unit_inv _ first) second
  have moves := log_moves (velocity_frame (velocity_inv velocity) _ relative) _
    (unit_mul _ _ (unit_inv _ measured) relative) regular
  refine (moves.congr_near (.of_forall fun v => congrArg log ?_)).congr_slope fun v => ?_
  · exact laws.between_first _ _ _ _ measured first second (velocity.unit v)
  · rw [Mat6.neg_mul_twist, Mat6.mul_mul_twist, Mat6.mul_twist_neg, Mat6.mul_twist_neg]

end Errors

end Pose3

end FactorGraph
