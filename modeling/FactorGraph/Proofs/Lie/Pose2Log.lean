import Mathlib
import FactorGraph.Proofs.Lie.Pose2

set_option autoImplicit false

open Filter Topology

namespace FactorGraph.Pose2

variable {E : Type} [NormedAddCommGroup E] [NormedSpace ℝ E]

structure Regular (e : Pose2 ℝ) : Prop where
  far : 1e-4 < |e.angle|
  below : |e.angle| < Real.pi

theorem Regular.turns {e : Pose2 ℝ} (regular : e.Regular) : 1 - Real.cos e.angle ≠ 0 := fun still => by
  have pi := Real.pi_pos
  have none : e.angle = 0 := (Real.cos_eq_one_iff_of_lt_of_lt (by linarith [neg_lt_of_abs_lt regular.below])
    (by linarith [lt_of_abs_lt regular.below])).mp (sub_eq_zero.mp still).symm
  have far := regular.far
  rw [none, abs_zero] at far
  norm_num at far

noncomputable abbrev rightJacobianInverse (t : Twist2 ℝ) : Mat3 ℝ := Twist2.borderedInverse (Twist2.rightArc t.theta) t.rightColumn

noncomputable def cotangent (θ : ℝ) : ℝ := Real.sin θ / (1 - Real.cos θ)

section Closed

variable (θ : ℝ) (large : ¬ |θ| < Twist2.smallAngle) (turns : 1 - Real.cos θ ≠ 0)

include turns in
theorem angle_ne_zero : θ ≠ 0 := fun zero => turns (by rw [zero, Real.cos_zero, sub_self])

include turns in
theorem arc_determinant :
    Real.sin θ / θ * (Real.sin θ / θ) + (1 - Real.cos θ) / θ * ((1 - Real.cos θ) / θ) = 2 * (1 - Real.cos θ) / (θ * θ) := by
  have nonzero := angle_ne_zero θ turns
  field_simp
  linear_combination Real.sin_sq_add_cos_sq θ

include turns in
theorem cotangent_mul_cos : cotangent θ * Real.cos θ + Real.sin θ = cotangent θ := by
  rw [cotangent]
  field_simp
  ring

include turns in
theorem cotangent_mul_sin : cotangent θ * Real.sin θ - Real.cos θ = 1 := by
  rw [cotangent]
  field_simp
  linear_combination Real.sin_sq_add_cos_sq θ

include large turns

theorem log_eq (p : Pose2 ℝ) (angle : p.angle = θ) :
    log p = ⟨θ / 2 * (cotangent θ * p.position.x + p.position.y), θ / 2 * (cotangent θ * p.position.y - p.position.x), θ⟩ := by
  have nonzero := angle_ne_zero θ turns
  rw [log, angle, arc_coefficients_of_large θ large]
  dsimp only
  rw [arc_determinant θ turns, cotangent]
  ext
  · field_simp
  · field_simp
    ring
  · rfl

theorem right_column_log (p : Pose2 ℝ) (angle : p.angle = θ) :
    (log p).rightColumn =
      ⟨(cotangent θ * p.position.x + p.position.y) / 2 -
          (Real.cos θ * p.position.x + Real.sin θ * p.position.y) / θ,
        (cotangent θ * p.position.y - p.position.x) / 2 +
          (Real.sin θ * p.position.x - Real.cos θ * p.position.y) / θ⟩ := by
  have nonzero := angle_ne_zero θ turns
  have circle := Real.sin_sq_add_cos_sq θ
  rw [log_eq θ large turns p angle, Twist2.rightColumn, scalar_abs_eq, if_neg large]
  change (⟨_ / (θ * θ), _ / (θ * θ)⟩ : Vec2 ℝ) = _
  rw [cotangent]
  ext <;> simp only [Scalar.sin, Scalar.cos] <;> field_simp
  · linear_combination -p.position.x * circle
  · linear_combination -p.position.y * circle

theorem inverse_jacobian_mul (w : Vec2 ℝ) (t : Vec3 ℝ) :
    Twist2.borderedInverse (Twist2.rightArc θ) w * t =
      ⟨θ / 2 * (cotangent θ * (t.x - w.x * t.z) - (t.y - w.y * t.z)),
        θ / 2 * ((t.x - w.x * t.z) + cotangent θ * (t.y - w.y * t.z)), t.z⟩ := by
  have nonzero := angle_ne_zero θ turns
  have arc : Twist2.rightArc θ =
      ⟨⟨Real.sin θ / θ, (1 - Real.cos θ) / θ⟩, ⟨-((1 - Real.cos θ) / θ), Real.sin θ / θ⟩⟩ := by
    rw [Twist2.rightArc, arc_coefficients_of_large θ large]
  have determinant : Real.sin θ / θ * (Real.sin θ / θ) - (1 - Real.cos θ) / θ * -((1 - Real.cos θ) / θ) =
      2 * (1 - Real.cos θ) / (θ * θ) := by
    rw [← arc_determinant θ turns]
    ring
  rw [arc, Twist2.borderedInverse]
  dsimp only
  rw [determinant, cotangent]
  ext <;> simp only [Twist2.bordered, Mat2.mul_vec_def, Mat2.div_def, Vec2.div_def, Vec2.neg_def, Vec2.dot, Mat3.mul_vec_def,
    Vec3.dot] <;> field_simp <;> ring

end Closed

theorem cotangent_moves {θ ω : E → ℝ} (moves : Moves θ ω) (turns : 1 - Real.cos (θ 0) ≠ 0) :
    Moves (fun v => cotangent (θ v)) fun v => -ω v * ((cotangent (θ 0) * cotangent (θ 0) + 1) / 2) := by
  have sine := moves.comp Real.sin _ (Real.hasDerivAt_sin _)
  have versed := (Moves.const 1).sub (moves.comp Real.cos _ (Real.hasDerivAt_cos _))
  refine (sine.div versed turns).congr_slope fun v => ?_
  rw [cotangent]
  field_simp
  linear_combination -ω v * Real.sin_sq_add_cos_sq (θ 0)

section Motion

variable {k : E → Pose2 ℝ} {twist : E → Vec3 ℝ} (velocity : Velocity k twist) (h : Pose2 ℝ) (unit : h.Unit)

include velocity

theorem moved_x :
    Moves (fun v => (h * k v).position.x) fun v => h.turn.cos * (twist v).x - h.turn.sin * (twist v).y :=
  (((velocity.x.const_mul h.turn.cos).sub (velocity.y.const_mul h.turn.sin)).add (.const h.position.x)).congr_slope
    fun _ => add_zero _

theorem moved_y :
    Moves (fun v => (h * k v).position.y) fun v => h.turn.sin * (twist v).x + h.turn.cos * (twist v).y :=
  (((velocity.x.const_mul h.turn.sin).add (velocity.y.const_mul h.turn.cos)).add (.const h.position.y)).congr_slope
    fun _ => add_zero _

theorem own_angle_moves : Moves (fun v => (k v).angle) fun v => (twist v).z := by
  have cos : (k 0).turn.cos = 1 := congrArg (·.turn.cos) velocity.start
  have sin : (k 0).turn.sin = 0 := congrArg (·.turn.sin) velocity.start
  refine (velocity.cos.arg velocity.sin (by rw [cos]; exact one_pos)).congr_slope fun v => ?_
  rw [cos, sin]
  ring

include unit

theorem moved_start : h * k 0 = h := by
  rw [velocity.start]
  exact laws.mul_one h unit

theorem angle_moves (below : |h.angle| < Real.pi) : Moves (fun v => (h * k v).angle) fun v => (twist v).z := by
  have own := own_angle_moves velocity
  have start : (k 0).angle = 0 := by
    rw [velocity.start]
    exact Complex.arg_one
  have sum := (Moves.const h.angle).add own
  have inside : |h.angle + (k 0).angle| < Real.pi := by rwa [start, add_zero]
  have near : (fun v => (h * k v).angle) =ᶠ[𝓝 0] fun v => h.angle + (k v).angle := by
    filter_upwards [sum.continuous.abs.eventually_lt continuousAt_const inside] with v small
    exact Turn.angle_compose _ unit _ (velocity.unit v) (neg_lt_of_abs_lt small) (lt_of_abs_lt small).le
  exact (sum.congr_near near).congr_slope fun v => zero_add _

variable (regular : h.Regular)

include regular

theorem log_near :
    (fun v => log (h * k v)) =ᶠ[𝓝 0] fun v =>
      ⟨(h * k v).angle / 2 * (cotangent (h * k v).angle * (h * k v).position.x + (h * k v).position.y),
        (h * k v).angle / 2 * (cotangent (h * k v).angle * (h * k v).position.y - (h * k v).position.x),
        (h * k v).angle⟩ := by
  have start := moved_start velocity h unit
  have angle := angle_moves velocity h unit regular.below
  have versed := (Moves.const 1).sub (angle.comp Real.cos _ (Real.hasDerivAt_cos _))
  have large : Twist2.smallAngle < |(h * k 0).angle| := start.symm ▸ regular.far
  have turned : 1 - Real.cos (h * k 0).angle ≠ 0 := start.symm ▸ regular.turns
  filter_upwards [angle.continuous.abs.eventually_const_lt large, versed.continuous.eventually_ne turned]
    with v outside turns
  exact log_eq _ (not_lt.mpr outside.le) turns _ rfl

theorem log_moves :
    Vec3Moves (fun v => (log (h * k v)).triple) fun v =>
      rightJacobianInverse (log h) * twist v := by
  have start := moved_start velocity h unit
  have angle := angle_moves velocity h unit regular.below
  have half : Moves (fun v => (h * k v).angle / 2) fun v => (twist v).z / 2 := angle.mul_const 2⁻¹
  have cot := cotangent_moves angle (start.symm ▸ regular.turns)
  have x := half.mul ((cot.mul (moved_x velocity h)).add (moved_y velocity h))
  have y := half.mul ((cot.mul (moved_y velocity h)).sub (moved_x velocity h))
  have near := log_near velocity h unit regular
  have large := not_lt.mpr regular.far.le
  have nonzero := angle_ne_zero _ regular.turns
  have first := cotangent_mul_cos _ regular.turns
  have second := cotangent_mul_sin _ regular.turns
  have cos : h.turn.cos = Real.cos h.angle := (Turn.cos_angle _ unit).symm
  have sin : h.turn.sin = Real.sin h.angle := (Turn.sin_angle _ unit).symm
  have slope (v : E) : rightJacobianInverse (log h) * twist v = _ :=
    (congrArg (Twist2.borderedInverse (Twist2.rightArc h.angle) · * twist v)
      (right_column_log _ large regular.turns h rfl)).trans (inverse_jacobian_mul _ large regular.turns _ _)
  refine ⟨(x.congr_near (near.fun_comp Twist2.x)).congr_slope fun v => ?_,
    (y.congr_near (near.fun_comp Twist2.y)).congr_slope fun v => ?_,
    angle.congr_slope fun v => by rw [slope]⟩
  · rw [slope, start, cos, sin]
    field_simp
    linear_combination 2 * (h.angle * (twist v).x - (twist v).z * h.position.x) * first -
      2 * (h.angle * (twist v).y + (twist v).z * h.position.y) * second
  · rw [slope, start, cos, sin]
    field_simp
    linear_combination 2 * (h.angle * (twist v).x + (twist v).z * h.position.x) * second +
      2 * (h.angle * (twist v).y - (twist v).z * h.position.y) * first

end Motion

section Errors

variable {t : E → Vec3 ℝ} (coordinates : Vec3Moves t t)

include coordinates

theorem prior_moves (given x : Pose2 ℝ) (first : given.Unit) (second : x.Unit) (regular : (given⁻¹ * x).Regular) :
    Vec3Moves (fun v => (log (given⁻¹ * (x * exp ⟨(t v).x, (t v).y, (t v).z⟩))).triple) fun v =>
      rightJacobianInverse (log (given⁻¹ * x)) * t v := by
  have velocity := velocity_exp t coordinates
  have moves := log_moves velocity _ (unit_mul _ _ (unit_inv _ first) second) regular
  refine moves.congr_near (.of_forall fun v => congrArg (fun p => (log p).triple) ?_)
  exact (laws.mul_assoc _ _ _ (unit_inv _ first) second (velocity.unit v)).symm

variable (z a b : Pose2 ℝ) (measured : z.Unit) (first : a.Unit) (second : b.Unit)
  (regular : (z⁻¹ * (a⁻¹ * b)).Regular)

include measured first second regular

theorem between_second_moves :
    Vec3Moves (fun v => (log (z⁻¹ * (a⁻¹ * (b * exp ⟨(t v).x, (t v).y, (t v).z⟩)))).triple) fun v =>
      rightJacobianInverse (log (z⁻¹ * (a⁻¹ * b))) * t v := by
  have velocity := velocity_exp t coordinates
  have relative := unit_mul _ _ (unit_inv _ first) second
  have moves := log_moves velocity _ (unit_mul _ _ (unit_inv _ measured) relative) regular
  refine moves.congr_near (.of_forall fun v => congrArg (fun p => (log p).triple) ?_)
  exact laws.between_second _ _ _ _ measured first second (velocity.unit v)

theorem between_first_moves :
    Vec3Moves (fun v => (log (z⁻¹ * ((a * exp ⟨(t v).x, (t v).y, (t v).z⟩)⁻¹ * b))).triple) fun v =>
      -(rightJacobianInverse (log (z⁻¹ * (a⁻¹ * b))) * adjoint (a⁻¹ * b)⁻¹) * t v := by
  have velocity := velocity_exp t coordinates
  have relative := unit_mul _ _ (unit_inv _ first) second
  have moves := log_moves (velocity_frame (velocity_inv velocity) _ relative) _
    (unit_mul _ _ (unit_inv _ measured) relative) regular
  refine (moves.congr_near (.of_forall fun v => congrArg (fun p => (log p).triple) ?_)).congr_slope fun v => ?_
  · exact laws.between_first _ _ _ _ measured first second (velocity.unit v)
  · rw [Mat3.neg_mul_vec, Mat3.mul_mul_vec, Mat3.mul_vec_neg, Mat3.mul_vec_neg]

end Errors

end FactorGraph.Pose2
