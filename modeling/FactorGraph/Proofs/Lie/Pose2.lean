import Mathlib
import FactorGraph.Lie.Pose2
import FactorGraph.Proofs.Calculus
import FactorGraph.Proofs.Lie.Group

set_option autoImplicit false

open Filter Topology

namespace FactorGraph

attribute [ext] Turn Pose2 Twist2

namespace Turn

def Unit (r : Turn ℝ) : Prop := r.cos * r.cos + r.sin * r.sin = 1

noncomputable def point (r : Turn ℝ) : ℂ := ⟨r.cos, r.sin⟩

variable (r : Turn ℝ) (unit : r.Unit)

include unit

theorem norm_point : ‖r.point‖ = 1 := by
  rw [point, Complex.norm_def, Complex.normSq_mk, unit, Real.sqrt_one]

theorem point_ne_zero : r.point ≠ 0 := by
  rw [← norm_ne_zero_iff, norm_point r unit]
  exact one_ne_zero

theorem cos_angle : Real.cos r.angle = r.cos := by
  change Real.cos (Complex.arg r.point) = r.cos
  rw [Complex.cos_arg (point_ne_zero r unit), norm_point r unit, div_one]
  rfl

theorem sin_angle : Real.sin r.angle = r.sin := by
  change Real.sin (Complex.arg r.point) = r.sin
  rw [Complex.sin_arg, norm_point r unit, div_one]
  rfl

theorem angle_compose (s : Turn ℝ) (other : s.Unit) (low : -Real.pi < r.angle + s.angle)
    (high : r.angle + s.angle ≤ Real.pi) : (r.compose s).angle = r.angle + s.angle :=
  Complex.arg_mul (point_ne_zero r unit) (point_ne_zero s other) ⟨low, high⟩

end Turn

def Twist2.triple (t : Twist2 ℝ) : Vec3 ℝ := ⟨t.x, t.y, t.theta⟩

namespace Pose2

def Unit (p : Pose2 ℝ) : Prop := p.turn.Unit

theorem mul_def (a b : Pose2 ℝ) :
    a * b = ⟨⟨a.turn.cos * b.position.x - a.turn.sin * b.position.y + a.position.x,
        a.turn.sin * b.position.x + a.turn.cos * b.position.y + a.position.y⟩,
      ⟨a.turn.cos * b.turn.cos - a.turn.sin * b.turn.sin, a.turn.cos * b.turn.sin + a.turn.sin * b.turn.cos⟩⟩ := rfl

theorem inv_def (a : Pose2 ℝ) :
    a⁻¹ = ⟨⟨-(a.turn.cos * a.position.x - -a.turn.sin * a.position.y),
        -(-a.turn.sin * a.position.x + a.turn.cos * a.position.y)⟩, ⟨a.turn.cos, -a.turn.sin⟩⟩ := rfl

theorem one_def : (1 : Pose2 ℝ) = ⟨0, ⟨1, 0⟩⟩ := rfl

theorem unit_mul (a b : Pose2 ℝ) (first : a.Unit) (second : b.Unit) : (a * b).Unit := by
  rw [Unit, Turn.Unit] at first second ⊢
  rw [mul_def]
  linear_combination (b.turn.cos * b.turn.cos + b.turn.sin * b.turn.sin) * first + second

theorem unit_inv (a : Pose2 ℝ) (unit : a.Unit) : a⁻¹.Unit := by
  rw [Unit, Turn.Unit] at unit ⊢
  rw [inv_def]
  linear_combination unit

theorem unit_one : (1 : Pose2 ℝ).Unit := by
  rw [Unit, Turn.Unit, one_def]
  norm_num

theorem one_mul_self (a : Pose2 ℝ) : 1 * a = a := by
  rw [mul_def, one_def]
  ext <;> simp

theorem mul_assoc_self (a b c : Pose2 ℝ) : a * b * c = a * (b * c) := by
  ext <;> simp only [mul_def] <;> ring

theorem inv_mul_self (a : Pose2 ℝ) (unit : a.Unit) : a⁻¹ * a = 1 := by
  rw [Unit, Turn.Unit] at unit
  rw [mul_def, inv_def, one_def]
  ext <;> simp only [Vec2.zero_x, Vec2.zero_y]
  case turn.cos => linear_combination unit
  all_goals ring

theorem laws : GroupOn Unit where
  unit_one := unit_one
  unit_mul := unit_mul
  unit_inv := unit_inv
  one_mul a _ := one_mul_self a
  mul_assoc a b c _ _ _ := mul_assoc_self a b c
  inv_mul := inv_mul_self

variable {E : Type} [NormedAddCommGroup E] [NormedSpace ℝ E]

-- A motion through the identity, which leaves it with the velocity `twist`, whose last component is the rate of
-- turning.
structure Velocity (k : E → Pose2 ℝ) (twist : E → Vec3 ℝ) : Prop where
  unit : ∀ v, (k v).Unit
  start : k 0 = 1
  cos : Moves (fun v => (k v).turn.cos) fun _ => 0
  sin : Moves (fun v => (k v).turn.sin) fun v => (twist v).z
  x : Moves (fun v => (k v).position.x) fun v => (twist v).x
  y : Moves (fun v => (k v).position.y) fun v => (twist v).y

theorem arc_coefficients_of_small (θ : ℝ) (small : |θ| < Twist2.smallAngle) :
    Twist2.arcCoefficients θ = (1 - θ * θ / 6.0, 0.5 * θ - θ * θ * θ / 24.0) := by
  rw [Twist2.arcCoefficients, scalar_abs_eq, if_pos small]

theorem arc_coefficients_of_large (θ : ℝ) (large : ¬ |θ| < Twist2.smallAngle) :
    Twist2.arcCoefficients θ = (Real.sin θ / θ, (1 - Real.cos θ) / θ) := by
  rw [Twist2.arcCoefficients, scalar_abs_eq, if_neg large]
  rfl

theorem exp_eq (t : Twist2 ℝ) (a b : ℝ) (coefficients : Twist2.arcCoefficients t.theta = (a, b)) :
    exp t = ⟨⟨a * t.x - b * t.y, b * t.x + a * t.y⟩, ⟨Real.cos t.theta, Real.sin t.theta⟩⟩ := by
  rw [exp, coefficients]
  rfl

theorem unit_exp (t : Twist2 ℝ) : (exp t).Unit := by
  rw [exp_eq t _ _ rfl, Unit, Turn.Unit]
  linear_combination Real.sin_sq_add_cos_sq t.theta

theorem small_angle_pos : (0 : ℝ) < Twist2.smallAngle := by
  rw [Twist2.smallAngle]
  norm_num

theorem exp_zero : exp (⟨0, 0, 0⟩ : Twist2 ℝ) = 1 := by
  rw [exp_eq _ _ _ (arc_coefficients_of_small 0 (by rw [abs_zero]; exact small_angle_pos)), one_def]
  ext <;> simp

theorem velocity_exp (t : E → Vec3 ℝ) (coordinates : Vec3Moves t t) :
    Velocity (fun v => exp ⟨(t v).x, (t v).y, (t v).z⟩) t := by
  have start := coordinates.self_zero
  have angle : (t 0).z = 0 := congrArg Vec3.z start
  have near : ∀ᶠ v in 𝓝 0, |(t v).z| < Twist2.smallAngle :=
    coordinates.z.continuous.abs.eventually_lt continuousAt_const (by simpa only [angle, abs_zero] using small_angle_pos)
  have square := coordinates.z.mul_of_zero coordinates.z angle angle
  have cube := square.mul_of_zero coordinates.z (by rw [angle, mul_zero]) angle
  have first := (Moves.const 1).sub (square.mul_const (6.0 : ℝ)⁻¹)
  have second := (coordinates.z.const_mul 0.5).sub (cube.mul_const (24.0 : ℝ)⁻¹)
  have form : (fun v => exp ⟨(t v).x, (t v).y, (t v).z⟩) =ᶠ[𝓝 0] fun v =>
      ⟨⟨(1 - (t v).z * (t v).z * 6.0⁻¹) * (t v).x - (0.5 * (t v).z - (t v).z * (t v).z * (t v).z * 24.0⁻¹) * (t v).y,
        (0.5 * (t v).z - (t v).z * (t v).z * (t v).z * 24.0⁻¹) * (t v).x + (1 - (t v).z * (t v).z * 6.0⁻¹) * (t v).y⟩,
        ⟨Real.cos (t v).z, Real.sin (t v).z⟩⟩ := by
    filter_upwards [near] with v small
    exact exp_eq _ _ _ (arc_coefficients_of_small _ small)
  exact {
    unit := fun v => unit_exp _
    start := by
      rw [start]
      exact exp_zero
    cos := ((coordinates.z.comp Real.cos _ (Real.hasDerivAt_cos _)).congr_near
      (form.fun_comp fun p => p.turn.cos)).congr_slope fun v => by simp [angle]
    sin := ((coordinates.z.comp Real.sin _ (Real.hasDerivAt_sin _)).congr_near
      (form.fun_comp fun p => p.turn.sin)).congr_slope fun v => by simp [angle]
    x := (((first.mul coordinates.x).sub (second.mul coordinates.y)).congr_near
      (form.fun_comp fun p => p.position.x)).congr_slope fun v => by simp [start]
    y := (((second.mul coordinates.x).add (first.mul coordinates.y)).congr_near
      (form.fun_comp fun p => p.position.y)).congr_slope fun v => by simp [start] }

theorem velocity_inv {k : E → Pose2 ℝ} {twist : E → Vec3 ℝ} (velocity : Velocity k twist) :
    Velocity (fun v => (k v)⁻¹) fun v => -twist v where
  unit v := unit_inv _ (velocity.unit v)
  start := by
    rw [velocity.start]
    exact laws.inv_one
  cos := velocity.cos
  sin := velocity.sin.neg
  x := (((velocity.cos.mul velocity.x).sub (velocity.sin.neg.mul velocity.y)).neg).congr_slope fun v => by
    rw [velocity.start]
    simp [one_def, Vec3.neg_def]
  y := (((velocity.sin.neg.mul velocity.x).add (velocity.cos.mul velocity.y)).neg).congr_slope fun v => by
    rw [velocity.start]
    simp [one_def, Vec3.neg_def]

theorem adjoint_inverse (r : Pose2 ℝ) (unit : r.Unit) (t : Vec3 ℝ) :
    adjoint r⁻¹ * t =
      ⟨r.turn.cos * (t.x - t.z * r.position.y) + r.turn.sin * (t.y + t.z * r.position.x),
       r.turn.cos * (t.y + t.z * r.position.x) - r.turn.sin * (t.x - t.z * r.position.y), t.z⟩ := by
  have cos : Real.cos r⁻¹.angle = r.turn.cos := Turn.cos_angle _ (unit_inv r unit)
  have sin : Real.sin r⁻¹.angle = -r.turn.sin := Turn.sin_angle _ (unit_inv r unit)
  change (⟨⟨Real.cos r⁻¹.angle, -Real.sin r⁻¹.angle, r⁻¹.position.y⟩,
    ⟨Real.sin r⁻¹.angle, Real.cos r⁻¹.angle, -r⁻¹.position.x⟩, ⟨0, 0, 1⟩⟩ : Mat3 ℝ) * t = _
  rw [cos, sin, inv_def]
  ext <;> simp only [Mat3.mul_vec_def, Vec3.dot] <;> ring

theorem frame_eq (k r : Pose2 ℝ) (unit : r.Unit) :
    r⁻¹ * (k * r) =
      ⟨⟨r.turn.cos * (k.turn.cos * r.position.x - k.turn.sin * r.position.y + k.position.x - r.position.x) +
          r.turn.sin * (k.turn.sin * r.position.x + k.turn.cos * r.position.y + k.position.y - r.position.y),
        r.turn.cos * (k.turn.sin * r.position.x + k.turn.cos * r.position.y + k.position.y - r.position.y) -
          r.turn.sin * (k.turn.cos * r.position.x - k.turn.sin * r.position.y + k.position.x - r.position.x)⟩,
        k.turn⟩ := by
  rw [Unit, Turn.Unit] at unit
  ext <;> simp only [mul_def, inv_def]
  case turn.cos => linear_combination k.turn.cos * unit
  case turn.sin => linear_combination k.turn.sin * unit
  all_goals ring

theorem velocity_frame {k : E → Pose2 ℝ} {twist : E → Vec3 ℝ} (velocity : Velocity k twist) (r : Pose2 ℝ)
    (unit : r.Unit) : Velocity (fun v => r⁻¹ * (k v * r)) fun v => adjoint r⁻¹ * twist v := by
  have carriedX := (((velocity.cos.mul_const r.position.x).sub (velocity.sin.mul_const r.position.y)).add
    velocity.x).sub (Moves.const r.position.x)
  have carriedY := (((velocity.sin.mul_const r.position.x).add (velocity.cos.mul_const r.position.y)).add
    velocity.y).sub (Moves.const r.position.y)
  have turnX := (carriedX.const_mul r.turn.cos).add (carriedY.const_mul r.turn.sin)
  have turnY := (carriedY.const_mul r.turn.cos).sub (carriedX.const_mul r.turn.sin)
  simp only [adjoint_inverse r unit, frame_eq _ r unit]
  exact {
    unit := velocity.unit
    start := by
      rw [velocity.start, ← frame_eq _ r unit]
      exact laws.frame_one r unit
    cos := velocity.cos
    sin := velocity.sin
    x := turnX.congr_slope fun v => by ring
    y := turnY.congr_slope fun v => by ring }

end Pose2

end FactorGraph
