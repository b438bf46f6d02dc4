import Mathlib
import FactorGraph.Proofs.Lie.Pose2Log
import FactorGraph.Proofs.Outcome

set_option autoImplicit false

namespace FactorGraph.Pose2

theorem versed_ne_zero (θ : ℝ) (low : -Real.pi < θ) (high : θ ≤ Real.pi) (turns : θ ≠ 0) : 1 - Real.cos θ ≠ 0 := by
  have pi := Real.pi_pos
  intro still
  exact turns ((Real.cos_eq_one_iff_of_lt_of_lt (by linarith) (by linarith)).mp (sub_eq_zero.mp still).symm)

theorem arc_determinant_pos_of_versed (θ a b : ℝ) (versed : θ ≠ 0 → 1 - Real.cos θ ≠ 0)
    (coefficients : Twist2.arcCoefficients θ = (a, b)) : 0 < a * a + b * b := by
  by_cases small : |θ| < Twist2.smallAngle
  · rw [arc_coefficients_of_small θ small] at coefficients
    obtain ⟨rfl, rfl⟩ := Prod.mk.inj coefficients
    have bound : θ * θ < 1 := by
      rw [Twist2.smallAngle] at small
      rw [← abs_mul_abs_self]
      nlinarith [abs_nonneg θ]
    have first : 0 < 1 - θ * θ / 6.0 := by linarith
    exact add_pos_of_pos_of_nonneg (mul_pos first first) (mul_self_nonneg _)
  · rw [arc_coefficients_of_large θ small] at coefficients
    obtain ⟨rfl, rfl⟩ := Prod.mk.inj coefficients
    have turns : θ ≠ 0 := fun none => small (by rw [none, abs_zero]; exact small_angle_pos)
    have positive : 0 < 1 - Real.cos θ := lt_of_le_of_ne (sub_nonneg.mpr (Real.cos_le_one θ)) (versed turns).symm
    rw [arc_determinant θ (versed turns)]
    exact div_pos (mul_pos two_pos positive) (mul_self_pos.mpr turns)

theorem arc_determinant_pos (θ a b : ℝ) (low : -Real.pi < θ) (high : θ ≤ Real.pi)
    (coefficients : Twist2.arcCoefficients θ = (a, b)) : 0 < a * a + b * b :=
  arc_determinant_pos_of_versed θ a b (versed_ne_zero θ low high) coefficients

theorem log_of_coefficients (p : Pose2 ℝ) (a b : ℝ) (coefficients : Twist2.arcCoefficients p.angle = (a, b)) :
    log p = ⟨(a * p.position.x + b * p.position.y) / (a * a + b * b),
      (-b * p.position.x + a * p.position.y) / (a * a + b * b), p.angle⟩ := by
  rw [log, coefficients]

theorem angle_bounds (p : Pose2 ℝ) : -Real.pi < p.angle ∧ p.angle ≤ Real.pi := Complex.arg_mem_Ioc _

theorem exp_log (p : Pose2 ℝ) (unit : p.Unit) : exp (log p) = p := by
  obtain ⟨low, high⟩ := angle_bounds p
  generalize coefficients : Twist2.arcCoefficients p.angle = arc
  obtain ⟨a, b⟩ := arc
  have regular : a ^ 2 + b ^ 2 ≠ 0 := by
    rw [sq, sq]
    exact (arc_determinant_pos p.angle a b low high coefficients).ne'
  have cos : Real.cos p.angle = p.turn.cos := Turn.cos_angle p.turn unit
  have sin : Real.sin p.angle = p.turn.sin := Turn.sin_angle p.turn unit
  rw [log_of_coefficients p a b coefficients, exp_eq _ a b coefficients]
  ext
  · field_simp
    ring
  · field_simp
    ring
  · exact cos
  · exact sin

theorem angle_exp (t : Twist2 ℝ) (low : -Real.pi < t.theta) (high : t.theta ≤ Real.pi) : (exp t).angle = t.theta := by
  have point : (exp t).turn.point = Complex.cos t.theta + Complex.sin t.theta * Complex.I := by
    rw [exp_eq t _ _ rfl, Turn.point, ← Complex.ofReal_cos, ← Complex.ofReal_sin]
    exact Complex.mk_eq_add_mul_I _ _
  change Complex.arg (exp t).turn.point = t.theta
  rw [point]
  exact Complex.arg_cos_add_sin_mul_I ⟨low, high⟩

theorem log_exp (t : Twist2 ℝ) (low : -Real.pi < t.theta) (high : t.theta ≤ Real.pi) : log (exp t) = t := by
  generalize coefficients : Twist2.arcCoefficients t.theta = arc
  obtain ⟨a, b⟩ := arc
  have regular : a ^ 2 + b ^ 2 ≠ 0 := by
    rw [sq, sq]
    exact (arc_determinant_pos t.theta a b low high coefficients).ne'
  have angle := angle_exp t low high
  rw [log_of_coefficients (exp t) a b (by rw [angle, coefficients]), angle, exp_eq t a b coefficients]
  ext
  · field_simp
    ring
  · field_simp
    ring
  · rfl

theorem retract_eq (x : Pose2 ℝ) (t : Twist2 ℝ) : Manifold.retract x t.toList = .ok (x * exp t) := rfl

theorem local_coordinates_eq (x y : Pose2 ℝ) : Manifold.localCoordinates x y = .ok (log (x⁻¹ * y)).toList := rfl

/-- Retraction and local coordinates undo each other, with the arc in closed form or as a series, and at half a turn. -/
theorem retract_undoes_local_coordinates (x y : Pose2 ℝ) (first : x.Unit) (second : y.Unit) :
    (Manifold.localCoordinates x y >>= Manifold.retract x) = .ok y ∧
    (∀ dx dy θ : ℝ, -Real.pi < θ → θ ≤ Real.pi →
      (Manifold.retract x [dx, dy, θ] >>= Manifold.localCoordinates x) = .ok [dx, dy, θ]) ∧
    ∀ a b : ℝ, Twist2.arcCoefficients y.angle = (a, b) → a * a + b * b ≠ 0 := by
  refine ⟨?_, fun dx dy θ low high => ?_, fun a b coefficients => ?_⟩
  · have relative := unit_mul _ _ (unit_inv x first) second
    rw [local_coordinates_eq, Outcome.ok_bind, retract_eq, exp_log _ relative, laws.mul_inv_mul x y first second]
  · change (Manifold.retract x (Twist2.toList ⟨dx, dy, θ⟩) >>= Manifold.localCoordinates x) = _
    rw [retract_eq, Outcome.ok_bind, local_coordinates_eq, laws.inv_mul_mul x _ first (unit_exp _),
      log_exp ⟨dx, dy, θ⟩ low high]
    rfl
  · exact (arc_determinant_pos _ a b (angle_bounds y).1 (angle_bounds y).2 coefficients).ne'

theorem retract_undoes_local_coordinates_half_turn :
    let x : Pose2 ℝ := ⟨⟨1, 2⟩, ⟨0, 1⟩⟩
    let y : Pose2 ℝ := ⟨⟨3, -1⟩, ⟨0, -1⟩⟩
    (Manifold.localCoordinates x y >>= Manifold.retract x) = .ok y ∧
      (Manifold.retract x [1, 2, Real.pi] >>= Manifold.localCoordinates x) = .ok [1, 2, Real.pi] ∧
      (Manifold.retract x [1, 2, 1e-4] >>= Manifold.localCoordinates x) = .ok [1, 2, 1e-4] := by
  intro x y
  have first : x.Unit := by norm_num [Unit, Turn.Unit, x]
  have second : y.Unit := by norm_num [Unit, Turn.Unit, y]
  obtain ⟨reaches, returns, _⟩ := retract_undoes_local_coordinates x y first second
  have pi := Real.pi_gt_three
  exact ⟨reaches, returns 1 2 Real.pi (by linarith) le_rfl, returns 1 2 1e-4 (by linarith) (by linarith)⟩

end FactorGraph.Pose2
