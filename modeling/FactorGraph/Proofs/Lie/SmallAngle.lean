import FactorGraph.Proofs.Lie.Coupling
import FactorGraph.Proofs.Lie.Pose2
import FactorGraph.Proofs.Taylor

set_option autoImplicit false

namespace FactorGraph

open Taylor

section Coefficients

theorem close_of_numerator (p n d e : ℝ) (apart : d ≠ 0) (near : |p * d - n| ≤ e * |d|) : |p - n / d| ≤ e := by
  have quotient : p - n / d = (p * d - n) / d := by
    field_simp
  rw [quotient, abs_div]
  exact (div_le_iff₀ (abs_pos.mpr apart)).mpr near

variable (θ : ℝ) (turns : θ ≠ 0)

section Series

include turns

theorem sinc_series : |1 - θ ^ 2 / 6 - Real.sin θ / θ| ≤ θ ^ 4 / 120 := by
  have missed : (1 - θ ^ 2 / 6) * θ - Real.sin θ = -(Real.sin θ - sinSum 2 θ) := by
    norm_num [sinSum, Finset.sum_range_succ, Nat.factorial]
    ring
  refine close_of_numerator _ _ _ _ turns ?_
  rw [missed, abs_neg, ← Even.pow_abs (by decide : Even 4)]
  refine (sin_near 2 θ).trans_eq ?_
  norm_num [Nat.factorial]
  ring

theorem rise_series : |θ / 2 - θ ^ 3 / 24 - (1 - Real.cos θ) / θ| ≤ |θ| ^ 5 / 720 := by
  have missed : (θ / 2 - θ ^ 3 / 24) * θ - (1 - Real.cos θ) = Real.cos θ - cosSum 3 θ := by
    norm_num [cosSum, Finset.sum_range_succ, Nat.factorial]
    ring
  refine close_of_numerator _ _ _ _ turns ?_
  rw [missed]
  refine (cos_near 2 θ).trans_eq ?_
  norm_num [Nat.factorial]
  ring

theorem versed_series : |1 / 2 - θ ^ 2 / 24 - (1 - Real.cos θ) / θ ^ 2| ≤ θ ^ 4 / 720 := by
  have missed : (1 / 2 - θ ^ 2 / 24) * θ ^ 2 - (1 - Real.cos θ) = Real.cos θ - cosSum 3 θ := by
    norm_num [cosSum, Finset.sum_range_succ, Nat.factorial]
    ring
  refine close_of_numerator _ _ _ _ (pow_ne_zero 2 turns) ?_
  rw [missed, abs_pow, ← Even.pow_abs (by decide : Even 4)]
  refine (cos_near 2 θ).trans_eq ?_
  norm_num [Nat.factorial, -sq_abs]
  ring

theorem arc_series : |1 / 6 - θ ^ 2 / 120 - (θ - Real.sin θ) / θ ^ 3| ≤ θ ^ 4 / 5040 := by
  have missed : (1 / 6 - θ ^ 2 / 120) * θ ^ 3 - (θ - Real.sin θ) = Real.sin θ - sinSum 3 θ := by
    norm_num [sinSum, Finset.sum_range_succ, Nat.factorial]
    ring
  refine close_of_numerator _ _ _ _ (pow_ne_zero 3 turns) ?_
  rw [missed, abs_pow, ← Even.pow_abs (by decide : Even 4)]
  refine (sin_near 3 θ).trans_eq ?_
  norm_num [Nat.factorial]
  ring

theorem second_coupling_series :
    |1 / 24 - θ ^ 2 / 720 - (θ ^ 2 + 2 * Real.cos θ - 2) / (2 * θ ^ 4)| ≤ θ ^ 4 / 40320 := by
  have missed : (1 / 24 - θ ^ 2 / 720) * (2 * θ ^ 4) - (θ ^ 2 + 2 * Real.cos θ - 2) =
      -2 * (Real.cos θ - cosSum 4 θ) := by
    norm_num [cosSum, Finset.sum_range_succ, Nat.factorial]
    ring
  refine close_of_numerator _ _ _ _ (mul_ne_zero two_ne_zero (pow_ne_zero 4 turns)) ?_
  rw [missed, abs_mul, abs_mul, abs_pow, abs_neg, abs_two, ← Even.pow_abs (by decide : Even 4)]
  refine (mul_le_mul_of_nonneg_left (cos_near 3 θ) zero_le_two).trans_eq ?_
  norm_num [Nat.factorial]
  ring

theorem column_series (small : |θ| ≤ 5) (u v : ℝ) :
    |v / 2 + u * θ / 6 - (u * (θ - Real.sin θ) + v * (1 - Real.cos θ)) / θ ^ 2| ≤ (|u| + |v|) * θ ^ 2 / 24 := by
  have missed : (v / 2 + u * θ / 6) * θ ^ 2 - (u * (θ - Real.sin θ) + v * (1 - Real.cos θ)) =
      u * (Real.sin θ - sinSum 2 θ) + v * (Real.cos θ - cosSum 2 θ) := by
    norm_num [sinSum, cosSum, Finset.sum_range_succ, Nat.factorial]
    ring
  have along : |Real.sin θ - sinSum 2 θ| ≤ |θ| ^ 4 / 24 := by
    have step : |θ| ^ 4 * |θ| ≤ |θ| ^ 4 * 5 := mul_le_mul_of_nonneg_left small (by positivity)
    have near := sin_near 2 θ
    norm_num [Nat.factorial] at near
    linarith
  have across : |Real.cos θ - cosSum 2 θ| ≤ |θ| ^ 4 / 24 := by
    have near := cos_near 1 θ
    norm_num [Nat.factorial] at near
    simpa using near
  refine close_of_numerator _ _ _ _ (pow_ne_zero 2 turns) ?_
  rw [missed, abs_pow, ← Even.pow_abs (by decide : Even 2)]
  calc |u * (Real.sin θ - sinSum 2 θ) + v * (Real.cos θ - cosSum 2 θ)|
      ≤ |u| * |Real.sin θ - sinSum 2 θ| + |v| * |Real.cos θ - cosSum 2 θ| := by
        rw [← abs_mul, ← abs_mul]
        exact abs_add_le _ _
    _ ≤ |u| * (|θ| ^ 4 / 24) + |v| * (|θ| ^ 4 / 24) :=
        add_le_add (mul_le_mul_of_nonneg_left along (abs_nonneg u)) (mul_le_mul_of_nonneg_left across (abs_nonneg v))
    _ = (|u| + |v|) * |θ| ^ 2 / 24 * |θ| ^ 2 := by ring

end Series

variable (positive : 0 < θ)

include positive

theorem sin_near_of_pos (n : ℕ) : |Real.sin θ - sinSum n θ| ≤ θ ^ (2 * n + 1) / (2 * n + 1).factorial := by
  simpa only [abs_of_pos positive] using sin_near n θ

theorem mul_cos_near_of_pos (n : ℕ) :
    |θ * (Real.cos θ - cosSum (n + 1) θ)| ≤ θ * (θ ^ (2 * n + 2) / (2 * n + 2).factorial) := by
  rw [abs_mul, abs_of_pos positive]
  refine mul_le_mul_of_nonneg_left ?_ positive.le
  simpa only [abs_of_pos positive] using cos_near n θ

theorem third_coupling_series (small : θ ^ 2 < 1e-4) :
    |1 / 120 - θ ^ 2 / 2520 - (2 * θ - 3 * Real.sin θ + θ * Real.cos θ) / (2 * θ ^ 5)| ≤ θ ^ 4 / 100000 := by
  have missed : (1 / 120 - θ ^ 2 / 2520) * (2 * θ ^ 5) - (2 * θ - 3 * Real.sin θ + θ * Real.cos θ) =
      3 * (Real.sin θ - sinSum 5 θ) - θ * (Real.cos θ - cosSum 5 θ) - θ ^ 9 / 60480 := by
    norm_num [sinSum, cosSum, Finset.sum_range_succ, Nat.factorial]
    ring
  have sine := abs_le.mp (sin_near_of_pos θ positive 5)
  have cosine := abs_le.mp (mul_cos_near_of_pos θ positive 4)
  norm_num [Nat.factorial] at sine cosine
  have eleventh : θ ^ 9 * θ ^ 2 ≤ θ ^ 9 * 1e-4 := mul_le_mul_of_nonneg_left small.le (by positivity)
  refine close_of_numerator _ _ _ _ (by positivity) ?_
  rw [missed, abs_of_pos (by positivity : 0 < 2 * θ ^ 5), abs_le]
  constructor <;> linarith

omit positive in
theorem cotangent_missed :
    (1 / 12 + θ ^ 2 / 720) * (2 * θ ^ 2 * Real.sin θ) - (2 * Real.sin θ - θ * (1 + Real.cos θ)) =
      (θ ^ 2 / 6 + θ ^ 4 / 360 - 2) * (Real.sin θ - sinSum 4 θ) + θ * (Real.cos θ - cosSum 4 θ) -
        (θ ^ 7 / 15120 + θ ^ 9 / 100800 + θ ^ 11 / 1814400) := by
  -- Over a common divisor, the first term that the series of the cotangent leaves out is that of the seventh power.
  norm_num [sinSum, cosSum, Finset.sum_range_succ, Nat.factorial]
  ring

theorem cotangent_common (rises : 0 < Real.sin θ) : 1 / θ ^ 2 - (1 + Real.cos θ) / (2 * θ * Real.sin θ) =
    (2 * Real.sin θ - θ * (1 + Real.cos θ)) / (2 * θ ^ 2 * Real.sin θ) := by
  field_simp

theorem cotangent_series (small : θ ^ 2 < 1e-10) :
    |1 / 12 + θ ^ 2 / 720 - (1 / θ ^ 2 - (1 + Real.cos θ) / (2 * θ * Real.sin θ))| ≤ θ ^ 4 / 30000 := by
  have below_one : θ < 1 := by nlinarith
  have rises : 0 < Real.sin θ := Real.sin_pos_of_pos_of_lt_pi positive (by linarith [Real.pi_gt_three])
  have factor : |θ ^ 2 / 6 + θ ^ 4 / 360 - 2| ≤ 2 := by
    rw [abs_le]
    constructor <;> nlinarith
  have sine : |(θ ^ 2 / 6 + θ ^ 4 / 360 - 2) * (Real.sin θ - sinSum 4 θ)| ≤ 2 * (θ ^ 9 / 362880) := by
    rw [abs_mul]
    exact mul_le_mul factor (sin_near_of_pos θ positive 4) (abs_nonneg _) zero_le_two
  have cosine := abs_le.mp (mul_cos_near_of_pos θ positive 3)
  norm_num [Nat.factorial] at cosine
  -- What is missed is measured against the divisor, which is close to `2θ³`.
  have divisor : θ ^ 6 * (θ - θ ^ 3 / 6) ≤ θ ^ 6 * Real.sin θ :=
    mul_le_mul_of_nonneg_left (Real.sin_ge_sub_cube positive.le) (by positivity)
  have seventh : 0 < θ ^ 7 := by positivity
  have ninth : θ ^ 7 * θ ^ 2 ≤ θ ^ 7 * 1e-10 := mul_le_mul_of_nonneg_left small.le seventh.le
  have eleventh : θ ^ 9 * θ ^ 2 ≤ θ ^ 9 * 1e-10 := mul_le_mul_of_nonneg_left small.le (by positivity)
  have nonneg : 0 ≤ θ ^ 11 := by positivity
  rw [cotangent_common θ positive rises]
  refine close_of_numerator _ _ _ _ (by positivity) ?_
  rw [cotangent_missed, abs_of_pos (by positivity : 0 < 2 * θ ^ 2 * Real.sin θ), abs_le]
  rw [abs_le] at sine
  constructor <;> linarith

end Coefficients

theorem Vec3.norm_squared_eq (t : Vec3 ℝ) : t.normSquared = t.norm ^ 2 := by
  rw [sq, norm_mul_self]

namespace Rotation

variable (t : Vec3 ℝ)

theorem closed_coefficients_eq : closedCoefficients t.normSquared =
    ((1 - Real.cos t.norm) / t.norm ^ 2, (t.norm - Real.sin t.norm) / t.norm ^ 3) := by
  change ((1 - Real.cos t.norm) / t.normSquared, (t.norm - Real.sin t.norm) / (t.normSquared * t.norm)) = _
  rw [t.norm_squared_eq, ← pow_succ]

theorem closed_inverse_coefficient_eq : closedInverseCoefficient t.normSquared =
    1 / t.norm ^ 2 - (1 + Real.cos t.norm) / (2 * t.norm * Real.sin t.norm) := by
  change 1 / t.normSquared - (1 + Real.cos t.norm) / (2.0 * t.norm * Real.sin t.norm) = _
  rw [t.norm_squared_eq, literal_two]

variable (short : t.normSquared < smallAngleSquared)

include short

theorem jacobian_coefficients_small :
    jacobianCoefficients t.normSquared = (1 / 2 - t.norm ^ 2 / 24, 1 / 6 - t.norm ^ 2 / 120) := by
  rw [jacobianCoefficients, if_pos short, t.norm_squared_eq]
  norm_num

theorem inverse_coefficient_small : inverseCoefficient t.normSquared = 1 / 12 + t.norm ^ 2 / 720 := by
  rw [inverseCoefficient, if_pos short, t.norm_squared_eq]
  norm_num

end Rotation

namespace Twist2

theorem arc_coefficients_small (θ : ℝ) (small : |θ| < smallAngle) :
    arcCoefficients θ = (1 - θ ^ 2 / 6, θ / 2 - θ ^ 3 / 24) := by
  rw [Pose2.arc_coefficients_of_small θ small, Prod.mk.injEq]
  constructor <;> norm_num <;> ring

variable (t : Twist2 ℝ)

theorem closed_right_column_eq : t.closedRightColumn =
    ⟨(t.theta * t.x - t.y + t.y * Real.cos t.theta - t.x * Real.sin t.theta) / t.theta ^ 2,
      (t.x + t.theta * t.y - t.x * Real.cos t.theta - t.y * Real.sin t.theta) / t.theta ^ 2⟩ := by
  rw [sq]
  rfl

theorem closed_left_column_eq : t.closedLeftColumn =
    ⟨(t.theta * t.x + t.y - t.y * Real.cos t.theta - t.x * Real.sin t.theta) / t.theta ^ 2,
      (-t.x + t.theta * t.y + t.x * Real.cos t.theta - t.y * Real.sin t.theta) / t.theta ^ 2⟩ := by
  rw [sq]
  rfl

variable (small : |t.theta| < smallAngle)

include small

theorem right_column_small :
    t.rightColumn = ⟨-t.y / 2 + t.x * t.theta / 6, t.x / 2 + t.y * t.theta / 6⟩ := by
  rw [rightColumn, scalar_abs_eq, if_pos small]
  norm_num

theorem left_column_small :
    t.leftColumn = ⟨t.y / 2 + t.x * t.theta / 6, -t.x / 2 + t.y * t.theta / 6⟩ := by
  rw [leftColumn, scalar_abs_eq, if_pos small]
  norm_num

end Twist2

namespace Twist3

variable (t : Vec3 ℝ)

theorem closed_coupling_coefficients_eq : closedCouplingCoefficients t.normSquared =
    ((t.norm - Real.sin t.norm) / t.norm ^ 3, (t.norm ^ 2 + 2 * Real.cos t.norm - 2) / (2 * t.norm ^ 4),
      (2 * t.norm - 3 * Real.sin t.norm + t.norm * Real.cos t.norm) / (2 * t.norm ^ 5)) := by
  have angle : Scalar.sqrt t.normSquared = t.norm := rfl
  rw [closedCouplingCoefficients, angle, t.norm_squared_eq, literal_two, literal_three]
  simp only [← pow_succ, ← pow_add, mul_assoc]
  rfl

theorem coupling_coefficients_small (short : t.normSquared < 1e-4) : couplingCoefficients t.normSquared =
    (1 / 6 - t.norm ^ 2 / 120, 1 / 24 - t.norm ^ 2 / 720, 1 / 120 - t.norm ^ 2 / 2520) := by
  rw [couplingCoefficients, if_pos short, t.norm_squared_eq]
  norm_num

end Twist3

/-- Below each threshold, and for an angle that is not zero, what the series gives differs from the closed form by no more
than about the first term that the series leaves out: for the Jacobians of a rotation and of a pose of the plane, for the arc
of a pose of the plane, and for what couples rotation and translation in a pose of space. -/
theorem small_angle_series_close :
    (∀ t : Vec3 ℝ, t.norm ≠ 0 → t.normSquared < Rotation.smallAngleSquared → ∃ a b c : ℝ,
      Rotation.leftJacobian t = 1 + a * Mat3.skew t + b * Mat3.skew t * Mat3.skew t ∧
      Rotation.leftJacobianInverse t = 1 - (1 / 2 : ℝ) * Mat3.skew t + c * Mat3.skew t * Mat3.skew t ∧
      |a - (Rotation.closedCoefficients t.normSquared).1| ≤ t.norm ^ 4 / 720 ∧
      |b - (Rotation.closedCoefficients t.normSquared).2| ≤ t.norm ^ 4 / 5040 ∧
      |c - Rotation.closedInverseCoefficient t.normSquared| ≤ t.norm ^ 4 / 30000) ∧
    (∀ θ : ℝ, θ ≠ 0 → |θ| < Twist2.smallAngle →
      |(Twist2.arcCoefficients θ).1 - (Twist2.closedArcCoefficients θ).1| ≤ θ ^ 4 / 120 ∧
      |(Twist2.arcCoefficients θ).2 - (Twist2.closedArcCoefficients θ).2| ≤ |θ| ^ 5 / 720) ∧
    (∀ t : Twist2 ℝ, t.theta ≠ 0 → |t.theta| < Twist2.smallAngle →
      |t.rightColumn.x - t.closedRightColumn.x| ≤ (|t.x| + |t.y|) * t.theta ^ 2 / 24 ∧
      |t.rightColumn.y - t.closedRightColumn.y| ≤ (|t.x| + |t.y|) * t.theta ^ 2 / 24 ∧
      |t.leftColumn.x - t.closedLeftColumn.x| ≤ (|t.x| + |t.y|) * t.theta ^ 2 / 24 ∧
      |t.leftColumn.y - t.closedLeftColumn.y| ≤ (|t.x| + |t.y|) * t.theta ^ 2 / 24) ∧
    ∀ t : Vec3 ℝ, t.norm ≠ 0 → t.normSquared < 1e-4 →
      |(Twist3.couplingCoefficients t.normSquared).1 - (Twist3.closedCouplingCoefficients t.normSquared).1| ≤
        t.norm ^ 4 / 5040 ∧
      |(Twist3.couplingCoefficients t.normSquared).2.1 - (Twist3.closedCouplingCoefficients t.normSquared).2.1| ≤
        t.norm ^ 4 / 40320 ∧
      |(Twist3.couplingCoefficients t.normSquared).2.2 - (Twist3.closedCouplingCoefficients t.normSquared).2.2| ≤
        t.norm ^ 4 / 100000 := by
  refine ⟨fun t turns short => ?rotation, fun θ turns small => ?arc, fun t turns small => ?column,
    fun t turns short => ?coupling⟩
  case rotation =>
    have positive := t.norm_nonneg.lt_of_ne' turns
    have bound : t.norm ^ 2 < 1e-10 := by
      rw [← t.norm_squared_eq]
      exact short
    refine ⟨(Rotation.jacobianCoefficients t.normSquared).1, (Rotation.jacobianCoefficients t.normSquared).2,
      Rotation.inverseCoefficient t.normSquared, rfl, by rw [Rotation.leftJacobianInverse, literal_half], ?_⟩
    rw [Rotation.jacobian_coefficients_small t short, Rotation.inverse_coefficient_small t short,
      Rotation.closed_coefficients_eq, Rotation.closed_inverse_coefficient_eq]
    exact ⟨versed_series _ turns, arc_series _ turns, cotangent_series _ positive bound⟩
  case arc =>
    rw [Twist2.arc_coefficients_small θ small]
    exact ⟨sinc_series θ turns, rise_series θ turns⟩
  case column =>
    have bound : |t.theta| ≤ 5 := small.le.trans (by norm_num [Twist2.smallAngle])
    rw [t.right_column_small small, t.left_column_small small, t.closed_right_column_eq, t.closed_left_column_eq]
    have across := column_series t.theta turns bound t.x
    have along := column_series t.theta turns bound t.y
    refine ⟨?_, ?_, ?_, ?_⟩
    · convert across (-t.y) using 2
      · ring
      · rw [abs_neg]
    · convert along t.x using 2
      · ring
      · rw [add_comm]
    · convert across t.y using 2
      ring
    · convert along (-t.x) using 2
      · ring
      · rw [abs_neg, add_comm]
  case coupling =>
    have positive := t.norm_nonneg.lt_of_ne' turns
    rw [Twist3.coupling_coefficients_small t short, Twist3.closed_coupling_coefficients_eq]
    rw [t.norm_squared_eq] at short
    exact ⟨arc_series _ turns, second_coupling_series _ turns, third_coupling_series _ positive short⟩

theorem small_angle_series_close_five_micro :
    let t : Vec3 ℝ := ⟨3e-6, 4e-6, 0⟩
    let turn : Twist2 ℝ := ⟨1, -2, -5e-6⟩
    t.norm = 5e-6 ∧ t.normSquared < Rotation.smallAngleSquared ∧ |turn.theta| < Twist2.smallAngle ∧
    (∃ a : ℝ, ∃ b : ℝ, Rotation.leftJacobian t = 1 + a * Mat3.skew t + b * Mat3.skew t * Mat3.skew t ∧
      |a - (1 - Real.cos 5e-6) / 5e-6 ^ 2| ≤ 5e-6 ^ 4 / 720) ∧
    |(Twist2.arcCoefficients turn.theta).1 - Real.sin turn.theta / turn.theta| ≤ turn.theta ^ 4 / 120 ∧
    |turn.rightColumn.x - (turn.theta * 1 - -2 + -2 * Real.cos turn.theta - 1 * Real.sin turn.theta) / turn.theta ^ 2| ≤
      (|1| + |-2|) * turn.theta ^ 2 / 24 ∧
    |(Twist3.couplingCoefficients t.normSquared).1 - (5e-6 - Real.sin 5e-6) / 5e-6 ^ 3| ≤ 5e-6 ^ 4 / 5040 := by
  intro t turn
  have squared : t.normSquared = 5e-6 ^ 2 := by norm_num [t, Vec3.normSquared, Vec3.dot]
  have norm : t.norm = 5e-6 := t.norm_of_squared _ (by norm_num) squared
  have turns : t.norm ≠ 0 := by
    rw [norm]
    norm_num
  have short : t.normSquared < Rotation.smallAngleSquared := by
    rw [squared, Rotation.smallAngleSquared]
    norm_num
  have small : |turn.theta| < Twist2.smallAngle := by
    rw [Twist2.smallAngle, abs_lt]
    constructor <;> norm_num [turn]
  obtain ⟨rotation, arc, column, coupling⟩ := small_angle_series_close
  obtain ⟨a, b, _, jacobian, _, near, _⟩ := rotation t turns short
  have coupled := coupling t turns (short.trans_le (by norm_num [Rotation.smallAngleSquared]))
  have back : turn.theta ≠ 0 := by norm_num [turn]
  have beside := column turn back small
  rw [Rotation.closed_coefficients_eq, norm] at near
  rw [Twist3.closed_coupling_coefficients_eq, norm] at coupled
  rw [turn.closed_right_column_eq] at beside
  exact ⟨norm, short, small, ⟨a, b, jacobian, near⟩, (arc _ back small).1, beside.1, coupled.1⟩

end FactorGraph
