import Mathlib
import FactorGraph.Proofs.Lie.Adjoint
import FactorGraph.Proofs.Lie.Pose2RoundTrip

set_option autoImplicit false

namespace FactorGraph

namespace LieGroup

variable (G : Type) {T J : Type} [LieGroup ℝ G T J]

def Inverse (a b : J) : Prop :=
  toBlock (G := G) (multiply G a b) = Block.identity (dimension G) ∧
    toBlock (G := G) (multiply G b a) = Block.identity (dimension G)

-- At `t` the formulas for the inverses of both Jacobians give their inverses.
def JacobiansInvert (t : T) : Prop :=
  Inverse G (leftJacobian (G := G) t) (leftJacobianInverse (G := G) t) ∧
    Inverse G (rightJacobian (G := G) t) (rightJacobianInverse (G := G) t)

end LieGroup

namespace Mat3

theorem to_block_one : (1 : Mat3 ℝ).toBlock = Block.identity 3 := rfl

theorem transpose_mul (a b : Mat3 ℝ) : (a * b).transpose = b.transpose * a.transpose := by
  ext <;> simp only [mul_def, rowMul, transpose, ofColumns, mul_vec_def, Vec3.dot] <;> ring

theorem transpose_one : (1 : Mat3 ℝ).transpose = 1 := rfl

theorem mul_eq_one (a b : Mat3 ℝ) (undoes : ∀ v : Vec3 ℝ, a * (b * v) = v) : a * b = 1 :=
  ext_mul_vec _ _ fun v => by rw [mul_mul_vec, undoes, one_mul_vec]

end Mat3

theorem Mat6.to_block_one : (⟨1, 0, 0, 1⟩ : Mat6 ℝ).toBlock = Block.identity 6 := rfl

namespace Mat6

variable (j k q : Mat3 ℝ) (undoes : ∀ v : Vec3 ℝ, j * (k * v) = v)

include undoes

theorem triangular_mul_inverse : (⟨j, q, 0, j⟩ : Mat6 ℝ) * ⟨k, -k * q * k, 0, k⟩ = ⟨1, 0, 0, 1⟩ := by
  change (⟨j * k + q * 0, j * (-k * q * k) + q * k, 0 * k + j * 0, 0 * (-k * q * k) + j * k⟩ : Mat6 ℝ) = _
  refine Mat6.ext ?_ ?_ ?_ ?_ <;> refine Mat3.ext_mul_vec _ _ fun v => ?_ <;>
    simp only [Mat3.add_mul_vec, Mat3.mul_mul_vec, Mat3.neg_mul_vec, Mat3.mul_vec_neg, Mat3.zero_mul_vec,
      Mat3.mul_vec_zero, Mat3.one_mul_vec, Vec3.neg_zero, Vec3.add_zero, Vec3.zero_add, Vec3.neg_add_self, undoes]

theorem triangular_inverse_mul : (⟨j, -j * q * j, 0, j⟩ : Mat6 ℝ) * ⟨k, q, 0, k⟩ = ⟨1, 0, 0, 1⟩ := by
  change (⟨j * k + -j * q * j * 0, j * q + -j * q * j * k, 0 * k + j * 0, 0 * q + j * k⟩ : Mat6 ℝ) = _
  refine Mat6.ext ?_ ?_ ?_ ?_ <;> refine Mat3.ext_mul_vec _ _ fun v => ?_ <;>
    simp only [Mat3.add_mul_vec, Mat3.mul_mul_vec, Mat3.neg_mul_vec, Mat3.zero_mul_vec, Mat3.mul_vec_zero,
      Mat3.one_mul_vec, Vec3.add_zero, Vec3.zero_add, Vec3.add_neg_self, undoes]

end Mat6

namespace Rotation

variable (t : Vec3 ℝ) (regular : Regular t)

include regular

theorem jacobian_mul_inverse_eq_one : leftJacobian t * leftJacobianInverse t = 1 :=
  Mat3.mul_eq_one _ _ fun v => jacobian_mul_inverse_of_regular t v regular

theorem inverse_mul_jacobian_eq_one : leftJacobianInverse t * leftJacobian t = 1 :=
  Mat3.mul_eq_one _ _ fun v => inverse_mul_jacobian_of_regular t v regular

theorem jacobians_invert : LieGroup.JacobiansInvert (Rotation ℝ) t := by
  have first := jacobian_mul_inverse_eq_one t regular
  have second := inverse_mul_jacobian_eq_one t regular
  have turned (a b : Mat3 ℝ) (undoes : a * b = 1) : b.transpose * a.transpose = 1 := by
    rw [← Mat3.transpose_mul, undoes, Mat3.transpose_one]
  refine ⟨⟨?_, ?_⟩, ?_, ?_⟩
  · exact (congrArg Mat3.toBlock first).trans Mat3.to_block_one
  · exact (congrArg Mat3.toBlock second).trans Mat3.to_block_one
  · exact (congrArg Mat3.toBlock (turned _ _ second)).trans Mat3.to_block_one
  · exact (congrArg Mat3.toBlock (turned _ _ first)).trans Mat3.to_block_one

end Rotation

namespace Twist3

variable (t : Twist3 ℝ) (regular : Rotation.Regular t.theta)

include regular

theorem jacobian_inverse : LieGroup.Inverse (Pose3 ℝ) (leftJacobian t) (leftJacobianInverse t) := by
  have first : leftJacobian t * leftJacobianInverse t = ⟨1, 0, 0, 1⟩ := Mat6.triangular_mul_inverse _ _ _
    fun v => Rotation.jacobian_mul_inverse_of_regular t.theta v regular
  have second : leftJacobianInverse t * leftJacobian t = ⟨1, 0, 0, 1⟩ := Mat6.triangular_inverse_mul _ _ _
    fun v => Rotation.inverse_mul_jacobian_of_regular t.theta v regular
  exact ⟨(congrArg Mat6.toBlock first).trans Mat6.to_block_one, (congrArg Mat6.toBlock second).trans Mat6.to_block_one⟩

end Twist3

theorem Rotation.regular_neg (t : Vec3 ℝ) (regular : Regular t) : Regular (-t) := by
  rwa [Regular, Vec3.norm_squared_neg, Vec3.norm_neg]

theorem Pose3.jacobians_invert (t : Twist3 ℝ) (regular : Rotation.Regular t.theta) :
    LieGroup.JacobiansInvert (Pose3 ℝ) t :=
  ⟨Twist3.jacobian_inverse t regular, Twist3.jacobian_inverse (-t) (Rotation.regular_neg t.theta regular)⟩

namespace Twist2

variable (m : Mat2 ℝ) (v : Vec2 ℝ) (d : ℝ) (determinant : m.r0.x * m.r1.y - m.r0.y * m.r1.x = d)

include determinant

theorem bordered_inverse_eq : borderedInverse m v =
    bordered ⟨⟨m.r1.y / d, -m.r0.y / d⟩, ⟨-m.r1.x / d, m.r0.x / d⟩⟩
      ⟨-(m.r1.y / d * v.x + -m.r0.y / d * v.y), -(-m.r1.x / d * v.x + m.r0.x / d * v.y)⟩ := by
  rw [← determinant]
  rfl

variable (regular : d ≠ 0)

include regular

theorem bordered_mul_inverse : bordered m v * borderedInverse m v = 1 := by
  rw [bordered_inverse_eq m v d determinant, Mat3.one_def]
  ext <;> simp only [bordered, Mat3.mul_def, Mat3.rowMul, Mat3.transpose, Mat3.ofColumns, Mat3.mul_vec_def, Vec3.dot,
    mul_zero, mul_one, zero_mul, add_zero, zero_add] <;> field_simp
  case r0.x => linear_combination determinant
  case r1.y => linear_combination determinant
  case r0.z => linear_combination (-v.x) * determinant
  case r1.z => linear_combination (-v.y) * determinant
  all_goals ring

theorem bordered_inverse_mul : borderedInverse m v * bordered m v = 1 := by
  rw [bordered_inverse_eq m v d determinant, Mat3.one_def]
  ext <;> simp only [bordered, Mat3.mul_def, Mat3.rowMul, Mat3.transpose, Mat3.ofColumns, Mat3.mul_vec_def, Vec3.dot,
    mul_zero, mul_one, zero_mul, add_zero, zero_add] <;> field_simp
  case r0.x => linear_combination determinant
  case r1.y => linear_combination determinant
  all_goals ring

end Twist2

namespace Pose2

theorem versed_ne_zero_of_turns (θ : ℝ) (turns : ∀ k : ℤ, k ≠ 0 → θ ≠ k * (2 * Real.pi)) (nonzero : θ ≠ 0) :
    1 - Real.cos θ ≠ 0 := by
  intro still
  obtain ⟨k, whole⟩ := (Real.cos_eq_one_iff θ).mp (sub_eq_zero.mp still).symm
  refine turns k (fun none => nonzero ?_) whole.symm
  rw [← whole, none, Int.cast_zero, zero_mul]

theorem jacobians_invert (t : Twist2 ℝ) (turns : ∀ k : ℤ, k ≠ 0 → t.theta ≠ k * (2 * Real.pi)) :
    LieGroup.JacobiansInvert (Pose2 ℝ) t := by
  generalize coefficients : Twist2.arcCoefficients t.theta = arc
  obtain ⟨a, b⟩ := arc
  have positive := arc_determinant_pos_of_versed t.theta a b (versed_ne_zero_of_turns t.theta turns) coefficients
  have inverse (m : Mat2 ℝ) (v : Vec2 ℝ) (determinant : m.r0.x * m.r1.y - m.r0.y * m.r1.x = a * a + b * b) :
      LieGroup.Inverse (Pose2 ℝ) (Twist2.bordered m v) (Twist2.borderedInverse m v) :=
    ⟨(congrArg Mat3.toBlock (Twist2.bordered_mul_inverse m v _ determinant positive.ne')).trans Mat3.to_block_one,
      (congrArg Mat3.toBlock (Twist2.bordered_inverse_mul m v _ determinant positive.ne')).trans Mat3.to_block_one⟩
  constructor
  · refine inverse (Twist2.leftArc t.theta) t.leftColumn ?_
    rw [Twist2.leftArc, coefficients]
    ring
  · refine inverse (Twist2.rightArc t.theta) t.rightColumn ?_
    rw [Twist2.rightArc, coefficients]
    ring

end Pose2

/-- Where the angle is zero, or the closed forms hold and its sine is not zero, however many turns it makes, the formulas
for the inverses give the inverses of both Jacobians of a rotation and of a pose of space. For poses of the plane they do at
every angle but a whole number of turns. The coupling block of poses of space may be anything. -/
theorem jacobian_formulas_invert :
    (∀ t : Vec3 ℝ, t.norm = 0 ∨ 1e-10 ≤ t.normSquared ∧ Real.sin t.norm ≠ 0 → LieGroup.JacobiansInvert (Rotation ℝ) t) ∧
    (∀ t : Twist3 ℝ, t.theta.norm = 0 ∨ 1e-10 ≤ t.theta.normSquared ∧ Real.sin t.theta.norm ≠ 0 →
      LieGroup.JacobiansInvert (Pose3 ℝ) t) ∧
    ∀ t : Twist2 ℝ, (∀ k : ℤ, k ≠ 0 → t.theta ≠ k * (2 * Real.pi)) → LieGroup.JacobiansInvert (Pose2 ℝ) t :=
  ⟨Rotation.jacobians_invert, Pose3.jacobians_invert, Pose2.jacobians_invert⟩

-- More than half a turn, a turn between the thresholds of the two series, none, and one that both series take.
theorem jacobian_formulas_invert_past_half_a_turn :
    LieGroup.JacobiansInvert (Rotation ℝ) ⟨0, 0, 4⟩ ∧ LieGroup.JacobiansInvert (Pose3 ℝ) ⟨⟨1, 0, 2⟩, ⟨0, 0, 4⟩⟩ ∧
    LieGroup.JacobiansInvert (Pose3 ℝ) ⟨⟨1, 0, 2⟩, ⟨0, 0, 1 / 1000⟩⟩ ∧ LieGroup.JacobiansInvert (Pose3 ℝ) ⟨⟨1, 0, 2⟩, 0⟩ ∧
    LieGroup.JacobiansInvert (Pose2 ℝ) ⟨3, -1, 5⟩ ∧ LieGroup.JacobiansInvert (Pose2 ℝ) ⟨3, -1, 1 / 100000⟩ := by
  have above := Real.pi_gt_three
  have below := Real.pi_lt_four
  have regular (a : ℝ) (long : 1 / 1000 ≤ a) (turns : Real.sin a ≠ 0) : (⟨0, 0, a⟩ : Vec3 ℝ).norm = 0 ∨
      1e-10 ≤ (⟨0, 0, a⟩ : Vec3 ℝ).normSquared ∧ Real.sin (⟨0, 0, a⟩ : Vec3 ℝ).norm ≠ 0 := by
    have square : (⟨0, 0, a⟩ : Vec3 ℝ).normSquared = a * a := by simp [Vec3.normSquared, Vec3.dot]
    have length : (⟨0, 0, a⟩ : Vec3 ℝ).norm = a :=
      (congrArg Real.sqrt square).trans (Real.sqrt_mul_self (by linarith))
    rw [length, square]
    exact .inr ⟨by nlinarith, turns⟩
  have far : Real.sin 4 ≠ 0 := by
    rw [← Real.sin_sub_two_pi]
    exact (Real.sin_neg_of_neg_of_neg_pi_lt (by linarith) (by linarith)).ne
  have near : Real.sin (1 / 1000) ≠ 0 := (Real.sin_pos_of_pos_of_lt_pi (by norm_num) (by linarith)).ne'
  have turns (a : ℝ) (positive : 0 < a) (less : a < 6) (k : ℤ) (_ : k ≠ 0) : a ≠ k * (2 * Real.pi) := by
    intro whole
    have forward : (0 : ℝ) < k := pos_of_mul_pos_left (whole ▸ positive) Real.two_pi_pos.le
    have once : (1 : ℝ) ≤ k := by exact_mod_cast Int.cast_pos.mp forward
    nlinarith
  obtain ⟨rotation, space, plane⟩ := jacobian_formulas_invert
  exact ⟨rotation _ (regular 4 (by norm_num) far), space _ (regular 4 (by norm_num) far),
    space _ (regular _ le_rfl near), space _ (.inl Vec3.norm_zero), plane _ (turns 5 (by norm_num) (by norm_num)),
    plane _ (turns _ (by norm_num) (by norm_num))⟩

end FactorGraph
