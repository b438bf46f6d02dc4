import Mathlib
import FactorGraph.Proofs.Lie.Group
import FactorGraph.Proofs.Lie.Logarithm

set_option autoImplicit false

namespace FactorGraph

attribute [ext] Pose3 Twist3

theorem Quat.still_one : (1 : Quat ℝ).imaginary.norm = 0 := by
  change Real.sqrt (0 * 0 + 0 * 0 + 0 * 0) = 0
  norm_num

namespace Pose3

theorem mul_eq (a b : Pose3 ℝ) (unit : a.Unit) :
    a * b = ⟨⟨a.rotation.quat * b.rotation.quat⟩, a.rotation.toMatrix * b.position + a.position⟩ :=
  congrArg (fun v => (⟨⟨a.rotation.quat * b.rotation.quat⟩, v + a.position⟩ : Pose3 ℝ))
    (Quat.rotate_eq_mul _ unit _)

theorem inv_eq (a : Pose3 ℝ) (unit : a.Unit) :
    a⁻¹ = ⟨⟨a.rotation.quat.conjugate⟩, -(a.rotation.quat.conjugate.toMatrix * a.position)⟩ :=
  congrArg (fun v => (⟨⟨a.rotation.quat.conjugate⟩, -v⟩ : Pose3 ℝ))
    (Quat.rotate_eq_mul _ (Quat.unit_conjugate _ unit) _)

theorem unit_mul (a b : Pose3 ℝ) (first : a.Unit) (second : b.Unit) : (a * b).Unit := Quat.unit_mul _ _ first second

theorem unit_inv (a : Pose3 ℝ) (unit : a.Unit) : a⁻¹.Unit := Quat.unit_conjugate _ unit

theorem unit_one : (1 : Pose3 ℝ).Unit := Quat.unit_one

theorem one_mul_self (a : Pose3 ℝ) : 1 * a = a := by
  rw [mul_eq _ _ unit_one]
  refine Pose3.ext (Rotation.ext (Quat.one_mul_self _)) ?_
  change (1 : Quat ℝ).toMatrix * a.position + 0 = a.position
  rw [Quat.to_matrix_one, Mat3.one_mul_vec, Vec3.add_zero]

theorem inv_mul_self (a : Pose3 ℝ) (unit : a.Unit) : a⁻¹ * a = 1 := by
  rw [mul_eq _ _ (unit_inv a unit), inv_eq a unit]
  refine Pose3.ext (Rotation.ext (Quat.conjugate_mul_self _ unit)) ?_
  exact Vec3.add_neg_self _

theorem mul_assoc_self (a b c : Pose3 ℝ) (first : a.Unit) (second : b.Unit) : a * b * c = a * (b * c) := by
  rw [mul_eq _ _ (unit_mul a b first second), mul_eq a b first, mul_eq a _ first, mul_eq b c second]
  refine Pose3.ext (Rotation.ext (Quat.mul_assoc_self _ _ _)) ?_
  change (a.rotation.quat * b.rotation.quat).toMatrix * c.position +
      (a.rotation.quat.toMatrix * b.position + a.position) =
    a.rotation.quat.toMatrix * (b.rotation.quat.toMatrix * c.position + b.position) + a.position
  rw [Quat.to_matrix_mul, Mat3.mul_mul_vec, ← Vec3.add_assoc, ← Mat3.mul_vec_add]

theorem laws : GroupOn Unit where
  unit_one := unit_one
  unit_mul := unit_mul
  unit_inv := unit_inv
  one_mul a _ := one_mul_self a
  mul_assoc a b c first second _ := mul_assoc_self a b c first second
  inv_mul := inv_mul_self

theorem log_one : log (1 : Pose3 ℝ) = ⟨0, 0⟩ := by
  refine Twist3.ext ?_ (Quat.scaled_axis_of_still 1 Quat.still_one)
  exact Mat3.mul_vec_zero _

end Pose3

end FactorGraph
