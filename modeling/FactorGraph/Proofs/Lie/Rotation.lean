import Mathlib
import FactorGraph.Lie.Pose3
import FactorGraph.Proofs.Components
import FactorGraph.Proofs.Exact

set_option autoImplicit false

namespace FactorGraph

attribute [ext] Quat Rotation

theorem literal_two : (2.0 : ℝ) = 2 := by norm_num

theorem literal_half : (0.5 : ℝ) = 1 / 2 := by norm_num

namespace Vec3

theorem norm_nonneg (a : Vec3 ℝ) : 0 ≤ a.norm := Real.sqrt_nonneg _

theorem dot_self_nonneg (a : Vec3 ℝ) : 0 ≤ a.dot a :=
  add_nonneg (add_nonneg (mul_self_nonneg _) (mul_self_nonneg _)) (mul_self_nonneg _)

theorem norm_mul_self (a : Vec3 ℝ) : a.norm * a.norm = a.normSquared := Real.mul_self_sqrt a.dot_self_nonneg

theorem norm_of_squared (a : Vec3 ℝ) (length : ℝ) (nonneg : 0 ≤ length) (squared : a.normSquared = length ^ 2) :
    a.norm = length :=
  (congrArg Real.sqrt squared).trans (Real.sqrt_sq nonneg)

theorem norm_squared_zero : (0 : Vec3 ℝ).normSquared = 0 := by simp [normSquared, dot]

theorem norm_zero : (0 : Vec3 ℝ).norm = 0 := (congrArg Real.sqrt norm_squared_zero).trans Real.sqrt_zero

theorem norm_squared_smul (s : ℝ) (a : Vec3 ℝ) : (s * a).normSquared = s ^ 2 * a.normSquared := by
  simp only [smul_def, normSquared, dot]
  ring

theorem eq_zero_of_norm (a : Vec3 ℝ) (still : a.norm = 0) : a = 0 := by
  have squares : a.x * a.x + a.y * a.y + a.z * a.z = 0 := by
    rw [← mul_zero a.norm, ← still]
    exact (norm_mul_self a).symm
  ext
  · exact mul_self_eq_zero.mp (by nlinarith [mul_self_nonneg a.x, mul_self_nonneg a.y, mul_self_nonneg a.z])
  · exact mul_self_eq_zero.mp (by nlinarith [mul_self_nonneg a.x, mul_self_nonneg a.y, mul_self_nonneg a.z])
  · exact mul_self_eq_zero.mp (by nlinarith [mul_self_nonneg a.x, mul_self_nonneg a.y, mul_self_nonneg a.z])

theorem norm_squared_neg (a : Vec3 ℝ) : (-a).normSquared = a.normSquared := by
  simp only [neg_def, normSquared, dot]
  ring

theorem norm_neg (a : Vec3 ℝ) : (-a).norm = a.norm := congrArg Real.sqrt (norm_squared_neg a)

theorem sub_zero (a : Vec3 ℝ) : a - 0 = a := by
  ext <;> simp [sub_def]

theorem add_zero (a : Vec3 ℝ) : a + 0 = a := by
  ext <;> simp [add_def]

theorem zero_add (a : Vec3 ℝ) : 0 + a = a := by
  ext <;> simp [add_def]

theorem add_assoc (a b c : Vec3 ℝ) : a + b + c = a + (b + c) := by
  ext <;> simp only [add_def] <;> ring

theorem add_sub_self (a b : Vec3 ℝ) : a + b - b = a := by
  ext <;> simp [add_def, sub_def]

theorem add_neg_self (a : Vec3 ℝ) : a + -a = 0 := by
  ext <;> simp [add_def, neg_def]

theorem neg_add_self (a : Vec3 ℝ) : -a + a = 0 := by
  ext <;> simp [add_def, neg_def]

theorem neg_zero : -(0 : Vec3 ℝ) = 0 := by
  ext <;> simp [neg_def]

theorem add_neg_eq_sub (a b : Vec3 ℝ) : a + -b = a - b := by
  ext <;> simp only [add_def, neg_def, sub_def] <;> ring

theorem neg_add_neg (a b : Vec3 ℝ) : -a + -b = -(a + b) := by
  ext <;> simp only [add_def, neg_def] <;> ring

theorem zero_sub (a : Vec3 ℝ) : 0 - a = -a := by
  ext <;> simp [sub_def, neg_def]

theorem zero_dot (a : Vec3 ℝ) : (0 : Vec3 ℝ).dot a = 0 := by
  simp [dot]

theorem cross_zero (a : Vec3 ℝ) : a.cross 0 = 0 := by
  ext <;> simp [cross]

theorem zero_cross (a : Vec3 ℝ) : (0 : Vec3 ℝ).cross a = 0 := by
  ext <;> simp [cross]

end Vec3

namespace Mat3

theorem mul_vec_zero (m : Mat3 ℝ) : m * (0 : Vec3 ℝ) = 0 := by
  ext <;> simp [mul_vec_def, Vec3.dot]

theorem mul_vec_add (m : Mat3 ℝ) (u v : Vec3 ℝ) : m * (u + v) = m * u + m * v := by
  ext <;> simp only [mul_vec_def, Vec3.dot, Vec3.add_def] <;> ring

theorem mul_vec_sub (m : Mat3 ℝ) (u v : Vec3 ℝ) : m * (u - v) = m * u - m * v := by
  ext <;> simp only [mul_vec_def, Vec3.dot, Vec3.sub_def] <;> ring

theorem add_mul_vec (m n : Mat3 ℝ) (v : Vec3 ℝ) : (m + n) * v = m * v + n * v := by
  ext <;> simp only [mul_vec_def, Vec3.dot, add_def, Vec3.add_def] <;> ring

theorem mul_vec_neg (m : Mat3 ℝ) (v : Vec3 ℝ) : m * -v = -(m * v) := by
  ext <;> simp only [mul_vec_def, Vec3.dot, Vec3.neg_def] <;> ring

theorem neg_mul_vec (m : Mat3 ℝ) (v : Vec3 ℝ) : -m * v = -(m * v) := by
  ext <;> simp only [mul_vec_def, neg_def, Vec3.dot, Vec3.neg_def] <;> ring

theorem mul_mul_vec (a b : Mat3 ℝ) (v : Vec3 ℝ) : a * b * v = a * (b * v) := by
  ext <;> simp only [mul_def, rowMul, transpose, ofColumns, mul_vec_def, Vec3.dot] <;> ring

theorem zero_mul_vec (v : Vec3 ℝ) : (0 : Mat3 ℝ) * v = 0 := by
  ext <;> simp [mul_vec_def, zero_def, Vec3.dot]

theorem skew_mul_vec (a v : Vec3 ℝ) : skew a * v = a.cross v := by
  ext <;> simp only [skew, mul_vec_def, Vec3.dot, Vec3.cross] <;> ring

theorem one_mul_vec (v : Vec3 ℝ) : (1 : Mat3 ℝ) * v = v := by
  rw [one_def]
  ext <;> simp [mul_vec_def, Vec3.dot]

end Mat3

namespace Quat

theorem one_def : (1 : Quat ℝ) = ⟨1, 0, 0, 0⟩ := rfl

theorem neg_def (q : Quat ℝ) : -q = ⟨-q.w, -q.x, -q.y, -q.z⟩ := rfl

theorem mul_def {α : Type} [Scalar α] (p q : Quat α) :
    p * q =
      ⟨p.w * q.w - p.x * q.x - p.y * q.y - p.z * q.z, p.w * q.x + p.x * q.w + p.y * q.z - p.z * q.y,
       p.w * q.y - p.x * q.z + p.y * q.w + p.z * q.x, p.w * q.z + p.x * q.y - p.y * q.x + p.z * q.w⟩ := rfl

def Unit (q : Quat ℝ) : Prop := q.w * q.w + q.x * q.x + q.y * q.y + q.z * q.z = 1

theorem unit_one : (1 : Quat ℝ).Unit := by
  rw [Unit, one_def]
  norm_num

theorem unit_neg (q : Quat ℝ) (unit : q.Unit) : (-q).Unit := by
  rw [Unit] at unit ⊢
  simp only [neg_def]
  linarith

theorem unit_conjugate (q : Quat ℝ) (unit : q.Unit) : q.conjugate.Unit := by
  rw [Unit] at unit ⊢
  simp only [conjugate]
  linarith

theorem unit_mul (p q : Quat ℝ) (first : p.Unit) (second : q.Unit) : (p * q).Unit := by
  rw [Unit] at first second ⊢
  simp only [mul_def]
  linear_combination (q.w * q.w + q.x * q.x + q.y * q.y + q.z * q.z) * first + second

theorem to_matrix_one : (1 : Quat ℝ).toMatrix = 1 := by
  rw [one_def, Mat3.one_def]
  ext <;> norm_num [toMatrix]

theorem to_matrix_neg (q : Quat ℝ) : (-q).toMatrix = q.toMatrix := by
  ext <;> simp only [toMatrix, neg_def, literal_two] <;> ring

theorem to_matrix_conjugate (q : Quat ℝ) : q.conjugate.toMatrix = q.toMatrix.transpose := by
  ext <;> simp only [toMatrix, conjugate, Mat3.transpose, Mat3.ofColumns, literal_two] <;> ring

theorem to_matrix_mul (p q : Quat ℝ) : (p * q).toMatrix = p.toMatrix * q.toMatrix := by
  ext <;> simp only [toMatrix, mul_def, Mat3.mul_def, Mat3.rowMul, Mat3.mul_vec_def, Mat3.transpose, Mat3.ofColumns,
    Vec3.dot, literal_two] <;> ring

theorem rotate_eq_mul (q : Quat ℝ) (unit : q.Unit) (v : Vec3 ℝ) : q.rotate v = q.toMatrix * v := by
  rw [Unit] at unit
  ext <;> simp only [rotate, toMatrix, imaginary, Vec3.cross, Vec3.smul_def, Vec3.add_def, Mat3.mul_vec_def, Vec3.dot, literal_two]
  · linear_combination (-v.x) * unit
  · linear_combination (-v.y) * unit
  · linear_combination (-v.z) * unit

theorem to_matrix_mul_cross (q : Quat ℝ) (unit : q.Unit) (a b : Vec3 ℝ) :
    q.toMatrix * a.cross b = (q.toMatrix * a).cross (q.toMatrix * b) := by
  have homogeneous : (q.toMatrix * a).cross (q.toMatrix * b) =
      (q.w * q.w + q.x * q.x + q.y * q.y + q.z * q.z) * (q.toMatrix * a.cross b) := by
    ext <;> simp only [toMatrix, Vec3.cross, Vec3.smul_def, Mat3.mul_vec_def, Vec3.dot, literal_two] <;> ring
  rw [homogeneous, unit]
  ext <;> simp [Vec3.smul_def]

theorem conjugate_mul_imaginary (q : Quat ℝ) (u : Vec3 ℝ) :
    q.conjugate * (ofParts 0 u * q) = ofParts 0 (q.conjugate.toMatrix * u) := by
  ext <;> simp only [ofParts, conjugate, mul_def, toMatrix, Mat3.mul_vec_def, Vec3.dot, literal_two] <;> ring

theorem conjugate_one : (1 : Quat ℝ).conjugate = 1 := by
  ext <;> simp [one_def, conjugate]

theorem one_mul_self (q : Quat ℝ) : 1 * q = q := by
  ext <;> simp [one_def, mul_def]

theorem mul_assoc_self (p q r : Quat ℝ) : p * q * r = p * (q * r) := by
  ext <;> simp only [mul_def] <;> ring

theorem conjugate_mul_self (q : Quat ℝ) (unit : q.Unit) : q.conjugate * q = 1 := by
  rw [Unit] at unit
  rw [one_def]
  ext <;> simp only [conjugate, mul_def]
  · linear_combination unit
  all_goals ring

theorem transpose_mul_matrix (q : Quat ℝ) (unit : q.Unit) : q.toMatrix.transpose * q.toMatrix = 1 := by
  rw [← to_matrix_conjugate, ← to_matrix_mul, conjugate_mul_self q unit, to_matrix_one]

end Quat

namespace Pose3

def Unit (p : Pose3 ℝ) : Prop := p.rotation.quat.Unit

theorem transform_to_eq (p : Pose3 ℝ) (unit : p.Unit) (v : Vec3 ℝ) :
    p.transformTo v = p.rotation.toMatrix.transpose * (v - p.position) := by
  rw [Rotation.toMatrix, ← Quat.to_matrix_conjugate]
  exact Quat.rotate_eq_mul _ (Quat.unit_conjugate _ unit) _

end Pose3

end FactorGraph
