import Mathlib
import FactorGraph.Proofs.Lie.Motion

set_option autoImplicit false

namespace FactorGraph

namespace Vec3

-- Two orthogonal axes of length one, as the first and the third of a frame.
structure Orthonormal (x z : Vec3 ℝ) : Prop where
  first : x.dot x = 1
  third : z.dot z = 1
  square : x.dot z = 0

theorem dot_comm (a b : Vec3 ℝ) : a.dot b = b.dot a := by
  simp only [dot]
  ring

theorem dot_cross_self (a b : Vec3 ℝ) : b.dot (a.cross b) = 0 := by
  simp only [dot, cross]
  ring

theorem cross_dot_self (a b : Vec3 ℝ) : (a.cross b).dot b = 0 := by rw [dot_comm, dot_cross_self]

end Vec3

namespace Mat3

theorem transpose_mul_vec_dot (m : Mat3 ℝ) (a b : Vec3 ℝ) : (m.transpose * a).dot b = a.dot (m * b) := by
  simp only [mul_vec_def, transpose, ofColumns, Vec3.dot]
  ring

theorem of_columns_mul_unit (m : Mat3 ℝ) :
    ofColumns (m * (⟨1, 0, 0⟩ : Vec3 ℝ)) (m * (⟨0, 1, 0⟩ : Vec3 ℝ)) (m * (⟨0, 0, 1⟩ : Vec3 ℝ)) = m := by
  ext <;> simp [ofColumns, mul_vec_def, Vec3.dot]

end Mat3

namespace Quat

theorem mul_transpose_matrix (q : Quat ℝ) (unit : q.Unit) : q.toMatrix * q.toMatrix.transpose = 1 := by
  have opposite := transpose_mul_matrix q.conjugate (unit_conjugate q unit)
  rwa [to_matrix_conjugate] at opposite

theorem exists_to_third (z : Vec3 ℝ) (unit : z.dot z = 1) :
    ∃ q : Quat ℝ, q.Unit ∧ q.toMatrix * (⟨0, 0, 1⟩ : Vec3 ℝ) = z := by
  have squares : z.x * z.x + z.y * z.y + z.z * z.z = 1 := unit
  by_cases opposite : 1 + z.z = 0
  · have down : z.z = -1 := by linarith
    have still : z.x = 0 ∧ z.y = 0 := by
      rw [down] at squares
      exact ⟨mul_self_eq_zero.mp (by nlinarith [mul_self_nonneg z.x, mul_self_nonneg z.y]),
        mul_self_eq_zero.mp (by nlinarith [mul_self_nonneg z.x, mul_self_nonneg z.y])⟩
    refine ⟨⟨0, 1, 0, 0⟩, by norm_num [Unit], ?_⟩
    ext <;> simp [toMatrix, Mat3.mul_vec_def, Vec3.dot, down, still]
  · have positive : 0 < (1 + z.z) / 2 := by
      have below : -1 ≤ z.z := by nlinarith [mul_self_nonneg z.x, mul_self_nonneg z.y]
      have apart : 0 < 1 + z.z := lt_of_le_of_ne (by linarith) (Ne.symm opposite)
      linarith
    have half : Real.sqrt ((1 + z.z) / 2) * Real.sqrt ((1 + z.z) / 2) = (1 + z.z) / 2 := Real.mul_self_sqrt positive.le
    have nonzero := (Real.sqrt_pos.mpr positive).ne'
    generalize Real.sqrt ((1 + z.z) / 2) = c at half nonzero
    refine ⟨⟨c, -z.y / (2 * c), z.x / (2 * c), 0⟩, ?_, ?_⟩
    · rw [Unit]
      field_simp
      linear_combination squares + (4 * c ^ 2 + 2 * z.z - 2) * half
    · ext <;> simp only [toMatrix, Mat3.mul_vec_def, Vec3.dot, literal_two] <;> field_simp
      · ring
      · ring
      · linear_combination -squares + (4 * c ^ 2 - 2 * z.z + 2) * half

theorem exists_about_third (c s : ℝ) (circle : c * c + s * s = 1) :
    ∃ q : Quat ℝ, q.Unit ∧ q.toMatrix * (⟨1, 0, 0⟩ : Vec3 ℝ) = ⟨c, s, 0⟩ ∧
      q.toMatrix * (⟨0, 0, 1⟩ : Vec3 ℝ) = ⟨0, 0, 1⟩ := by
  have turn : (Turn.mk c s).Unit := circle
  have cosine := Turn.cos_angle _ turn
  have sine := Turn.sin_angle _ turn
  obtain ⟨half, twice⟩ : ∃ half, (Turn.mk c s).angle = 2 * half := ⟨(Turn.mk c s).angle / 2, by ring⟩
  rw [twice, Real.cos_two_mul] at cosine
  rw [twice, Real.sin_two_mul] at sine
  have squares := Real.sin_sq_add_cos_sq half
  refine ⟨⟨Real.cos half, 0, 0, Real.sin half⟩, ?_, ?_, ?_⟩
  · rw [Unit]
    linear_combination squares
  · dsimp only at cosine sine
    ext <;> simp only [toMatrix, Mat3.mul_vec_def, Vec3.dot, literal_two]
    · linear_combination cosine - squares
    · linear_combination sine
    · ring
  · ext <;> simp [toMatrix, Mat3.mul_vec_def, Vec3.dot, literal_two]
    linear_combination squares

variable (x z : Vec3 ℝ) (frame : x.Orthonormal z)

include frame

theorem exists_frame : ∃ q : Quat ℝ, q.Unit ∧ q.toMatrix = Mat3.ofColumns x (z.cross x) z := by
  obtain ⟨p, unit, axis⟩ := exists_to_third z frame.third
  -- Seen from the turned frame, the first axis lies across the third unit vector.
  obtain ⟨across, length⟩ : (p.toMatrix.transpose * x).z = 0 ∧
      (p.toMatrix.transpose * x).dot (p.toMatrix.transpose * x) = 1 := by
    constructor
    · have along := Mat3.transpose_mul_vec_dot p.toMatrix x ⟨0, 0, 1⟩
      rw [axis, frame.square] at along
      simpa [Vec3.dot] using along
    · rw [Mat3.transpose_mul_vec_dot, ← Mat3.mul_mul_vec, mul_transpose_matrix p unit, Mat3.one_mul_vec, frame.first]
  have back : p.toMatrix * (p.toMatrix.transpose * x) = x := by
    rw [← Mat3.mul_mul_vec, mul_transpose_matrix p unit, Mat3.one_mul_vec]
  generalize p.toMatrix.transpose * x = u at across length back
  obtain ⟨r, about, first, third⟩ := exists_about_third u.x u.y (by simpa [Vec3.dot, across] using length)
  have whole := unit_mul p r unit about
  have toFirst : (p * r).toMatrix * (⟨1, 0, 0⟩ : Vec3 ℝ) = x := by
    rw [to_matrix_mul, Mat3.mul_mul_vec, first, ← across, back]
  have toThird : (p * r).toMatrix * (⟨0, 0, 1⟩ : Vec3 ℝ) = z := by
    rw [to_matrix_mul, Mat3.mul_mul_vec, third, axis]
  have second : (⟨0, 1, 0⟩ : Vec3 ℝ) = (⟨0, 0, 1⟩ : Vec3 ℝ).cross ⟨1, 0, 0⟩ := by
    ext <;> simp [Vec3.cross]
  refine ⟨p * r, whole, ?_⟩
  rw [← Mat3.of_columns_mul_unit (p * r).toMatrix, second, to_matrix_mul_cross _ whole, toFirst, toThird]

theorem of_matrix_frame : (ofMatrix (Mat3.ofColumns x (z.cross x) z)).Unit ∧
    (ofMatrix (Mat3.ofColumns x (z.cross x) z)).toMatrix = Mat3.ofColumns x (z.cross x) z := by
  obtain ⟨q, unit, columns⟩ := exists_frame x z frame
  rw [← columns]
  rcases q.of_matrix_to_matrix unit with same | opposite
  · rw [same]
    exact ⟨unit, rfl⟩
  · rw [opposite]
    exact ⟨unit_neg q unit, to_matrix_neg q⟩

end Quat

end FactorGraph
