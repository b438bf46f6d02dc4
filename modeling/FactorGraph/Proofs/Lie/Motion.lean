import Mathlib
import FactorGraph.Proofs.Lie.Pose2
import FactorGraph.Proofs.Lie.RotationRoundTrip

set_option autoImplicit false

open Matrix

namespace FactorGraph

section Motions

variable {G P : Type} [One G] [Mul G] [Inv G]

structure Motions (Unit : G → Prop) (move : G → P → P) : Prop extends GroupOn Unit where
  mul_one : ∀ a, Unit a → a * 1 = a
  mul_inv : ∀ a, Unit a → a * a⁻¹ = 1
  one_move : ∀ p, move 1 p = p
  mul_move : ∀ a b p, Unit a → Unit b → move (a * b) p = move a (move b p)

theorem GroupOn.motions {Unit : G → Prop} (laws : GroupOn Unit) (move : G → P → P) (one_move : ∀ p, move 1 p = p)
    (mul_move : ∀ a b p, Unit a → Unit b → move (a * b) p = move a (move b p)) : Motions Unit move where
  toGroupOn := laws
  mul_one := laws.mul_one
  mul_inv := laws.mul_inv
  one_move := one_move
  mul_move := mul_move

namespace Motions

variable {Unit : G → Prop} {move : G → P → P} (motions : Motions Unit move) (a : G) (unit : Unit a) (p : P)

include motions unit

theorem inv_move_move : move a⁻¹ (move a p) = p := by
  rw [← motions.mul_move _ _ _ (motions.unit_inv a unit) unit, motions.inv_mul a unit, motions.one_move]

theorem move_inv_move : move a (move a⁻¹ p) = p := by
  rw [← motions.mul_move _ _ _ unit (motions.unit_inv a unit), motions.mul_inv a unit, motions.one_move]

end Motions

end Motions

def squareOf (n : ℕ) (rows : List (List ℝ)) : Matrix (Fin n) (Fin n) ℝ := .of fun i => vector n (rows[i.val]?.getD [])

namespace Mat3

variable (a b : Mat3 ℝ)

theorem square_entries :
    squareOf 3 a.toRows = !![a.r0.x, a.r0.y, a.r0.z; a.r1.x, a.r1.y, a.r1.z; a.r2.x, a.r2.y, a.r2.z] := by
  ext i j
  fin_cases i <;> fin_cases j <;> rfl

theorem square_mul : squareOf 3 (a * b).toRows = squareOf 3 a.toRows * squareOf 3 b.toRows := by
  rw [square_entries, square_entries, square_entries, mul_fin_three]
  simp only [mul_def, rowMul, Mat3.transpose, ofColumns, mul_vec_def, Vec3.dot]
  ext i j
  fin_cases i <;> fin_cases j <;> simp <;> ring

theorem square_transpose : squareOf 3 a.transpose.toRows = (squareOf 3 a.toRows)ᵀ := by
  rw [square_entries, square_entries]
  ext i j
  fin_cases i <;> fin_cases j <;> rfl

theorem square_one : squareOf 3 (1 : Mat3 ℝ).toRows = 1 := by
  rw [square_entries, one_def, one_fin_three]

theorem square_mul_vec (v : Vec3 ℝ) : squareOf 3 a.toRows *ᵥ vector 3 v.toList = vector 3 (a * v).toList := by
  rw [square_entries]
  funext i
  fin_cases i <;> simp [mulVec, dotProduct, vector, Fin.sum_univ_succ, mul_vec_def, Vec3.dot, Vec3.toList] <;> ring

end Mat3

namespace Rotation

variable (r : Rotation ℝ) (unit : r.Unit)

include unit

theorem act_eq_mul (v : Vec3 ℝ) : r.act v = r.toMatrix * v := Quat.rotate_eq_mul _ unit v

theorem act_matrix (v : Vec3 ℝ) : vector 3 (r.act v).toList = squareOf 3 r.toMatrix.toRows *ᵥ vector 3 v.toList := by
  rw [act_eq_mul r unit, Mat3.square_mul_vec]

theorem det_matrix : (squareOf 3 r.toMatrix.toRows).det = 1 := by
  have unit : r.quat.w * r.quat.w + r.quat.x * r.quat.x + r.quat.y * r.quat.y + r.quat.z * r.quat.z = 1 := unit
  -- The determinant is the cube of the squared norm.
  have cube : (squareOf 3 r.toMatrix.toRows).det =
      (r.quat.w * r.quat.w + r.quat.x * r.quat.x + r.quat.y * r.quat.y + r.quat.z * r.quat.z) ^ 3 := by
    rw [Mat3.square_entries, det_fin_three]
    simp only [toMatrix, Quat.toMatrix, literal_two, of_apply, cons_val', cons_val_zero, cons_val_one, cons_val]
    ring
  rw [cube, unit, one_pow]

theorem proper : squareOf 3 r.toMatrix.toRows ∈ specialOrthogonalGroup (Fin 3) ℝ := by
  rw [mem_specialOrthogonalGroup_iff, mem_orthogonalGroup_iff']
  refine ⟨?_, det_matrix r unit⟩
  rw [← Mat3.square_transpose, ← Mat3.square_mul, ← Mat3.square_one]
  exact congrArg (fun m : Mat3 ℝ => squareOf 3 m.toRows) (r.quat.transpose_mul_matrix unit)

end Rotation

theorem Rotation.matrix_mul (a b : Rotation ℝ) :
    squareOf 3 (a * b).toMatrix.toRows = squareOf 3 a.toMatrix.toRows * squareOf 3 b.toMatrix.toRows :=
  (congrArg (fun m : Mat3 ℝ => squareOf 3 m.toRows) (Quat.to_matrix_mul a.quat b.quat)).trans (Mat3.square_mul _ _)

theorem Rotation.mul_act (a b : Rotation ℝ) (v : Vec3 ℝ) (first : a.Unit) (second : b.Unit) :
    (a * b).act v = a.act (b.act v) := by
  rw [act_eq_mul _ (laws.unit_mul a b first second), act_eq_mul a first, act_eq_mul b second, ← Mat3.mul_mul_vec]
  exact congrArg (· * v) (Quat.to_matrix_mul a.quat b.quat)

theorem Rotation.one_act (v : Vec3 ℝ) : (1 : Rotation ℝ).act v = v := by
  rw [act_eq_mul 1 laws.unit_one]
  exact (congrArg (· * v) Quat.to_matrix_one).trans (Mat3.one_mul_vec v)

theorem Rotation.motions : Motions Rotation.Unit Rotation.act :=
  laws.motions act one_act mul_act

namespace Turn

variable (r : Turn ℝ)

theorem square_entries : squareOf 2 r.toMatrix.toRows = !![r.cos, -r.sin; r.sin, r.cos] := by
  ext i j
  fin_cases i <;> fin_cases j <;> rfl

theorem act_matrix (v : Vec2 ℝ) : vector 2 (r.act v).toList = squareOf 2 r.toMatrix.toRows *ᵥ vector 2 v.toList := by
  rw [square_entries]
  funext i
  fin_cases i <;> simp [mulVec, dotProduct, vector, act, Vec2.toList]
  ring

theorem proper (unit : r.Unit) : squareOf 2 r.toMatrix.toRows ∈ specialOrthogonalGroup (Fin 2) ℝ := by
  rw [Unit] at unit
  have orthogonal : !![r.cos, -r.sin; r.sin, r.cos]ᵀ * !![r.cos, -r.sin; r.sin, r.cos] = 1 := by
    ext i j
    fin_cases i <;> fin_cases j <;> simp [mul_apply, Fin.sum_univ_two] <;> linarith
  rw [mem_specialOrthogonalGroup_iff, mem_orthogonalGroup_iff', square_entries, det_fin_two_of]
  refine ⟨orthogonal, ?_⟩
  linear_combination unit

end Turn

namespace Pose2

theorem one_transform (v : Vec2 ℝ) : (1 : Pose2 ℝ).transformFrom v = v := by
  ext <;> simp [transformFrom, one_def, Turn.act, Vec2.add_def]

theorem mul_transform (a b : Pose2 ℝ) (v : Vec2 ℝ) :
    (a * b).transformFrom v = a.transformFrom (b.transformFrom v) := by
  ext <;> simp only [transformFrom, mul_def, Turn.act, Vec2.add_def] <;> ring

theorem motions : Motions Pose2.Unit Pose2.transformFrom :=
  laws.motions transformFrom one_transform fun a b v _ _ => mul_transform a b v

theorem square_entries (p : Pose2 ℝ) : squareOf 3 p.toMatrix.toRows =
    !![p.turn.cos, -p.turn.sin, p.position.x; p.turn.sin, p.turn.cos, p.position.y; 0, 0, 1] := by
  rw [Mat3.square_entries]
  rfl

theorem matrix_mul (a b : Pose2 ℝ) :
    squareOf 3 (a * b).toMatrix.toRows = squareOf 3 a.toMatrix.toRows * squareOf 3 b.toMatrix.toRows := by
  rw [square_entries, square_entries, square_entries, mul_fin_three, mul_def]
  ext i j
  fin_cases i <;> fin_cases j <;> simp <;> ring

end Pose2

namespace Pose3

theorem one_transform (v : Vec3 ℝ) : (1 : Pose3 ℝ).transformFrom v = v :=
  (Vec3.add_zero _).trans (Rotation.one_act v)

theorem mul_transform (a b : Pose3 ℝ) (v : Vec3 ℝ) (first : a.Unit) (second : b.Unit) :
    (a * b).transformFrom v = a.transformFrom (b.transformFrom v) := by
  have turned : (a * b).rotation.act v = a.rotation.act (b.rotation.act v) :=
    Rotation.mul_act a.rotation b.rotation v first second
  have moved : (a * b).position = a.rotation.act b.position + a.position := rfl
  rw [transformFrom, transformFrom, transformFrom, turned, moved]
  rw [Rotation.act_eq_mul a.rotation first, Rotation.act_eq_mul a.rotation first, Rotation.act_eq_mul a.rotation first,
    Mat3.mul_vec_add, Vec3.add_assoc]

theorem motions : Motions Pose3.Unit Pose3.transformFrom :=
  laws.motions transformFrom one_transform mul_transform

theorem transform_to_eq_inv (p : Pose3 ℝ) (unit : p.Unit) (v : Vec3 ℝ) : p.transformTo v = p⁻¹.transformFrom v := by
  have inverse := Rotation.laws.unit_inv p.rotation unit
  have position : p⁻¹.position = -p.rotation⁻¹.act p.position := rfl
  change p.rotation⁻¹.act (v - p.position) = p.rotation⁻¹.act v + p⁻¹.position
  rw [position, Rotation.act_eq_mul _ inverse, Rotation.act_eq_mul _ inverse, Rotation.act_eq_mul _ inverse,
    Mat3.mul_vec_sub, Vec3.add_neg_eq_sub]

theorem transform_to_from (p : Pose3 ℝ) (unit : p.Unit) (v : Vec3 ℝ) : p.transformTo (p.transformFrom v) = v := by
  rw [transform_to_eq_inv p unit, motions.inv_move_move p unit]

theorem transform_from_to (p : Pose3 ℝ) (unit : p.Unit) (v : Vec3 ℝ) : p.transformFrom (p.transformTo v) = v := by
  rw [transform_to_eq_inv p unit, motions.move_inv_move p unit]

def homogeneous (m : Mat3 ℝ) (v : Vec3 ℝ) : Matrix (Fin 4) (Fin 4) ℝ :=
  !![m.r0.x, m.r0.y, m.r0.z, v.x; m.r1.x, m.r1.y, m.r1.z, v.y; m.r2.x, m.r2.y, m.r2.z, v.z; 0, 0, 0, 1]

theorem square_entries (p : Pose3 ℝ) : squareOf 4 p.toRows = homogeneous p.rotation.toMatrix p.position := by
  ext i j
  fin_cases i <;> fin_cases j <;> rfl

theorem homogeneous_mul (m n : Mat3 ℝ) (u v : Vec3 ℝ) :
    homogeneous m u * homogeneous n v = homogeneous (m * n) (m * v + u) := by
  ext i j
  fin_cases i <;> fin_cases j <;>
    simp [homogeneous, mul_apply, Fin.sum_univ_succ, Mat3.mul_def, Mat3.rowMul, Mat3.transpose, Mat3.ofColumns,
      Mat3.mul_vec_def, Vec3.dot, Vec3.add_def] <;> ring

theorem matrix_mul (a b : Pose3 ℝ) (unit : a.Unit) :
    squareOf 4 (a * b).toRows = squareOf 4 a.toRows * squareOf 4 b.toRows := by
  rw [square_entries, square_entries, square_entries, homogeneous_mul, mul_eq a b unit]
  exact congrArg (homogeneous · _) (Quat.to_matrix_mul a.rotation.quat b.rotation.quat)

end Pose3

theorem motions_form_groups :
    Motions Rotation.Unit Rotation.act ∧ Motions Pose2.Unit Pose2.transformFrom ∧
    Motions Pose3.Unit Pose3.transformFrom ∧
    (∀ (p : Pose3 ℝ) (v : Vec3 ℝ), p.Unit →
      p.transformTo (p.transformFrom v) = v ∧ p.transformFrom (p.transformTo v) = v) ∧
    (∀ r : Turn ℝ, r.Unit → squareOf 2 r.toMatrix.toRows ∈ specialOrthogonalGroup (Fin 2) ℝ ∧
      ∀ v, vector 2 (r.act v).toList = squareOf 2 r.toMatrix.toRows *ᵥ vector 2 v.toList) ∧
    (∀ r : Rotation ℝ, r.Unit → squareOf 3 r.toMatrix.toRows ∈ specialOrthogonalGroup (Fin 3) ℝ ∧
      ∀ v, vector 3 (r.act v).toList = squareOf 3 r.toMatrix.toRows *ᵥ vector 3 v.toList) ∧
    (∀ a b : Rotation ℝ, squareOf 3 (a * b).toMatrix.toRows =
      squareOf 3 a.toMatrix.toRows * squareOf 3 b.toMatrix.toRows) ∧
    (∀ a b : Pose2 ℝ, squareOf 3 (a * b).toMatrix.toRows =
      squareOf 3 a.toMatrix.toRows * squareOf 3 b.toMatrix.toRows) ∧
    ∀ a b : Pose3 ℝ, a.Unit → squareOf 4 (a * b).toRows = squareOf 4 a.toRows * squareOf 4 b.toRows :=
  ⟨Rotation.motions, Pose2.motions, Pose3.motions,
    fun p v unit => ⟨p.transform_to_from unit v, p.transform_from_to unit v⟩,
    fun r unit => ⟨r.proper unit, r.act_matrix⟩, fun r unit => ⟨r.proper unit, r.act_matrix unit⟩,
    Rotation.matrix_mul, Pose2.matrix_mul, Pose3.matrix_mul⟩

theorem motions_form_groups_tilted :
    let tilt : Rotation ℝ := ⟨⟨3 / 5, 4 / 5, 0, 0⟩⟩
    let pose : Pose3 ℝ := ⟨tilt, ⟨1, 2, 3⟩⟩
    tilt.Unit ∧ tilt * tilt⁻¹ = 1 ∧
    (pose * pose).transformFrom ⟨4, 5, 6⟩ = pose.transformFrom (pose.transformFrom ⟨4, 5, 6⟩) ∧
    pose.transformTo (pose.transformFrom ⟨4, 5, 6⟩) = ⟨4, 5, 6⟩ ∧
    squareOf 3 tilt.toMatrix.toRows ∈ specialOrthogonalGroup (Fin 3) ℝ ∧
    squareOf 2 (Turn.mk (3 / 5 : ℝ) (4 / 5)).toMatrix.toRows ∈ specialOrthogonalGroup (Fin 2) ℝ ∧
    squareOf 4 (pose * pose).toRows = squareOf 4 pose.toRows * squareOf 4 pose.toRows := by
  intro tilt pose
  have unit : tilt.Unit := by
    change (3 / 5 : ℝ) * (3 / 5) + 4 / 5 * (4 / 5) + 0 * 0 + 0 * 0 = 1
    norm_num
  have turned : (Turn.mk (3 / 5 : ℝ) (4 / 5)).Unit := by
    rw [Turn.Unit]
    norm_num
  obtain ⟨rotations, -, poses, back, plane, space, -, -, product⟩ := motions_form_groups
  exact ⟨unit, rotations.mul_inv tilt unit, poses.mul_move pose pose _ unit unit, (back pose _ unit).1,
    (space tilt unit).1, (plane _ turned).1, product pose pose unit⟩

end FactorGraph
