import Mathlib
import FactorGraph.Camera.Snavely
import FactorGraph.Proofs.Camera.Differentiation
import FactorGraph.Proofs.Lie.Series

set_option autoImplicit false

namespace FactorGraph.SnavelyCamera

section Rotation

variable {β : Type} [Scalar β] (w point : Vec3 β)

def turn : Vec3 β :=
  let theta := Scalar.sqrt w.normSquared
  let axis := w / theta
  let c := Scalar.cos theta
  c * point + Scalar.sin theta * axis.cross point + (axis.dot point * (1 - c)) * axis

theorem rotate_of_long (long : Scalar.epsilon < w.normSquared) : rotate w point = turn w point := if_pos long

theorem rotate_of_short (short : ¬ Scalar.epsilon < w.normSquared) : rotate w point = point + w.cross point := if_neg short

end Rotation

theorem of_list_to_list (c : SnavelyCamera ℝ) : ofList? c.toList = some c := rfl

theorem measurement_sub (a b principal : Vec2 ℝ) :
    measurement a principal - measurement b principal = ⟨(a - b).x, -(a - b).y⟩ := by
  ext <;> simp only [measurement, Vec2.sub_def] <;> ring

theorem rotate_zero (point : Vec3 ℝ) : rotate 0 point = point := by
  have short : ¬ Scalar.epsilon < (0 : Vec3 ℝ).normSquared := by
    rw [Vec3.norm_squared_zero]
    exact not_lt.mpr epsilon_pos.le
  rw [rotate_of_short _ _ short, Vec3.zero_cross, Vec3.add_zero]

theorem rotate_eq_series (w point : Vec3 ℝ) (closed : Scalar.epsilon < w.normSquared) :
    rotate w point = Vec3.series (Rotation.sinc w) (Rotation.versed w) w point := by
  have positive : 0 < w.normSquared := epsilon_pos.trans closed
  have nonzero : w.norm ≠ 0 := (Real.sqrt_pos.mpr positive).ne'
  have square : w.norm * w.norm = w.x * w.x + w.y * w.y + w.z * w.z := Vec3.norm_mul_self w
  have formula : rotate w point = Real.cos w.norm * point + Real.sin w.norm * (w / w.norm).cross point +
      ((w / w.norm).dot point * (1 - Real.cos w.norm)) * (w / w.norm) := rotate_of_long w point closed
  rw [formula, Rotation.sinc, Rotation.versed, ← Vec3.norm_mul_self]
  ext <;> simp only [Vec3.series, Vec3.cross, Vec3.dot, Vec3.add_def, Vec3.smul_def, Vec3.div_def] <;> field_simp
  · linear_combination (Real.cos w.norm - 1) * point.x * square
  · linear_combination (Real.cos w.norm - 1) * point.y * square
  · linear_combination (Real.cos w.norm - 1) * point.z * square

theorem rotate_of_nonneg (q : Quat ℝ) (unit : q.Unit) (upper : 0 ≤ q.w) (turns : q.imaginary.norm ≠ 0) (point : Vec3 ℝ)
    (closed : Scalar.epsilon < q.scaledAxis.normSquared) : rotate q.scaledAxis point = q.toMatrix * point := by
  rw [rotate_eq_series _ _ closed, q.to_matrix_mul_eq_series unit upper turns]

/-- In closed form, and also where the vector is zero, the rotation vector of a quaternion turns points as the
quaternion does. -/
theorem rotate_scaled_axis (q : Quat ℝ) (unit : q.Unit) (point : Vec3 ℝ)
    (closed : q.scaledAxis = 0 ∨ Scalar.epsilon < q.scaledAxis.normSquared) :
    rotate q.scaledAxis point = q.toMatrix * point := by
  by_cases turns : q.imaginary.norm = 0
  · rw [q.scaled_axis_of_still turns, rotate_zero, q.to_matrix_of_still unit turns, Mat3.one_mul_vec]
  have long : Scalar.epsilon < q.scaledAxis.normSquared := by
    refine closed.resolve_left fun zero => ?_
    have length := q.scaled_axis_norm_squared turns
    rw [zero, Vec3.norm_squared_zero, eq_comm, sq_eq_zero_iff, mul_eq_zero] at length
    exact q.half_angle_ne_zero unit turns (length.resolve_left two_ne_zero)
  rcases le_or_gt 0 q.w with upper | lower
  · exact rotate_of_nonneg q unit upper turns point long
  · have opposite := q.scaled_axis_neg lower.ne
    rw [← opposite, ← q.to_matrix_neg]
    rw [← opposite] at long
    refine rotate_of_nonneg (-q) (q.unit_neg unit) (neg_nonneg.mpr lower.le) ?_ point long
    exact (Vec3.norm_neg q.imaginary).trans_ne turns

section Conversion

variable (c : Camera ℝ)

-- The rotation into the frame of the converted camera: the inverse of the pose, then half a turn about the first
-- axis.
noncomputable def turned : Quat ℝ := ⟨0, 1, 0, 0⟩ * c.pose.rotation.quat.conjugate

theorem turned_unit (unit : c.pose.Unit) : (turned c).Unit := by
  refine Quat.unit_mul _ _ ?_ (Quat.unit_conjugate _ unit)
  norm_num [Quat.Unit]

theorem turned_to_matrix : (turned c).toMatrix = Mat3.diagonal 1 (-1) (-1) * c.pose.rotation.toMatrix.transpose := by
  rw [turned, Quat.to_matrix_mul, Quat.to_matrix_conjugate]
  refine congrArg (· * _) ?_
  ext <;> norm_num [Quat.toMatrix, Mat3.diagonal]

theorem rotation_of_camera (unit : c.pose.Unit) :
    (ofCamera c).rotation = (turned c).scaledAxis ∨ (ofCamera c).rotation = (-turned c).scaledAxis := by
  -- The conversion reads the turned frame off its matrix, which loses the sign of the quaternion.
  have read : (ofCamera c).rotation = (Quat.ofMatrix (turned c).toMatrix).scaledAxis := by
    rw [turned_to_matrix]
    rfl
  rw [read]
  exact ((turned c).of_matrix_to_matrix (turned_unit c unit)).imp (congrArg _) (congrArg _)

theorem rotation_norm_squared (unit : c.pose.Unit) (turns : (turned c).imaginary.norm ≠ 0) :
    (ofCamera c).rotation.normSquared = (2 * (turned c).halfAngle) ^ 2 := by
  rcases rotation_of_camera c unit with same | opposite
  · rw [same, Quat.scaled_axis_norm_squared _ turns]
  · have length : (-turned c).imaginary.norm ≠ 0 := (Vec3.norm_neg (turned c).imaginary).trans_ne turns
    rw [opposite, Quat.scaled_axis_norm_squared _ length, Quat.half_angle_neg]

theorem rotate_of_camera (unit : c.pose.Unit) (point : Vec3 ℝ)
    (closed : (ofCamera c).rotation = 0 ∨ Scalar.epsilon < (ofCamera c).rotation.normSquared) :
    rotate (ofCamera c).rotation point = (turned c).toMatrix * point := by
  rcases rotation_of_camera c unit with same | opposite
  · rw [same] at closed ⊢
    exact rotate_scaled_axis _ (turned_unit c unit) point closed
  · rw [opposite] at closed ⊢
    rw [rotate_scaled_axis _ (Quat.unit_neg _ (turned_unit c unit)) point closed, Quat.to_matrix_neg]

theorem to_frame_of_camera (unit : c.pose.Unit) (point : Vec3 ℝ)
    (closed : (ofCamera c).rotation = 0 ∨ Scalar.epsilon < (ofCamera c).rotation.normSquared) :
    (ofCamera c).toFrame point =
      ⟨(c.pose.transformTo point).x, -(c.pose.transformTo point).y, -(c.pose.transformTo point).z⟩ := by
  have shift : (ofCamera c).shift = -((turned c).toMatrix * c.pose.position) := by
    rw [turned_to_matrix]
    rfl
  rw [toFrame, rotate_of_camera c unit point closed, shift, turned_to_matrix, c.pose.transform_to_eq unit]
  ext <;> simp only [Mat3.mul_def, Mat3.rowMul, Mat3.mul_vec_def, Mat3.transpose, Mat3.ofColumns, Mat3.diagonal,
    Vec3.dot, Vec3.add_def, Vec3.sub_def, Vec3.neg_def] <;> ring

theorem image_of_camera (unit : c.pose.Unit) (point : Vec3 ℝ)
    (closed : (ofCamera c).rotation = 0 ∨ Scalar.epsilon < (ofCamera c).rotation.normSquared) :
    let p := c.pose.transformTo point
    (ofCamera c).image point =
      measurement (c.calibration.uncalibrate ⟨p.x / p.z, p.y / p.z⟩) c.calibration.principalPoint := by
  rw [image, to_frame_of_camera c unit point closed]
  ext <;> simp only [distort, measurement, ofCamera, Calibration.parameters, Calibration.uncalibrate,
    Calibration.distortion, Calibration.principalPoint, Vec2.normSquared, Vec2.dot, neg_neg, div_neg]
    <;> ring

/-- The converted camera sees what the camera sees, measured in its own image frame, or fails with the same depth. -/
theorem project_of_camera (unit : c.pose.Unit) (point : Vec3 ℝ)
    (closed : (ofCamera c).rotation = 0 ∨ Scalar.epsilon < (ofCamera c).rotation.normSquared) :
    (ofCamera c).project point = (c.project point).map (measurement · c.calibration.principalPoint) := by
  rw [project, checkDepth, to_frame_of_camera c unit point closed, image_of_camera c unit point closed, Camera.project,
    View.project]
  simp only [neg_neg]
  by_cases behind : (c.pose.transformTo point).z ≤ 0
  · rw [View.divide_error _ behind, if_pos behind]
    rfl
  · rw [View.divide_ok _ behind, if_neg behind]
    rfl

end Conversion

section Differentiation

open FactorGraph.Dual

theorem rotate_values (w point : Vec3 ℝ) :
    values₃ (rotate (constants w) (constants point)) = rotate w point := by
  -- Dual numbers compare by their values, so both rotations take the same branch.
  have branch : (Scalar.epsilon : Dual ℝ) < (constants w).normSquared ↔ Scalar.epsilon < w.normSquared := by
    change (Scalar.epsilon : Dual ℝ).value < w.normSquared ↔ _
    rw [epsilon_value]
  by_cases long : Scalar.epsilon < w.normSquared
  · rw [rotate_of_long _ _ long, rotate_of_long _ _ (branch.mpr long)]
    ext <;> simp [turn, values₃, Vec3.add_def, Vec3.smul_def, Vec3.div_def, Vec3.cross, Vec3.dot, constants, Vec3.map]
  · rw [rotate_of_short _ _ long, rotate_of_short _ _ (mt branch.mp long)]
    ext <;> simp [values₃, Vec3.add_def, Vec3.cross, constants, Vec3.map]

theorem to_frame_values (c : SnavelyCamera ℝ) (point : Vec3 ℝ) :
    values₃ (toFrame ⟨constants c.rotation, constants c.shift, constants c.lens⟩ (constants point)) = c.toFrame point :=
  congrArg (· + c.shift) (rotate_values c.rotation point)

theorem distort_values (x y : Dual ℝ) (lens : Vec3 ℝ) :
    values (distort x y (constants lens)) = distort x.value y.value lens := rfl

theorem image_values (c : SnavelyCamera ℝ) (point : Vec3 ℝ) :
    values (image ⟨constants c.rotation, constants c.shift, constants c.lens⟩ (constants point)) = c.image point := by
  rw [image, image, distort_values, div_value, div_value, neg_value, neg_value, ← to_frame_values]
  rfl

theorem project_eq_map (c : SnavelyCamera ℝ) (point : Vec3 ℝ) :
    c.project point = (c.projectDerivatives point).map (·.pixel) := by
  unfold project projectDerivatives
  cases c.checkDepth point with
  | error fault => rfl
  | ok _ => exact congrArg Except.ok (image_values c point).symm

end Differentiation

end FactorGraph.SnavelyCamera
