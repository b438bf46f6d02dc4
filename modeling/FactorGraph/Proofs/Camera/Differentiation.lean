import Mathlib
import FactorGraph.Camera.Differentiation
import FactorGraph.Proofs.Lie.Rotation

set_option autoImplicit false

namespace FactorGraph

attribute [ext] Dual Projection

namespace Dual

@[simp] theorem add_value (a b : Dual ℝ) : (a + b).value = a.value + b.value := rfl

@[simp] theorem add_slope (a b : Dual ℝ) : (a + b).slope = a.slope + b.slope := rfl

@[simp] theorem sub_value (a b : Dual ℝ) : (a - b).value = a.value - b.value := rfl

@[simp] theorem sub_slope (a b : Dual ℝ) : (a - b).slope = a.slope - b.slope := rfl

@[simp] theorem mul_value (a b : Dual ℝ) : (a * b).value = a.value * b.value := rfl

@[simp] theorem mul_slope (a b : Dual ℝ) : (a * b).slope = a.slope * b.value + a.value * b.slope := rfl

@[simp] theorem neg_value (a : Dual ℝ) : (-a).value = -a.value := rfl

@[simp] theorem neg_slope (a : Dual ℝ) : (-a).slope = -a.slope := rfl

@[simp] theorem constant_value (a : ℝ) : (constant a).value = a := rfl

@[simp] theorem constant_slope (a : ℝ) : (constant a).slope = 0 := rfl

@[simp] theorem zero_value : (0 : Dual ℝ).value = 0 := rfl

@[simp] theorem zero_slope : (0 : Dual ℝ).slope = 0 := rfl

@[simp] theorem one_value : (1 : Dual ℝ).value = 1 := rfl

@[simp] theorem one_slope : (1 : Dual ℝ).slope = 0 := rfl

@[simp] theorem div_value (a b : Dual ℝ) : (a / b).value = a.value / b.value := by
  change a.value * (1 / b.value) = _
  ring

@[simp] theorem div_slope (a b : Dual ℝ) (regular : b.value ≠ 0) :
    (a / b).slope = (a.slope - a.value / b.value * b.slope) / b.value := by
  change (a.slope * b.value - b.slope * a.value) * (1 / b.value) * (1 / b.value) = _
  field_simp

@[simp] theorem sqrt_value (a : Dual ℝ) : (Scalar.sqrt a).value = Scalar.sqrt a.value := rfl

@[simp] theorem sin_value (a : Dual ℝ) : (Scalar.sin a).value = Scalar.sin a.value := rfl

@[simp] theorem cos_value (a : Dual ℝ) : (Scalar.cos a).value = Scalar.cos a.value := rfl

theorem epsilon_value : (Scalar.epsilon : Dual ℝ).value = Scalar.epsilon := by
  change 1 * (1 / (4503599627370496.0 : ℝ)) = 1 / 4503599627370496.0
  exact one_mul _

def slopes (v : Vec2 (Dual ℝ)) : Vec2 ℝ := ⟨v.x.slope, v.y.slope⟩

def values₃ (v : Vec3 (Dual ℝ)) : Vec3 ℝ := ⟨v.x.value, v.y.value, v.z.value⟩

@[simp] theorem norm_squared_value (v : Vec3 (Dual ℝ)) : v.normSquared.value = (values₃ v).normSquared := rfl

def along (v dv : Vec3 ℝ) : Vec3 (Dual ℝ) := ⟨⟨v.x, dv.x⟩, ⟨v.y, dv.y⟩, ⟨v.z, dv.z⟩⟩

end Dual

namespace Mat23

def columns (g : Vec3 ℝ → Vec2 ℝ) : Mat23 ℝ :=
  let x := g ⟨1, 0, 0⟩
  let y := g ⟨0, 1, 0⟩
  let z := g ⟨0, 0, 1⟩
  ⟨⟨x.x, y.x, z.x⟩, ⟨x.y, y.y, z.y⟩⟩

theorem columns_mul (m : Mat2 ℝ) (g : Vec3 ℝ → Vec2 ℝ) : columns (fun v => m * g v) = m * columns g := by
  ext <;> simp [columns, mul_def, Mat2.mul_vec_def, Vec2.dot, Vec3.add_def, Vec3.smul_def]

end Mat23

theorem Dual.derivative_eq (f : Vec3 (Dual ℝ) → Vec2 (Dual ℝ)) (g : Vec3 ℝ → Vec2 ℝ) (v : Vec3 ℝ)
    (moves : ∀ dv, Dual.slopes (f (Dual.along v dv)) = g dv) : Dual.derivative f v = Mat23.columns g := by
  have x := Vec2.ext_iff.mp (moves ⟨1, 0, 0⟩)
  have y := Vec2.ext_iff.mp (moves ⟨0, 1, 0⟩)
  have z := Vec2.ext_iff.mp (moves ⟨0, 0, 1⟩)
  exact Mat23.ext (Vec3.ext x.1 y.1 z.1) (Vec3.ext x.2 y.2 z.2)

namespace View

theorem divide_ok (p : Vec3 ℝ) (front : ¬ p.z ≤ 0) : divide p = .ok ⟨p.x / p.z, p.y / p.z⟩ := if_neg front

theorem divide_error (p : Vec3 ℝ) (behind : p.z ≤ 0) : divide p = .error ⟨p.z⟩ := if_pos behind

noncomputable def velocity (p dp : Vec3 ℝ) : Vec2 ℝ :=
  ⟨(dp.x - p.x / p.z * dp.z) / p.z, (dp.y - p.y / p.z * dp.z) / p.z⟩

theorem velocity_zero (p : Vec3 ℝ) : velocity p 0 = 0 := by
  ext <;> simp [velocity]

theorem rho_columns (p : Vec3 ℝ) :
    Mat23.columns (fun a => velocity p (-a)) = rhoDerivative ⟨p.x / p.z, p.y / p.z⟩ (1 / p.z) := by
  ext <;> simp [Mat23.columns, velocity, rhoDerivative, Vec3.neg_def] <;> ring

theorem theta_columns (p : Vec3 ℝ) (front : p.z ≠ 0) :
    Mat23.columns (fun b => velocity p (-(b.cross p))) = thetaDerivative ⟨p.x / p.z, p.y / p.z⟩ := by
  ext <;> simp [Mat23.columns, velocity, thetaDerivative, Vec3.neg_def, Vec3.cross]
  all_goals field_simp

theorem point_columns (p : Vec3 ℝ) (r : Mat3 ℝ) :
    Mat23.columns (fun dv => velocity p (r.transpose * dv)) =
      pointDerivative ⟨p.x / p.z, p.y / p.z⟩ (1 / p.z) r := by
  ext <;> simp [Mat23.columns, velocity, pointDerivative, Mat23.smul_def, Vec3.smul_def, Mat3.mul_vec_def,
    Mat3.transpose, Mat3.ofColumns, Vec3.dot]
  all_goals ring

end View

namespace Calibration

noncomputable def velocity (c : Calibration ℝ) (p dp : Vec2 ℝ) (dl : Vec3 ℝ) : Vec2 ℝ :=
  let d := c.uncalibrateDerivatives p
  ⟨d.point.r0.dot dp + d.lens.r0.dot dl, d.point.r1.dot dp + d.lens.r1.dot dl⟩

theorem velocity_of_point (c : Calibration ℝ) (p dp : Vec2 ℝ) :
    c.velocity p dp 0 = (c.uncalibrateDerivatives p).point * dp := by
  ext <;> simp [velocity, Mat2.mul_vec_def, Vec3.dot]

theorem lens_columns (c : Calibration ℝ) (p : Vec2 ℝ) :
    Mat23.columns (fun dl => c.velocity p 0 dl) = (c.uncalibrateDerivatives p).lens := by
  ext <;> simp [Mat23.columns, velocity, Vec2.dot, Vec3.dot]

end Calibration

namespace Camera

theorem project_eq_map {α : Type} [Scalar α] (c : Camera α) (point : Vec3 α) :
    c.project point = (c.projectDerivatives point).map (·.pixel) := by
  unfold project projectDerivatives View.project View.projectDerivatives
  dsimp only
  cases View.divide (c.pose.transformTo point) <;> rfl

theorem lens_moves (c : Calibration ℝ) (x y : Dual ℝ) (dl : Vec3 ℝ) :
    distort x y (Dual.along c.parameters dl) + (⟨.constant c.u0, .constant c.v0⟩ : Vec2 (Dual ℝ)) =
      let pixel := c.uncalibrate ⟨x.value, y.value⟩
      let velocity := c.velocity ⟨x.value, y.value⟩ ⟨x.slope, y.slope⟩ dl
      ⟨⟨pixel.x, velocity.x⟩, ⟨pixel.y, velocity.y⟩⟩ := by
  ext <;> simp [distort, Dual.along, Calibration.parameters, Calibration.uncalibrate, Calibration.velocity, Vec2.add_def, Calibration.distortion, Vec2.normSquared, Vec2.dot, Vec3.dot, Calibration.uncalibrateDerivatives, Mat2.smul_def, Vec2.smul_def, literal_two]
  all_goals ring

def frame {β : Type} [Scalar β] (rotation : Mat3 β) (position rho theta point : Vec3 β) : Vec3 β :=
  (rotation * (1 + Mat3.skew theta)).transpose * (point - (position + rotation * rho))

theorem frame_moves (r : Mat3 ℝ) (t a b v dv : Vec3 ℝ) :
    frame (r.map .constant) (Dual.constants t) (Dual.along 0 a) (Dual.along 0 b) (Dual.along v dv) =
      let p := r.transpose * (v - t)
      Dual.along p (r.transpose * dv - (r.transpose * r) * a - b.cross p) := by
  rw [frame, Mat3.one_def]
  ext <;> simp [Dual.along, Dual.constants, Mat3.map, Vec3.map, Mat3.skew, Mat3.mul_def, Mat3.mul_vec_def, Mat3.rowMul, Mat3.transpose, Mat3.ofColumns, Vec3.dot, Vec3.cross, Mat3.add_def, Vec3.add_def, Vec3.sub_def]
  all_goals ring

theorem nearby_projection_eq {β : Type} [Scalar β] (rotation : Mat3 β) (position : Vec3 β) (principal : Vec2 β)
    (rho theta lens point : Vec3 β) :
    nearbyProjection rotation position principal rho theta lens point =
      let q := frame rotation position rho theta point
      distort (q.x / q.z) (q.y / q.z) lens + principal := rfl

noncomputable def velocity (c : Camera ℝ) (v a b dl dv : Vec3 ℝ) : Vec2 ℝ :=
  let p := c.pose.transformTo v
  c.calibration.velocity ⟨p.x / p.z, p.y / p.z⟩
    (View.velocity p (c.pose.rotation.toMatrix.transpose * dv - a - b.cross p)) dl

theorem nearby_projection_moves (c : Camera ℝ) (unit : c.pose.Unit) (v a b dl dv : Vec3 ℝ)
    (front : (c.pose.transformTo v).z ≠ 0) :
    nearbyProjection (c.pose.rotation.toMatrix.map .constant) (Dual.constants c.pose.position)
        ⟨.constant c.calibration.u0, .constant c.calibration.v0⟩
        (Dual.along 0 a) (Dual.along 0 b) (Dual.along c.calibration.parameters dl) (Dual.along v dv) =
      let p := c.pose.transformTo v
      let pixel := c.calibration.uncalibrate ⟨p.x / p.z, p.y / p.z⟩
      let velocity := c.velocity v a b dl dv
      ⟨⟨pixel.x, velocity.x⟩, ⟨pixel.y, velocity.y⟩⟩ := by
  have orthogonal : c.pose.rotation.toMatrix.transpose * c.pose.rotation.toMatrix = 1 :=
    Quat.transpose_mul_matrix _ unit
  rw [nearby_projection_eq, frame_moves, orthogonal, Mat3.one_mul_vec, ← Pose3.transform_to_eq c.pose unit]
  refine (lens_moves c.calibration _ _ dl).trans ?_
  rw [Dual.div_slope _ _ front, Dual.div_slope _ _ front, Dual.div_value, Dual.div_value]
  rfl

section Columns

variable (c : Camera ℝ) (v : Vec3 ℝ)

theorem rho_columns :
    let p := c.pose.transformTo v
    let normalized : Vec2 ℝ := ⟨p.x / p.z, p.y / p.z⟩
    Mat23.columns (fun a => c.velocity v a 0 0 0) =
      (c.calibration.uncalibrateDerivatives normalized).point * View.rhoDerivative normalized (1 / p.z) := by
  intro p normalized
  rw [← View.rho_columns, ← Mat23.columns_mul]
  refine congrArg Mat23.columns (funext fun a => ?_)
  rw [velocity, Calibration.velocity_of_point, Mat3.mul_vec_zero, Vec3.zero_cross, Vec3.sub_zero, Vec3.zero_sub]

theorem theta_columns (front : (c.pose.transformTo v).z ≠ 0) :
    let p := c.pose.transformTo v
    let normalized : Vec2 ℝ := ⟨p.x / p.z, p.y / p.z⟩
    Mat23.columns (fun b => c.velocity v 0 b 0 0) =
      (c.calibration.uncalibrateDerivatives normalized).point * View.thetaDerivative normalized := by
  intro p normalized
  rw [← View.theta_columns p front, ← Mat23.columns_mul]
  refine congrArg Mat23.columns (funext fun b => ?_)
  rw [velocity, Calibration.velocity_of_point, Mat3.mul_vec_zero, Vec3.sub_zero, Vec3.zero_sub]

theorem lens_columns :
    let p := c.pose.transformTo v
    Mat23.columns (fun dl => c.velocity v 0 0 dl 0) =
      (c.calibration.uncalibrateDerivatives ⟨p.x / p.z, p.y / p.z⟩).lens := by
  intro p
  rw [← Calibration.lens_columns]
  refine congrArg Mat23.columns (funext fun dl => ?_)
  rw [velocity, Mat3.mul_vec_zero, Vec3.zero_cross, Vec3.sub_zero, Vec3.sub_zero, View.velocity_zero]

theorem point_columns :
    let p := c.pose.transformTo v
    let normalized : Vec2 ℝ := ⟨p.x / p.z, p.y / p.z⟩
    Mat23.columns (fun dv => c.velocity v 0 0 0 dv) =
      (c.calibration.uncalibrateDerivatives normalized).point *
        View.pointDerivative normalized (1 / p.z) c.pose.rotation.toMatrix := by
  intro p normalized
  rw [← View.point_columns, ← Mat23.columns_mul]
  refine congrArg Mat23.columns (funext fun dv => ?_)
  rw [velocity, Calibration.velocity_of_point, Vec3.zero_cross, Vec3.sub_zero, Vec3.sub_zero]

end Columns

/-- Entry by entry, the derivatives in closed form and those of the evaluation on dual numbers agree; both come with
the pixel of the plain projection, and the three fail together. -/
theorem project_dual_agrees (c : Camera ℝ) (unit : c.pose.Unit) (v : Vec3 ℝ) :
    ((c.pose.transformTo v).z ≤ 0 →
      c.project v = .error ⟨(c.pose.transformTo v).z⟩ ∧
      c.projectDerivatives v = .error ⟨(c.pose.transformTo v).z⟩ ∧
      c.projectDual v = .error ⟨(c.pose.transformTo v).z⟩) ∧
    (0 < (c.pose.transformTo v).z →
      ∃ p : Projection ℝ, c.project v = .ok p.pixel ∧ c.projectDerivatives v = .ok p ∧ c.projectDual v = .ok p) := by
  constructor
  · intro behind
    have fails := View.divide_error _ behind
    refine ⟨?_, ?_, ?_⟩
    · rw [project, View.project, fails]; rfl
    · rw [projectDerivatives, View.projectDerivatives, fails]; rfl
    · rw [projectDual, fails]; rfl
  · intro front
    have sees := View.divide_ok _ (not_le.mpr front)
    obtain ⟨p, closed⟩ : ∃ p, c.projectDerivatives v = .ok p := by
      rw [projectDerivatives, View.projectDerivatives, sees]
      exact ⟨_, rfl⟩
    refine ⟨p, ?_, closed, ?_⟩
    · rw [projectDerivatives, View.projectDerivatives, sees] at closed
      rw [project, View.project, sees]
      cases closed
      rfl
    rw [projectDerivatives, View.projectDerivatives, sees] at closed
    rw [projectDual, sees]
    cases closed
    refine congrArg Except.ok ?_
    -- Along each direction the pixel moves by the velocity, whose columns make up the blocks in closed form.
    have moves := fun a b dl dv => nearby_projection_moves c unit v a b dl dv front.ne'
    refine Projection.ext ?_ ?_ ?_ ?_ ?_ <;> dsimp only
    · exact congrArg Dual.values (moves 0 0 0 0)
    · refine Eq.trans (Dual.derivative_eq _ (fun a => c.velocity v a 0 0 0) 0 ?_) (rho_columns c v)
      exact fun a => congrArg Dual.slopes (moves a 0 0 0)
    · refine Eq.trans (Dual.derivative_eq _ (fun b => c.velocity v 0 b 0 0) 0 ?_) (theta_columns c v front.ne')
      exact fun b => congrArg Dual.slopes (moves 0 b 0 0)
    · refine Eq.trans (Dual.derivative_eq _ (fun dl => c.velocity v 0 0 dl 0) _ ?_) (lens_columns c v)
      exact fun dl => congrArg Dual.slopes (moves 0 0 dl 0)
    · refine Eq.trans (Dual.derivative_eq _ (fun dv => c.velocity v 0 0 0 dv) v ?_) (point_columns c v)
      exact fun dv => congrArg Dual.slopes (moves 0 0 0 dv)

-- A camera above the ground that looks straight down: a point under it is seen, one over it is not.
theorem project_dual_agrees_looking_down :
    let c : Camera ℝ := ⟨⟨⟨⟨0, 1, 0, 0⟩⟩, ⟨0, 0, 4⟩⟩, ⟨500, 1 / 10, 1 / 100, 320, 240⟩⟩
    (∃ p : Projection ℝ,
      c.project ⟨1, 2, 0⟩ = .ok p.pixel ∧ c.projectDerivatives ⟨1, 2, 0⟩ = .ok p ∧ c.projectDual ⟨1, 2, 0⟩ = .ok p) ∧
    c.project ⟨0, 0, 6⟩ = .error ⟨-2⟩ ∧ c.projectDerivatives ⟨0, 0, 6⟩ = .error ⟨-2⟩ ∧
      c.projectDual ⟨0, 0, 6⟩ = .error ⟨-2⟩ := by
  intro c
  have unit : c.pose.Unit := by
    change (0 : ℝ) * 0 + 1 * 1 + 0 * 0 + 0 * 0 = 1
    norm_num
  have seen : (c.pose.transformTo ⟨1, 2, 0⟩).z = 4 := by
    rw [c.pose.transform_to_eq unit]
    norm_num [c, Rotation.toMatrix, Quat.toMatrix, Mat3.mul_vec_def, Mat3.transpose, Mat3.ofColumns, Vec3.dot,
      Vec3.sub_def]
  have hidden : (c.pose.transformTo ⟨0, 0, 6⟩).z = -2 := by
    rw [c.pose.transform_to_eq unit]
    norm_num [c, Rotation.toMatrix, Quat.toMatrix, Mat3.mul_vec_def, Mat3.transpose, Mat3.ofColumns, Vec3.dot,
      Vec3.sub_def]
  have behind := (project_dual_agrees c unit ⟨0, 0, 6⟩).1 (by rw [hidden]; norm_num)
  rw [hidden] at behind
  exact ⟨(project_dual_agrees c unit ⟨1, 2, 0⟩).2 (by rw [seen]; norm_num), behind⟩

end Camera

end FactorGraph
