import Mathlib
import FactorGraph.Camera.View
import FactorGraph.Proofs.Lie.Frame

set_option autoImplicit false

open Matrix

namespace FactorGraph

namespace Vec3

theorem direction_eq_none_iff (a : Vec3 ℝ) (least : ℝ) : a.direction? least = none ↔ a.norm ≤ least := by
  simp [direction?]

theorem direction_eq_some_iff (a u : Vec3 ℝ) (least : ℝ) :
    a.direction? least = some u ↔ least < a.norm ∧ a / a.norm = u := by
  simp [direction?]

theorem div_dot (a b : Vec3 ℝ) (s : ℝ) : (a / s).dot b = a.dot b / s := by
  simp only [dot, div_def]
  ring

theorem div_norm_dot_self (a : Vec3 ℝ) (long : 0 < a.norm) : (a / a.norm).dot a = a.norm := by
  rw [div_dot, div_eq_iff long.ne', norm_mul_self, normSquared]

theorem div_norm_dot_div_norm (a : Vec3 ℝ) (long : 0 < a.norm) : (a / a.norm).dot (a / a.norm) = 1 := by
  rw [dot_comm, div_dot, dot_comm, div_norm_dot_self a long, div_self long.ne']

theorem div_norm_orthonormal (a z : Vec3 ℝ) (long : 0 < (a.cross z).norm) (unit : z.dot z = 1) :
    (a.cross z / (a.cross z).norm).Orthonormal z where
  first := div_norm_dot_div_norm _ long
  third := unit
  square := by rw [div_dot, cross_dot_self, zero_div]

theorem neg_cross (a b : Vec3 ℝ) : (-a).cross b = -(a.cross b) := by
  ext <;> simp only [cross, neg_def] <;> ring

end Vec3

namespace View

noncomputable def framed (x z eye : Vec3 ℝ) : Pose3 ℝ := ⟨.ofMatrix (.ofColumns x (z.cross x) z), eye⟩

section Framed

variable (x z eye : Vec3 ℝ) (frame : x.Orthonormal z)

include frame

theorem framed_unit : (framed x z eye).Unit := (Quat.of_matrix_frame x z frame).1

theorem framed_matrix : (framed x z eye).rotation.toMatrix = Mat3.ofColumns x (z.cross x) z :=
  (Quat.of_matrix_frame x z frame).2

theorem framed_act (v : Vec3 ℝ) : (framed x z eye).rotation.act v = Mat3.ofColumns x (z.cross x) z * v := by
  rw [Rotation.act_eq_mul _ (framed_unit x z eye frame), framed_matrix x z eye frame]

theorem framed_inverse_act (v : Vec3 ℝ) :
    (framed x z eye).rotation.inverse.act v = ⟨x.dot v, (z.cross x).dot v, z.dot v⟩ := by
  have turned : (framed x z eye).rotation.inverse.toMatrix = (framed x z eye).rotation.toMatrix.transpose :=
    Quat.to_matrix_conjugate _
  have unit : (framed x z eye).rotation.inverse.Unit := Quat.unit_conjugate _ (framed_unit x z eye frame)
  rw [Rotation.act_eq_mul _ unit, turned, framed_matrix x z eye frame]
  rfl

theorem framed_transform_to (p : Vec3 ℝ) :
    (framed x z eye).transformTo p = ⟨x.dot (p - eye), (z.cross x).dot (p - eye), z.dot (p - eye)⟩ :=
  framed_inverse_act x z eye frame (p - eye)

theorem framed_ahead (p : Vec3 ℝ) (depth : ℝ) (ahead : p - eye = depth * z) :
    (framed x z eye).transformTo p = ⟨0, 0, depth⟩ := by
  have third : z.x * z.x + z.y * z.y + z.z * z.z = 1 := frame.third
  have square : x.x * z.x + x.y * z.y + x.z * z.z = 0 := frame.square
  rw [framed_transform_to x z eye frame, ahead]
  ext <;> simp only [Vec3.dot, Vec3.cross, Vec3.smul_def]
  · linear_combination depth * square
  · ring
  · linear_combination depth * third

end Framed

theorem project_ahead (pose : Pose3 ℝ) (p : Vec3 ℝ) (depth : ℝ) (seen : pose.transformTo p = ⟨0, 0, depth⟩)
    (front : 0 < depth) : project pose p = .ok 0 := by
  rw [project, seen, divide, if_neg (not_le.mpr front)]
  simp only [zero_div]
  rfl

section LookAt

variable (eye target up : Vec3 ℝ)

noncomputable def sight : Vec3 ℝ := (target - eye) / (target - eye).norm

noncomputable def across : Vec3 ℝ := (-up).cross (sight eye target) / ((-up).cross (sight eye target)).norm

theorem up_cross_norm : ((-up).cross (sight eye target)).norm = (up.cross (sight eye target)).norm := by
  rw [Vec3.neg_cross, Vec3.norm_neg]

theorem look_at_cases :
    ((target - eye).norm ≤ Scalar.epsilon ∧ lookAt eye target up = .error (.degenerateFrame .eyeAtTarget)) ∨
    (Scalar.epsilon < (target - eye).norm ∧ (up.cross (sight eye target)).norm ≤ Scalar.epsilon ∧
      lookAt eye target up = .error (.degenerateFrame .upAlongView)) ∨
    (Scalar.epsilon < (target - eye).norm ∧ Scalar.epsilon < (up.cross (sight eye target)).norm ∧
      lookAt eye target up = .ok (framed (across eye target up) (sight eye target) eye)) := by
  rw [lookAt]
  cases forward : (target - eye).direction? Scalar.epsilon with
  | none => exact .inl ⟨(Vec3.direction_eq_none_iff _ _).mp forward, rfl⟩
  | some z =>
      obtain ⟨far, along⟩ := (Vec3.direction_eq_some_iff _ _ _).mp forward
      change sight eye target = z at along
      subst along
      refine .inr ?_
      rw [← up_cross_norm eye target up]
      cases right : ((-up).cross (sight eye target)).direction? Scalar.epsilon with
      | none => exact .inl ⟨far, (Vec3.direction_eq_none_iff _ _).mp right, by simp only [right]⟩
      | some x =>
          obtain ⟨wide, along⟩ := (Vec3.direction_eq_some_iff _ _ _).mp right
          change across eye target up = x at along
          subst along
          refine .inr ⟨far, wide, ?_⟩
          simp only [right]
          rfl

end LookAt

section LookAtFrame

variable (eye target up : Vec3 ℝ) (far : Scalar.epsilon < (target - eye).norm)

include far

theorem sight_unit : (sight eye target).dot (sight eye target) = 1 :=
  Vec3.div_norm_dot_div_norm _ (epsilon_pos.trans far)

theorem sub_eq_sight : target - eye = (target - eye).norm * sight eye target := by
  have nonzero := (epsilon_pos.trans far).ne'
  rw [sight]
  ext <;> simp only [Vec3.smul_def, Vec3.div_def] <;> field_simp

variable (wide : Scalar.epsilon < (up.cross (sight eye target)).norm)

include wide

theorem across_orthonormal : (across eye target up).Orthonormal (sight eye target) := by
  rw [← up_cross_norm] at wide
  exact Vec3.div_norm_orthonormal _ _ (epsilon_pos.trans wide) (sight_unit eye target far)

theorem up_seen : (framed (across eye target up) (sight eye target) eye).rotation.inverse.act up =
    ⟨0, -(up.cross (sight eye target)).norm, (sight eye target).dot up⟩ := by
  -- The second axis lies across the sight and the first axis, as the vertical does to the opposite side.
  have frame := across_orthonormal eye target up far wide
  have long : 0 < ((-up).cross (sight eye target)).norm := by
    rw [up_cross_norm]
    exact epsilon_pos.trans wide
  have length := Vec3.div_norm_dot_self _ long
  rw [framed_inverse_act _ _ _ frame]
  ext
  · change (((-up).cross (sight eye target)) / ((-up).cross (sight eye target)).norm).dot up = 0
    rw [Vec3.div_dot, Vec3.neg_cross]
    simp only [Vec3.dot, Vec3.cross, Vec3.neg_def]
    ring
  · rw [← up_cross_norm, ← length]
    change _ = -((across eye target up).dot _)
    simp only [Vec3.dot, Vec3.cross, Vec3.neg_def]
    ring
  · rfl

end LookAtFrame

section Level

variable (pose : Pose2 ℝ) (height : ℝ)

theorem level_orthonormal : (⟨Real.sin pose.angle, -Real.cos pose.angle, 0⟩ : Vec3 ℝ).Orthonormal
    ⟨Real.cos pose.angle, Real.sin pose.angle, 0⟩ := by
  have circle := Real.sin_sq_add_cos_sq pose.angle
  constructor <;> simp only [Vec3.dot]
  · linear_combination circle
  · linear_combination circle
  · ring

theorem level_eq : level pose height = framed ⟨Real.sin pose.angle, -Real.cos pose.angle, 0⟩
    ⟨Real.cos pose.angle, Real.sin pose.angle, 0⟩ ⟨pose.position.x, pose.position.y, height⟩ := by
  have down : (⟨0, 0, -1⟩ : Vec3 ℝ) = (⟨Real.cos pose.angle, Real.sin pose.angle, 0⟩ : Vec3 ℝ).cross
      ⟨Real.sin pose.angle, -Real.cos pose.angle, 0⟩ := by
    have circle := Real.sin_sq_add_cos_sq pose.angle
    ext <;> simp only [Vec3.cross]
    · ring
    · ring
    · linear_combination circle
  rw [framed, ← down]
  rfl

end Level

/-- A view of a target is a rigid motion that puts the target straight ahead, at its distance, with the vertical across the
first axis and against the second; there is none only where the target is reached or the vertical points along the sight. A
level view is a rigid motion as well: it looks along the heading, with the second axis straight down. -/
theorem views_upright :
    (∀ (eye target up : Vec3 ℝ) (pose : Pose3 ℝ), lookAt eye target up = .ok pose →
      pose.position = eye ∧ squareOf 3 pose.rotation.toMatrix.toRows ∈ specialOrthogonalGroup (Fin 3) ℝ ∧
      pose.transformTo target = ⟨0, 0, (target - eye).norm⟩ ∧ project pose target = .ok ⟨0, 0⟩ ∧
      (pose.rotation.inverse.act up).x = 0 ∧ (pose.rotation.inverse.act up).y < 0) ∧
    (∀ eye target up : Vec3 ℝ,
      ((∃ fault, lookAt eye target up = .error (.degenerateFrame fault)) ↔ (target - eye).norm ≤ Scalar.epsilon ∨
        (up.cross ((target - eye) / (target - eye).norm)).norm ≤ Scalar.epsilon) ∧
      ((∃ pose, lookAt eye target up = .ok pose) ↔ Scalar.epsilon < (target - eye).norm ∧
        Scalar.epsilon < (up.cross ((target - eye) / (target - eye).norm)).norm)) ∧
    ∀ (pose : Pose2 ℝ) (height : ℝ), pose.Unit →
      (level pose height).position = ⟨pose.position.x, pose.position.y, height⟩ ∧
      squareOf 3 (level pose height).rotation.toMatrix.toRows ∈ specialOrthogonalGroup (Fin 3) ℝ ∧
      (level pose height).rotation.act ⟨0, 0, 1⟩ = ⟨pose.turn.cos, pose.turn.sin, 0⟩ ∧
      (level pose height).rotation.act ⟨0, 1, 0⟩ = ⟨0, 0, -1⟩ ∧
      ∀ distance : ℝ, 0 < distance → project (level pose height)
        ⟨pose.position.x + distance * pose.turn.cos, pose.position.y + distance * pose.turn.sin, height⟩ = .ok ⟨0, 0⟩ := by
  refine ⟨fun eye target up pose found => ?frame, fun eye target up => ?degenerate, fun pose height unit => ?level⟩
  case frame =>
    obtain ⟨_, failed⟩ | ⟨_, _, failed⟩ | ⟨far, wide, same⟩ := look_at_cases eye target up
    · cases found.symm.trans failed
    · cases found.symm.trans failed
    · cases found.symm.trans same
      have frame := across_orthonormal eye target up far wide
      have seen := framed_ahead _ _ eye frame target _ (sub_eq_sight eye target far)
      refine ⟨rfl, Rotation.proper _ (framed_unit _ _ eye frame), seen,
        project_ahead _ _ _ seen (epsilon_pos.trans far), ?_⟩
      rw [up_seen eye target up far wide]
      exact ⟨rfl, neg_neg_of_pos (epsilon_pos.trans wide)⟩
  case degenerate =>
    change (_ ↔ _ ∨ (up.cross (sight eye target)).norm ≤ _) ∧ (_ ↔ _ ∧ _ < (up.cross (sight eye target)).norm)
    obtain ⟨near, failed⟩ | ⟨far, thin, failed⟩ | ⟨far, wide, same⟩ := look_at_cases eye target up
    · simp [failed, near]
    · simp [failed, far, thin]
    · simp [same, far, wide]
  case level =>
    have cosine : Real.cos pose.angle = pose.turn.cos := Turn.cos_angle _ unit
    have sine : Real.sin pose.angle = pose.turn.sin := Turn.sin_angle _ unit
    have frame := level_orthonormal pose
    have same := level_eq pose height
    rw [cosine, sine] at frame same
    rw [same]
    have circle : pose.turn.cos * pose.turn.cos + pose.turn.sin * pose.turn.sin = 1 := unit
    refine ⟨rfl, Rotation.proper _ (framed_unit _ _ _ frame), ?_, ?_, fun distance ahead => ?_⟩
    · rw [framed_act _ _ _ frame]
      ext <;> simp [Mat3.ofColumns, Mat3.mul_vec_def, Vec3.dot]
    · rw [framed_act _ _ _ frame]
      ext <;> simp [Mat3.ofColumns, Mat3.mul_vec_def, Vec3.dot, Vec3.cross]
      linear_combination -circle
    · refine project_ahead _ _ _ (framed_ahead _ _ _ frame _ distance ?_) ahead
      ext <;> simp [Vec3.sub_def, Vec3.smul_def]

theorem views_upright_tilted :
    (∃ pose : Pose3 ℝ, lookAt ⟨0, -3, 4⟩ 0 ⟨0, 0, 1⟩ = .ok pose ∧ pose.transformTo 0 = ⟨0, 0, 5⟩ ∧
      project pose 0 = .ok ⟨0, 0⟩ ∧ (pose.rotation.inverse.act ⟨0, 0, 1⟩).y < 0) ∧
    (∃ fault, lookAt (⟨1, 2, 3⟩ : Vec3 ℝ) ⟨1, 2, 3⟩ ⟨0, 0, 1⟩ = .error (.degenerateFrame fault)) ∧
    (level ⟨⟨1, 2⟩, ⟨3 / 5, 4 / 5⟩⟩ 3 : Pose3 ℝ).rotation.act ⟨0, 0, 1⟩ = ⟨3 / 5, 4 / 5, 0⟩ ∧
    project (level ⟨⟨1, 2⟩, ⟨3 / 5, 4 / 5⟩⟩ 3 : Pose3 ℝ) ⟨4, 6, 3⟩ = .ok ⟨0, 0⟩ := by
  obtain ⟨frames, degenerate, levels⟩ := views_upright
  have distance : ((0 : Vec3 ℝ) - ⟨0, -3, 4⟩).norm = 5 := by
    refine Vec3.norm_of_squared _ _ (by norm_num) ?_
    norm_num [Vec3.normSquared, Vec3.dot, Vec3.sub_def]
  have spread : ((⟨0, 0, 1⟩ : Vec3 ℝ).cross (((0 : Vec3 ℝ) - ⟨0, -3, 4⟩) / (5 : ℝ))).norm = 3 / 5 := by
    refine Vec3.norm_of_squared _ _ (by norm_num) ?_
    norm_num [Vec3.normSquared, Vec3.dot, Vec3.cross, Vec3.sub_def, Vec3.div_def]
  have still : ((⟨1, 2, 3⟩ : Vec3 ℝ) - ⟨1, 2, 3⟩).norm ≤ Scalar.epsilon := by
    have zero : (⟨1, 2, 3⟩ : Vec3 ℝ) - ⟨1, 2, 3⟩ = 0 := by
      ext <;> simp [Vec3.sub_def]
    rw [zero, Vec3.norm_zero]
    exact epsilon_pos.le
  obtain ⟨pose, found⟩ := (degenerate ⟨0, -3, 4⟩ 0 ⟨0, 0, 1⟩).2.mpr (by
    rw [distance, spread, epsilon_eq]
    norm_num)
  obtain ⟨-, -, seen, centred, -, upwards⟩ := frames _ _ _ pose found
  rw [distance] at seen
  have unit : (⟨⟨1, 2⟩, ⟨3 / 5, 4 / 5⟩⟩ : Pose2 ℝ).Unit := by
    rw [Pose2.Unit, Turn.Unit]
    norm_num
  obtain ⟨-, -, axis, -, ahead⟩ := levels _ 3 unit
  have straight := ahead 5 (by norm_num)
  norm_num at straight
  have coincides := (degenerate ⟨1, 2, 3⟩ ⟨1, 2, 3⟩ ⟨0, 0, 1⟩).1.mpr (.inl still)
  exact ⟨⟨pose, found, seen, centred, upwards⟩, coincides, axis, straight⟩

end View

end FactorGraph
