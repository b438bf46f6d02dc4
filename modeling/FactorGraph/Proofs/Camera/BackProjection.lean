import Mathlib
import FactorGraph.Proofs.Camera.Differentiation
import FactorGraph.Proofs.Lie.Motion

set_option autoImplicit false

namespace FactorGraph

theorem Vec2.norm_sub_self (a : Vec2 ℝ) : (a - a).norm = 0 := by
  change Real.sqrt ((a.x - a.x) * (a.x - a.x) + (a.y - a.y) * (a.y - a.y)) = 0
  rw [sub_self, sub_self, mul_zero, add_zero, Real.sqrt_zero]

namespace Calibration

section Iteration

variable {α : Type} [Scalar α] (c : Calibration α) (pixel : Vec2 α) (tolerance : α)

-- The last check alone says so. How its estimate came about, and that a distortion before it may have been zero, does not
-- matter, so this holds of machine numbers too.
theorem undistort_close (fuel : ℕ) (start p : Vec2 α) (found : c.undistort pixel tolerance fuel start = some p) :
    (c.uncalibrate p - pixel).norm < tolerance := by
  induction fuel generalizing start with
  | zero => cases found
  | succ fuel ih =>
      rw [undistort] at found
      split at found
      · rename_i close
        cases found
        exact close
      · exact ih _ found

theorem calibrate_close (p : Vec2 α) (found : c.calibrate pixel tolerance = .ok p) :
    (c.uncalibrate p - pixel).norm < tolerance := by
  refine undistort_close c pixel tolerance maxIterations ((pixel - c.principalPoint) / c.f) p ?_
  rw [calibrate] at found
  cases reached : c.undistort pixel tolerance maxIterations ((pixel - c.principalPoint) / c.f) with
  | none =>
      rw [reached] at found
      cases found
  | some q =>
      rw [reached] at found
      cases found
      rfl

end Iteration

section Undistorted

variable (c : Calibration ℝ) (focal : c.f ≠ 0) (first : c.k1 = 0) (second : c.k2 = 0) (pixel : Vec2 ℝ)

include first second

theorem distortion_eq_one (r : ℝ) : c.distortion r = 1 := by
  rw [distortion, first, second]
  ring

include focal

theorem uncalibrate_centred : c.uncalibrate ((pixel - c.principalPoint) / c.f) = pixel := by
  rw [uncalibrate, distortion_eq_one c first second]
  ext <;> simp only [principalPoint, Vec2.sub_def, Vec2.div_def] <;> field_simp <;> ring

theorem calibrate_undistorted (tolerance : ℝ) (positive : 0 < tolerance) :
    c.calibrate pixel tolerance = .ok ((pixel - c.principalPoint) / c.f) := by
  have one (v : Vec2 ℝ) : v / (1 : ℝ) = v := by
    ext <;> simp [Vec2.div_def]
  have met : (c.uncalibrate ((pixel - c.principalPoint) / c.f) - pixel).norm < tolerance := by
    rw [uncalibrate_centred c focal first second, Vec2.norm_sub_self]
    exact positive
  rw [calibrate, maxIterations, undistort, distortion_eq_one c first second, one, if_pos met]

end Undistorted

end Calibration

namespace View

variable (pose : Pose3 ℝ) (unit : pose.Unit)

include unit

theorem transform_to_backproject (p : Vec2 ℝ) (depth : ℝ) :
    pose.transformTo (backproject pose p depth) = multiply p depth := pose.transform_to_from unit _

theorem project_backproject (p : Vec2 ℝ) (depth : ℝ) (front : 0 < depth) :
    project pose (backproject pose p depth) = .ok p := by
  rw [project, transform_to_backproject pose unit, divide_ok _ (not_le.mpr front)]
  refine congrArg Except.ok ?_
  ext
  · exact mul_div_cancel_right₀ _ front.ne'
  · exact mul_div_cancel_right₀ _ front.ne'

theorem backproject_project (point : Vec3 ℝ) (front : 0 < (pose.transformTo point).z) :
    ∃ p, project pose point = .ok p ∧ backproject pose p (pose.transformTo point).z = point := by
  refine ⟨_, divide_ok _ (not_le.mpr front), ?_⟩
  have same : multiply ⟨(pose.transformTo point).x / (pose.transformTo point).z,
      (pose.transformTo point).y / (pose.transformTo point).z⟩ (pose.transformTo point).z = pose.transformTo point := by
    ext
    · exact div_mul_cancel₀ _ front.ne'
    · exact div_mul_cancel₀ _ front.ne'
    · rfl
  rw [backproject, same, pose.transform_from_to unit]

end View

namespace Camera

variable (c : Camera ℝ) (unit : c.pose.Unit) (pixel : Vec2 ℝ) (depth : ℝ) (front : 0 < depth)

theorem backproject_ok (p : Vec2 ℝ) (found : c.calibration.calibrate pixel backprojectTolerance = .ok p) :
    c.backproject pixel depth = .ok (View.backproject c.pose p depth) := by
  rw [backproject, found]
  rfl

theorem backproject_ok_inv (point : Vec3 ℝ) (found : c.backproject pixel depth = .ok point) :
    ∃ p, c.calibration.calibrate pixel backprojectTolerance = .ok p ∧ point = View.backproject c.pose p depth := by
  rw [backproject] at found
  cases reached : c.calibration.calibrate pixel backprojectTolerance with
  | error fault =>
      rw [reached] at found
      cases found
  | ok p =>
      rw [reached] at found
      cases found
      exact ⟨p, rfl, rfl⟩

include unit front

theorem project_backprojected (p : Vec2 ℝ) :
    c.project (View.backproject c.pose p depth) = .ok (c.calibration.uncalibrate p) := by
  rw [project, View.project_backproject c.pose unit p depth front]
  rfl

theorem backproject_seen (point : Vec3 ℝ) (found : c.backproject pixel depth = .ok point) :
    (c.pose.transformTo point).z = depth ∧ ∃ seen, c.project point = .ok seen ∧ (seen - pixel).norm < 1e-9 := by
  obtain ⟨p, reached, rfl⟩ := backproject_ok_inv c pixel depth point found
  refine ⟨congrArg Vec3.z (View.transform_to_backproject c.pose unit p depth), _,
    project_backprojected c unit depth front p, ?_⟩
  exact c.calibration.calibrate_close pixel _ p reached

theorem backproject_undistorted (focal : c.calibration.f ≠ 0) (first : c.calibration.k1 = 0)
    (second : c.calibration.k2 = 0) : ∃ point, c.backproject pixel depth = .ok point ∧ c.project point = .ok pixel := by
  have positive : (0 : ℝ) < backprojectTolerance := by
    rw [backprojectTolerance]
    norm_num
  have reached := c.calibration.calibrate_undistorted focal first second pixel backprojectTolerance positive
  refine ⟨_, backproject_ok c pixel depth _ reached, ?_⟩
  rw [project_backprojected c unit depth front, c.calibration.uncalibrate_centred focal first second]

end Camera

/-- What a camera projects back lies at the given depth and is seen within the tolerance of the pixel; without distortion it
is always found and seen at the pixel. What a view sees, it projects back to where it was. -/
theorem backproject_undoes_project :
    (∀ (c : Camera ℝ) (pixel : Vec2 ℝ) (depth : ℝ), c.pose.Unit → c.calibration.f ≠ 0 → 0 < depth →
      (∀ point, c.backproject pixel depth = .ok point →
        (c.pose.transformTo point).z = depth ∧ ∃ seen, c.project point = .ok seen ∧ (seen - pixel).norm < 1e-9) ∧
      (c.calibration.k1 = 0 → c.calibration.k2 = 0 →
        ∃ point, c.backproject pixel depth = .ok point ∧ c.project point = .ok pixel)) ∧
    ∀ (pose : Pose3 ℝ) (point : Vec3 ℝ), pose.Unit → 0 < (pose.transformTo point).z →
      ∃ p, View.project pose point = .ok p ∧ View.backproject pose p (pose.transformTo point).z = point := by
  refine ⟨fun c pixel depth unit focal front => ⟨fun point found => ?_, fun first second => ?_⟩,
    fun pose point unit front => ?_⟩
  · exact c.backproject_seen unit pixel depth front point found
  · exact c.backproject_undistorted unit pixel depth front focal first second
  · exact View.backproject_project pose unit point front

-- The distortion is two at one and at one half, so that the first step finds the point.
theorem backproject_undoes_project_bent :
    let pose : Pose3 ℝ := ⟨⟨⟨4 / 5, 0, 3 / 5, 0⟩⟩, ⟨1, 2, 3⟩⟩
    let bent : Camera ℝ := ⟨pose, ⟨500, 5, -4, 320, 240⟩⟩
    let flat : Camera ℝ := ⟨pose, ⟨500, 0, 0, 320, 240⟩⟩
    (∃ point, bent.backproject ⟨820, 240⟩ 3 = .ok point ∧ (pose.transformTo point).z = 3 ∧
      ∃ seen, bent.project point = .ok seen ∧ (seen - ⟨820, 240⟩).norm < 1e-9) ∧
    (∃ point, flat.backproject ⟨7, -5⟩ 3 = .ok point ∧ flat.project point = .ok ⟨7, -5⟩) ∧
    ∃ p, View.project pose (pose.transformFrom ⟨1, 2, 4⟩) = .ok p ∧
      View.backproject pose p (pose.transformTo (pose.transformFrom ⟨1, 2, 4⟩)).z = pose.transformFrom ⟨1, 2, 4⟩ := by
  intro pose bent flat
  have unit : pose.Unit := by
    change (4 / 5 : ℝ) * (4 / 5) + 0 * 0 + 3 / 5 * (3 / 5) + 0 * 0 = 1
    norm_num
  have reached : bent.calibration.calibrate ⟨820, 240⟩ Camera.backprojectTolerance = .ok ⟨1 / 2, 0⟩ := by
    have start : ((⟨820, 240⟩ : Vec2 ℝ) - bent.calibration.principalPoint) / bent.calibration.f = ⟨1, 0⟩ := by
      ext <;> norm_num [bent, Calibration.principalPoint, Vec2.sub_def, Vec2.div_def]
    have next : (⟨1, 0⟩ : Vec2 ℝ) / bent.calibration.distortion (⟨1, 0⟩ : Vec2 ℝ).normSquared = ⟨1 / 2, 0⟩ := by
      ext <;> norm_num [bent, Calibration.distortion, Vec2.normSquared, Vec2.dot, Vec2.div_def]
    have seen : bent.calibration.uncalibrate ⟨1 / 2, 0⟩ = ⟨820, 240⟩ := by
      ext <;> norm_num [bent, Calibration.uncalibrate, Calibration.distortion, Vec2.normSquared, Vec2.dot]
    have met : (bent.calibration.uncalibrate ⟨1 / 2, 0⟩ - ⟨820, 240⟩).norm < Camera.backprojectTolerance := by
      rw [seen, Vec2.norm_sub_self, Camera.backprojectTolerance]
      norm_num
    rw [Calibration.calibrate, Calibration.maxIterations, Calibration.undistort, start, next, if_pos met]
  obtain ⟨cameras, views⟩ := backproject_undoes_project
  have found := bent.backproject_ok ⟨820, 240⟩ 3 _ reached
  refine ⟨⟨_, found, (cameras bent _ 3 unit (by norm_num [bent]) (by norm_num)).1 _ found⟩,
    (cameras flat ⟨7, -5⟩ 3 unit (by norm_num [flat]) (by norm_num)).2 rfl rfl, views pose _ unit ?_⟩
  rw [pose.transform_to_from unit]
  norm_num

end FactorGraph
