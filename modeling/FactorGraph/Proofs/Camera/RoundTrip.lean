import Mathlib
import FactorGraph.Camera.Pinhole
import FactorGraph.Proofs.Factor.Evaluation
import FactorGraph.Proofs.Lie.Pose3RoundTrip

set_option autoImplicit false

namespace FactorGraph

attribute [ext] Calibration

namespace Calibration

def centredAt (c : Calibration ℝ) (p : Vec2 ℝ) : Calibration ℝ := { c with u0 := p.x, v0 := p.y }

variable (a b : Calibration ℝ)

theorem centred_at_self : b.centredAt b.principalPoint = b := rfl

theorem centred_at_iff : b.centredAt a.principalPoint = b ↔ a.principalPoint = b.principalPoint := by
  constructor
  · intro same
    rw [← same]
    rfl
  · intro same
    rw [same, centred_at_self]

theorem beq_iff : (a == b) = true ↔ a = b := by
  change (a.f == b.f && (a.k1 == b.k1 && (a.k2 == b.k2 && (a.u0 == b.u0 && a.v0 == b.v0)))) = true ↔ _
  simp only [Bool.and_eq_true, scalar_beq_iff, Calibration.ext_iff]

theorem retract_eq (d : Vec3 ℝ) : Manifold.retract a d.toList = .ok (a.withParameters (a.parameters + d)) := rfl

theorem local_coordinates_eq : Manifold.localCoordinates a b = .ok (b.parameters - a.parameters).toList := rfl

theorem moved_parameters :
    a.withParameters (a.parameters + (b.parameters - a.parameters)) = b.centredAt a.principalPoint := by
  ext <;> simp [withParameters, parameters, centredAt, principalPoint, Vec3.add_def, Vec3.sub_def]

theorem difference_zero_iff : b.parameters - a.parameters = 0 ↔ a = b.centredAt a.principalPoint := by
  constructor
  · intro none
    rw [← moved_parameters, none, Vec3.add_zero]
    rfl
  · intro same
    rw [same]
    ext <;> simp [parameters, centredAt, Vec3.sub_def]

theorem retract_local_coordinates :
    (Manifold.localCoordinates a b >>= Manifold.retract a) = .ok (b.centredAt a.principalPoint) := by
  rw [local_coordinates_eq, Outcome.ok_bind, retract_eq, moved_parameters]

theorem local_coordinates_zero_iff :
    Manifold.localCoordinates a b = .ok [0, 0, 0] ↔ a = b.centredAt a.principalPoint := by
  rw [local_coordinates_eq, Except.ok.injEq, ← difference_zero_iff, Vec3.ext_iff]
  simp [Vec3.toList]

theorem reaches_iff :
    (Manifold.localCoordinates a b >>= Manifold.retract a) = .ok b ↔ a.principalPoint = b.principalPoint := by
  rw [retract_local_coordinates, Except.ok.injEq, centred_at_iff]

end Calibration

namespace Camera

def centredAt (c : Camera ℝ) (p : Vec2 ℝ) : Camera ℝ := ⟨c.pose, c.calibration.centredAt p⟩

variable (a b : Camera ℝ)

theorem beq_iff : (a == b) = true ↔ (a.pose == b.pose) = true ∧ a.calibration = b.calibration := by
  change (a.pose == b.pose && a.calibration == b.calibration) = true ↔ _
  rw [Bool.and_eq_true, Calibration.beq_iff]

theorem retract_eq (t : Twist3 ℝ) (d : Vec3 ℝ) : Manifold.retract a (t.toList ++ d.toList) =
    .ok ⟨a.pose * Pose3.exp t, a.calibration.withParameters (a.calibration.parameters + d)⟩ := rfl

theorem local_coordinates_eq : Manifold.localCoordinates a b =
    .ok ((Pose3.log (a.pose⁻¹ * b.pose)).toList ++ (b.calibration.parameters - a.calibration.parameters).toList) :=
  local_coordinates_ok a b _ _ (Pose3.local_coordinates_eq a.pose b.pose)
    (Calibration.local_coordinates_eq a.calibration b.calibration)

theorem moved_eq : (Manifold.localCoordinates a b >>= Manifold.retract a) =
    .ok ⟨a.pose * Pose3.exp (Pose3.log (a.pose⁻¹ * b.pose)), b.calibration.centredAt a.calibration.principalPoint⟩ := by
  rw [local_coordinates_eq, Outcome.ok_bind, retract_eq, Calibration.moved_parameters]

theorem coordinates_zero_iff (t : Twist3 ℝ) (d : Vec3 ℝ) :
    t.toList ++ d.toList = List.replicate 9 0 ↔ t = ⟨0, 0⟩ ∧ d = 0 := by
  simp [Twist3.toList, Vec3.toList, Twist3.ext_iff, Vec3.ext_iff, List.replicate, and_assoc]

section Relative

variable (first : a.pose.Unit) (second : b.pose.Unit) (closed : Rotation.ClosedForm (a.pose⁻¹ * b.pose).rotation.angle)

include first second closed

theorem retract_local_coordinates : ∃ c, (Manifold.localCoordinates a b >>= Manifold.retract a) = .ok c ∧
    c == b.centredAt a.calibration.principalPoint := by
  refine ⟨_, moved_eq a b, (beq_iff _ _).mpr ⟨?_, rfl⟩⟩
  exact Pose3.mul_exp_log a.pose b.pose first second closed

theorem local_coordinates_zero_iff : Manifold.localCoordinates a b = .ok (List.replicate 9 0) ↔
    a == b.centredAt a.calibration.principalPoint := by
  rw [local_coordinates_eq, Except.ok.injEq, coordinates_zero_iff, beq_iff, Calibration.difference_zero_iff,
    Pose3.log_zero_iff a.pose b.pose first second closed]
  rfl

theorem reaches_iff : (∃ c, (Manifold.localCoordinates a b >>= Manifold.retract a) = .ok c ∧ c == b) ↔
    a.calibration.principalPoint = b.calibration.principalPoint := by
  rw [← Calibration.centred_at_iff]
  constructor
  · rintro ⟨c, reached, same⟩
    obtain rfl := Except.ok.inj ((moved_eq a b).symm.trans reached)
    exact ((beq_iff _ b).mp same).2
  · intro same
    refine ⟨_, moved_eq a b, (beq_iff _ b).mpr ⟨?_, same⟩⟩
    exact Pose3.mul_exp_log a.pose b.pose first second closed

end Relative

/-- A lens, and below half a turn and in closed form a camera, is reached along its local coordinates up to the principal
point, which stays that of the start. So it is reached exactly when both have the same one, and the coordinates vanish exactly
when nothing else differs. -/
theorem retract_reaches_up_to_principal_point (lens other : Calibration ℝ) (a b : Camera ℝ) :
    ((Manifold.localCoordinates lens other >>= Manifold.retract lens) = .ok (other.centredAt lens.principalPoint) ∧
      ((Manifold.localCoordinates lens other >>= Manifold.retract lens) = .ok other ↔
        lens.principalPoint = other.principalPoint) ∧
      (Manifold.localCoordinates lens other = .ok [0, 0, 0] ↔ lens = other.centredAt lens.principalPoint)) ∧
    (a.pose.Unit → b.pose.Unit → Rotation.ClosedForm (a.pose⁻¹ * b.pose).rotation.angle →
      (∃ c, (Manifold.localCoordinates a b >>= Manifold.retract a) = .ok c ∧
        c == b.centredAt a.calibration.principalPoint) ∧
      ((∃ c, (Manifold.localCoordinates a b >>= Manifold.retract a) = .ok c ∧ c == b) ↔
        a.calibration.principalPoint = b.calibration.principalPoint) ∧
      (Manifold.localCoordinates a b = .ok (List.replicate 9 0) ↔ a == b.centredAt a.calibration.principalPoint)) := by
  constructor
  · exact ⟨Calibration.retract_local_coordinates lens other, Calibration.reaches_iff lens other,
      Calibration.local_coordinates_zero_iff lens other⟩
  · intro first second closed
    exact ⟨retract_local_coordinates a b first second closed, reaches_iff a b first second closed,
      local_coordinates_zero_iff a b first second closed⟩

theorem retract_reaches_up_to_principal_point_refocused :
    let a : Camera ℝ := ⟨⟨⟨⟨4 / 5, 0, 3 / 5, 0⟩⟩, ⟨1, 2, 3⟩⟩, ⟨500, 1 / 10, 0, 320, 240⟩⟩
    let b : Camera ℝ := ⟨⟨⟨⟨-1, 0, 0, 0⟩⟩, ⟨0, 1, 1⟩⟩, ⟨520, 0, 1 / 100, 320, 240⟩⟩
    (Manifold.localCoordinates a.calibration b.calibration >>= Manifold.retract a.calibration) = .ok b.calibration ∧
      (∃ c, (Manifold.localCoordinates a b >>= Manifold.retract a) = .ok c ∧ c == b) ∧
      Manifold.localCoordinates a b ≠ .ok (List.replicate 9 0) := by
  intro a b
  have first : a.pose.Unit := by
    change (4 / 5 : ℝ) * (4 / 5) + 0 * 0 + 3 / 5 * (3 / 5) + 0 * 0 = 1
    norm_num
  have second : b.pose.Unit := by
    change (-1 : ℝ) * -1 + 0 * 0 + 0 * 0 + 0 * 0 = 1
    norm_num
  have turn : (a.pose⁻¹ * b.pose).rotation.quat = ⟨-(4 / 5), 0, 3 / 5, 0⟩ := by
    change a.pose.rotation.quat.conjugate * b.pose.rotation.quat = _
    ext <;> norm_num [a, b, Quat.conjugate, Quat.mul_def]
  have closed : Rotation.ClosedForm (a.pose⁻¹ * b.pose).rotation.angle := by
    refine Rotation.closed_of_parts _ (Pose3.unit_mul _ _ (Pose3.unit_inv a.pose first) second)
      (by rw [turn]; norm_num) ?_
    rw [turn]
    change (1e-10 : ℝ) ≤ 4 * (0 * 0 + 3 / 5 * (3 / 5) + 0 * 0)
    norm_num
  obtain ⟨⟨-, returns, -⟩, cameras⟩ := retract_reaches_up_to_principal_point a.calibration b.calibration a b
  obtain ⟨-, reaches, zero⟩ := cameras first second closed
  refine ⟨returns.mpr rfl, reaches.mpr rfl, fun none => ?_⟩
  have focal := congrArg Calibration.f ((beq_iff _ _).mp (zero.mp none)).2
  norm_num [a, b, centredAt, Calibration.centredAt] at focal

theorem local_coordinates_miss_principal_point :
    let a : Calibration ℝ := ⟨1, 0, 0, 0, 0⟩
    let b : Calibration ℝ := ⟨1, 0, 0, 5, 7⟩
    Manifold.localCoordinates a b = .ok [0, 0, 0] ∧
      (Manifold.localCoordinates a b >>= Manifold.retract a) = .ok a ∧ a ≠ b ∧
      Manifold.localCoordinates (⟨1, a⟩ : Camera ℝ) ⟨1, b⟩ = .ok (List.replicate 9 0) ∧
      ¬ ∃ c, (Manifold.localCoordinates (⟨1, a⟩ : Camera ℝ) ⟨1, b⟩ >>= Manifold.retract ⟨1, a⟩) = .ok c ∧
        c == (⟨1, b⟩ : Camera ℝ) := by
  intro a b
  have centres : a.principalPoint ≠ b.principalPoint := fun same => by
    have column := congrArg Vec2.x same
    norm_num [a, b, Calibration.principalPoint] at column
  have kept : b.centredAt a.principalPoint = a := rfl
  have none := (Calibration.local_coordinates_zero_iff a b).mpr kept.symm
  have reached := Calibration.retract_local_coordinates a b
  rw [kept] at reached
  refine ⟨none, reached, fun same => centres (congrArg Calibration.principalPoint same), ?_, ?_⟩
  · rw [local_coordinates_eq, Except.ok.injEq, coordinates_zero_iff, Pose3.laws.inv_mul 1 Pose3.unit_one]
    exact ⟨Pose3.log_one, (Calibration.difference_zero_iff a b).mpr kept.symm⟩
  · rintro ⟨c, moved, same⟩
    obtain rfl := Except.ok.inj ((moved_eq _ _).symm.trans moved)
    exact centres ((Calibration.centred_at_iff a b).mp ((beq_iff _ _).mp same).2)

end Camera

end FactorGraph
