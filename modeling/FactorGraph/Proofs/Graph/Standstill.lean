import Mathlib
import FactorGraph.Proofs.Camera.RoundTrip
import FactorGraph.Proofs.Graph.Retraction
import FactorGraph.Proofs.Lie.Pose2RoundTrip

set_option autoImplicit false

namespace FactorGraph

theorem Quat.mul_one_self (q : Quat ℝ) : q * 1 = q := by
  ext <;> simp [Quat.mul_def, Quat.one_def]

theorem Quat.rotate_zero (q : Quat ℝ) : q.rotate 0 = 0 := by
  ext <;> simp [rotate, Vec3.cross, Vec3.add_def, Vec3.smul_def]

theorem Pose2.mul_one_self (x : Pose2 ℝ) : x * 1 = x := by
  change (⟨x.turn.act 0 + x.position, x.turn.compose ⟨1, 0⟩⟩ : Pose2 ℝ) = x
  ext <;> simp [Turn.act, Turn.compose, Vec2.add_def]

theorem Pose3.mul_one_self (x : Pose3 ℝ) : x * 1 = x := by
  change (⟨⟨x.rotation.quat * 1⟩, x.rotation.quat.rotate 0 + x.position⟩ : Pose3 ℝ) = x
  rw [Quat.mul_one_self, Quat.rotate_zero, Vec3.zero_add]

section Zero

theorem Vec3.retract_zero (x : Vec3 ℝ) : Manifold.retract x (List.replicate 3 0) = .ok x := by
  change Except.ok (x + 0) = .ok x
  rw [Vec3.add_zero]

theorem list_retract_zero (x : List ℝ) : Manifold.retract x (List.replicate x.length 0) = .ok x := by
  have checked := (check_tangent_ok_iff (List.replicate x.length (0 : ℝ)) x.length).mpr ⟨List.length_replicate, all_finite _⟩
  have still : List.zipWith (· + ·) x (List.replicate x.length 0) = x :=
    List.ext_getElem (by simp) fun i _ _ => by simp
  change (checkTangent _ x.length >>= fun _ => Except.ok (List.zipWith (· + ·) x _)) = .ok x
  rw [checked, Outcome.ok_bind, still]

theorem Pose2.retract_zero (x : Pose2 ℝ) : Manifold.retract x (List.replicate 3 0) = .ok x := by
  change Manifold.retract x (⟨0, 0, 0⟩ : Twist2 ℝ).toList = _
  rw [retract_eq, exp_zero, mul_one_self]

theorem Pose3.retract_zero (x : Pose3 ℝ) : Manifold.retract x (List.replicate 6 0) = .ok x := by
  change Manifold.retract x (⟨0, 0⟩ : Twist3 ℝ).toList = _
  rw [retract_eq, exp_zero, mul_one_self]

theorem Calibration.retract_zero (x : Calibration ℝ) : Manifold.retract x (List.replicate 3 0) = .ok x := by
  change Manifold.retract x (0 : Vec3 ℝ).toList = _
  rw [retract_eq, Vec3.add_zero]
  rfl

theorem Camera.retract_zero (x : Camera ℝ) : Manifold.retract x (List.replicate 9 0) = .ok x := by
  change Manifold.retract x ((⟨0, 0⟩ : Twist3 ℝ).toList ++ (0 : Vec3 ℝ).toList) = _
  rw [retract_eq, Pose3.exp_zero, Pose3.mul_one_self, Vec3.add_zero]
  rfl

end Zero

theorem Value.retract_zero (value : Value ℝ) : value.retract (List.replicate value.dimension 0) = .ok value := by
  cases value with
  | pose2 x => exact congrArg (Value.pose2 <$> ·) x.retract_zero
  | pose3 x => exact congrArg (Value.pose3 <$> ·) x.retract_zero
  | point3 x => exact congrArg (Value.point3 <$> ·) x.retract_zero
  | vector x => exact congrArg (Value.vector <$> ·) (list_retract_zero x)
  | calibration x => exact congrArg (Value.calibration <$> ·) x.retract_zero
  | camera x => exact congrArg (Value.camera <$> ·) x.retract_zero

namespace Layout

theorem part_replicate (values : Values ℝ) (key : Key) (span : Span)
    (found : (ofValues values).span? key = some span) :
    part (List.replicate (ofValues values).total (0 : ℝ)) span = List.replicate span.dimension 0 := by
  obtain ⟨_, _, _, inside⟩ := span_of_values values key span found
  rw [part, List.drop_replicate, List.take_replicate, Nat.min_eq_left (by omega)]

theorem split_zero (values : Values ℝ) :
    (ofValues values).split (Block.column (List.replicate (ofValues values).total 0)) = .ok (Updates.zero values) := by
  rw [split_column _ _ List.length_replicate, Except.ok.injEq]
  refine SortedMap.ext_get _ _ fun key => ?_
  rw [SortedMap.get_map, Updates.zero, SortedMap.get_map]
  cases found : (ofValues values).spans.get? key with
  | none =>
      have absent : values.get? key = none := by
        rw [SortedMap.get_eq_none_iff] at found ⊢
        rwa [keys_spans] at found
      rw [absent]
      rfl
  | some span =>
      obtain ⟨value, mem, same, _⟩ := span_of_values values key span found
      rw [(SortedMap.get_eq_some_iff values key value).mpr mem, Option.map_some, Option.map_some,
        part_replicate values key span found, same]

end Layout

theorem Values.retract_zero (values : Values ℝ) : values.retract (Updates.zero values) = .ok values := by
  rw [retract_ok_iff_get]
  refine ⟨fun key mem => ?_, rfl, fun key value held => ⟨value, held, ?_⟩⟩
  · rwa [Updates.zero, SortedMap.keys_map] at mem
  · rw [moveEntry, Updates.zero, SortedMap.get_map, held]
    simp only [Option.map_some, value.retract_zero]
    rfl

end FactorGraph
