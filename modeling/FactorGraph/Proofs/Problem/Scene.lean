import Mathlib
import FactorGraph.Problem.Scene
import FactorGraph.Proofs.Camera.RoundTrip
import FactorGraph.Proofs.Camera.Upright
import FactorGraph.Proofs.Random.Draws

set_option autoImplicit false

namespace FactorGraph

variable {β σ : Type}

def Vec2.Within (bound : ℝ) (v : Vec2 ℝ) : Prop := |v.x| ≤ bound ∧ |v.y| ≤ bound

def Vec3.Within (bound : ℝ) (v : Vec3 ℝ) : Prop := |v.x| ≤ bound ∧ |v.y| ≤ bound ∧ |v.z| ≤ bound

inductive AllButFirst (moves : β → β → Prop) : List β → List β → Prop where
  | nil : AllButFirst moves [] []
  | cons (first : β) (before after : List β) (others : List.Forall₂ moves before after) :
      AllButFirst moves (first :: before) (first :: after)

theorem AllButFirst.map_eq {γ : Type} (moves : β → β → Prop) (f : β → γ) (keeps : ∀ b c, moves b c → f c = f b)
    (before after : List β) (moved : AllButFirst moves before after) : after.map f = before.map f := by
  cases moved with
  | nil => rfl
  | cons first before after others =>
      rw [List.map_cons, List.map_cons]
      refine congrArg _ ?_
      induction others with
      | nil => rfl
      | cons here _ ih => rw [List.map_cons, List.map_cons, keeps _ _ here, ih]

-- A track that every camera observes once, in the order of the cameras, close to where it projects the point.
structure Track.Complete (cameras : List (Camera ℝ)) (noise : ℝ) (track : Track ℝ) : Prop where
  order : track.observations.map Prod.fst = List.range cameras.length
  near : ∀ (i : ℕ) (pixel : Vec2 ℝ), (i, pixel) ∈ track.observations → ∃ camera projected, cameras[i]? = some camera ∧
    camera.project track.point = .ok projected ∧ (pixel - projected).Within noise

-- The camera is moved along a tangent vector within the perturbations, and keeps its distortion.
def Camera.Moved (config : SceneConfig ℝ) (camera moved : Camera ℝ) : Prop :=
  ∃ (rho theta : Vec3 ℝ) (focal : ℝ), rho.Within config.positionPerturbation ∧
    theta.Within config.rotationPerturbation ∧ |focal| ≤ config.focalPerturbation ∧
    Manifold.retract camera (rho.toList ++ theta.toList ++ [focal, 0, 0]) = .ok moved ∧
    moved.calibration = { camera.calibration with f := camera.calibration.f + focal }

-- The point is moved by an offset within the perturbation, and the observations stay.
def Track.Moved (config : SceneConfig ℝ) (track moved : Track ℝ) : Prop :=
  ∃ offset : Vec3 ℝ, offset.Within config.pointPerturbation ∧ moved = { track with point := track.point + offset }

section Front

variable (eye p : Vec3 ℝ)

theorem Vec3.dot_lt_of_closer (closer : p.dot p < eye.dot eye) : eye.dot p < eye.dot eye := by
  -- By the inequality of Cauchy and Schwarz, the point lies before the plane through the eye across the sight.
  have schwarz : eye.dot p ^ 2 ≤ eye.dot eye * p.dot p := by
    have lagrange : eye.dot eye * p.dot p - eye.dot p ^ 2 = (eye.cross p).dot (eye.cross p) := by
      simp only [dot, cross]
      ring
    linarith [(eye.cross p).dot_self_nonneg]
  have nonneg := p.dot_self_nonneg
  exact lt_of_pow_lt_pow_left₀ 2 (nonneg.trans closer.le) (by nlinarith)

theorem View.depth_pos (up : Vec3 ℝ) (pose : Pose3 ℝ) (looks : lookAt eye 0 up = .ok pose)
    (closer : p.dot p < eye.dot eye) : 0 < (pose.transformTo p).z := by
  obtain ⟨_, failed⟩ | ⟨_, _, failed⟩ | ⟨far, wide, same⟩ := look_at_cases eye 0 up
  · cases looks.symm.trans failed
  · cases looks.symm.trans failed
  · cases looks.symm.trans same
    have ahead := eye.dot_lt_of_closer p closer
    rw [framed_transform_to _ _ _ (across_orthonormal eye 0 up far wide), sight, Vec3.div_dot]
    refine div_pos ?_ (epsilon_pos.trans far)
    simp only [Vec3.dot, Vec3.sub_def, Vec3.zero_x, Vec3.zero_y, Vec3.zero_z] at ahead ⊢
    linarith

end Front

namespace SceneConfig

def perturbedBy (config : SceneConfig ℝ) (rotation position point focal : ℝ) : SceneConfig ℝ :=
  { config with
    rotationPerturbation := rotation
    positionPerturbation := position
    pointPerturbation := point
    focalPerturbation := focal }

-- The conditions on a configuration over the reals, where every amplitude is finite.
structure Accepted (config : SceneConfig ℝ) : Prop where
  cameras : config.cameras ≠ 0
  points : config.points ≠ 0
  cube : 0 ≤ config.extent
  ring : config.extent * Real.sqrt 3 < config.ringRadius
  noise : 0 ≤ config.pixelNoise
  rotation : 0 ≤ config.rotationPerturbation
  position : 0 ≤ config.positionPerturbation
  point : 0 ≤ config.pointPerturbation
  focal : 0 ≤ config.focalPerturbation

theorem amplitudes_nonneg_iff (config : SceneConfig ℝ) :
    (config.amplitudes.all fun a => Scalar.isFinite a && decide (0 ≤ a)) = true ↔
      0 ≤ config.pixelNoise ∧ 0 ≤ config.rotationPerturbation ∧ 0 ≤ config.positionPerturbation ∧
        0 ≤ config.pointPerturbation ∧ 0 ≤ config.focalPerturbation := by
  have finite : ∀ a : ℝ, Scalar.isFinite a = true := fun _ => rfl
  simp [amplitudes, finite]

theorem validate_ok_iff (config : SceneConfig ℝ) : config.validate = .ok () ↔ config.Accepted := by
  have root : (Scalar.sqrt 3.0 : ℝ) = Real.sqrt 3 := congrArg Real.sqrt (by norm_num)
  rw [validate, root]
  constructor
  · intro valid
    split at valid
    · cases valid
    rename_i counts
    split at valid
    · cases valid
    rename_i ring
    split at valid
    · rename_i amplitudes
      obtain ⟨cameras, points⟩ := not_or.mp counts
      obtain ⟨cube, wide⟩ := not_not.mp ring
      obtain ⟨noise, rotation, position, point, focal⟩ := config.amplitudes_nonneg_iff.mp amplitudes
      exact ⟨cameras, points, cube, wide, noise, rotation, position, point, focal⟩
    · cases valid
  · rintro ⟨cameras, points, cube, ring, noise, rotation, position, point, focal⟩
    rw [if_neg (not_or.mpr ⟨cameras, points⟩), if_neg (not_not.mpr ⟨cube, ring⟩),
      if_pos (config.amplitudes_nonneg_iff.mpr ⟨noise, rotation, position, point, focal⟩)]

variable (config : SceneConfig ℝ) (i : ℕ)

noncomputable def ringEye : Vec3 ℝ :=
  ⟨config.ringRadius * Real.cos (2.0 * Real.pi * i / config.cameras),
    config.ringRadius * Real.sin (2.0 * Real.pi * i / config.cameras), config.ringHeight⟩

theorem ring_eye_dot_self :
    (config.ringEye i).dot (config.ringEye i) = config.ringRadius ^ 2 + config.ringHeight ^ 2 := by
  have circle := Real.sin_sq_add_cos_sq (2.0 * Real.pi * i / config.cameras)
  simp only [ringEye, Vec3.dot]
  linear_combination config.ringRadius ^ 2 * circle

theorem ring_camera_eq : config.ringCamera i =
    ((View.lookAt (config.ringEye i) 0 ⟨0, 0, 1⟩).mapError .camera >>= fun pose => .ok ⟨pose, config.calibration⟩) := rfl

theorem ring_sight_across : ((⟨0, 0, 1⟩ : Vec3 ℝ).cross (View.sight (config.ringEye i) 0)).normSquared =
    config.ringRadius ^ 2 / ((0 : Vec3 ℝ) - config.ringEye i).normSquared := by
  have circle := Real.sin_sq_add_cos_sq (2.0 * Real.pi * i / config.cameras)
  rw [← Vec3.norm_mul_self ((0 : Vec3 ℝ) - config.ringEye i), View.sight]
  generalize ((0 : Vec3 ℝ) - config.ringEye i).norm = n
  simp only [Vec3.normSquared, Vec3.dot, Vec3.cross, Vec3.div_def, Vec3.sub_def, ringEye, Vec3.zero_x, Vec3.zero_y,
    Vec3.zero_z]
  linear_combination config.ringRadius ^ 2 / (n * n) * circle

theorem ring_cameras_stand (large : 1 ≤ config.ringRadius) (low : |config.ringHeight| ≤ config.ringRadius) :
    ∃ cameras, config.ringCameras = .ok cameras := by
  refine Outcome.map_all_succeeds _ _ fun i _ => ?_
  have small : (Scalar.epsilon : ℝ) ^ 2 < 1 / 2 := by
    rw [epsilon_eq]
    norm_num
  have height : config.ringHeight ^ 2 ≤ config.ringRadius ^ 2 := sq_le_sq' (neg_le_of_abs_le low) (le_of_abs_le low)
  have square : ((0 : Vec3 ℝ) - config.ringEye i).normSquared = config.ringRadius ^ 2 + config.ringHeight ^ 2 := by
    rw [Vec3.zero_sub, Vec3.norm_squared_neg]
    exact config.ring_eye_dot_self i
  have far : Scalar.epsilon < ((0 : Vec3 ℝ) - config.ringEye i).norm := by
    refine Real.lt_sqrt_of_sq_lt ?_
    rw [square]
    nlinarith
  have wide : Scalar.epsilon < ((⟨0, 0, 1⟩ : Vec3 ℝ).cross (View.sight (config.ringEye i) 0)).norm := by
    refine Real.lt_sqrt_of_sq_lt (small.trans_le ?_)
    rw [ring_sight_across, square, div_le_div_iff₀ two_pos (by nlinarith)]
    linarith
  obtain ⟨near, _⟩ | ⟨_, thin, _⟩ | ⟨_, _, looks⟩ := View.look_at_cases (config.ringEye i) 0 ⟨0, 0, 1⟩
  · exact absurd near (not_le.mpr far)
  · exact absurd thin (not_le.mpr wide)
  · rw [ring_camera_eq, looks]
    exact ⟨_, rfl⟩

section Enclosed

variable (accepted : config.Accepted)

include accepted

theorem within_closer (p : Vec3 ℝ) (within : p.Within config.extent) :
    p.dot p < (config.ringEye i).dot (config.ringEye i) := by
  have component (a : ℝ) (bounded : |a| ≤ config.extent) : a * a ≤ config.extent ^ 2 := by
    rw [← sq]
    exact sq_le_sq' (neg_le_of_abs_le bounded) (le_of_abs_le bounded)
  have diagonal : config.extent ^ 2 * 3 < config.ringRadius ^ 2 := by
    have squared := pow_lt_pow_left₀ accepted.ring (mul_nonneg accepted.cube (Real.sqrt_nonneg _)) two_ne_zero
    rwa [mul_pow, Real.sq_sqrt zero_le_three] at squared
  rw [ring_eye_dot_self]
  obtain ⟨x, y, z⟩ := within
  have sum : p.dot p = p.x * p.x + p.y * p.y + p.z * p.z := rfl
  linarith [component p.x x, component p.y y, component p.z z, sq_nonneg config.ringHeight]

theorem ring_camera_sees (camera : Camera ℝ) (stands : config.ringCamera i = .ok camera) (p : Vec3 ℝ)
    (within : p.Within config.extent) : ∃ pixel, camera.project p = .ok pixel := by
  rw [ring_camera_eq] at stands
  obtain ⟨pose, looks, made⟩ := (Outcome.bind_ok_iff _ _ _).mp stands
  cases made
  have ahead := View.depth_pos _ p _ pose ((Outcome.map_error_ok_iff _ _ _).mp looks)
    (config.within_closer i accepted p within)
  rw [Camera.project, View.project, View.divide, if_neg (not_le.mpr ahead)]
  exact ⟨_, rfl⟩

theorem ring_cameras_see (cameras : List (Camera ℝ)) (stand : config.ringCameras = .ok cameras) :
    ∀ camera ∈ cameras, ∀ p : Vec3 ℝ, p.Within config.extent → ∃ pixel, camera.project p = .ok pixel := by
  intro camera mem
  obtain ⟨i, -, stands⟩ := Outcome.map_all_outputs _ _ _ stand camera mem
  exact config.ring_camera_sees i accepted camera stands

end Enclosed

end SceneConfig

namespace Scene

variable (source : Source ℝ σ) (bounded : source.Bounded) (config : SceneConfig ℝ)

section Draws

include bounded

theorem draw_vec3_gives (bound : ℝ) (nonneg : 0 ≤ bound) : Gives (drawVec3 source bound) (Vec3.Within bound) := by
  have part := source.uniform_gives bounded bound nonneg
  refine .bind _ _ _ _ part fun x first => .bind _ _ _ _ part fun y second => .bind _ _ _ _ part fun z third => ?_
  exact .pure _ _ ⟨first, second, third⟩

theorem draw_vec2_gives (bound : ℝ) (nonneg : 0 ≤ bound) : Gives (drawVec2 source bound) (Vec2.Within bound) := by
  have part := source.uniform_gives bounded bound nonneg
  refine .bind _ _ _ _ part fun x first => .bind _ _ _ _ part fun y second => ?_
  exact .pure _ _ ⟨first, second⟩

def Noted (noise : ℝ) (point : Vec3 ℝ) (e : ℕ × Camera ℝ) (seen : List (ℕ × Vec2 ℝ)) : Prop :=
  ∃ projected pixel, e.2.project point = .ok projected ∧ (pixel - projected).Within noise ∧ seen = [(e.1, pixel)]

theorem observe_gives (nonneg : 0 ≤ config.pixelNoise) (point : Vec3 ℝ) (i : ℕ) (camera : Camera ℝ)
    (sees : ∃ pixel, camera.project point = .ok pixel) :
    Gives (observe source config point i camera) (Noted config.pixelNoise point (i, camera)) := by
  obtain ⟨projected, sees⟩ := sees
  rw [observe, sees]
  refine .bind _ _ _ _ (draw_vec2_gives source bounded _ nonneg) fun noise within => .pure _ _ ?_
  refine ⟨projected, projected + noise, sees, ?_, rfl⟩
  simpa [Vec2.Within, Vec2.add_def, Vec2.sub_def] using within

end Draws

theorem noted_flatten (noise : ℝ) (point : Vec3 ℝ) (es : List (ℕ × Camera ℝ)) (seen : List (List (ℕ × Vec2 ℝ)))
    (each : List.Forall₂ (Noted noise point) es seen) : seen.flatten.map Prod.fst = es.map Prod.fst ∧
      ∀ o ∈ seen.flatten, ∃ e ∈ es, o.1 = e.1 ∧ ∃ projected, e.2.project point = .ok projected ∧
        (o.2 - projected).Within noise := by
  induction each with
  | nil => simp
  | cons here _ ih =>
      obtain ⟨projected, pixel, sees, near, rfl⟩ := here
      obtain ⟨order, others⟩ := ih
      refine ⟨by simp [order], ?_⟩
      rw [List.flatten_cons, List.singleton_append, List.forall_mem_cons]
      refine ⟨⟨_, List.mem_cons_self, rfl, projected, sees, near⟩, fun o mem => ?_⟩
      obtain ⟨e, inside, rest⟩ := others o mem
      exact ⟨e, List.mem_cons_of_mem _ inside, rest⟩

theorem complete_of_noted (noise : ℝ) (point : Vec3 ℝ) (cameras : List (Camera ℝ)) (seen : List (List (ℕ × Vec2 ℝ)))
    (each : List.Forall₂ (Noted noise point) (cameras.mapIdx fun i camera => (i, camera)) seen) :
    Track.Complete cameras noise ⟨point, seen.flatten⟩ := by
  obtain ⟨order, near⟩ := noted_flatten noise point _ _ each
  constructor
  · refine order.trans (List.ext_getElem? fun i => ?_)
    by_cases inside : i < cameras.length <;> simp [inside]
  · intro i pixel mem
    obtain ⟨e, place, index, projected, sees, within⟩ := near _ mem
    obtain ⟨j, inside, rfl⟩ := List.mem_mapIdx.mp place
    cases index
    exact ⟨_, projected, List.getElem?_eq_getElem inside, sees, within⟩

section Tracks

include bounded

theorem draw_track_gives (accepted : config.Accepted) (cameras : List (Camera ℝ))
    (see : ∀ camera ∈ cameras, ∀ p : Vec3 ℝ, p.Within config.extent → ∃ pixel, camera.project p = .ok pixel) :
    Gives (drawTrack source config cameras) (Track.Complete cameras config.pixelNoise) := by
  refine .bind _ _ _ _ (draw_vec3_gives source bounded _ accepted.cube) fun point within => ?_
  refine .bind _ _ _ _ (.map_all (Noted config.pixelNoise point) _ _ fun e mem => ?_) fun seen each =>
    .pure _ _ (complete_of_noted _ point cameras seen each)
  obtain ⟨i, bound, rfl⟩ := List.mem_mapIdx.mp mem
  exact observe_gives source bounded config accepted.noise point i _ (see _ (List.getElem_mem bound) point within)

end Tracks

theorem move_rest_gives (moves : β → β → Prop) (move : β → StateM σ β) (each : ∀ b, Gives (move b) (moves b))
    (bs : List β) : Gives (moveRest move bs) (AllButFirst moves bs) := by
  cases bs with
  | nil => exact .pure _ _ .nil
  | cons first rest =>
      exact .bind _ _ _ _ (.map_all moves move rest fun b _ => each b) fun moved others =>
        .pure _ _ (.cons first rest moved others)

def Carries (delta : List ℝ) : Prop :=
  ∀ camera : Camera ℝ, ∃ c, moveCamera camera delta = .ok c ∧ camera.Moved config c

theorem carries_of_within (rho theta : Vec3 ℝ) (focal : ℝ) (position : rho.Within config.positionPerturbation)
    (rotation : theta.Within config.rotationPerturbation) (zoom : |focal| ≤ config.focalPerturbation) :
    Carries config (rho.toList ++ theta.toList ++ [focal, 0, 0]) := by
  intro camera
  have retracts := Camera.retract_eq camera ⟨rho, theta⟩ ⟨focal, 0, 0⟩
  refine ⟨_, (Outcome.map_error_ok_iff _ _ _).mpr retracts, rho, theta, focal, position, rotation, zoom, retracts, ?_⟩
  simp [Calibration.withParameters, Calibration.parameters, Vec3.add_def]

section Moves

variable (accepted : config.Accepted)

include bounded accepted

theorem draw_camera_move_gives : Gives (drawCameraMove source config) (Carries config) := by
  have position := source.uniform_gives bounded config.positionPerturbation accepted.position
  have rotation := source.uniform_gives bounded config.rotationPerturbation accepted.rotation
  have focal := source.uniform_gives bounded config.focalPerturbation accepted.focal
  refine .bind _ _ _ _ position fun t0 first => .bind _ _ _ _ rotation fun r0 roll => ?_
  refine .bind _ _ _ _ position fun t1 second => .bind _ _ _ _ rotation fun r1 pitch => ?_
  refine .bind _ _ _ _ position fun t2 third => .bind _ _ _ _ rotation fun r2 yaw => ?_
  refine .bind _ _ _ _ focal fun f zoom => .pure _ _ ?_
  exact carries_of_within config ⟨t0, t1, t2⟩ ⟨r0, r1, r2⟩ f ⟨first, second, third⟩ ⟨roll, pitch, yaw⟩ zoom

theorem draw_camera_moves_gives (cameras : List (Camera ℝ)) : Gives (drawCameraMoves source config cameras)
    (AllButFirst (fun _ move => ∃ delta, move = some delta ∧ Carries config delta) (cameras.map fun _ => none)) :=
  move_rest_gives _ _ (fun _ => .bind _ _ _ _ (draw_camera_move_gives source bounded config accepted)
    fun delta carries => .pure _ _ ⟨delta, rfl, carries⟩) _

theorem move_point_gives (track : Track ℝ) : Gives (movePoint source config track) (Track.Moved config track) :=
  .bind _ _ _ _ (draw_vec3_gives source bounded _ accepted.point) fun offset within => .pure _ _ ⟨offset, within, rfl⟩

end Moves

noncomputable def moved : Camera ℝ × Option (List ℝ) → Except (ProblemError ℝ) (Camera ℝ)
  | (camera, none) => .ok camera
  | (camera, some delta) => moveCamera camera delta

theorem moved_all (cameras : List (Camera ℝ)) (moves : List (Option (List ℝ)))
    (each : AllButFirst (fun _ move => ∃ delta, move = some delta ∧ Carries config delta) (cameras.map fun _ => none)
      moves) : ∃ cs, (cameras.zip moves).mapM moved = .ok cs ∧ AllButFirst (Camera.Moved config) cameras cs := by
  cases cameras with
  | nil =>
      cases each
      exact ⟨[], rfl, .nil⟩
  | cons first rest =>
      obtain _ | ⟨_, _, others, each⟩ := each
      rw [List.forall₂_map_left_iff] at each
      -- The first camera stays, and the induction is on the others.
      suffices later : ∃ cs, (rest.zip others).mapM moved = .ok cs ∧ List.Forall₂ (Camera.Moved config) rest cs by
        obtain ⟨cs, done, moves⟩ := later
        refine ⟨first :: cs, ?_, .cons first rest cs moves⟩
        rw [List.zip_cons_cons, List.mapM_cons, done]
        rfl
      induction each with
      | nil => exact ⟨[], rfl, .nil⟩
      | @cons camera _ _ _ here _ ih =>
          obtain ⟨delta, rfl, carries⟩ := here
          obtain ⟨c, goes, moves⟩ := carries camera
          obtain ⟨cs, done, others⟩ := ih
          refine ⟨c :: cs, ?_, .cons moves others⟩
          have goes : moved (camera, some delta) = .ok c := goes
          rw [List.zip_cons_cons, List.mapM_cons, done, goes]
          rfl

section Generate

variable (state : σ) (cameras : List (Camera ℝ))

noncomputable def trueTracks : List (Track ℝ) × σ :=
  ((List.range config.points).mapM fun _ => drawTrack source config cameras).run state

noncomputable def cameraMoves : List (Option (List ℝ)) × σ :=
  (drawCameraMoves source config cameras).run (trueTracks source config state cameras).2

noncomputable def movedTracks : List (Track ℝ) :=
  ((moveRest (movePoint source config) (trueTracks source config state cameras).1).run
    (cameraMoves source config state cameras).2).1

theorem generate_eq : generate source config state = config.validate >>= fun _ => config.ringCameras >>= fun cameras =>
    (cameras.zip (cameraMoves source config state cameras).1).mapM moved >>= fun cs =>
      .ok ⟨⟨cameras, (trueTracks source config state cameras).1⟩, ⟨cs, movedTracks source config state cameras⟩⟩ := by
  refine congrArg (config.validate >>= ·) (funext fun _ => congrArg (config.ringCameras >>= ·) (funext fun cameras => ?_))
  refine congrArg₂ (fun (a : Except (ProblemError ℝ) (List (Camera ℝ))) b => a >>= b)
    (congrArg (fun f => List.mapM f (cameras.zip (cameraMoves source config state cameras).1)) (funext fun e => ?_)) rfl
  rcases e with ⟨camera, _ | delta⟩ <;> rfl

theorem generate_ok_iff (scene : Scene ℝ) : generate source config state = .ok scene ↔ config.validate = .ok () ∧
    config.ringCameras = .ok scene.truth.cameras ∧
    scene.truth.tracks = (trueTracks source config state scene.truth.cameras).1 ∧
    (scene.truth.cameras.zip (cameraMoves source config state scene.truth.cameras).1).mapM moved =
      .ok scene.initial.cameras ∧
    scene.initial.tracks = movedTracks source config state scene.truth.cameras := by
  rw [generate_eq]
  simp only [Outcome.bind_ok_iff]
  constructor
  · rintro ⟨_, valid, cameras, stand, cs, done, made⟩
    cases made
    exact ⟨valid, stand, rfl, done, rfl⟩
  · rintro ⟨valid, stand, tracks, done, later⟩
    refine ⟨(), valid, _, stand, _, done, ?_⟩
    rw [← tracks, ← later]

end Generate

section Truth

variable (state : σ) (cameras : List (Camera ℝ)) (accepted : config.Accepted)

section Moved

include bounded accepted

theorem moved_tracks_moved : AllButFirst (Track.Moved config) (trueTracks source config state cameras).1
    (movedTracks source config state cameras) :=
  move_rest_gives _ _ (move_point_gives source bounded config accepted) _ _

theorem cameras_moved : ∃ cs, (cameras.zip (cameraMoves source config state cameras).1).mapM moved = .ok cs ∧
    AllButFirst (Camera.Moved config) cameras cs :=
  moved_all config cameras _ (draw_camera_moves_gives source bounded config accepted cameras _)

end Moved

variable (stand : config.ringCameras = .ok cameras)

include stand

theorem ring_cameras_length : cameras.length = config.cameras := by
  rw [← ((Outcome.map_all_ok_iff _ _ _).mp stand).length_eq, List.length_range]

include bounded accepted

theorem true_tracks_complete : (trueTracks source config state cameras).1.length = config.points ∧
    ∀ track ∈ (trueTracks source config state cameras).1, track.Complete cameras config.pixelNoise := by
  have one := draw_track_gives source bounded config accepted cameras (config.ring_cameras_see accepted cameras stand)
  obtain ⟨length, complete⟩ := Gives.map_each _ _ (List.range config.points) (fun _ _ => one) state
  exact ⟨length.trans List.length_range, complete⟩

theorem generate_succeeds : ∃ scene, generate source config state = .ok scene ∧
    scene.truth = ⟨cameras, (trueTracks source config state cameras).1⟩ := by
  obtain ⟨cs, reached, -⟩ := cameras_moved source bounded config state cameras accepted
  refine ⟨⟨⟨cameras, _⟩, ⟨cs, movedTracks source config state cameras⟩⟩, ?_, rfl⟩
  exact (generate_ok_iff source config state _).mpr ⟨config.validate_ok_iff.mpr accepted, stand, rfl, reached, rfl⟩

end Truth

theorem observation_count_of_complete (cameras : List (Camera ℝ)) (noise : ℝ) (tracks : List (Track ℝ))
    (complete : ∀ track ∈ tracks, track.Complete cameras noise) :
    (Bundle.mk cameras tracks).observationCount = cameras.length * tracks.length := by
  have each : ∀ track ∈ tracks, track.observations.length = cameras.length := fun track mem => by
    rw [← List.length_map Prod.fst, (complete track mem).order, List.length_range]
  rw [Bundle.observationCount, List.length_flatMap, List.map_congr_left each, List.map_const', List.sum_replicate,
    smul_eq_mul, mul_comm]

/-- A scene that is generated has the cameras and the tracks that were asked for. Every camera observes every track once,
close to where it projects the point. The estimate has the same observations, the first camera and the first point of the
truth, and the others moved by no more than the perturbations, with their distortion. The truth is the same for other
perturbations. -/
theorem generate_faithful (source : Source ℝ σ) (bounded : source.Bounded) (config : SceneConfig ℝ) (state : σ)
    (scene : Scene ℝ) (generated : generate source config state = .ok scene) :
    scene.truth.cameras.length = config.cameras ∧ scene.truth.tracks.length = config.points ∧
    scene.truth.observationCount = config.cameras * config.points ∧
    (∀ track ∈ scene.truth.tracks, track.Complete scene.truth.cameras config.pixelNoise) ∧
    scene.initial.tracks.map (·.observations) = scene.truth.tracks.map (·.observations) ∧
    AllButFirst (Camera.Moved config) scene.truth.cameras scene.initial.cameras ∧
    AllButFirst (Track.Moved config) scene.truth.tracks scene.initial.tracks ∧
    ∀ rotation position point focal : ℝ, (config.perturbedBy rotation position point focal).validate = .ok () →
      ∃ other, generate source (config.perturbedBy rotation position point focal) state = .ok other ∧
        other.truth = scene.truth := by
  obtain ⟨valid, stand, tracks, goes, later⟩ := (generate_ok_iff source config state scene).mp generated
  have accepted := config.validate_ok_iff.mp valid
  obtain ⟨length, complete⟩ := true_tracks_complete source bounded config state _ accepted stand
  have moved := moved_tracks_moved source bounded config state scene.truth.cameras accepted
  rw [← tracks] at length complete moved
  rw [← later] at moved
  have count := ring_cameras_length config _ stand
  refine ⟨count, length, ?_, complete, ?_, ?_, moved, fun rotation position point focal other => ?_⟩
  · exact (observation_count_of_complete _ _ _ complete).trans (congrArg₂ (· * ·) count length)
  · refine moved.map_eq _ _ (fun track after moves => ?_) _ _
    obtain ⟨offset, -, rfl⟩ := moves
    rfl
  · obtain ⟨cs, reached, moves⟩ := cameras_moved source bounded config state scene.truth.cameras accepted
    cases goes.symm.trans reached
    exact moves
  · -- The truth is drawn in the same way, before any of the perturbations is asked for.
    obtain ⟨again, regenerated, truth⟩ := generate_succeeds source bounded _ state scene.truth.cameras
      ((SceneConfig.validate_ok_iff _).mp other) stand
    refine ⟨again, regenerated, truth.trans ?_⟩
    change Bundle.mk scene.truth.cameras (trueTracks source config state scene.truth.cameras).1 = scene.truth
    rw [← tracks]

theorem generate_faithful_standard : ∃ scene other : Scene ℝ,
    generate Generator.source SceneConfig.standard (Generator.ofSeed 42) = .ok scene ∧
    scene.truth.observationCount = 15 ∧ (∀ track ∈ scene.truth.tracks, track.Complete scene.truth.cameras 0) ∧
    AllButFirst (Camera.Moved SceneConfig.standard) scene.truth.cameras scene.initial.cameras ∧
    generate Generator.source (SceneConfig.standard.perturbedBy 0 0 0 0) (Generator.ofSeed 42) = .ok other ∧
    other.truth = scene.truth := by
  have root : Real.sqrt 3 < 8 := (Real.sqrt_lt' (by norm_num)).mpr (by norm_num)
  have accepted : (SceneConfig.standard : SceneConfig ℝ).Accepted := by
    constructor <;> norm_num [SceneConfig.standard, root]
  have still : ((SceneConfig.standard : SceneConfig ℝ).perturbedBy 0 0 0 0).Accepted := by
    constructor <;> norm_num [SceneConfig.standard, SceneConfig.perturbedBy, root]
  obtain ⟨cameras, stand⟩ := SceneConfig.ring_cameras_stand (SceneConfig.standard : SceneConfig ℝ)
    (by norm_num [SceneConfig.standard]) (by norm_num [SceneConfig.standard])
  obtain ⟨scene, generated, -⟩ :=
    generate_succeeds _ Generator.source_bounded _ (Generator.ofSeed 42) cameras accepted stand
  obtain ⟨-, -, count, complete, -, moved, -, same⟩ :=
    generate_faithful _ Generator.source_bounded _ _ scene generated
  obtain ⟨other, again, truth⟩ := same 0 0 0 0 ((SceneConfig.validate_ok_iff _).mpr still)
  exact ⟨scene, other, generated, count, complete, moved, again, truth⟩

end Scene

end FactorGraph
