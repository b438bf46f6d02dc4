import FactorGraph.Problem.Bundle
import FactorGraph.Random.Source

set_option autoImplicit false

namespace FactorGraph

structure SceneConfig (α : Type) where
  cameras : Nat
  points : Nat
  ringRadius : α
  ringHeight : α
  extent : α
  calibration : Calibration α
  pixelNoise : α
  rotationPerturbation : α
  positionPerturbation : α
  pointPerturbation : α
  focalPerturbation : α
  seed : Nat

structure Scene (α : Type) where
  truth : Bundle α
  initial : Bundle α

variable {α σ : Type} [Scalar α]

namespace SceneConfig

def standard : SceneConfig α where
  cameras := 3
  points := 5
  ringRadius := 8.0
  ringHeight := 1
  extent := 1
  calibration := ⟨500.0, 0, 0, 320.0, 240.0⟩
  pixelNoise := 0
  rotationPerturbation := 0.05
  positionPerturbation := 0.1
  pointPerturbation := 0.1
  focalPerturbation := 0
  seed := 42

def amplitudes (config : SceneConfig α) : List α :=
  [config.pixelNoise, config.rotationPerturbation, config.positionPerturbation,
   config.pointPerturbation, config.focalPerturbation]

def validate (config : SceneConfig α) : Except (ProblemError α) Unit :=
  if config.cameras = 0 ∨ config.points = 0 then
    .error (.parameters (.counts config.cameras config.points))
  else if ¬ (0 ≤ config.extent ∧ config.extent * Scalar.sqrt 3.0 < config.ringRadius) then
    .error (.parameters (.ring config.ringRadius config.extent))
  else if config.amplitudes.all fun a => Scalar.isFinite a && decide (0 ≤ a) then .ok ()
  else .error (.parameters .amplitudes)

def ringCamera (config : SceneConfig α) (i : Nat) : Except (ProblemError α) (Camera α) := do
  let angle : α := 2.0 * Scalar.pi * (i : α) / (config.cameras : α)
  let eye : Vec3 α :=
    ⟨config.ringRadius * Scalar.cos angle, config.ringRadius * Scalar.sin angle,
     config.ringHeight⟩
  let pose ← (View.lookAt eye 0 ⟨0, 0, 1⟩).mapError .camera
  return ⟨pose, config.calibration⟩

def ringCameras (config : SceneConfig α) : Except (ProblemError α) (List (Camera α)) :=
  (List.range config.cameras).mapM config.ringCamera

end SceneConfig

namespace Scene

def drawVec3 (source : Source α σ) (amplitude : α) : StateM σ (Vec3 α) := do
  let x ← source.uniform amplitude
  let y ← source.uniform amplitude
  let z ← source.uniform amplitude
  return ⟨x, y, z⟩

def drawVec2 (source : Source α σ) (amplitude : α) : StateM σ (Vec2 α) := do
  let x ← source.uniform amplitude
  let y ← source.uniform amplitude
  return ⟨x, y⟩

def observe (source : Source α σ) (config : SceneConfig α) (point : Vec3 α) (index : Nat)
    (camera : Camera α) : StateM σ (List (Nat × Vec2 α)) :=
  match camera.project point with
  | .error _ => return []
  | .ok pixel => do
      let noise ← drawVec2 source config.pixelNoise
      return [(index, pixel + noise)]

def drawTrack (source : Source α σ) (config : SceneConfig α) (cameras : List (Camera α)) :
    StateM σ (Track α) := do
  let point ← drawVec3 source config.extent
  let observations ← (cameras.mapIdx fun i camera => (i, camera)).mapM
    fun (i, camera) => observe source config point i camera
  return ⟨point, observations.flatten⟩

def drawCameraMove (source : Source α σ) (config : SceneConfig α) : StateM σ (List α) := do
  let t0 ← source.uniform config.positionPerturbation
  let r0 ← source.uniform config.rotationPerturbation
  let t1 ← source.uniform config.positionPerturbation
  let r1 ← source.uniform config.rotationPerturbation
  let t2 ← source.uniform config.positionPerturbation
  let r2 ← source.uniform config.rotationPerturbation
  let f ← source.uniform config.focalPerturbation
  return [t0, t1, t2, r0, r1, r2, f, 0, 0]

def moveRest {β : Type} (move : β → StateM σ β) : List β → StateM σ (List β)
  | [] => return []
  | first :: rest => return first :: (← rest.mapM move)

def moveCamera (camera : Camera α) (delta : List α) : Except (ProblemError α) (Camera α) :=
  (Manifold.retract camera delta).mapError fun e => .graph (.manifold e)

def drawCameraMoves (source : Source α σ) (config : SceneConfig α) (cameras : List (Camera α)) :
    StateM σ (List (Option (List α))) :=
  moveRest (fun _ => return some (← drawCameraMove source config)) (cameras.map fun _ => none)

def movePoint (source : Source α σ) (config : SceneConfig α) (track : Track α) :
    StateM σ (Track α) := do
  let offset ← drawVec3 source config.pointPerturbation
  return { track with point := track.point + offset }

def generate (source : Source α σ) (config : SceneConfig α) (state : σ) :
    Except (ProblemError α) (Scene α) := do
  config.validate
  let cameras ← config.ringCameras
  let (tracks, state) :=
    ((List.range config.points).mapM fun _ => drawTrack source config cameras).run state
  let (moves, state) := (drawCameraMoves source config cameras).run state
  let (movedTracks, _) := (moveRest (movePoint source config) tracks).run state
  let movedCameras ← (cameras.zip moves).mapM fun (camera, move) =>
    match move with
    | none => .ok camera
    | some delta => moveCamera camera delta
  return ⟨⟨cameras, tracks⟩, ⟨movedCameras, movedTracks⟩⟩

def ofSeed (config : SceneConfig α) : Except (ProblemError α) (Scene α) :=
  generate Generator.source config (Generator.ofSeed config.seed.toUInt64)

def pointError (scene : Scene α) (values : Values α) : Except (GraphError α) α :=
  (scene.truth.tracks.mapIdx fun j track => (j, track)).foldlM
    (fun worst (j, track) => do
      let estimate ← values.lookup (Vec3 α) (.point j)
      return Scalar.max worst (estimate - track.point).norm)
    0

def cameraError (scene : Scene α) (values : Values α) : Except (GraphError α) α :=
  (scene.truth.cameras.mapIdx fun i camera => (i, camera)).foldlM
    (fun worst (i, camera) => do
      let estimate ← values.lookup (Camera α) (.camera i)
      let d ← (Manifold.localCoordinates camera estimate).mapError .manifold
      return Scalar.max worst (Scalar.sqrt (Block.dot d d)))
    0

end Scene

end FactorGraph
