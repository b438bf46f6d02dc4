import FactorGraph.Graph.Nonlinear
import FactorGraph.Problem.Error

set_option autoImplicit false

namespace FactorGraph

structure Track (α : Type) where
  point : Vec3 α
  observations : List (Nat × Vec2 α)

structure Bundle (α : Type) where
  cameras : List (Camera α)
  tracks : List (Track α)

structure Sighting (α : Type) where
  cameraIndex : Nat
  trackIndex : Nat
  camera : Camera α
  pixel : Vec2 α

structure Sightings (α : Type) where
  firstCamera : Camera α
  firstTrack : Track α
  sightings : List (Sighting α)

structure BundleOptions (α : Type) where
  pixelSigma : α
  cameraSigma : Option α
  pointSigma : Option α

inductive CameraModel where
  | general
  | fixedLens
  | snavely
deriving DecidableEq

variable {α : Type} [Scalar α]

instance : BEq (Track α) where
  beq a b := a.point == b.point && a.observations == b.observations

namespace CameraModel

def value (camera : Camera α) : CameraModel → Value α
  | general => .camera camera
  | fixedLens => .pose3 camera.pose
  | snavely => .vector (SnavelyCamera.ofCamera camera).toList

def dimension : CameraModel → Nat
  | general => 9
  | fixedLens => 6
  | snavely => 9

def observation (camera : Camera α) (pixel : Vec2 α) : CameraModel → Factor α
  | general => Factor.cameraProjection pixel
  | fixedLens => Factor.projection pixel camera.calibration
  | snavely =>
      Factor.snavelyProjection
        (SnavelyCamera.measurement pixel camera.calibration.principalPoint)

end CameraModel

def BundleOptions.standard : BundleOptions α := ⟨1, some 0.1, some 0.1⟩

def BundleOptions.withoutPriors (options : BundleOptions α) : BundleOptions α :=
  { options with cameraSigma := none, pointSigma := none }

namespace Bundle

def observationCount (bundle : Bundle α) : Nat :=
  (bundle.tracks.flatMap (·.observations)).length

def sightingsOf (cameras : List (Camera α)) (trackIndex : Nat) (track : Track α) :
    Except (ProblemError α) (List (Sighting α)) :=
  track.observations.mapM fun (index, pixel) =>
    match cameras[index]? with
    | none => .error (.cameraIndex trackIndex index cameras.length)
    | some camera => .ok ⟨index, trackIndex, camera, pixel⟩

def resolve (bundle : Bundle α) : Except (ProblemError α) (Sightings α) :=
  match bundle.cameras, bundle.tracks with
  | firstCamera :: _, firstTrack :: _ => do
      let sightings ← (bundle.tracks.mapIdx fun j track => (j, track)).mapM
        fun (j, track) => sightingsOf bundle.cameras j track
      return ⟨firstCamera, firstTrack, sightings.flatten⟩
  | cameras, tracks => .error (.empty (.bundle cameras.length tracks.length))

def validate (bundle : Bundle α) : Except (ProblemError α) Unit := do
  let _ ← bundle.resolve

def entries (bundle : Bundle α) (model : CameraModel) : List (Key × Value α) :=
  (bundle.cameras.mapIdx fun i camera => (Key.camera i, model.value camera))
    ++ bundle.tracks.mapIdx fun j track => (Key.point j, .point3 track.point)

def priors (key : Key) (value : Value α) (dimension : Nat) :
    Option α → Except (GraphError α) (List (NonlinearFactor α))
  | none => .ok []
  | some sigma => do
      let noise ← Noise.ofSigma dimension sigma
      let factor ← NonlinearFactor.bind [key] (StandardFactor.prior value).factor noise .equality
      return [factor]

def factors (sightings : Sightings α) (model : CameraModel) (options : BundleOptions α) :
    Except (GraphError α) (Graph α) := do
  let noise ← Noise.ofSigma 2 options.pixelSigma
  let observations ← sightings.sightings.mapM fun s =>
    NonlinearFactor.bind [.camera s.cameraIndex, .point s.trackIndex]
      (model.observation s.camera s.pixel) noise .equality
  let camera ←
    priors (.camera 0) (model.value sightings.firstCamera) model.dimension options.cameraSigma
  let point ← priors (.point 0) (.point3 sightings.firstTrack.point) 3 options.pointSigma
  return observations ++ camera ++ point

def build (bundle : Bundle α) (model : CameraModel) (options : BundleOptions α) :
    Except (ProblemError α) (Graph α × Values α) := do
  let sightings ← bundle.resolve
  let graph ← (factors sightings model options).mapError .graph
  let values ← (Values.ofEntries (bundle.entries model)).mapError .graph
  return (graph, values)

def withValues (bundle : Bundle α) (values : Values α) : Except (GraphError α) (Bundle α) := do
  let cameras ← (List.range bundle.cameras.length).mapM fun i =>
    values.lookup (Camera α) (.camera i)
  let tracks ← (bundle.tracks.mapIdx fun j track => (j, track)).mapM fun (j, track) => do
    return { track with point := ← values.lookup (Vec3 α) (.point j) }
  return ⟨cameras, tracks⟩

def same (a b : Bundle α) : Bool := a.cameras == b.cameras && a.tracks == b.tracks

end Bundle

end FactorGraph
