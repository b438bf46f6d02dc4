import FactorGraph.Document.Graph
import FactorGraph.Text.Problem

set_option autoImplicit false

namespace FactorGraph

open Readable (read?)
open Writable (write)

def PoseConstraint.sigmasOfDocument? (d : Document Float) : Option (Vec3 Float) :=
  match d.stated? "information" with
  | some information => PoseConstraint.sigmasOfInformation <$> information.read?
  | none => d.get? "sigmas"

instance : Readable (PoseConstraint Float) where
  read? d := do
    return ⟨← d.get? "from", ← d.get? "to", ← d.get? "d", ← PoseConstraint.sigmasOfDocument? d⟩

instance : Writable (PoseConstraint Float) where
  write c := .record [("display", write c.text), ("sigmas", write c.sigmas),
    ("measurement", write c.measurement)]

instance : Readable (PoseGraph Float) where
  read? d := do return ⟨.ofList (← d.get? "poses"), ← d.get? "constraints"⟩

instance : Readable (Track Float) where
  read? d := do return ⟨← d.get? "point", ← d.get? "obs"⟩

instance : Writable (Track Float) where
  write t := .record [("point", write t.point), ("count", write t.observations.length),
    ("obs", write t.observations)]

instance : Readable (Bundle Float) where
  read? d := do return ⟨← d.get? "cameras", ← d.get? "tracks"⟩

instance : Writable (Bundle Float) where
  write b := .record [("display", write b.text), ("cameras", write b.cameras),
    ("tracks", write b.tracks)]

instance : Readable CameraModel where
  read? d := d.named [("general", .general), ("fixed", .fixedLens), ("snavely", .snavely)]

def BundleOptions.priorOfDocument? (d : Document Float) (name : String)
    (default : Option Float) : Option (Option Float) :=
  match d.field? name with
  | none => some default
  | some .null => some none
  | some sigma => some <$> sigma.read?

instance : Readable (BundleOptions Float) where
  read? d := do
    let standard : BundleOptions Float := .standard
    let options : BundleOptions Float :=
      ⟨← d.getOr "pixel_sigma" standard.pixelSigma,
       ← BundleOptions.priorOfDocument? d "camera_prior_sigma" standard.cameraSigma,
       ← BundleOptions.priorOfDocument? d "point_prior_sigma" standard.pointSigma⟩
    return if ← d.getOr "without_gauge_priors" false then options.withoutPriors else options

instance : Readable (SceneConfig Float) where
  read? d := do
    let standard : SceneConfig Float := .standard
    let ring ← d.getOr "ring" (standard.ringRadius, standard.ringHeight)
    let perturbation ← d.getOr "pose_perturbation"
      (standard.rotationPerturbation, standard.positionPerturbation)
    return {
      cameras := ← d.getOr "cameras" standard.cameras
      points := ← d.getOr "points" standard.points
      ringRadius := ring.1
      ringHeight := ring.2
      extent := ← d.getOr "extent" standard.extent
      calibration := ← d.getOr "calibration" standard.calibration
      pixelNoise := ← d.getOr "pixel_noise" standard.pixelNoise
      rotationPerturbation := perturbation.1
      positionPerturbation := perturbation.2
      pointPerturbation := ← d.getOr "point_perturbation" standard.pointPerturbation
      focalPerturbation := ← d.getOr "focal_perturbation" standard.focalPerturbation
      seed := ← d.getOr "seed" standard.seed }

end FactorGraph
