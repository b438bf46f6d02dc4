import FactorGraph.Document.Graph
import FactorGraph.Text.Error

set_option autoImplicit false

namespace FactorGraph

open Readable (read?)
open Writable (write)

def sizes {ε : Type} (make : Nat → Nat → ε) (d : Document Float) : Option ε := do
  let (expected, actual) ← d.read?
  return make expected actual

def worded {ε : Type} (make : String → ε) (d : Document Float) : Option ε := make <$> d.read?

instance : Readable ManifoldError where
  read?
    | .text "invalid_number" => some .notFinite
    | d => d.choose [
        ("invalid_tangent_dimension", sizes .tangentDimension),
        ("dimension_mismatch", sizes .dimensionMismatch),
        ("invalid_element", worded .invalidElement)]

instance : Readable (Cheirality Float) where
  read? d := Cheirality.mk <$> d.read?

instance : Readable (CameraError Float) where
  read? d := d.choose [
    ("cheirality", fun d => .cheirality <$> d.read?),
    ("did_not_converge", fun d => .notConverged <$> d.read?),
    ("degenerate", worded fun s => .degenerateFrame (.described s))]

def FactorError.typeOfDocument? : Document Float → Option (FactorError Float)
  | .list [index, expected, actual] => do
      return .variableType (← index.read?) (← expected.read?) (← actual.read?)
  | _ => none

instance : Readable (FactorError Float) where
  read? d := d.choose [
    ("cheirality", fun d => .cheirality <$> d.read?),
    ("invalid_dimension", sizes .dimension),
    ("invalid_arity", sizes .arity),
    ("invalid_variable_type", FactorError.typeOfDocument?),
    ("manifold", fun d => .manifold <$> d.read?),
    ("camera", fun d => .camera <$> d.read?),
    ("from_camera", fun d => .ofCamera <$> d.read?)]

def GraphError.typeOfDocument? : Document Float → Option (GraphError Float)
  | .list [key, expected, actual] => do
      return .typeMismatch (← key.read?) (← expected.read?) (← actual.read?)
  | _ => none

def GraphError.factorOfDocument? (d : Document Float) : Option (GraphError Float) := do
  return .factor (.described (← d.get? "keys")) (← d.get? "source")

instance : Readable (GraphError Float) where
  read? d := d.choose [
    ("missing_key", fun d => .missingKey <$> d.read?),
    ("duplicate_key", fun d => .duplicateKey <$> d.read?),
    ("type_mismatch", GraphError.typeOfDocument?),
    ("dimension_mismatch", worded fun s => .shape (.described s)),
    ("factor", GraphError.factorOfDocument?),
    ("manifold", fun d => .manifold <$> d.read?),
    ("non_finite", worded fun s => .notFinite (.described s)),
    ("invalid_noise_model", worded fun s => .noise (.described s)),
    ("not_inequality", worded fun s => .notInequality (.described s)),
    ("sparse_structure", worded .sparseStructure),
    ("from_camera", fun d => .ofCamera <$> d.read?)]

instance : Readable SolveError where
  read?
    | .text "singular_matrix" => some .singular
    | d => d.choose [
        ("factorization_failed", worded .factorization),
        ("sparse_matrix_creation", worded .creation),
        ("matrix_conversion", worded .conversion)]

def OptimizerError.ofDocument? (causes : Nat) :
    Document Float → Option (OptimizerError Float)
  | .text "empty_problem" => some .emptyProblem
  | d => d.choose [
      ("core", fun d => .graph <$> d.read?),
      ("linalg", fun d => .linear <$> d.read?),
      ("retries_exhausted", fun d => do
        match causes with
        | 0 => none
        | causes + 1 =>
            let cause ← OptimizerError.ofDocument? causes (← d.field? "cause")
            return .retriesExhausted (← d.get? "retries") cause),
      ("invalid_parameters", worded fun s => .parameters (.described s)),
      ("numerical_instability", worded fun s => .instability (.described s))]

instance : Readable (OptimizerError Float) where
  read? d := OptimizerError.ofDocument? d.depth d

instance : Readable (ProblemError Float) where
  read? d := d.choose [
    ("invalid_camera_index", fun d => do
      match ← d.read? with
      | [track, camera, cameras] => some (.cameraIndex track camera cameras)
      | _ => none),
    ("unknown_pose", sizes .unknownPose),
    ("empty", worded fun s => .empty (.described s)),
    ("invalid_parameters", worded fun s => .parameters (.described s)),
    ("core", fun d => .graph <$> d.read?),
    ("camera", fun d => .camera <$> d.read?)]

instance : Readable Failure where
  read? d := d.choose [
    ("manifold", fun d => .manifold <$> d.read?),
    ("camera", fun d => .camera <$> d.read?),
    ("factor", fun d => .factor <$> d.read?),
    ("core", fun d => .graph <$> d.read?),
    ("linalg", fun d => .linear <$> d.read?),
    ("optimizer", fun d => .optimizer <$> d.read?),
    ("problem", fun d => .problem <$> d.read?)]

def ManifoldError.path : ManifoldError → List String
  | .tangentDimension .. => ["InvalidTangentDimension"]
  | .dimensionMismatch .. => ["DimensionMismatch"]
  | .notFinite => ["InvalidNumber"]
  | .invalidElement _ => ["InvalidElement"]

def CameraError.path : CameraError Float → List String
  | .cheirality _ => ["Cheirality"]
  | .notConverged _ => ["CalibrationDidNotConverge"]
  | .degenerateFrame _ => ["DegenerateFrame"]

def FactorError.path : FactorError Float → List String
  | .cheirality _ => ["Cheirality"]
  | .dimension .. => ["InvalidDimension"]
  | .arity .. => ["InvalidArity"]
  | .variableType .. => ["InvalidVariableType"]
  | .manifold e => "Manifold" :: e.path
  | .camera e => "Camera" :: e.path

def GraphError.path : GraphError Float → List String
  | .missingKey _ => ["MissingKey"]
  | .duplicateKey _ => ["DuplicateKey"]
  | .typeMismatch .. => ["TypeMismatch"]
  | .shape _ => ["DimensionMismatch"]
  | .factor _ e => "Factor" :: e.path
  | .manifold e => "Manifold" :: e.path
  | .notFinite _ => ["NonFinite"]
  | .noise _ => ["InvalidNoiseModel"]
  | .notInequality _ => ["NotInequality"]
  | .sparseStructure _ => ["SparseStructure"]

def SolveError.path : SolveError → List String
  | .factorization _ => ["FactorizationFailed"]
  | .singular => ["SingularMatrix"]
  | .creation _ => ["SparseMatrixCreation"]
  | .residualShape .. => ["MatrixConversion"]
  | .conversion _ => ["MatrixConversion"]

def OptimizerError.path : OptimizerError Float → List String
  | .graph e => "Core" :: e.path
  | .linear e => "LinAlg" :: e.path
  | .retriesExhausted _ e => "RetriesExhausted" :: e.path
  | .parameters _ => ["InvalidParameters"]
  | .instability _ => ["NumericalInstability"]
  | .emptyProblem => ["EmptyProblem"]

def ProblemError.path : ProblemError Float → List String
  | .cameraIndex .. => ["InvalidCameraIndex"]
  | .unknownPose .. => ["UnknownPose"]
  | .empty _ => ["Empty"]
  | .parameters _ => ["InvalidParameters"]
  | .graph e => "Core" :: e.path
  | .camera e => "Camera" :: e.path

def Failure.path (failure : Failure) : String :=
  "/".intercalate <|
    match failure with
    | .manifold e => "Manifold" :: e.path
    | .camera e => "Camera" :: e.path
    | .factor e => "Factor" :: e.path
    | .graph e => "Core" :: e.path
    | .linear e => "LinearAlgebra" :: e.path
    | .optimizer e => "Optimizer" :: e.path
    | .problem e => "Problem" :: e.path

instance : Writable Failure where
  write failure := .record [("error", write failure.path), ("message", write failure.compact)]

end FactorGraph
