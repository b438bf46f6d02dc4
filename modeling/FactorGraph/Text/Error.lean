import FactorGraph.Decimal.Shortest
import FactorGraph.Optimizer.Error
import FactorGraph.Problem.Error

set_option autoImplicit false

namespace FactorGraph

open Decimal (plain scientific)

def ManifoldError.message : ManifoldError → String
  | .tangentDimension expected actual =>
      s!"Invalid tangent dimension: expected {expected}, got {actual}"
  | .dimensionMismatch expected actual => s!"Dimension mismatch: expected {expected}, got {actual}"
  | .notFinite => "Invalid number: NaN or Inf detected"
  | .invalidElement reason => s!"Invalid manifold element: {reason}"

def Cheirality.message (fault : Cheirality Float) : String :=
  let depth := scientific 6 fault.depth
  s!"Cheirality violation: point depth {depth} is not in front of the camera"

def DegenerateFrame.message : DegenerateFrame → String
  | .eyeAtTarget => "eye coincides with target"
  | .upAlongView => "up vector is parallel to the viewing direction"
  | .described text => text

def CameraError.message : CameraError Float → String
  | .cheirality fault => fault.message
  | .notConverged iterations =>
      s!"Calibration inversion did not converge after {iterations} iterations"
  | .degenerateFrame fault => "Degenerate camera frame: " ++ fault.message

def FactorError.message : FactorError Float → String
  | .cheirality fault => fault.message
  | .dimension expected actual => s!"Invalid dimension: expected {expected}, got {actual}"
  | .arity expected actual => s!"Invalid arity: expected {expected} variables, got {actual}"
  | .variableType index expected actual =>
      s!"Variable {index} has type {actual}, expected {expected}"
  | .manifold cause => cause.message
  | .camera cause => cause.message

def Subject.text : Subject → String
  | .keys on => Key.listText on
  | .described text => text

def shapeText (shape : Nat × Nat) : String := s!"({shape.1}, {shape.2})"

def ShapeFault.message : ShapeFault → String
  | .noise rows dimension on =>
      s!"noise model of dimension {rows} for a factor of dimension {dimension} on "
        ++ "[" ++ Key.listText on ++ "]"
  | .noKeys => "factor without keys"
  | .residual length dimension on =>
      s!"residual of length {length} for a factor of dimension {dimension} on "
        ++ "[" ++ Key.listText on ++ "]"
  | .noJacobians on => "factor on [" ++ Key.listText on ++ "] returned no Jacobians"
  | .blockCount blocks keys on =>
      s!"{blocks} Jacobian blocks for {keys} keys on " ++ "[" ++ Key.listText on ++ "]"
  | .block key actual expected =>
      "Jacobian block for " ++ key.text ++ " is " ++ shapeText actual ++ ", expected "
        ++ shapeText expected
  | .step key actual expected =>
      "step for " ++ key.text ++ s!" has length {actual}, expected {expected}"
  | .column actual total => s!"step is {actual.1}x{actual.2}, expected {total}x1"
  | .described text => text

def NonFiniteSite.message : NonFiniteSite → String
  | .residual on => "residual of factor on [" ++ Key.listText on ++ "]"
  | .block key => "Jacobian block for " ++ key.text
  | .described text => text

def NoiseFault.message : NoiseFault Float → String
  | .sigma value => "sigma must be positive, got " ++ plain value
  | .described text => text

namespace GraphError

def message : GraphError Float → String
  | .missingKey key => "Missing key: " ++ key.text
  | .duplicateKey key => "Duplicate key: " ++ key.text
  | .typeMismatch key expected actual =>
      "Type mismatch for " ++ key.text ++ s!": expected {expected}, found {actual}"
  | .shape fault => "Dimension mismatch: " ++ fault.message
  | .factor subject cause => "Factor on [" ++ subject.text ++ "] failed: " ++ cause.message
  | .manifold cause => cause.message
  | .notFinite site => "Non-finite value: " ++ site.message
  | .noise fault => "Invalid noise model: " ++ fault.message
  | .notInequality subject =>
      "Factor on [" ++ subject.text ++ "] is not an inequality constraint"
  | .sparseStructure text => "Sparse structure error: " ++ text

def causes : GraphError Float → List String
  | .factor _ cause => [cause.message]
  | _ => []

end GraphError

def SolveError.message : SolveError → String
  | .factorization text => "Matrix factorization failed: " ++ text
  | .singular => "Singular matrix detected (matrix is not invertible)"
  | .creation text => "Failed to create sparse matrix: " ++ text
  | .residualShape (rows, cols) jacobianRows =>
      s!"Matrix conversion failed: residual is {rows}x{cols} for a Jacobian with "
        ++ s!"{jacobianRows} rows"
  | .conversion text => "Matrix conversion failed: " ++ text

def ParameterFault.message : ParameterFault → String
  | .noIterations => "max_iterations must be positive"
  | .negativeTolerance => "error tolerances must be non-negative"
  | .dampingRange => "damping must satisfy 0 < min <= initial <= max"
  | .described text => text

def InstabilityFault.message : InstabilityFault Float → String
  | .initialError error => "initial error is " ++ plain error
  | .described text => text

namespace OptimizerError

def message : OptimizerError Float → String
  | .graph cause => cause.message
  | .linear cause => "Linear algebra error: " ++ cause.message
  | .retriesExhausted retries _ => s!"All {retries} attempts of the iteration failed"
  | .parameters fault => "Invalid optimization parameters: " ++ fault.message
  | .instability fault => "Numerical instability detected: " ++ fault.message
  | .emptyProblem => "Problem has no variables to optimize"

def causes : OptimizerError Float → List String
  | .graph cause => cause.causes
  | .linear cause => [cause.message]
  | .retriesExhausted _ cause => cause.message :: cause.causes
  | _ => []

end OptimizerError

def EmptyFault.message : EmptyFault → String
  | .bundle cameras tracks => s!"{cameras} cameras and {tracks} tracks"
  | .noPoses => "pose graph has no poses"
  | .described text => text

def SceneFault.message : SceneFault Float → String
  | .counts cameras points => s!"scene needs cameras and points, got {cameras} and {points}"
  | .ring radius extent =>
      "ring radius " ++ plain radius ++ " does not clear the point cube of extent " ++ plain extent
  | .amplitudes => "noise and perturbation amplitudes must be finite and non-negative"
  | .described text => text

namespace ProblemError

def message : ProblemError Float → String
  | .cameraIndex track index cameras =>
      s!"Track {track} observes camera {index}, but only {cameras} cameras exist"
  | .unknownPose constraint pose => s!"Constraint {constraint} refers to unknown pose {pose}"
  | .empty fault => "Empty problem: " ++ fault.message
  | .parameters fault => "Invalid parameters: " ++ fault.message
  | .graph cause => cause.message
  | .camera cause => cause.message

def causes : ProblemError Float → List String
  | .graph cause => cause.causes
  | _ => []

end ProblemError

inductive Failure where
  | manifold (error : ManifoldError)
  | camera (error : CameraError Float)
  | factor (error : FactorError Float)
  | graph (error : GraphError Float)
  | linear (error : SolveError)
  | optimizer (error : OptimizerError Float)
  | problem (error : ProblemError Float)

namespace Failure

def message : Failure → String
  | manifold e => e.message
  | camera e => e.message
  | factor e => e.message
  | graph e => e.message
  | linear e => e.message
  | optimizer e => e.message
  | problem e => e.message

def causes : Failure → List String
  | graph e => e.causes
  | optimizer e => e.causes
  | problem e => e.causes
  | _ => []

def chain (failure : Failure) : String :=
  "\n".intercalate (failure.message :: failure.causes.map ("  → " ++ ·))

def compact (failure : Failure) : String := " → ".intercalate (failure.message :: failure.causes)

def recoverable? : Failure → Option Bool
  | factor e => some e.recoverable
  | graph e => some e.recoverable
  | optimizer e => some e.recoverable
  | _ => none

end Failure

end FactorGraph
