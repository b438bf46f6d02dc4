import FactorGraph.Text.Error
import FactorGraph.Text.Optimizer
import FactorGraph.Text.Problem

set_option autoImplicit false

namespace FactorGraph

open Decimal (scientific)

inductive Severity where
  | error
  | warn
  | info
  | debug
deriving DecidableEq

def Severity.rank : Severity → Nat
  | error => 0
  | warn => 1
  | info => 2
  | debug => 3

structure Event where
  severity : Severity
  text : String

def Event.failure (text : String) : Event := ⟨.error, text⟩

def Event.upTo (least : Severity) (events : List Event) : List Event :=
  events.filter fun e => decide (e.severity.rank ≤ least.rank)

class Announced (ε : Type) where
  announcements : ε → List Event

instance : Announced ManifoldError := ⟨fun _ => []⟩

instance : Announced (Cheirality Float) := ⟨fun _ => []⟩

instance : Announced (CameraError Float) where
  announcements
    | .cheirality _ => []
    | e => [.failure e.message]

instance : Announced (FactorError Float) where
  announcements
    | .cheirality _ => []
    | .manifold _ => []
    | .camera e => Announced.announcements e
    | e => [.failure e.message]

instance : Announced (GraphError Float) where
  announcements
    | .factor _ e => Announced.announcements e
    | .manifold _ => []
    | e => [.failure e.message]

instance : Announced (ConstraintError Float) where
  announcements
    | .graph e => Announced.announcements e
    | .noRows _ => []

instance : Announced SolveError := ⟨fun e => [.failure e.message]⟩

instance : Announced (OptimizerError Float) where
  announcements
    | .graph e => Announced.announcements e
    | .linear e => Announced.announcements e
    | e => [.failure e.message]

instance : Announced (ProblemError Float) where
  announcements
    | .graph e => Announced.announcements e
    | .camera e => Announced.announcements e
    | e => [.failure e.message]

namespace Journal

def outcome {ε β : Type} [Announced ε] : Except ε β → List Event
  | .error e => Announced.announcements e
  | .ok _ => []

def lookup {ε β : Type} : Except ε β → List Event := fun _ => []

def localCoordinates {β : Type} : Except (GraphError Float) β → List Event
  | .error (.missingKey _) => []
  | result => outcome result

def linearize (values : Values Float) :
    Except (GraphError Float) (LinearGraph Float) → List Event
  | .error e => Announced.announcements e
  | .ok linear => [⟨.debug, s!"Linearized {linear.length} factors over {values.size} variables"⟩]

def violation : Violation Float → Event
  | .infeasible keys e =>
      ⟨.debug, "Constraint on [" ++ Key.listText keys ++ "] infeasible: e = " ++ scientific 3 e⟩
  | .slack keys e dual =>
      ⟨.debug, "Constraint on [" ++ Key.listText keys ++ "] violates complementarity: e = "
        ++ scientific 3 e ++ " with dual " ++ dual.text⟩

def check : Except (ConstraintError Float) (Option (Violation Float)) → List Event
  | .error e => Announced.announcements e
  | .ok none => []
  | .ok (some v) => [violation v]

def modelName : CameraModel → String
  | .general => "General SFM"
  | .fixedLens => "Fixed-calibration"
  | .snavely => "Snavely"

def buildBundle (bundle : Bundle Float) (model : CameraModel) :
    Except (ProblemError Float) (Graph Float × Values Float) → List Event
  | .error e => Announced.announcements e
  | .ok (graph, values) =>
      [⟨.debug, modelName model ++ s!" problem: {graph.length} factors, {values.size} variables"
        ++ " from " ++ bundle.text⟩]

def buildPoseGraph (poses : PoseGraph Float) :
    Except (ProblemError Float) (Graph Float × Values Float) → List Event
  | .error e => Announced.announcements e
  | .ok (graph, _) =>
      [⟨.debug, s!"Pose2 SLAM problem: {graph.length} factors from " ++ poses.text⟩]

def scene (config : SceneConfig Float) : Except (ProblemError Float) (Scene Float) → List Event
  | .error e => Announced.announcements e
  | .ok scene => [⟨.debug, s!"Synthetic scene (seed {config.seed}): " ++ scene.truth.text⟩]

def attempt (iteration number : Nat) (a : Attempt Float) : List Event :=
  match a.outcome with
  | .ok _ => []
  | .error e =>
      Announced.announcements e
        ++ if e.recoverable then
            [⟨.warn, s!"Iteration {iteration}, attempt {number}: " ++ e.message
              ++ "; raising damping from " ++ scientific 2 a.damping⟩]
          else []

def iterations (factors unknowns : Nat) :
    (number : Nat) → List (Iteration Float) → List IterationLine → List Event
  | _, [], _ => []
  | number, iteration :: rest, lines =>
      ⟨.debug, s!"Linearized {factors} factors over {unknowns} variables"⟩
        :: (iteration.attempts.mapIdx fun i a => attempt number (i + 1) a).flatten
        ++ (lines.head?.map fun line => (⟨.debug, line.text⟩ : Event)).toList
        ++ iterations factors unknowns (number + 1) rest lines.tail

def ending (run : Run Float) : List Event :=
  match run.ending with
  | .error e =>
      match run.iterations.getLast? with
      | some ⟨_, .fatal _, _⟩ => []
      | _ => Announced.announcements e
  | .ok status =>
      let course := s!" after {run.iterations.length} iterations: "
        ++ scientific 6 run.initialError ++ " -> " ++ scientific 6 run.error
      [⟨.debug, (Summary.ofRun run status).text⟩,
       if status.isConverged then ⟨.info, "Levenberg-Marquardt converged" ++ course⟩
       else
        ⟨.warn, "Levenberg-Marquardt stopped without convergence (" ++ status.text ++ ")" ++ course⟩]

def opening (config : Config Float) (graph : Graph Float) (run : Run Float) : List Event :=
  [⟨.debug, config.text⟩,
   ⟨.debug, s!"Optimizing {graph.length} factors over {run.initial.size} variables "
      ++ s!"({run.initial.dimension} DOF), initial error " ++ scientific 6 run.initialError⟩,
   ⟨.debug, IterationLine.header⟩]

def covariances {σ : Type} (solver : LinearSolver Float σ) (graph : Graph Float)
    (initial values : Values Float) : List Event :=
  linearize values (graph.linearize values)
    ++ match Optimizer.covariances solver graph (.ofValues initial) values with
      | .ok _ => []
      | .error e =>
          (match e with
            | .graph _ => []
            | e => Announced.announcements e)
            ++ [⟨.warn, "Covariance computation failed: " ++ e.message⟩]

def optimize {σ : Type} (solver : LinearSolver Float σ) (config : Config Float)
    (graph : Graph Float) (initial : Values Float) : List Event :=
  match Optimizer.run solver config graph initial with
  | .error e => Announced.announcements e
  | .ok run =>
      let lines := IterationLine.ofIterations 1 run.initialError 0 0 run.iterations
      opening config graph run ++ iterations graph.length initial.size 1 run.iterations lines
        ++ ending run
        ++ if config.covariances && run.ending.toBool then
            covariances solver graph initial run.values
          else []

def judge (config : Config Float) (inequalities : InequalityGraph Float)
    (duals : Updates Float) (values : Values Float) : List Event :=
  let result := inequalities.violation? values duals config.constraintTolerance
  check result
    ++ match result with
      | .ok (some _) =>
          [⟨.warn, s!"Final values violate {inequalities.size} inequality constraints at tolerance "
            ++ scientific 1 config.constraintTolerance⟩]
      | _ => []

def optimizeConstrained {σ : Type} (solver : LinearSolver Float σ) (config : Config Float)
    (graph : Graph Float) (inequalities : InequalityGraph Float) (initial : Values Float)
    (duals : Updates Float) : List Event :=
  optimize solver config graph initial
    ++ match Optimizer.optimize solver config graph initial with
      | .error _ => []
      | .ok result => judge config inequalities duals result.values

end Journal

end FactorGraph
