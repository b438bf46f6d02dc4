import FactorGraph.Graph.Inequality
import FactorGraph.Graph.Marginals
import FactorGraph.Optimizer.Run

set_option autoImplicit false

namespace FactorGraph

variable {α σ : Type}

def Attempt.trial? (attempt : Attempt α) : Option (Trial α) := attempt.outcome.toOption

def Iteration.accepted? (iteration : Iteration α) : Option (Trial α) :=
  match iteration.verdict with
  | .accepted trial => some trial
  | _ => none

namespace Run

def accepted (run : Run α) : List (Trial α) := run.iterations.filterMap (·.accepted?)

def attempts (run : Run α) : List (Attempt α) := run.iterations.flatMap (·.attempts)

def trials (run : Run α) : List (Trial α) := run.attempts.filterMap (·.trial?)

def values (run : Run α) : Values α :=
  match run.accepted.getLast? with
  | none => run.initial
  | some trial => trial.values

def history (run : Run α) : List α := run.initialError :: run.accepted.map (·.error)

def error (run : Run α) : α :=
  match run.accepted.getLast? with
  | none => run.initialError
  | some trial => trial.error

end Run

structure Statistics (α : Type) where
  gradientNorm : α
  stepNorm : α
  damping : α
  evaluations : Nat
  linearizations : Nat
  accepted : Nat
  rejected : Nat

structure OptimizationResult (α : Type) where
  values : Values α
  status : Status
  initialError : α
  finalError : α
  iterations : Nat
  history : List α
  statistics : Statistics α
  constraints : Option Bool
  covariances : Option (List (Key × Block α))

inductive ConstrainedError (α : Type) where
  | optimizer (cause : OptimizerError α)
  | constraint (cause : ConstraintError α)

variable [Scalar α]

namespace Run

def gradientNorm (run : Run α) : α :=
  match run.trials.getLast? with
  | none => 0
  | some trial => trial.gradientNorm

def stepNorm (run : Run α) : α :=
  match run.trials.getLast? with
  | none => 0
  | some trial => trial.stepNorm

def statistics (run : Run α) : Statistics α where
  gradientNorm := run.gradientNorm
  stepNorm := run.stepNorm
  damping := run.damping.lambda
  evaluations := 1 + run.trials.length
  linearizations := run.iterations.length
  accepted := run.accepted.length
  rejected := run.attempts.length - run.accepted.length

end Run

namespace Optimizer

def covariances (solver : LinearSolver α σ) (graph : Graph α) (layout : Layout)
    (values : Values α) : Except (OptimizerError α) (Option (List (Key × Block α))) := do
  let linear ← (graph.linearize values).mapError .graph
  let system ← (linear.toSparse layout).mapError .graph
  let residual := Block.column (system.rhs.map (- ·))
  let (outcome, state) := solver.solve solver.start residual system.jacobian none
  let _ ← outcome.mapError .linear
  return (solver.covariance? state).map (marginals · layout)

def report (solver : LinearSolver α σ) (config : Config α) (graph : Graph α) (run : Run α)
    (status : Status) : OptimizationResult α where
  values := run.values
  status := status
  initialError := run.initialError
  finalError := run.error
  iterations := run.iterations.length
  history := run.history
  statistics := run.statistics
  constraints := none
  covariances :=
    if config.covariances then
      match covariances solver graph (.ofValues run.initial) run.values with
      | .ok blocks => blocks
      | .error _ => none
    else none

def optimize (solver : LinearSolver α σ) (config : Config α) (graph : Graph α)
    (initial : Values α) : Except (OptimizerError α) (OptimizationResult α) := do
  let run ← run solver config graph initial
  let status ← run.ending
  return report solver config graph run status

def judge (config : Config α) (inequalities : InequalityGraph α) (duals : Updates α)
    (result : OptimizationResult α) : Except (ConstraintError α) (OptimizationResult α) := do
  let satisfied ← inequalities.check result.values duals config.constraintTolerance
  return { result with constraints := some satisfied }

def optimizeConstrained (solver : LinearSolver α σ) (config : Config α) (graph : Graph α)
    (inequalities : InequalityGraph α) (initial : Values α) (duals : Updates α) :
    Except (ConstrainedError α) (OptimizationResult α) := do
  let result ← (optimize solver config graph initial).mapError .optimizer
  (judge config inequalities duals result).mapError .constraint

end Optimizer

def Method.linearSolver (method : Method α) : LinearSolver α (Solver method) where
  start := .start
  solve := Solver.solve
  gradient? := Solver.gradient?
  covariance? solver := solver.withCovariance.covariance?

def SolverChoice.method : SolverChoice → Method α
  | .cholesky => .cholesky
  | .qr => .qr

end FactorGraph
