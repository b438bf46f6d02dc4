import FactorGraph.Document.Read
import FactorGraph.Text.Optimizer

set_option autoImplicit false

namespace FactorGraph

open Readable (read?)

instance : Readable SolverChoice where
  read? d := d.named [("cholesky", .cholesky), ("qr", .qr)]

instance : Readable (Config Float) where
  read? d := do
    let standard : Config Float := .standard
    let bounds ← d.getOr "damping_bounds" (standard.dampingMin, standard.dampingMax)
    let abort : Option Bool ← d.optional? "abort"
    return {
      solver := ← d.getOr "solver" standard.solver
      maxIterations := ← d.getOr "max_iterations" standard.maxIterations
      relativeTolerance := ← d.getOr "rel_tol" standard.relativeTolerance
      absoluteTolerance := ← d.getOr "abs_tol" standard.absoluteTolerance
      damping := ← d.getOr "damping" standard.damping
      dampingMin := bounds.1
      dampingMax := bounds.2
      maxRetries := ← d.getOr "max_retries" standard.maxRetries
      abort := abort.map fun reading _ => reading
      constraintTolerance := ← d.getOr "constraint_tolerance" standard.constraintTolerance
      covariances := ← d.getOr "covariances" standard.covariances }

instance : Readable Status where
  read? d := d.named [("Converged", .converged), ("MaxIterationsReached", .maxIterations),
    ("DampingLimitReached", .dampingLimit), ("NoDecrease", .noDecrease),
    ("UserTerminated", .userTerminated)]

instance : Readable Summary where
  read? d := do
    return {
      status := ← d.get? "status"
      initialError := ← d.get? "initial_error"
      finalError := ← d.get? "final_error"
      iterations := ← d.get? "iterations"
      accepted := ← d.get? "accepted"
      rejected := ← d.get? "rejected"
      damping := ← d.get? "damping"
      maxGradientNorm := ← d.get? "max_gradient"
      gradientNorm := ← d.get? "final_gradient"
      maxStepNorm := ← d.get? "max_step"
      stepNorm := ← d.get? "final_step"
      total := .ofMicroseconds (← d.get? "total_us")
      average := .ofMicroseconds (← d.get? "average_us") }

instance : Readable IterationLine where
  read? d := do
    return {
      iteration := ← d.get? "iteration"
      error := ← d.get? "error"
      change := ← d.get? "change"
      gradientNorm := ← d.get? "gradient"
      stepNorm := ← d.get? "step"
      gain := ← d.get? "rho"
      damping := ← d.get? "damping"
      attempts := ← d.get? "attempts"
      time := .measured (← d.get? "iter_ms")
      total := .measured (← d.get? "total_ms")
      accepted := ← d.get? "accepted" }

instance : Readable (Statistics Float) where
  read? d := do
    return {
      gradientNorm := ← d.get? "gradient"
      stepNorm := ← d.get? "step"
      damping := ← d.get? "damping"
      evaluations := ← d.get? "evaluations"
      linearizations := ← d.get? "linearizations"
      accepted := ← d.get? "accepted"
      rejected := ← d.get? "rejected" }

end FactorGraph
