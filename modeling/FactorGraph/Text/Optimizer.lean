import FactorGraph.Decimal.Places
import FactorGraph.Optimizer.Result

set_option autoImplicit false

namespace FactorGraph

open Decimal (fixed padLeft scientific)

def SolverChoice.text : SolverChoice → String
  | .cholesky => "Sparse Cholesky"
  | .qr => "Sparse QR"

def Status.isConverged (status : Status) : Bool := status = .converged

def Status.text : Status → String
  | .converged => "Converged"
  | .maxIterations => "Maximum iterations reached"
  | .dampingLimit => "Damping limit reached"
  | .noDecrease => "No error decrease"
  | .userTerminated => "User terminated"

def Config.text (config : Config Float) : String :=
  "\n".intercalate [
    "Configuration:",
    "  Solver:        Levenberg-Marquardt",
    "  Linear solver: " ++ config.solver.text,
    "  Convergence Criteria:",
    s!"  Max iterations:      {config.maxIterations}",
    "  Relative tolerance:  " ++ scientific 2 config.relativeTolerance,
    "  Absolute tolerance:  " ++ scientific 2 config.absoluteTolerance,
    "  Damping Parameters:",
    "  Initial damping:     " ++ scientific 2 config.damping,
    "  Damping range:       [" ++ scientific 2 config.dampingMin ++ ", "
      ++ scientific 2 config.dampingMax ++ "]",
    s!"  Max retries:         {config.maxRetries}",
    "  Abort signal:        " ++ (if config.abort.isSome then "set" else "none"),
    "  Compute covariances: " ++ (if config.covariances then "enabled" else "disabled")]

def Statistics.text (s : Statistics Float) : String :=
  "Final gradient norm: " ++ scientific 2 s.gradientNorm
    ++ ", Final step norm: " ++ scientific 2 s.stepNorm
    ++ ", Final damping: " ++ scientific 2 s.damping
    ++ s!", Error evaluations: {s.evaluations}, Linearizations: {s.linearizations}"
    ++ s!", Steps accepted/rejected: {s.accepted}/{s.rejected}"

inductive Elapsed where
  | measured (milliseconds : Float)
  | untimed

def Elapsed.ofMicroseconds (us : Nat) : Elapsed :=
  let seconds := Float.ofNat (us / 1000000) + Float.ofNat (us % 1000000 * 1000) / 1000000000.0
  .measured (seconds * 1000.0)

def Elapsed.column (gap : String) (width : Nat) : Elapsed → String
  | .measured ms => gap ++ padLeft width ' ' (fixed 2 ms) ++ "ms"
  | .untimed => " #ms"

structure IterationLine where
  iteration : Nat
  error : Float
  change : Float
  gradientNorm : Float
  stepNorm : Float
  gain : Float
  damping : Float
  attempts : Nat
  time : Elapsed
  total : Elapsed
  accepted : Bool

namespace IterationLine

def header : String :=
  "  ".intercalate [
    padLeft 4 ' ' "iter", padLeft 13 ' ' "error", padLeft 13 ' ' "error_change",
    padLeft 13 ' ' "|gradient|", padLeft 13 ' ' "|step|", padLeft 11 ' ' "rho",
    padLeft 11 ' ' "lambda", padLeft 8 ' ' "attempts", padLeft 11 ' ' "iter_time",
    padLeft 13 ' ' "total_time", padLeft 6 ' ' "status"]

def text (line : IterationLine) : String :=
  "  ".intercalate [
    padLeft 4 ' ' (toString line.iteration), padLeft 13 ' ' (scientific 6 line.error),
    padLeft 13 ' ' (scientific 2 line.change), padLeft 13 ' ' (scientific 2 line.gradientNorm),
    padLeft 13 ' ' (scientific 2 line.stepNorm), padLeft 11 ' ' (scientific 2 line.gain),
    padLeft 11 ' ' (scientific 2 line.damping), padLeft 8 ' ' (toString line.attempts)]
  ++ line.time.column "  " 9 ++ line.total.column "  " 11
  ++ "  " ++ padLeft 6 ' ' (if line.accepted then "✓" else "✗")

-- The line of each iteration that came to an end. Where no attempt of an iteration was evaluated,
-- the norms are those of the iteration before.
def ofIterations (number : Nat) (error gradientNorm stepNorm : Float) :
    List (Iteration Float) → List IterationLine
  | [] => []
  | iteration :: rest =>
      match iteration.verdict with
      | .fatal _ => []
      | _ =>
          let trial := (iteration.attempts.filterMap (·.trial?)).getLast?
          let gradientNorm := (trial.map (·.gradientNorm)).getD gradientNorm
          let stepNorm := (trial.map (·.stepNorm)).getD stepNorm
          let after := (iteration.accepted?.map (·.error)).getD error
          { iteration := number
            error := after
            change := error - after
            gradientNorm := gradientNorm
            stepNorm := stepNorm
            gain := (trial.map (·.gain)).getD 0
            damping := iteration.damping.lambda
            attempts := iteration.attempts.length
            time := .untimed
            total := .untimed
            accepted := iteration.accepted?.isSome }
          :: ofIterations (number + 1) after gradientNorm stepNorm rest

end IterationLine

structure Summary where
  status : Status
  initialError : Float
  finalError : Float
  iterations : Nat
  accepted : Nat
  rejected : Nat
  damping : Float
  maxGradientNorm : Float
  gradientNorm : Float
  maxStepNorm : Float
  stepNorm : Float
  total : Elapsed
  average : Elapsed

namespace Summary

def share (count attempts : Nat) : String :=
  fixed 1 (100.0 * Float.ofNat count / Float.ofNat (max attempts 1))

def text (s : Summary) : String :=
  let attempts := (s.accepted + s.rejected) % UInt64.size
  let reduction := s.initialError - s.finalError
  let percent := fixed 2 (100.0 * reduction / Scalar.max s.initialError 1e-12)
  "\n".intercalate [
    "Levenberg-Marquardt Final Result",
    (if s.status.isConverged then "CONVERGED (" else "NOT CONVERGED (") ++ s.status.text ++ ")",
    "",
    "Error:",
    "  Initial:   " ++ scientific 6 s.initialError,
    "  Final:     " ++ scientific 6 s.finalError,
    "  Reduction: " ++ scientific 6 reduction ++ " (" ++ percent ++ "%)",
    "",
    "Iterations:",
    s!"  Total:            {s.iterations}",
    s!"  Accepted steps:   {s.accepted} (" ++ share s.accepted attempts ++ "%)",
    s!"  Rejected steps:   {s.rejected} (" ++ share s.rejected attempts ++ "%)",
    "  Final damping:    " ++ scientific 2 s.damping,
    "",
    "Gradient:",
    "  Max norm:   " ++ scientific 2 s.maxGradientNorm,
    "  Final norm: " ++ scientific 2 s.gradientNorm,
    "",
    "Step:",
    "  Max norm:   " ++ scientific 2 s.maxStepNorm,
    "  Final norm: " ++ scientific 2 s.stepNorm,
    "",
    "Performance:",
    "  Total time:" ++ s.total.column "             " 0,
    "  Average per iteration:" ++ s.average.column "  " 0]

def ofRun (run : Run Float) (status : Status) : Summary where
  status := status
  initialError := run.initialError
  finalError := run.error
  iterations := run.iterations.length
  accepted := run.statistics.accepted
  rejected := run.statistics.rejected
  damping := run.damping.lambda
  maxGradientNorm := run.trials.foldl (fun m t => Scalar.max m t.gradientNorm) 0
  gradientNorm := run.gradientNorm
  maxStepNorm := run.trials.foldl (fun m t => Scalar.max m t.stepNorm) 0
  stepNorm := run.stepNorm
  total := .untimed
  average := .untimed

end Summary

end FactorGraph
