import FactorGraph.Optimizer.Error

set_option autoImplicit false

namespace FactorGraph

inductive SolverChoice where
  | cholesky
  | qr
deriving DecidableEq

structure Config (α : Type) where
  solver : SolverChoice
  maxIterations : Nat
  -- A run ends when an accepted step lowers the error by less than this fraction.
  relativeTolerance : α
  absoluteTolerance : α
  damping : α
  dampingMin : α
  dampingMax : α
  -- How many more attempts an iteration may make after the first.
  maxRetries : Nat
  -- What an abort signal reads before each iteration, counted from zero.
  abort : Option (Nat → Bool)
  constraintTolerance : α
  covariances : Bool

variable {α : Type} [Scalar α]

namespace Config

def standard : Config α where
  solver := .cholesky
  maxIterations := 50
  relativeTolerance := 1e-5
  absoluteTolerance := 1e-5
  damping := 1e-4
  dampingMin := 1e-12
  dampingMax := 1e12
  maxRetries := 10
  abort := none
  constraintTolerance := 1e-6
  covariances := false

def aborted (config : Config α) (iteration : Nat) : Bool :=
  match config.abort with
  | none => false
  | some reading => reading iteration

def validate (config : Config α) : Except (OptimizerError α) Unit :=
  if config.maxIterations = 0 then .error (.parameters .noIterations)
  else if ¬ (0 ≤ config.relativeTolerance ∧ 0 ≤ config.absoluteTolerance) then
    .error (.parameters .negativeTolerance)
  else if ¬ (0 < config.dampingMin ∧ config.dampingMin ≤ config.damping
      ∧ config.damping ≤ config.dampingMax) then
    .error (.parameters .dampingRange)
  else .ok ()

end Config

structure Damping (α : Type) where
  lambda : α
  nu : α
  min : α
  max : α

namespace Damping

def start (config : Config α) : Damping α :=
  ⟨config.damping, 2.0, config.dampingMin, config.dampingMax⟩

-- After an accepted step of the given gain, the damping is multiplied by `1 - (2 gain - 1)³`, but
-- not by less than a third.
def accept (d : Damping α) (gain : α) : Damping α :=
  let c := 2.0 * gain - 1
  { d with
    lambda := Scalar.max (d.lambda * Scalar.max (1 / 3.0) (1 - c * c * c)) d.min
    nu := 2.0 }

-- Each rejection in a row raises the damping by twice the factor of the last one.
def reject (d : Damping α) : Damping α :=
  { d with lambda := Scalar.min (d.lambda * d.nu) d.max, nu := d.nu * 2.0 }

def atLimit (d : Damping α) : Bool := decide (d.max ≤ d.lambda)

end Damping

end FactorGraph
