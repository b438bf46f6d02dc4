import FactorGraph.Graph.Nonlinear
import FactorGraph.Optimizer.Config

set_option autoImplicit false

namespace FactorGraph

structure LinearSolver (α σ : Type) where
  start : σ
  solve : σ → Block α → SparseMatrix α → Option α → Except SolveError (List α) × σ
  gradient? : σ → Option (List α)
  covariance? : σ → Option (Block α)

structure Trial (α : Type) where
  values : Values α
  error : α
  stepNorm : α
  gradientNorm : α
  -- The decrease of the error in units of the decrease that the linear model predicts.
  gain : α

structure Attempt (α : Type) where
  damping : α
  outcome : Except (OptimizerError α) (Trial α)

inductive Verdict (α : Type) where
  | accepted (trial : Trial α)
  | exhausted
  | fatal (error : OptimizerError α)

structure Iteration (α : Type) where
  attempts : List (Attempt α)
  verdict : Verdict α
  damping : Damping α

inductive Status where
  | converged
  | maxIterations
  | dampingLimit
  | noDecrease
  | userTerminated
deriving DecidableEq

structure Run (α : Type) where
  initial : Values α
  initialError : α
  iterations : List (Iteration α)
  damping : Damping α
  ending : Except (OptimizerError α) Status

variable {α σ : Type} [Scalar α]

def predictedReduction (step gradient : List α) (lambda : α) : α :=
  Scalar.total (List.zipWith (fun h g => h * (lambda * h - g)) step gradient)

-- The actual decrease of the error over the predicted one. Where next to nothing is predicted, any
-- decrease counts as one and none as zero.
def gainRatio (current candidate predicted : α) : α :=
  let actual := current - candidate
  if Scalar.abs predicted < 1e-15 then if 0 < actual then 1 else 0 else actual / predicted

namespace Optimizer

structure Problem (α : Type) where
  graph : Graph α
  layout : Layout
  config : Config α

structure Base (α : Type) where
  values : Values α
  error : α
  jacobian : SparseMatrix α
  residual : Block α

def evaluateStep (problem : Problem α) (base : Base α) (lambda : α) (step : List α)
    (gradient? : Option (List α)) : Except (OptimizerError α) (Trial α) := do
  let updates ← (problem.layout.split (Block.column step)).mapError .graph
  let candidate ← (base.values.retract updates).mapError .graph
  let error ← (problem.graph.error candidate).mapError .graph
  let predicted := (gradient?.map (predictedReduction step · lambda)).getD 0
  return {
    values := candidate
    error := error
    stepNorm := Block.norm step
    gradientNorm := (gradient?.map Block.norm).getD 0
    gain := gainRatio base.error error predicted }

def attempt (solver : LinearSolver α σ) (problem : Problem α) (base : Base α) (lambda : α)
    (state : σ) : Except (OptimizerError α) (Trial α) × σ :=
  match solver.solve state base.residual base.jacobian (some lambda) with
  | (.error e, state) => (.error (.linear e), state)
  | (.ok step, state) => (evaluateStep problem base lambda step (solver.gradient? state), state)

def improves (base : Base α) (trial : Trial α) : Bool :=
  Scalar.isFinite trial.error && decide (trial.error < base.error)

def attempts (solver : LinearSolver α σ) (problem : Problem α) (base : Base α) :
    (remaining : Nat) → Damping α → σ → Iteration α × σ
  | 0, damping, state => (⟨[], .exhausted, damping⟩, state)
  | remaining + 1, damping, state =>
      let (outcome, state) := attempt solver problem base damping.lambda state
      let this : Attempt α := ⟨damping.lambda, outcome⟩
      let again : Iteration α × σ :=
        let raised := damping.reject
        if raised.atLimit then (⟨[this], .exhausted, raised⟩, state)
        else
          let (rest, state) := attempts solver problem base remaining raised state
          (⟨this :: rest.attempts, rest.verdict, rest.damping⟩, state)
      match outcome with
      | .ok trial =>
          if improves base trial then
            (⟨[this], .accepted trial, damping.accept trial.gain⟩, state)
          else again
      | .error e => if e.recoverable then again else (⟨[this], .fatal e, damping⟩, state)

def linearize (problem : Problem α) (values : Values α) (error : α) :
    Except (OptimizerError α) (Base α) := do
  let linear ← (problem.graph.linearize values).mapError .graph
  let system ← (linear.toSparse problem.layout).mapError .graph
  return ⟨values, error, system.jacobian, Block.column (system.rhs.map (- ·))⟩

def surrender (iteration : Iteration α) : Except (OptimizerError α) Status :=
  match iteration.attempts.getLast? with
  | some ⟨_, .error cause⟩ => .error (.retriesExhausted iteration.attempts.length cause)
  | _ => if iteration.damping.atLimit then .ok .dampingLimit else .ok .noDecrease

def settled (config : Config α) (previous current : α) : Bool :=
  decide (config.absoluteTolerance < current)
    && decide ((previous - current) / previous < config.relativeTolerance)

structure State (α σ : Type) where
  values : Values α
  error : α
  damping : Damping α
  solver : σ

-- The iterations that are still to come, their number bounded by `remaining`, the damping at the
-- end and the ending. `done` iterations lie behind.
def iterate (solver : LinearSolver α σ) (problem : Problem α) :
    (remaining done : Nat) → State α σ →
      List (Iteration α) × Damping α × Except (OptimizerError α) Status
  | remaining, done, state =>
      if state.error ≤ problem.config.absoluteTolerance then ([], state.damping, .ok .converged)
      else
        match remaining with
        | 0 => ([], state.damping, .ok .maxIterations)
        | remaining + 1 =>
            if problem.config.aborted done then ([], state.damping, .ok .userTerminated)
            else
              match linearize problem state.values state.error with
              | .error e => ([], state.damping, .error e)
              | .ok base =>
                  let (iteration, solverState) :=
                    attempts solver problem base (problem.config.maxRetries + 1) state.damping
                      state.solver
                  match iteration.verdict with
                  | .fatal e => ([iteration], iteration.damping, .error e)
                  | .exhausted => ([iteration], iteration.damping, surrender iteration)
                  | .accepted trial =>
                      if settled problem.config state.error trial.error then
                        ([iteration], iteration.damping, .ok .converged)
                      else
                        let next : State α σ :=
                          ⟨trial.values, trial.error, iteration.damping, solverState⟩
                        let (rest, damping, ending) :=
                          iterate solver problem remaining (done + 1) next
                        (iteration :: rest, damping, ending)

def run (solver : LinearSolver α σ) (config : Config α) (graph : Graph α) (initial : Values α) :
    Except (OptimizerError α) (Run α) := do
  config.validate
  if initial.isEmpty then throw .emptyProblem
  let error ← (graph.error initial).mapError .graph
  if !Scalar.isFinite error then throw (.instability (.initialError error))
  let problem : Problem α := ⟨graph, .ofValues initial, config⟩
  let start : State α σ := ⟨initial, error, .start config, solver.start⟩
  let (iterations, damping, ending) := iterate solver problem config.maxIterations 0 start
  return ⟨initial, error, iterations, damping, ending⟩

end Optimizer

end FactorGraph
