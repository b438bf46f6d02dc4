import FactorGraph.Graph.Error
import FactorGraph.Linear.Solver

set_option autoImplicit false

namespace FactorGraph

inductive ParameterFault where
  | noIterations
  | negativeTolerance
  | dampingRange
  | described (text : String)

inductive InstabilityFault (α : Type) where
  | initialError (error : α)
  | described (text : String)

inductive OptimizerError (α : Type) where
  | graph (cause : GraphError α)
  | linear (cause : SolveError)
  -- No attempt of an iteration was accepted, and the last one failed.
  | retriesExhausted (retries : Nat) (cause : OptimizerError α)
  | parameters (fault : ParameterFault)
  | instability (fault : InstabilityFault α)
  | emptyProblem

def SolveError.recoverable : SolveError → Bool
  | .singular => true
  | .factorization _ => true
  | _ => false

def OptimizerError.recoverable {α : Type} : OptimizerError α → Bool
  | .graph cause => cause.recoverable
  | .linear cause => cause.recoverable
  | _ => false

end FactorGraph
