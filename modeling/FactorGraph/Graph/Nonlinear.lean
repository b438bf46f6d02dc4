import FactorGraph.Factor
import FactorGraph.Graph.Linear
import FactorGraph.Graph.Noise

set_option autoImplicit false

namespace FactorGraph

structure NonlinearFactor (α : Type) where
  keys : List Key
  factor : Factor α
  noise : Noise α
  kind : FactorKind
  noise_dimension : noise.dimension = factor.dimension
  keys_ne_nil : keys ≠ []

abbrev Graph (α : Type) := List (NonlinearFactor α)

variable {α : Type} [Scalar α]

namespace NonlinearFactor

def bind (keys : List Key) (factor : Factor α) (noise : Noise α) (kind : FactorKind) :
    Except (GraphError α) (NonlinearFactor α) :=
  if h : noise.dimension = factor.dimension then
    if h' : keys ≠ [] then .ok ⟨keys, factor, noise, kind, h, h'⟩ else .error (.shape .noKeys)
  else .error (.shape (.noise noise.dimension factor.dimension keys))

def dimension (f : NonlinearFactor α) : Nat := f.factor.dimension

def isInequality (f : NonlinearFactor α) : Bool := f.kind.dual?.isSome

def gather (f : NonlinearFactor α) (values : Values α) : Except (GraphError α) (List (Value α)) :=
  f.keys.mapM values.find

def evaluate (f : NonlinearFactor α) (arguments : List (Value α)) (request : Request) :
    Except (GraphError α) (Evaluation α) :=
  (f.factor.evaluate arguments request).mapError (.factor (.keys f.keys))

def checkResidual (f : NonlinearFactor α) (residual : List α) : Except (GraphError α) Unit :=
  if residual.length ≠ f.dimension then
    .error (.shape (.residual residual.length f.dimension f.keys))
  else if residual.all Scalar.isFinite then .ok ()
  else .error (.notFinite (.residual f.keys))

def residual (f : NonlinearFactor α) (values : Values α) : Except (GraphError α) (List α) := do
  let arguments ← f.gather values
  let evaluation ← f.evaluate arguments .residual
  f.checkResidual evaluation.residual
  return evaluation.residual

def whitened (f : NonlinearFactor α) (values : Values α) : Except (GraphError α) (List α) := do
  return f.noise.whiten (← f.residual values)

def error (f : NonlinearFactor α) (values : Values α) : Except (GraphError α) α := do
  return Noise.squaredNorm (← f.whitened values)

def checkBlocks (height : Nat) :
    List (Key × Value α × Block α) → Except (GraphError α) Unit
  | [] => .ok ()
  | (key, value, block) :: rest =>
      let expected := (height, value.dimension)
      if block.shape ≠ expected then .error (.shape (.block key block.shape expected))
      else if block.isFinite then checkBlocks height rest
      else .error (.notFinite (.block key))

def checkJacobians (f : NonlinearFactor α) (arguments : List (Value α)) (blocks : List (Block α)) :
    Except (GraphError α) Unit :=
  if blocks.length = arguments.length then
    checkBlocks f.dimension (f.keys.zip (arguments.zip blocks))
  else .error (.shape (.blockCount blocks.length arguments.length f.keys))

def linearize (f : NonlinearFactor α) (values : Values α) :
    Except (GraphError α) (LinearFactor α) := do
  let arguments ← f.gather values
  let evaluation ← f.evaluate arguments .derivatives
  f.checkResidual evaluation.residual
  match evaluation.jacobians with
  | none => throw (.shape (.noJacobians f.keys))
  | some blocks =>
      f.checkJacobians arguments blocks
      return {
        keys := f.keys
        jacobians := blocks.map (f.noise.whitenBlock ·)
        rhs := (f.noise.whiten evaluation.residual).map (- ·)
        kind := f.kind }

end NonlinearFactor

namespace Graph

def keys (graph : Graph α) : List Key :=
  (SortedMap.ofList ((graph.flatMap (·.keys)).map fun key => (key, ()))).keys

def equalities (graph : Graph α) : List (NonlinearFactor α) :=
  graph.filter fun f => !f.isInequality

def error (graph : Graph α) (values : Values α) : Except (GraphError α) α := do
  let errors ← graph.equalities.mapM (·.error values)
  return Scalar.total errors

def linearize (graph : Graph α) (values : Values α) : Except (GraphError α) (LinearGraph α) :=
  graph.mapM (·.linearize values)

end Graph

end FactorGraph
