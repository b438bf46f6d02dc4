import FactorGraph.Key
import FactorGraph.Value

set_option autoImplicit false

namespace FactorGraph

inductive FactorError (α : Type) where
  | cheirality (fault : Cheirality α)
  | dimension (expected actual : Nat)
  | arity (expected actual : Nat)
  | variableType (index : Nat) (expected actual : String)
  | manifold (cause : ManifoldError)
  | camera (cause : CameraError α)

def FactorError.ofCamera {α : Type} : CameraError α → FactorError α
  | .cheirality fault => .cheirality fault
  | other => .camera other

inductive Subject where
  | keys (keys : List Key)
  | described (text : String)

inductive ShapeFault where
  | noise (noise factor : Nat) (keys : List Key)
  | noKeys
  | residual (length dimension : Nat) (keys : List Key)
  | noJacobians (keys : List Key)
  | blockCount (blocks keys : Nat) (on : List Key)
  | block (key : Key) (actual expected : Nat × Nat)
  | step (key : Key) (actual expected : Nat)
  | column (actual : Nat × Nat) (total : Nat)
  | described (text : String)

inductive NonFiniteSite where
  | residual (keys : List Key)
  | block (key : Key)
  | described (text : String)

inductive NoiseFault (α : Type) where
  | sigma (value : α)
  | described (text : String)

inductive GraphError (α : Type) where
  | missingKey (key : Key)
  | duplicateKey (key : Key)
  | typeMismatch (key : Key) (expected actual : String)
  | shape (fault : ShapeFault)
  | factor (subject : Subject) (cause : FactorError α)
  | manifold (cause : ManifoldError)
  | notFinite (site : NonFiniteSite)
  | noise (fault : NoiseFault α)
  | notInequality (subject : Subject)
  | sparseStructure (text : String)

def FactorError.recoverable {α : Type} : FactorError α → Bool
  | .cheirality _ => true
  | _ => false

-- Whether a shorter step may do without the error: what depends on the point is, what depends on
-- the structure of the graph is not.
def GraphError.recoverable {α : Type} : GraphError α → Bool
  | .factor _ cause => cause.recoverable
  | .notFinite _ => true
  | .manifold .notFinite => true
  | _ => false

def GraphError.ofCamera {α : Type} (cause : CameraError α) : GraphError α :=
  .factor (.keys []) (.ofCamera cause)

end FactorGraph
