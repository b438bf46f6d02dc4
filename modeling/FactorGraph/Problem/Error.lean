import FactorGraph.Graph.Error

set_option autoImplicit false

namespace FactorGraph

inductive EmptyFault where
  | bundle (cameras tracks : Nat)
  | noPoses
  | described (text : String)

inductive SceneFault (α : Type) where
  | counts (cameras points : Nat)
  | ring (radius extent : α)
  | amplitudes
  | described (text : String)

inductive ProblemError (α : Type) where
  | cameraIndex (track camera cameras : Nat)
  | unknownPose (constraint pose : Nat)
  | empty (fault : EmptyFault)
  | parameters (fault : SceneFault α)
  | graph (cause : GraphError α)
  | camera (cause : CameraError α)

namespace Key

def camera (index : Nat) : Key := ⟨'c', index⟩

def point (index : Nat) : Key := ⟨'p', index⟩

def pose (id : Nat) : Key := ⟨'x', id⟩

end Key

end FactorGraph
