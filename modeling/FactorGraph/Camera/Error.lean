import FactorGraph.Scalar

set_option autoImplicit false

namespace FactorGraph

structure Cheirality (α : Type) where
  depth : α

inductive DegenerateFrame where
  | eyeAtTarget
  | upAlongView
  | described (text : String)

inductive CameraError (α : Type) where
  | cheirality (fault : Cheirality α)
  | notConverged (iterations : Nat)
  | degenerateFrame (fault : DegenerateFrame)

end FactorGraph
