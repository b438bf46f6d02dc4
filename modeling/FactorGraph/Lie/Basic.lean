import FactorGraph.Manifold

set_option autoImplicit false

namespace FactorGraph

class LieGroup (α : outParam Type) (G : Type) (T J : outParam Type) extends One G, Mul G, Inv G where
  dimension : Nat
  log : G → T
  exp : T → G
  adjoint : G → J
  leftJacobian : T → J
  rightJacobian : T → J
  leftJacobianInverse : T → J
  rightJacobianInverse : T → J
  negate : J → J
  multiply : J → J → J
  toBlock : J → Block α
  coordinates : T → List α
  ofCoordinates? : List α → Option T

namespace LieGroup

variable {α G T J : Type} [LieGroup α G T J]

def between (a b : G) : G := a⁻¹ * b

def rightPlus (a : G) (t : T) : G := a * exp t

def rightMinus (a b : G) : T := log (b⁻¹ * a)

def tangentNorm [Scalar α] (t : T) : α :=
  Scalar.sqrt (Block.dot (coordinates (G := G) t) (coordinates (G := G) t))

def isApprox [Scalar α] (a b : G) (tolerance : α) : Bool :=
  decide (tangentNorm (G := G) (rightMinus a b) < tolerance)

def tangent (G : Type) {α T J : Type} [LieGroup α G T J] [Scalar α] (delta : List α) :
    Except ManifoldError T := do
  checkTangent delta (dimension G)
  match ofCoordinates? (G := G) delta with
  | some t => .ok t
  | none => .error (.tangentDimension (dimension G) delta.length)

instance [Scalar α] : Manifold α G where
  dimension _ := dimension G
  retract x delta := do
    let t ← tangent G delta
    return rightPlus x t
  localCoordinates x y := .ok (coordinates (G := G) (rightMinus y x))
  localJacobian x y :=
    .ok (toBlock (G := G) (rightJacobianInverse (G := G) (rightMinus y x)))

end LieGroup

end FactorGraph
