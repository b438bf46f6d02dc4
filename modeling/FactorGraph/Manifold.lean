import FactorGraph.Block

set_option autoImplicit false

namespace FactorGraph

inductive ManifoldError where
  | tangentDimension (expected actual : Nat)
  | dimensionMismatch (expected actual : Nat)
  | notFinite
  | invalidElement (reason : String)

class Manifold (α : outParam Type) (M : Type) where
  dimension : M → Nat
  retract : M → List α → Except ManifoldError M
  localCoordinates : M → M → Except ManifoldError (List α)
  localJacobian : M → M → Except ManifoldError (Block α)

variable {α : Type} [Scalar α]

def checkTangent (delta : List α) (expected : Nat) : Except ManifoldError Unit :=
  if delta.length ≠ expected then .error (.tangentDimension expected delta.length)
  else if delta.all Scalar.isFinite then .ok ()
  else .error .notFinite

instance : Manifold α (Vec3 α) where
  dimension _ := 3
  retract x delta := do
    checkTangent delta 3
    match Vec3.ofList? delta with
    | some d => .ok (x + d)
    | none => .error (.tangentDimension 3 delta.length)
  localCoordinates x y := .ok (y - x).toList
  localJacobian _ _ := .ok (.identity 3)

def checkLengths (x y : List α) : Except ManifoldError Unit :=
  if y.length = x.length then .ok () else .error (.dimensionMismatch x.length y.length)

instance : Manifold α (List α) where
  dimension x := x.length
  retract x delta := do
    checkTangent delta x.length
    return List.zipWith (· + ·) x delta
  localCoordinates x y := do
    checkLengths x y
    return List.zipWith (· - ·) y x
  localJacobian x y := do
    checkLengths x y
    return .identity x.length

end FactorGraph
