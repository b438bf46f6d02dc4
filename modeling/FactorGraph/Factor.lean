import FactorGraph.Graph.Error

set_option autoImplicit false

namespace FactorGraph

inductive Request where
  | residual
  | derivatives
deriving DecidableEq

structure Evaluation (α : Type) where
  residual : List α
  jacobians : Option (List (Block α))

structure Factor (α : Type) where
  dimension : Nat
  evaluate : List (Value α) → Request → Except (FactorError α) (Evaluation α)

namespace Factor

variable {α : Type} [Scalar α]

def checkArity (values : List (Value α)) (expected : Nat) : Except (FactorError α) Unit :=
  if values.length = expected then .ok () else .error (.arity expected values.length)

-- How many places there are up to `index`, counted in a word of 64 bits.
def countThrough (index : Nat) : Nat := (index + 1) % UInt64.size

def variableAt (M : Type) [Variable α M] (values : List (Value α)) (index : Nat) :
    Except (FactorError α) M :=
  match values[index]? with
  | none => .error (.arity (countThrough index) values.length)
  | some value =>
      match Variable.ofValue? (M := M) value with
      | some x => .ok x
      | none =>
          .error (.variableType index (Variable.type (α := α) M).name value.type.name)

def valueAt (values : List (Value α)) (index : Nat) :
    VariableType → Except (FactorError α) (Value α)
  | .pose2 => Variable.toValue <$> variableAt (Pose2 α) values index
  | .pose3 => Variable.toValue <$> variableAt (Pose3 α) values index
  | .point3 => Variable.toValue <$> variableAt (Vec3 α) values index
  | .vector => Variable.toValue <$> variableAt (List α) values index
  | .calibration => Variable.toValue <$> variableAt (Calibration α) values index
  | .camera => Variable.toValue <$> variableAt (Camera α) values index

def answer (request : Request) (residual : List α) (jacobians : Unit → List (Block α)) :
    Evaluation α :=
  match request with
  | .residual => ⟨residual, none⟩
  | .derivatives => ⟨residual, some (jacobians ())⟩

def prior {M : Type} [Variable α M] (given : M) : Factor α where
  dimension := Manifold.dimension given
  evaluate values request := do
    checkArity values 1
    let x ← variableAt M values 0
    let residual ← (Manifold.localCoordinates given x).mapError .manifold
    match request with
    | .residual => return ⟨residual, none⟩
    | .derivatives =>
        let jacobian ← (Manifold.localJacobian given x).mapError .manifold
        return ⟨residual, some [jacobian]⟩

def between {G T J : Type} [LieGroup α G T J] [Variable α G] (measured : G) : Factor α where
  dimension := LieGroup.dimension G
  evaluate values request := do
    checkArity values 2
    let a ← variableAt G values 0
    let b ← variableAt G values 1
    let relative := LieGroup.between a b
    let error := LieGroup.log (measured⁻¹ * relative)
    return answer request (LieGroup.coordinates (G := G) error) fun _ =>
      let second := LieGroup.rightJacobianInverse (G := G) error
      let first := LieGroup.negate (G := G)
        (LieGroup.multiply (G := G) second (LieGroup.adjoint relative⁻¹))
      [LieGroup.toBlock (G := G) first, LieGroup.toBlock (G := G) second]

def reprojection (measured : Vec2 α) (request : Request)
    (predict : Except (Cheirality α) (Vec2 α))
    (differentiate : Except (Cheirality α) (Vec2 α × List (Block α))) :
    Except (FactorError α) (Evaluation α) :=
  match request with
  | .residual => do
      let pixel ← predict.mapError .cheirality
      return ⟨(pixel - measured).toList, none⟩
  | .derivatives => do
      let (pixel, jacobians) ← differentiate.mapError .cheirality
      return ⟨(pixel - measured).toList, some jacobians⟩

def projection (measured : Vec2 α) (lens : Calibration α) : Factor α where
  dimension := 2
  evaluate values request := do
    checkArity values 2
    let pose ← variableAt (Pose3 α) values 0
    let point ← variableAt (Vec3 α) values 1
    let camera : Camera α := ⟨pose, lens⟩
    reprojection measured request (camera.project point)
      ((camera.projectDerivatives point).map fun p => (p.pixel, [p.pose, p.point.toBlock]))

def cameraProjection (measured : Vec2 α) : Factor α where
  dimension := 2
  evaluate values request := do
    checkArity values 2
    let camera ← variableAt (Camera α) values 0
    let point ← variableAt (Vec3 α) values 1
    reprojection measured request (camera.project point)
      ((camera.projectDerivatives point).map fun p => (p.pixel, [p.camera, p.point.toBlock]))

def snavelyProjection (measured : Vec2 α) : Factor α where
  dimension := 2
  evaluate values request := do
    checkArity values 2
    let numbers ← variableAt (List α) values 0
    match SnavelyCamera.ofList? numbers with
    | none => .error (.dimension 9 numbers.length)
    | some camera =>
        let point ← variableAt (Vec3 α) values 1
        reprojection measured request (camera.project point)
          ((camera.projectDerivatives point).map fun p => (p.pixel, [p.camera, p.point.toBlock]))

inductive BoundSide where
  | upper
  | lower
deriving DecidableEq

def BoundSide.sign : BoundSide → α
  | upper => 1
  | lower => -1

def components? : Value α → Option (List α)
  | .point3 p => some p.toList
  | .vector v => some v
  | _ => none

-- By how much a component of a point or a vector violates its bound; negative inside.
def componentBound (component : Nat) (bound : α) (side : BoundSide) : Factor α where
  dimension := 1
  evaluate values request := do
    checkArity values 1
    match values with
    | [] => .error (.arity 1 0)
    | value :: _ =>
        match components? value with
        | none => .error (.variableType 0 "Point3 or Vector" value.type.name)
        | some xs =>
            match xs[component]? with
            | none => .error (.dimension (countThrough component) xs.length)
            | some x =>
                return answer request [side.sign * (x - bound)] fun _ =>
                  [.ofFn 1 xs.length fun _ j => if j = component then side.sign else 0]

-- By how much the distance of two points exceeds a bound. Where the points coincide the derivative
-- is taken to be zero.
def maxDistance (bound : α) : Factor α where
  dimension := 1
  evaluate values request := do
    checkArity values 2
    let a ← variableAt (Vec3 α) values 0
    let b ← variableAt (Vec3 α) values 1
    let difference := a - b
    let distance := difference.norm
    return answer request [distance - bound] fun _ =>
      let direction := if Scalar.epsilon < distance then difference / distance else 0
      [.row direction.toList, .row (-direction).toList]

end Factor

inductive StandardFactor (α : Type) where
  | prior (given : Value α)
  | betweenPose2 (measured : Pose2 α)
  | betweenPose3 (measured : Pose3 α)
  | projection (measured : Vec2 α) (lens : Calibration α)
  | cameraProjection (measured : Vec2 α)
  | snavelyProjection (measured : Vec2 α)
  | componentBound (component : Nat) (bound : α) (side : Factor.BoundSide)
  | maxDistance (bound : α)

def StandardFactor.factor {α : Type} [Scalar α] : StandardFactor α → Factor α
  | .prior (.pose2 x) => Factor.prior x
  | .prior (.pose3 x) => Factor.prior x
  | .prior (.point3 x) => Factor.prior x
  | .prior (.vector x) => Factor.prior x
  | .prior (.calibration x) => Factor.prior x
  | .prior (.camera x) => Factor.prior x
  | .betweenPose2 z => Factor.between z
  | .betweenPose3 z => Factor.between z
  | .projection z lens => Factor.projection z lens
  | .cameraProjection z => Factor.cameraProjection z
  | .snavelyProjection z => Factor.snavelyProjection z
  | .componentBound i bound side => Factor.componentBound i bound side
  | .maxDistance bound => Factor.maxDistance bound

end FactorGraph
