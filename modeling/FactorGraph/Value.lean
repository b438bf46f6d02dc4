import FactorGraph.Camera.Snavely

set_option autoImplicit false

namespace FactorGraph

inductive Value (α : Type) where
  | pose2 (pose : Pose2 α)
  | pose3 (pose : Pose3 α)
  | point3 (point : Vec3 α)
  | vector (entries : List α)
  | calibration (lens : Calibration α)
  | camera (camera : Camera α)

inductive VariableType where
  | pose2
  | pose3
  | point3
  | vector
  | calibration
  | camera
deriving DecidableEq

def VariableType.name : VariableType → String
  | .pose2 => "Pose2"
  | .pose3 => "Pose3"
  | .point3 => "Point3"
  | .vector => "Vector"
  | .calibration => "Cal3Bundler"
  | .camera => "PinholeCamera"

namespace VariableType

def all : List VariableType := [pose2, pose3, point3, vector, calibration, camera]

def ofName? (name : String) : Option VariableType := all.find? (·.name == name)

end VariableType

namespace Value

variable {α : Type} [Scalar α]

def type : Value α → VariableType
  | pose2 _ => .pose2
  | pose3 _ => .pose3
  | point3 _ => .point3
  | vector _ => .vector
  | calibration _ => .calibration
  | camera _ => .camera

instance : BEq (Value α) where
  beq
    | pose2 a, pose2 b => a == b
    | pose3 a, pose3 b => a == b
    | point3 a, point3 b => a == b
    | vector a, vector b => a == b
    | calibration a, calibration b => a == b
    | camera a, camera b => a == b
    | _, _ => false

def dimension : Value α → Nat
  | pose2 x => Manifold.dimension x
  | pose3 x => Manifold.dimension x
  | point3 x => Manifold.dimension x
  | vector x => Manifold.dimension x
  | calibration x => Manifold.dimension x
  | camera x => Manifold.dimension x

def retract (delta : List α) : Value α → Except ManifoldError (Value α)
  | pose2 x => pose2 <$> Manifold.retract x delta
  | pose3 x => pose3 <$> Manifold.retract x delta
  | point3 x => point3 <$> Manifold.retract x delta
  | vector x => vector <$> Manifold.retract x delta
  | calibration x => calibration <$> Manifold.retract x delta
  | camera x => camera <$> Manifold.retract x delta

def localCoordinates? : Value α → Value α → Option (Except ManifoldError (List α))
  | pose2 a, pose2 b => some (Manifold.localCoordinates a b)
  | pose3 a, pose3 b => some (Manifold.localCoordinates a b)
  | point3 a, point3 b => some (Manifold.localCoordinates a b)
  | vector a, vector b => some (Manifold.localCoordinates a b)
  | calibration a, calibration b => some (Manifold.localCoordinates a b)
  | camera a, camera b => some (Manifold.localCoordinates a b)
  | _, _ => none

def localJacobian? : Value α → Value α → Option (Except ManifoldError (Block α))
  | pose2 a, pose2 b => some (Manifold.localJacobian a b)
  | pose3 a, pose3 b => some (Manifold.localJacobian a b)
  | point3 a, point3 b => some (Manifold.localJacobian a b)
  | vector a, vector b => some (Manifold.localJacobian a b)
  | calibration a, calibration b => some (Manifold.localJacobian a b)
  | camera a, camera b => some (Manifold.localJacobian a b)
  | _, _ => none

end Value

class Variable (α : outParam Type) (M : Type) extends Manifold α M where
  type : VariableType
  toValue : M → Value α
  ofValue? : Value α → Option M

namespace Variable

variable {α : Type} [Scalar α]

instance : Variable α (Pose2 α) where
  type := .pose2
  toValue := .pose2
  ofValue? | .pose2 x => some x | _ => none

instance : Variable α (Pose3 α) where
  type := .pose3
  toValue := .pose3
  ofValue? | .pose3 x => some x | _ => none

instance : Variable α (Vec3 α) where
  type := .point3
  toValue := .point3
  ofValue? | .point3 x => some x | _ => none

instance : Variable α (List α) where
  type := .vector
  toValue := .vector
  ofValue? | .vector x => some x | _ => none

instance : Variable α (Calibration α) where
  type := .calibration
  toValue := .calibration
  ofValue? | .calibration x => some x | _ => none

instance : Variable α (Camera α) where
  type := .camera
  toValue := .camera
  ofValue? | .camera x => some x | _ => none

end Variable

end FactorGraph
