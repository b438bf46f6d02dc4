import FactorGraph.Lie.Pose2
import FactorGraph.Lie.Pose3
import FactorGraph.Camera.Error

set_option autoImplicit false

namespace FactorGraph

structure ViewProjection (α : Type) where
  normalized : Vec2 α
  rho : Mat23 α
  theta : Mat23 α
  point : Mat23 α

structure ViewRange (α : Type) where
  range : α
  rho : Vec3 α
  point : Vec3 α

namespace View

variable {α : Type} [Scalar α]

-- A viewer looks along the third axis of its frame, with the first axis to the right and the second down.
def level (pose : Pose2 α) (height : α) : Pose3 α :=
  let s := Scalar.sin pose.angle
  let c := Scalar.cos pose.angle
  ⟨.ofMatrix (.ofColumns ⟨s, -c, 0⟩ ⟨0, 0, -1⟩ ⟨c, s, 0⟩),
   ⟨pose.position.x, pose.position.y, height⟩⟩

def lookAt (eye target up : Vec3 α) : Except (CameraError α) (Pose3 α) :=
  match (target - eye).direction? Scalar.epsilon with
  | none => .error (.degenerateFrame .eyeAtTarget)
  | some forward =>
      match ((-up).cross forward).direction? Scalar.epsilon with
      | none => .error (.degenerateFrame .upAlongView)
      | some right => .ok ⟨.ofMatrix (.ofColumns right (forward.cross right) forward), eye⟩

def divide (p : Vec3 α) : Except (Cheirality α) (Vec2 α) :=
  if p.z ≤ 0 then .error ⟨p.z⟩ else .ok ⟨p.x / p.z, p.y / p.z⟩

def multiply (p : Vec2 α) (depth : α) : Vec3 α := ⟨p.x * depth, p.y * depth, depth⟩

def rhoDerivative (p : Vec2 α) (d : α) : Mat23 α := ⟨⟨-d, 0, d * p.x⟩, ⟨0, -d, d * p.y⟩⟩

def thetaDerivative (p : Vec2 α) : Mat23 α :=
  ⟨⟨p.x * p.y, -1 - p.x * p.x, p.y⟩, ⟨1 + p.y * p.y, -(p.x * p.y), -p.x⟩⟩

def pointDerivative (p : Vec2 α) (d : α) (r : Mat3 α) : Mat23 α :=
  d * (⟨⟨r.r0.x - p.x * r.r0.z, r.r1.x - p.x * r.r1.z, r.r2.x - p.x * r.r2.z⟩,
        ⟨r.r0.y - p.y * r.r0.z, r.r1.y - p.y * r.r1.z, r.r2.y - p.y * r.r2.z⟩⟩ : Mat23 α)

def project (pose : Pose3 α) (point : Vec3 α) : Except (Cheirality α) (Vec2 α) :=
  divide (pose.transformTo point)

def projectDerivatives (pose : Pose3 α) (point : Vec3 α) :
    Except (Cheirality α) (ViewProjection α) := do
  let q := pose.transformTo point
  let p ← divide q
  let d := 1 / q.z
  return ⟨p, rhoDerivative p d, thetaDerivative p, pointDerivative p d pose.rotation.toMatrix⟩

def backproject (pose : Pose3 α) (p : Vec2 α) (depth : α) : Vec3 α :=
  pose.transformFrom (multiply p depth)

def range (pose : Pose3 α) (point : Vec3 α) : α := (point - pose.position).norm

def rangeDerivatives (pose : Pose3 α) (point : Vec3 α) : ViewRange α :=
  let r := range pose point
  let direction := (point - pose.position) / r
  ⟨r, -(pose.rotation.toMatrix.transpose * direction), direction⟩

end View

end FactorGraph
