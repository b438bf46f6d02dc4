import FactorGraph.Lie.Basic
import FactorGraph.Lie.Quaternion

set_option autoImplicit false

namespace FactorGraph

structure Rotation (α : Type) where
  quat : Quat α

namespace Rotation

variable {α : Type} [Scalar α]

instance : BEq (Rotation α) := ⟨fun a b => a.quat.sameRotation b.quat⟩

def ofCoefficients (x y z w : α) : Rotation α := ⟨Quat.normalize ⟨w, x, y, z⟩⟩

def ofEuler (roll pitch yaw : α) : Rotation α := ⟨.ofEuler roll pitch yaw⟩

def ofScaledAxis (a : Vec3 α) : Rotation α := ⟨.ofScaledAxis a⟩

def ofMatrix (m : Mat3 α) : Rotation α := ⟨.ofMatrix m⟩

def toMatrix (r : Rotation α) : Mat3 α := r.quat.toMatrix

def act (r : Rotation α) (v : Vec3 α) : Vec3 α := r.quat.rotate v

def angle (r : Rotation α) : α := r.quat.angle

def identity : Rotation α := ⟨1⟩

def inverse (r : Rotation α) : Rotation α := ⟨r.quat.conjugate⟩

def compose (a b : Rotation α) : Rotation α := ⟨a.quat * b.quat⟩

def log (r : Rotation α) : Vec3 α := r.quat.scaledAxis

def exp (t : Vec3 α) : Rotation α :=
  if Scalar.epsilon < t.normSquared then ofScaledAxis t
  else ⟨Quat.normalize ⟨1, t.x / 2.0, t.y / 2.0, t.z / 2.0⟩⟩

-- Below this squared angle the closed forms give way to their series.
def smallAngleSquared : α := 1e-10

def closedCoefficients (squared : α) : α × α :=
  let angle := Scalar.sqrt squared
  ((1 - Scalar.cos angle) / squared, (angle - Scalar.sin angle) / (squared * angle))

def jacobianCoefficients (squared : α) : α × α :=
  if squared < smallAngleSquared then (0.5 - squared / 24.0, 1 / 6.0 - squared / 120.0)
  else closedCoefficients squared

def leftJacobian (t : Vec3 α) : Mat3 α :=
  let w := Mat3.skew t
  let (a, b) := jacobianCoefficients t.normSquared
  1 + a * w + b * w * w

def closedInverseCoefficient (squared : α) : α :=
  let angle := Scalar.sqrt squared
  1 / squared - (1 + Scalar.cos angle) / (2.0 * angle * Scalar.sin angle)

def inverseCoefficient (squared : α) : α :=
  if squared < smallAngleSquared then 1 / 12.0 + squared / 720.0
  else closedInverseCoefficient squared

def leftJacobianInverse (t : Vec3 α) : Mat3 α :=
  let w := Mat3.skew t
  let c := inverseCoefficient t.normSquared
  1 - (0.5 : α) * w + c * w * w

instance : LieGroup α (Rotation α) (Vec3 α) (Mat3 α) where
  one := identity
  mul := compose
  inv := inverse
  dimension := 3
  log := log
  exp := exp
  adjoint := toMatrix
  leftJacobian := leftJacobian
  rightJacobian t := (leftJacobian t).transpose
  leftJacobianInverse := leftJacobianInverse
  rightJacobianInverse t := (leftJacobianInverse t).transpose
  negate m := -m
  multiply a b := a * b
  toBlock := Mat3.toBlock
  coordinates := Vec3.toList
  ofCoordinates? := Vec3.ofList?

end Rotation

end FactorGraph
