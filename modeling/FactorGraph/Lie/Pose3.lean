import FactorGraph.Lie.Rotation

set_option autoImplicit false

namespace FactorGraph

structure Pose3 (α : Type) where
  rotation : Rotation α
  position : Vec3 α

structure Twist3 (α : Type) where
  rho : Vec3 α
  theta : Vec3 α

variable {α : Type} [Scalar α]

namespace Twist3

instance : Neg (Twist3 α) := ⟨fun t => ⟨-t.rho, -t.theta⟩⟩

def toList (t : Twist3 α) : List α := t.rho.toList ++ t.theta.toList

def ofList? : List α → Option (Twist3 α)
  | [a, b, c, d, e, f] => some ⟨⟨a, b, c⟩, ⟨d, e, f⟩⟩
  | _ => none

def closedCouplingCoefficients (squared : α) : α × α × α :=
  let angle := Scalar.sqrt squared
  let s := Scalar.sin angle
  let c := Scalar.cos angle
  let fourth := squared * squared
  ((angle - s) / (squared * angle),
   (squared + 2.0 * c - 2.0) / (2.0 * fourth),
   (2.0 * angle - 3.0 * s + angle * c) / (2.0 * fourth * angle))

def couplingCoefficients (squared : α) : α × α × α :=
  if squared < 1e-4 then
    (1 / 6.0 - squared / 120.0, 1 / 24.0 - squared / 720.0, 1 / 120.0 - squared / 2520.0)
  else closedCouplingCoefficients squared

-- The upper right block of the left Jacobian: with `R` and `T` the skew matrices of the two parts,
-- `½ R + b (T R + R T + T R T) + c (T T R + R T T - 3 T R T) + d (T R T T + T T R T)`.
def couplingBlock (rho theta : Vec3 α) : Mat3 α :=
  let r := Mat3.skew rho
  let t := Mat3.skew theta
  let (b, c, d) := couplingCoefficients theta.normSquared
  let tr := t * r
  let rt := r * t
  let trt := tr * t
  let ttr := t * tr
  let rtt := rt * t
  (0.5 : α) * r + b * (tr + rt + trt) + c * (ttr + rtt - (3.0 : α) * trt)
    + d * (trt * t + t * trt)

def leftJacobian (t : Twist3 α) : Mat6 α :=
  let j := Rotation.leftJacobian t.theta
  ⟨j, couplingBlock t.rho t.theta, 0, j⟩

def leftJacobianInverse (t : Twist3 α) : Mat6 α :=
  let j := Rotation.leftJacobianInverse t.theta
  ⟨j, -j * couplingBlock t.rho t.theta * j, 0, j⟩

end Twist3

namespace Pose3

instance : BEq (Pose3 α) :=
  ⟨fun a b => a.rotation == b.rotation && a.position == b.position⟩

def ofEuler (position : Vec3 α) (roll pitch yaw : α) : Pose3 α :=
  ⟨.ofEuler roll pitch yaw, position⟩

def identity : Pose3 α := ⟨.identity, 0⟩

def inverse (p : Pose3 α) : Pose3 α :=
  ⟨p.rotation.inverse, -p.rotation.inverse.act p.position⟩

def compose (a b : Pose3 α) : Pose3 α :=
  ⟨a.rotation.compose b.rotation, a.rotation.act b.position + a.position⟩

def transformFrom (p : Pose3 α) (v : Vec3 α) : Vec3 α := p.rotation.act v + p.position

def transformTo (p : Pose3 α) (v : Vec3 α) : Vec3 α :=
  p.rotation.inverse.act (v - p.position)

def toRows (p : Pose3 α) : List (List α) :=
  let r := p.rotation.toMatrix
  let t := p.position
  [r.r0.toList ++ [t.x], r.r1.toList ++ [t.y], r.r2.toList ++ [t.z], [0, 0, 0, 1]]

def log (p : Pose3 α) : Twist3 α :=
  let theta := p.rotation.log
  ⟨Rotation.leftJacobianInverse theta * p.position, theta⟩

def exp (t : Twist3 α) : Pose3 α :=
  ⟨Rotation.exp t.theta, Rotation.leftJacobian t.theta * t.rho⟩

def adjoint (p : Pose3 α) : Mat6 α :=
  let r := p.rotation.toMatrix
  ⟨r, Mat3.skew p.position * r, 0, r⟩

instance : LieGroup α (Pose3 α) (Twist3 α) (Mat6 α) where
  one := identity
  mul := compose
  inv := inverse
  dimension := 6
  log := log
  exp := exp
  adjoint := adjoint
  leftJacobian := Twist3.leftJacobian
  rightJacobian t := Twist3.leftJacobian (-t)
  leftJacobianInverse := Twist3.leftJacobianInverse
  rightJacobianInverse t := Twist3.leftJacobianInverse (-t)
  negate m := -m
  multiply a b := a * b
  toBlock := Mat6.toBlock
  coordinates := Twist3.toList
  ofCoordinates? := Twist3.ofList?

end Pose3

end FactorGraph
