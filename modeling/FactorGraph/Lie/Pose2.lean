import FactorGraph.Lie.Basic

set_option autoImplicit false

namespace FactorGraph

structure Turn (α : Type) where
  cos : α
  sin : α
deriving BEq

structure Pose2 (α : Type) where
  position : Vec2 α
  turn : Turn α
deriving BEq

structure Twist2 (α : Type) where
  x : α
  y : α
  theta : α

variable {α : Type} [Scalar α]

namespace Turn

def ofAngle (theta : α) : Turn α := ⟨Scalar.cos theta, Scalar.sin theta⟩

def angle (r : Turn α) : α := Scalar.atan2 r.sin r.cos

def inverse (r : Turn α) : Turn α := ⟨r.cos, -r.sin⟩

def compose (a b : Turn α) : Turn α :=
  ⟨a.cos * b.cos - a.sin * b.sin, a.cos * b.sin + a.sin * b.cos⟩

def act (r : Turn α) (v : Vec2 α) : Vec2 α :=
  ⟨r.cos * v.x - r.sin * v.y, r.sin * v.x + r.cos * v.y⟩

def toMatrix (r : Turn α) : Mat2 α := ⟨⟨r.cos, -r.sin⟩, ⟨r.sin, r.cos⟩⟩

end Turn

namespace Twist2

def toList (t : Twist2 α) : List α := [t.x, t.y, t.theta]

def ofList? : List α → Option (Twist2 α)
  | [x, y, theta] => some ⟨x, y, theta⟩
  | _ => none

-- Below this angle the closed forms give way to their series.
def smallAngle : α := 1e-4

def closedArcCoefficients (theta : α) : α × α :=
  (Scalar.sin theta / theta, (1 - Scalar.cos theta) / theta)

def arcCoefficients (theta : α) : α × α :=
  if Scalar.abs theta < smallAngle then
    (1 - theta * theta / 6.0, 0.5 * theta - theta * theta * theta / 24.0)
  else closedArcCoefficients theta

def closedRightColumn (t : Twist2 α) : Vec2 α :=
  let s := Scalar.sin t.theta
  let c := Scalar.cos t.theta
  let squared := t.theta * t.theta
  ⟨(t.theta * t.x - t.y + t.y * c - t.x * s) / squared,
   (t.x + t.theta * t.y - t.x * c - t.y * s) / squared⟩

def rightColumn (t : Twist2 α) : Vec2 α :=
  if Scalar.abs t.theta < smallAngle then
    ⟨-t.y / 2.0 + t.x * t.theta / 6.0, t.x / 2.0 + t.y * t.theta / 6.0⟩
  else closedRightColumn t

def closedLeftColumn (t : Twist2 α) : Vec2 α :=
  let s := Scalar.sin t.theta
  let c := Scalar.cos t.theta
  let squared := t.theta * t.theta
  ⟨(t.theta * t.x + t.y - t.y * c - t.x * s) / squared,
   (-t.x + t.theta * t.y + t.x * c - t.y * s) / squared⟩

def leftColumn (t : Twist2 α) : Vec2 α :=
  if Scalar.abs t.theta < smallAngle then
    ⟨t.y / 2.0 + t.x * t.theta / 6.0, -t.x / 2.0 + t.y * t.theta / 6.0⟩
  else closedLeftColumn t

def bordered (a : Mat2 α) (v : Vec2 α) : Mat3 α :=
  ⟨⟨a.r0.x, a.r0.y, v.x⟩, ⟨a.r1.x, a.r1.y, v.y⟩, ⟨0, 0, 1⟩⟩

def borderedInverse (a : Mat2 α) (v : Vec2 α) : Mat3 α :=
  let det := a.r0.x * a.r1.y - a.r0.y * a.r1.x
  let inverse : Mat2 α := (⟨⟨a.r1.y, -a.r0.y⟩, ⟨-a.r1.x, a.r0.x⟩⟩ : Mat2 α) / det
  bordered inverse (-(inverse * v))

def rightArc (theta : α) : Mat2 α :=
  let (a, b) := arcCoefficients theta
  ⟨⟨a, b⟩, ⟨-b, a⟩⟩

def leftArc (theta : α) : Mat2 α :=
  let (a, b) := arcCoefficients theta
  ⟨⟨a, -b⟩, ⟨b, a⟩⟩

end Twist2

namespace Pose2

def ofCoordinates (x y theta : α) : Pose2 α := ⟨⟨x, y⟩, .ofAngle theta⟩

def angle (p : Pose2 α) : α := p.turn.angle

def identity : Pose2 α := ⟨0, ⟨1, 0⟩⟩

def inverse (p : Pose2 α) : Pose2 α :=
  ⟨-p.turn.inverse.act p.position, p.turn.inverse⟩

def compose (a b : Pose2 α) : Pose2 α :=
  ⟨a.turn.act b.position + a.position, a.turn.compose b.turn⟩

def transformFrom (p : Pose2 α) (v : Vec2 α) : Vec2 α := p.turn.act v + p.position

def toMatrix (p : Pose2 α) : Mat3 α := Twist2.bordered p.turn.toMatrix p.position

def log (p : Pose2 α) : Twist2 α :=
  let theta := p.angle
  let (a, b) := Twist2.arcCoefficients theta
  let det := a * a + b * b
  let t := p.position
  ⟨(a * t.x + b * t.y) / det, (-b * t.x + a * t.y) / det, theta⟩

def exp (t : Twist2 α) : Pose2 α :=
  let (a, b) := Twist2.arcCoefficients t.theta
  ⟨⟨a * t.x - b * t.y, b * t.x + a * t.y⟩, .ofAngle t.theta⟩

def adjoint (p : Pose2 α) : Mat3 α :=
  let s := Scalar.sin p.angle
  let c := Scalar.cos p.angle
  ⟨⟨c, -s, p.position.y⟩, ⟨s, c, -p.position.x⟩, ⟨0, 0, 1⟩⟩

instance : LieGroup α (Pose2 α) (Twist2 α) (Mat3 α) where
  one := identity
  mul := compose
  inv := inverse
  dimension := 3
  log := log
  exp := exp
  adjoint := adjoint
  leftJacobian t := Twist2.bordered (Twist2.leftArc t.theta) t.leftColumn
  rightJacobian t := Twist2.bordered (Twist2.rightArc t.theta) t.rightColumn
  leftJacobianInverse t := Twist2.borderedInverse (Twist2.leftArc t.theta) t.leftColumn
  rightJacobianInverse t := Twist2.borderedInverse (Twist2.rightArc t.theta) t.rightColumn
  negate m := -m
  multiply a b := a * b
  toBlock := Mat3.toBlock
  coordinates := Twist2.toList
  ofCoordinates? := Twist2.ofList?

end Pose2

end FactorGraph
