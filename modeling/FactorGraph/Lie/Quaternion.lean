import FactorGraph.Mat

set_option autoImplicit false

namespace FactorGraph

structure Quat (α : Type) where
  w : α
  x : α
  y : α
  z : α

namespace Quat

variable {α : Type} [Scalar α]

instance : One (Quat α) := ⟨⟨1, 0, 0, 0⟩⟩
instance : Neg (Quat α) := ⟨fun q => ⟨-q.w, -q.x, -q.y, -q.z⟩⟩

instance : Mul (Quat α) :=
  ⟨fun p q =>
    ⟨p.w * q.w - p.x * q.x - p.y * q.y - p.z * q.z,
     p.w * q.x + p.x * q.w + p.y * q.z - p.z * q.y,
     p.w * q.y - p.x * q.z + p.y * q.w + p.z * q.x,
     p.w * q.z + p.x * q.y - p.y * q.x + p.z * q.w⟩⟩

def imaginary (q : Quat α) : Vec3 α := ⟨q.x, q.y, q.z⟩

def ofParts (w : α) (v : Vec3 α) : Quat α := ⟨w, v.x, v.y, v.z⟩

def conjugate (q : Quat α) : Quat α := ⟨q.w, -q.x, -q.y, -q.z⟩

def norm (q : Quat α) : α := Scalar.sqrt (q.x * q.x + q.y * q.y + q.z * q.z + q.w * q.w)

def normalize (q : Quat α) : Quat α :=
  let n := q.norm
  ⟨q.w / n, q.x / n, q.y / n, q.z / n⟩

def sameRotation (p q : Quat α) : Bool :=
  let same (p q : Quat α) : Bool := p.x == q.x && p.y == q.y && p.z == q.z && p.w == q.w
  same p q || same p (-q)

def rotate (q : Quat α) (v : Vec3 α) : Vec3 α :=
  let t := (2.0 : α) * q.imaginary.cross v
  q.w * t + q.imaginary.cross t + v

def toMatrix (q : Quat α) : Mat3 α :=
  let ww := q.w * q.w
  let xx := q.x * q.x
  let yy := q.y * q.y
  let zz := q.z * q.z
  let xy := q.x * q.y * 2.0
  let xz := q.x * q.z * 2.0
  let yz := q.y * q.z * 2.0
  let wx := q.w * q.x * 2.0
  let wy := q.w * q.y * 2.0
  let wz := q.w * q.z * 2.0
  ⟨⟨ww + xx - yy - zz, xy - wz, wy + xz⟩,
   ⟨wz + xy, ww - xx + yy - zz, yz - wx⟩,
   ⟨xz - wy, wx + yz, ww - xx - yy + zz⟩⟩

-- The quaternion of a rotation matrix. The component that is divided by is one that the matrix
-- makes large: the real one when the trace is positive, else that of the largest diagonal entry.
def ofMatrix (m : Mat3 α) : Quat α :=
  let trace := m.r0.x + m.r1.y + m.r2.z
  if 0 < trace then
    let d := Scalar.sqrt (trace + 1) * 2.0
    ⟨d / 4.0, (m.r2.y - m.r1.z) / d, (m.r0.z - m.r2.x) / d, (m.r1.x - m.r0.y) / d⟩
  else if m.r1.y < m.r0.x ∧ m.r2.z < m.r0.x then
    let d := Scalar.sqrt (1 + m.r0.x - m.r1.y - m.r2.z) * 2.0
    ⟨(m.r2.y - m.r1.z) / d, d / 4.0, (m.r0.y + m.r1.x) / d, (m.r0.z + m.r2.x) / d⟩
  else if m.r2.z < m.r1.y then
    let d := Scalar.sqrt (1 + m.r1.y - m.r0.x - m.r2.z) * 2.0
    ⟨(m.r0.z - m.r2.x) / d, (m.r0.y + m.r1.x) / d, d / 4.0, (m.r1.z + m.r2.y) / d⟩
  else
    let d := Scalar.sqrt (1 + m.r2.z - m.r0.x - m.r1.y) * 2.0
    ⟨(m.r1.x - m.r0.y) / d, (m.r0.z + m.r2.x) / d, (m.r1.z + m.r2.y) / d, d / 4.0⟩

def ofEuler (roll pitch yaw : α) : Quat α :=
  let sr := Scalar.sin (roll * 0.5)
  let cr := Scalar.cos (roll * 0.5)
  let sp := Scalar.sin (pitch * 0.5)
  let cp := Scalar.cos (pitch * 0.5)
  let sy := Scalar.sin (yaw * 0.5)
  let cy := Scalar.cos (yaw * 0.5)
  ⟨cr * cp * cy + sr * sp * sy, sr * cp * cy - cr * sp * sy,
   cr * sp * cy + sr * cp * sy, cr * cp * sy - sr * sp * cy⟩

-- The rotation about `a` by the length of `a`. Lengths up to `2 ε` give no rotation.
def ofScaledAxis (a : Vec3 α) : Quat α :=
  let half := a / (2.0 : α)
  let squared := half.normSquared
  if squared ≤ Scalar.epsilon * Scalar.epsilon then 1
  else
    let n := Scalar.sqrt squared
    ofParts (Scalar.cos n) ((Scalar.sin n / n) * half)

def angle (q : Quat α) : α := Scalar.atan2 q.imaginary.norm (Scalar.abs q.w) * 2.0

def scaledAxis (q : Quat α) : Vec3 α :=
  let v := if 0 ≤ q.w then q.imaginary else -q.imaginary
  if 0 < v.normSquared then q.angle * (v / v.norm) else 0

end Quat

end FactorGraph
