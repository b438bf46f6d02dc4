import FactorGraph.Vec

set_option autoImplicit false

namespace FactorGraph

structure Mat2 (α : Type) where
  r0 : Vec2 α
  r1 : Vec2 α

structure Mat3 (α : Type) where
  r0 : Vec3 α
  r1 : Vec3 α
  r2 : Vec3 α

structure Mat23 (α : Type) where
  r0 : Vec3 α
  r1 : Vec3 α

structure Mat6 (α : Type) where
  topLeft : Mat3 α
  topRight : Mat3 α
  bottomLeft : Mat3 α
  bottomRight : Mat3 α

variable {α : Type} [Scalar α]

namespace Mat2

instance : HDiv (Mat2 α) α (Mat2 α) := ⟨fun m s => ⟨m.r0 / s, m.r1 / s⟩⟩
instance : HMul α (Mat2 α) (Mat2 α) := ⟨fun s m => ⟨s * m.r0, s * m.r1⟩⟩
instance : HMul (Mat2 α) (Vec2 α) (Vec2 α) := ⟨fun m v => ⟨m.r0.dot v, m.r1.dot v⟩⟩

def toRows (m : Mat2 α) : List (List α) := [m.r0.toList, m.r1.toList]

end Mat2

namespace Mat3

def ofColumns (c0 c1 c2 : Vec3 α) : Mat3 α :=
  ⟨⟨c0.x, c1.x, c2.x⟩, ⟨c0.y, c1.y, c2.y⟩, ⟨c0.z, c1.z, c2.z⟩⟩

def transpose (m : Mat3 α) : Mat3 α := ofColumns m.r0 m.r1 m.r2

def diagonal (x y z : α) : Mat3 α := ⟨⟨x, 0, 0⟩, ⟨0, y, 0⟩, ⟨0, 0, z⟩⟩

instance : Zero (Mat3 α) := ⟨⟨0, 0, 0⟩⟩
instance : One (Mat3 α) := ⟨diagonal 1 1 1⟩
instance : Add (Mat3 α) := ⟨fun a b => ⟨a.r0 + b.r0, a.r1 + b.r1, a.r2 + b.r2⟩⟩
instance : Sub (Mat3 α) := ⟨fun a b => ⟨a.r0 - b.r0, a.r1 - b.r1, a.r2 - b.r2⟩⟩
instance : Neg (Mat3 α) := ⟨fun a => ⟨-a.r0, -a.r1, -a.r2⟩⟩
instance : HMul α (Mat3 α) (Mat3 α) := ⟨fun s a => ⟨s * a.r0, s * a.r1, s * a.r2⟩⟩
instance : HMul (Mat3 α) (Vec3 α) (Vec3 α) :=
  ⟨fun m v => ⟨m.r0.dot v, m.r1.dot v, m.r2.dot v⟩⟩

def rowMul (v : Vec3 α) (m : Mat3 α) : Vec3 α := m.transpose * v

instance : Mul (Mat3 α) := ⟨fun a b => ⟨rowMul a.r0 b, rowMul a.r1 b, rowMul a.r2 b⟩⟩

def skew (v : Vec3 α) : Mat3 α := ⟨⟨0, -v.z, v.y⟩, ⟨v.z, 0, -v.x⟩, ⟨-v.y, v.x, 0⟩⟩

def map {β : Type} (f : α → β) (m : Mat3 α) : Mat3 β := ⟨m.r0.map f, m.r1.map f, m.r2.map f⟩

def toRows (m : Mat3 α) : List (List α) := [m.r0.toList, m.r1.toList, m.r2.toList]

end Mat3

namespace Mat23

instance : HMul α (Mat23 α) (Mat23 α) := ⟨fun s m => ⟨s * m.r0, s * m.r1⟩⟩
instance : HMul (Mat2 α) (Mat23 α) (Mat23 α) :=
  ⟨fun a b => ⟨a.r0.x * b.r0 + a.r0.y * b.r1, a.r1.x * b.r0 + a.r1.y * b.r1⟩⟩

def toRows (m : Mat23 α) : List (List α) := [m.r0.toList, m.r1.toList]

end Mat23

namespace Mat6

instance : Neg (Mat6 α) :=
  ⟨fun a => ⟨-a.topLeft, -a.topRight, -a.bottomLeft, -a.bottomRight⟩⟩

instance : Mul (Mat6 α) :=
  ⟨fun a b =>
    ⟨a.topLeft * b.topLeft + a.topRight * b.bottomLeft,
     a.topLeft * b.topRight + a.topRight * b.bottomRight,
     a.bottomLeft * b.topLeft + a.bottomRight * b.bottomLeft,
     a.bottomLeft * b.topRight + a.bottomRight * b.bottomRight⟩⟩

def toRows (m : Mat6 α) : List (List α) :=
  List.zipWith (· ++ ·) m.topLeft.toRows m.topRight.toRows
    ++ List.zipWith (· ++ ·) m.bottomLeft.toRows m.bottomRight.toRows

end Mat6

end FactorGraph
