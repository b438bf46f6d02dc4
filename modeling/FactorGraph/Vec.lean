import FactorGraph.Scalar

set_option autoImplicit false

namespace FactorGraph

structure Vec2 (α : Type) where
  x : α
  y : α
deriving BEq

structure Vec3 (α : Type) where
  x : α
  y : α
  z : α
deriving BEq

variable {α : Type} [Scalar α]

namespace Vec2

instance : Zero (Vec2 α) := ⟨⟨0, 0⟩⟩
instance : Add (Vec2 α) := ⟨fun a b => ⟨a.x + b.x, a.y + b.y⟩⟩
instance : Sub (Vec2 α) := ⟨fun a b => ⟨a.x - b.x, a.y - b.y⟩⟩
instance : Neg (Vec2 α) := ⟨fun a => ⟨-a.x, -a.y⟩⟩
instance : HMul α (Vec2 α) (Vec2 α) := ⟨fun s a => ⟨s * a.x, s * a.y⟩⟩
instance : HDiv (Vec2 α) α (Vec2 α) := ⟨fun a s => ⟨a.x / s, a.y / s⟩⟩

def dot (a b : Vec2 α) : α := a.x * b.x + a.y * b.y

def normSquared (a : Vec2 α) : α := a.dot a

def norm (a : Vec2 α) : α := Scalar.sqrt a.normSquared

def toList (a : Vec2 α) : List α := [a.x, a.y]

end Vec2

namespace Vec3

instance : Zero (Vec3 α) := ⟨⟨0, 0, 0⟩⟩
instance : Add (Vec3 α) := ⟨fun a b => ⟨a.x + b.x, a.y + b.y, a.z + b.z⟩⟩
instance : Sub (Vec3 α) := ⟨fun a b => ⟨a.x - b.x, a.y - b.y, a.z - b.z⟩⟩
instance : Neg (Vec3 α) := ⟨fun a => ⟨-a.x, -a.y, -a.z⟩⟩
instance : HMul α (Vec3 α) (Vec3 α) := ⟨fun s a => ⟨s * a.x, s * a.y, s * a.z⟩⟩
instance : HDiv (Vec3 α) α (Vec3 α) := ⟨fun a s => ⟨a.x / s, a.y / s, a.z / s⟩⟩

def dot (a b : Vec3 α) : α := a.x * b.x + a.y * b.y + a.z * b.z

def cross (a b : Vec3 α) : Vec3 α :=
  ⟨a.y * b.z - a.z * b.y, a.z * b.x - a.x * b.z, a.x * b.y - a.y * b.x⟩

def normSquared (a : Vec3 α) : α := a.dot a

def norm (a : Vec3 α) : α := Scalar.sqrt a.normSquared

def direction? (a : Vec3 α) (least : α) : Option (Vec3 α) :=
  let n := a.norm
  if n ≤ least then none else some (a / n)

def toList (a : Vec3 α) : List α := [a.x, a.y, a.z]

def ofList? : List α → Option (Vec3 α)
  | [x, y, z] => some ⟨x, y, z⟩
  | _ => none

def map {β : Type} (f : α → β) (a : Vec3 α) : Vec3 β := ⟨f a.x, f a.y, f a.z⟩

end Vec3

end FactorGraph
