import Mathlib
import FactorGraph.Mat

set_option autoImplicit false

namespace FactorGraph

attribute [ext] Vec2 Vec3 Mat2 Mat3 Mat23 Mat6

variable {α : Type} [Scalar α]

namespace Vec2

@[simp] theorem zero_x : (0 : Vec2 α).x = 0 := rfl

@[simp] theorem zero_y : (0 : Vec2 α).y = 0 := rfl

theorem add_def (a b : Vec2 α) : a + b = ⟨a.x + b.x, a.y + b.y⟩ := rfl

theorem sub_def (a b : Vec2 α) : a - b = ⟨a.x - b.x, a.y - b.y⟩ := rfl

theorem neg_def (a : Vec2 α) : -a = ⟨-a.x, -a.y⟩ := rfl

theorem smul_def (s : α) (a : Vec2 α) : s * a = ⟨s * a.x, s * a.y⟩ := rfl

theorem div_def (a : Vec2 α) (s : α) : a / s = ⟨a.x / s, a.y / s⟩ := rfl

end Vec2

namespace Vec3

@[simp] theorem zero_x : (0 : Vec3 α).x = 0 := rfl

@[simp] theorem zero_y : (0 : Vec3 α).y = 0 := rfl

@[simp] theorem zero_z : (0 : Vec3 α).z = 0 := rfl

theorem add_def (a b : Vec3 α) : a + b = ⟨a.x + b.x, a.y + b.y, a.z + b.z⟩ := rfl

theorem sub_def (a b : Vec3 α) : a - b = ⟨a.x - b.x, a.y - b.y, a.z - b.z⟩ := rfl

theorem neg_def (a : Vec3 α) : -a = ⟨-a.x, -a.y, -a.z⟩ := rfl

theorem smul_def (s : α) (a : Vec3 α) : s * a = ⟨s * a.x, s * a.y, s * a.z⟩ := rfl

theorem div_def (a : Vec3 α) (s : α) : a / s = ⟨a.x / s, a.y / s, a.z / s⟩ := rfl

end Vec3

namespace Mat2

theorem smul_def (s : α) (m : Mat2 α) : s * m = ⟨s * m.r0, s * m.r1⟩ := rfl

theorem div_def (m : Mat2 α) (s : α) : m / s = ⟨m.r0 / s, m.r1 / s⟩ := rfl

theorem mul_vec_def (m : Mat2 α) (v : Vec2 α) : m * v = ⟨m.r0.dot v, m.r1.dot v⟩ := rfl

end Mat2

namespace Mat3

theorem zero_def : (0 : Mat3 α) = ⟨0, 0, 0⟩ := rfl

theorem one_def : (1 : Mat3 α) = ⟨⟨1, 0, 0⟩, ⟨0, 1, 0⟩, ⟨0, 0, 1⟩⟩ := rfl

theorem add_def (a b : Mat3 α) : a + b = ⟨a.r0 + b.r0, a.r1 + b.r1, a.r2 + b.r2⟩ := rfl

theorem sub_def (a b : Mat3 α) : a - b = ⟨a.r0 - b.r0, a.r1 - b.r1, a.r2 - b.r2⟩ := rfl

theorem neg_def (a : Mat3 α) : -a = ⟨-a.r0, -a.r1, -a.r2⟩ := rfl

theorem smul_def (s : α) (m : Mat3 α) : s * m = ⟨s * m.r0, s * m.r1, s * m.r2⟩ := rfl

theorem mul_vec_def (m : Mat3 α) (v : Vec3 α) : m * v = ⟨m.r0.dot v, m.r1.dot v, m.r2.dot v⟩ := rfl

theorem mul_def (a b : Mat3 α) : a * b = ⟨rowMul a.r0 b, rowMul a.r1 b, rowMul a.r2 b⟩ := rfl

end Mat3

namespace Mat23

theorem smul_def (s : α) (m : Mat23 α) : s * m = ⟨s * m.r0, s * m.r1⟩ := rfl

theorem mul_def (a : Mat2 α) (b : Mat23 α) :
    a * b = ⟨a.r0.x * b.r0 + a.r0.y * b.r1, a.r1.x * b.r0 + a.r1.y * b.r1⟩ := rfl

end Mat23

end FactorGraph
