import FactorGraph.Scalar

set_option autoImplicit false

namespace FactorGraph

structure Dual (α : Type) where
  value : α
  slope : α

namespace Dual

variable {α : Type} [Scalar α]

def constant (a : α) : Dual α := ⟨a, 0⟩

def seed (a : α) : Dual α := ⟨a, 1⟩

instance : Scalar (Dual α) where
  zero := constant 0
  one := constant 1
  add a b := ⟨a.value + b.value, a.slope + b.slope⟩
  sub a b := ⟨a.value - b.value, a.slope - b.slope⟩
  mul a b := ⟨a.value * b.value, a.slope * b.value + a.value * b.slope⟩
  div a b :=
    -- The reciprocal is not squared, so that the divisor may be as large as a number can be.
    let inverse := 1 / b.value
    ⟨a.value * inverse, (a.slope * b.value - b.slope * a.value) * inverse * inverse⟩
  neg a := ⟨-a.value, -a.slope⟩
  lt a b := a.value < b.value
  le a b := a.value ≤ b.value
  beq a b := a.value == b.value
  natCast n := constant n
  ofScientific m s e := constant (OfScientific.ofScientific m s e)
  decidableLT a b := Scalar.decidableLT a.value b.value
  decidableLE a b := Scalar.decidableLE a.value b.value
  sqrt a :=
    let root := Scalar.sqrt a.value
    ⟨root, a.slope * (1 / a.value * root * 0.5)⟩
  sin a := ⟨Scalar.sin a.value, a.slope * Scalar.cos a.value⟩
  cos a := ⟨Scalar.cos a.value, -(a.slope * Scalar.sin a.value)⟩
  atan2 y x :=
    ⟨Scalar.atan2 y.value x.value,
      (y.slope * x.value - y.value * x.slope) / (x.value * x.value + y.value * y.value)⟩
  pi := constant Scalar.pi
  isFinite a := Scalar.isFinite a.value

end Dual

end FactorGraph
