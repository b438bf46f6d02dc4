import Mathlib

set_option autoImplicit false

namespace FactorGraph

variable {G : Type} [One G] [Mul G] [Inv G]

-- The elements with `Unit` are closed under the operations and make up a group.
structure GroupOn (Unit : G → Prop) : Prop where
  unit_one : Unit 1
  unit_mul : ∀ a b, Unit a → Unit b → Unit (a * b)
  unit_inv : ∀ a, Unit a → Unit a⁻¹
  one_mul : ∀ a, Unit a → 1 * a = a
  mul_assoc : ∀ a b c, Unit a → Unit b → Unit c → a * b * c = a * (b * c)
  inv_mul : ∀ a, Unit a → a⁻¹ * a = 1

namespace GroupOn

variable {Unit : G → Prop} (laws : GroupOn Unit)

@[reducible] def group : Group { a // Unit a } :=
  let _ : Mul { a // Unit a } := ⟨fun a b => ⟨a.val * b.val, laws.unit_mul _ _ a.property b.property⟩⟩
  let _ : One { a // Unit a } := ⟨⟨1, laws.unit_one⟩⟩
  let _ : Inv { a // Unit a } := ⟨fun a => ⟨a.val⁻¹, laws.unit_inv _ a.property⟩⟩
  .ofLeftAxioms (fun a b c => Subtype.ext (laws.mul_assoc _ _ _ a.property b.property c.property))
    (fun a => Subtype.ext (laws.one_mul _ a.property)) (fun a => Subtype.ext (laws.inv_mul _ a.property))

include laws

theorem mul_one (a : G) (unit : Unit a) : a * 1 = a :=
  let _ := laws.group
  congrArg Subtype.val (by group : (⟨a, unit⟩ : { a // Unit a }) * 1 = ⟨a, unit⟩)

theorem mul_inv (a : G) (unit : Unit a) : a * a⁻¹ = 1 :=
  let _ := laws.group
  congrArg Subtype.val (by group : (⟨a, unit⟩ : { a // Unit a }) * ⟨a, unit⟩⁻¹ = 1)

theorem inv_one : (1 : G)⁻¹ = 1 :=
  let _ := laws.group
  congrArg Subtype.val (by group : (1 : { a // Unit a })⁻¹ = 1)

theorem frame_one (r : G) (unit : Unit r) : r⁻¹ * (1 * r) = 1 :=
  let _ := laws.group
  congrArg Subtype.val (by group : (⟨r, unit⟩ : { a // Unit a })⁻¹ * (1 * ⟨r, unit⟩) = 1)

section Relative

variable (a b : G) (first : Unit a) (second : Unit b)

include first second

theorem inv_mul_mul : a⁻¹ * (a * b) = b :=
  let _ := laws.group
  congrArg Subtype.val
    (by group : (⟨a, first⟩ : { a // Unit a })⁻¹ * (⟨a, first⟩ * ⟨b, second⟩) = ⟨b, second⟩)

theorem mul_inv_mul : a * (a⁻¹ * b) = b :=
  let _ := laws.group
  congrArg Subtype.val
    (by group : (⟨a, first⟩ : { a // Unit a }) * (⟨a, first⟩⁻¹ * ⟨b, second⟩) = ⟨b, second⟩)

end Relative

section Measurement

variable (z a b k : G) (measured : Unit z) (first : Unit a) (second : Unit b) (moved : Unit k)

include measured first second moved

theorem between_second : z⁻¹ * (a⁻¹ * (b * k)) = z⁻¹ * (a⁻¹ * b) * k :=
  let _ := laws.group
  congrArg Subtype.val
    (by group : (⟨z, measured⟩ : { a // Unit a })⁻¹ * (⟨a, first⟩⁻¹ * (⟨b, second⟩ * ⟨k, moved⟩)) =
      ⟨z, measured⟩⁻¹ * (⟨a, first⟩⁻¹ * ⟨b, second⟩) * ⟨k, moved⟩)

theorem between_first :
    z⁻¹ * ((a * k)⁻¹ * b) = z⁻¹ * (a⁻¹ * b) * ((a⁻¹ * b)⁻¹ * (k⁻¹ * (a⁻¹ * b))) :=
  let _ := laws.group
  congrArg Subtype.val
    (by group : (⟨z, measured⟩ : { a // Unit a })⁻¹ * ((⟨a, first⟩ * ⟨k, moved⟩)⁻¹ * ⟨b, second⟩) =
      ⟨z, measured⟩⁻¹ * (⟨a, first⟩⁻¹ * ⟨b, second⟩) *
        ((⟨a, first⟩⁻¹ * ⟨b, second⟩)⁻¹ * (⟨k, moved⟩⁻¹ * (⟨a, first⟩⁻¹ * ⟨b, second⟩))))

end Measurement

end GroupOn

end FactorGraph
