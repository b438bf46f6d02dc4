import FactorGraph.Document

set_option autoImplicit false

namespace FactorGraph

class Writable (β : Type) where
  write : β → Document Float

namespace Writable

variable {β γ : Type}

instance : Writable (Document Float) := ⟨id⟩
instance : Writable Float := ⟨.number⟩
instance : Writable Nat := ⟨.count⟩
instance : Writable Bool := ⟨.truth⟩
instance : Writable String := ⟨.text⟩

instance [Writable β] : Writable (List β) := ⟨fun items => .list (items.map write)⟩

instance [Writable β] [Writable γ] : Writable (β × γ) :=
  ⟨fun pair => .list [write pair.1, write pair.2]⟩

instance [Writable β] : Writable (Option β) where
  write | none => .null | some b => write b

end Writable

end FactorGraph
