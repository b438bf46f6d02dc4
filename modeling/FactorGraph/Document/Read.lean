import FactorGraph.Document

set_option autoImplicit false

namespace FactorGraph

class Readable (β : Type) where
  read? : Document Float → Option β

namespace Document

variable {β γ : Type}

def read? [Readable β] (document : Document Float) : Option β := Readable.read? document

def get? [Readable β] (document : Document Float) (name : String) : Option β := do
  (← document.field? name).read?

def optional? [Readable β] (document : Document Float) (name : String) : Option (Option β) :=
  match document.stated? name with
  | none => some none
  | some part => some <$> part.read?

def getOr [Readable β] (document : Document Float) (name : String) (default : β) : Option β :=
  return (← document.optional? name).getD default

def named (names : List (String × β)) : Document Float → Option β
  | text name => (names.find? (·.1 == name)).map (·.2)
  | _ => none

end Document

namespace Readable

variable {β γ : Type}

instance : Readable (Document Float) := ⟨some⟩

instance : Readable Float where
  read?
    | .count n => some (Float.ofNat n)
    | .number x => some x
    | d => d.named [("nan", 0.0 / 0.0), ("inf", 1.0 / 0.0), ("-inf", -1.0 / 0.0)]

instance : Readable Nat where
  read? | .count n => some n | _ => none

instance : Readable Bool where
  read? | .truth b => some b | _ => none

instance : Readable String where
  read? | .text s => some s | _ => none

instance [Readable β] : Readable (List β) where
  read? | .list items => items.mapM read? | _ => none

instance [Readable β] [Readable γ] : Readable (β × γ) where
  read?
    | .list [a, b] => do return (← a.read?, ← b.read?)
    | _ => none

end Readable

end FactorGraph
