set_option autoImplicit false

namespace FactorGraph

inductive Document (ν : Type) where
  | null
  | truth (b : Bool)
  | count (n : Nat)
  | number (x : ν)
  | text (s : String)
  | list (items : List (Document ν))
  | record (fields : List (String × Document ν))

namespace Document

variable {ν μ : Type}

instance : Inhabited (Document ν) := ⟨null⟩

mutual

def map (f : ν → μ) : Document ν → Document μ
  | null => null
  | truth b => truth b
  | count n => count n
  | number x => number (f x)
  | text s => text s
  | list items => list (mapItems f items)
  | record fields => record (mapFields f fields)

def mapItems (f : ν → μ) : List (Document ν) → List (Document μ)
  | [] => []
  | item :: rest => map f item :: mapItems f rest

def mapFields (f : ν → μ) : List (String × Document ν) → List (String × Document μ)
  | [] => []
  | (name, item) :: rest => (name, map f item) :: mapFields f rest

end

mutual

def depth : Document ν → Nat
  | list items => depthOfItems items + 1
  | record fields => depthOfFields fields + 1
  | _ => 0

def depthOfItems : List (Document ν) → Nat
  | [] => 0
  | item :: rest => Nat.max (depth item) (depthOfItems rest)

def depthOfFields : List (String × Document ν) → Nat
  | [] => 0
  | (_, item) :: rest => Nat.max (depth item) (depthOfFields rest)

end

def field? (name : String) : Document ν → Option (Document ν)
  | record fields => (fields.find? (·.1 == name)).map (·.2)
  | _ => none

def stated? (name : String) (document : Document ν) : Option (Document ν) :=
  match document.field? name with
  | some null => none
  | field => field

def choose {β : Type} (document : Document ν) :
    (alternatives : List (String × (Document ν → Option β))) → Option β
  | [] => none
  | (name, read) :: rest =>
      match document.field? name with
      | some part => read part
      | none => document.choose rest

end Document

end FactorGraph
