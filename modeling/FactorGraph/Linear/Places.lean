import FactorGraph.Scalar

set_option autoImplicit false

namespace FactorGraph.Places

variable {α : Type}

def held (v : List (Option α)) : List α := v.filterMap id

variable [Scalar α]

def dot (v : List (Option α)) (w : List α) : α :=
  (v.zip w).foldl (fun sum e => (e.1.map fun a => sum + a * e.2).getD sum) 0

def addMultiple (scale : α) (a sum : Option α) : Option α :=
  match a with
  | none => sum
  | some a => some (scale * a + sum.getD 0)

-- The sum of the rows whose weight is there. A place of it is open if it is in all those rows.
def weightedSum (width : Nat) : List (Option α) → List (List (Option α)) → List (Option α)
  | w :: ws, row :: rows =>
      let sum := weightedSum width ws rows
      match w with
      | none => sum
      | some w => List.zipWith (addMultiple w) row sum
  | _, _ => List.replicate width none

-- An entry minus a multiple of another. It is filled in when the other is there.
def lessMultiple (scale : α) (a : Option α) : Option α → Option α
  | none => a
  | some b => some (a.getD 0 - scale * b)

end FactorGraph.Places
