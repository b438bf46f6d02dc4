import FactorGraph.Linear.Places

set_option autoImplicit false

namespace FactorGraph.Cholesky

structure Column (α : Type) where
  root : α
  below : List (Option α)

variable {α : Type} [Scalar α]

def lessColumn (below : List (Option α)) (row : List (Option α)) : Option α → List (Option α)
  | none => row
  | some l => List.zipWith (Places.lessMultiple l) row below

def remainder (below : List (Option α)) (rows : List (List (Option α))) :
    List (List (Option α)) :=
  List.zipWith (lessColumn below) (rows.map List.tail) below

-- Only the lower half is read. A place where nothing is stored takes no part in any product.
def factor : (size : Nat) → List (List (Option α)) → Option (List (Column α))
  | 0, _ => some []
  | size + 1, (some pivot :: _) :: rows =>
      if 0 < pivot then
        let root := Scalar.sqrt pivot
        let below := rows.map fun row => (row.headD none).map (· / root)
        (factor size (remainder below rows)).map (⟨root, below⟩ :: ·)
      else none
  | _, _ => none

def lower (y : α) (column : Column α) (bs : List α) : List α :=
  List.zipWith (fun b l => (l.map fun l => b - l * y).getD b) bs column.below

def solve : List (Column α) → List α → List α
  | column :: columns, b :: bs =>
      let y := b / column.root
      let xs := solve columns (lower y column bs)
      (y - Places.dot column.below xs) / column.root :: xs
  | _, _ => []

end FactorGraph.Cholesky
