import FactorGraph.Block
import FactorGraph.Linear.Places

set_option autoImplicit false

namespace FactorGraph.Reflection

-- A reflection along the vector `normal`, with the factor `2 / ‖normal‖²`. At strength zero it leaves
-- what is finite where it is, and what is infinite gets lost in all the rows of the reflection.
structure Mirror (α : Type) where
  normal : List (Option α)
  strength : α

structure Step (α : Type) where
  mirror : Mirror α
  diagonal : α
  right : List (Option α)

variable {α : Type} [Scalar α]

def mirrorOf : List (Option α) → Mirror α × α
  | [] => (⟨[], 0⟩, 0)
  | first :: rest =>
      -- What is below full precision counts as zero, in the first entry as well as in the others.
      let first := first.getD 0
      let head := if Scalar.abs first < Scalar.leastNormal then 0 else first
      let tail := Places.held rest
      if Block.norm tail < Scalar.leastNormal then (⟨some 1 :: rest, 0⟩, head)
      else
        let m := Block.largest (head :: tail)
        let scaled := (head :: tail).map (· / m)
        let length := Scalar.sqrt (Block.dot scaled scaled)
        let image := if head < 0 then length else -length
        let normal := some (head / m - image) :: rest.map fun a => a.map (· / m)
        (⟨normal, 2.0 / Block.dot (Places.held normal) (Places.held normal)⟩, image * m)

def reflect (mirror : Mirror α) (v : List α) : List α :=
  let s := mirror.strength * Places.dot mirror.normal v
  List.zipWith (fun a n => (n.map fun n => a - s * n).getD a) v mirror.normal

def reflectRows (mirror : Mirror α) (rows : List (List (Option α))) : List (List (Option α)) :=
  let sum := Places.weightedSum (rows.headD []).length mirror.normal rows
  let reflectRow (row : List (Option α)) : Option α → List (Option α)
    | none => row
    | some n => List.zipWith (Places.lessMultiple (mirror.strength * n)) row sum
  List.zipWith reflectRow rows mirror.normal

def factor : (size : Nat) → List (List (Option α)) → List (Step α)
  | size + 1, row :: rows =>
      let (mirror, diagonal) := mirrorOf ((row :: rows).map (·.headD none))
      let reflected := reflectRows mirror ((row :: rows).map List.tail)
      ⟨mirror, diagonal, reflected.headD []⟩ :: factor size reflected.tail
  | _, _ => []

def solve : List (Step α) → List α → List α
  | [], _ => []
  | step :: steps, b =>
      let reflected := reflect step.mirror b
      let xs := solve steps reflected.tail
      (reflected.headD 0 - Places.dot step.right xs) / step.diagonal :: xs

end FactorGraph.Reflection
