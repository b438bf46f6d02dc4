import FactorGraph.Proofs.Linear.RowOrder
import FactorGraph.Proofs.Linear.Triplets

set_option autoImplicit false

namespace FactorGraph

def Pattern.damped (cols : ℕ) (pattern : Pattern) : Pattern :=
  (List.range cols).map fun i => (List.range cols).filter fun j =>
    decide (i = j) || pattern.any fun row => row.contains i && row.contains j

namespace SparseMatrix

variable {α : Type} [Scalar α]

theorem mem_keys_accumulate (row : SortedMap Nat α) (col : Nat) (a : α) (column : Nat) :
    column ∈ (accumulate row col a).keys ↔ column = col ∨ column ∈ row.keys :=
  SortedMap.mem_keys_upsertEntry col _ row.entries column

theorem mem_keys_row_of_entries (entries : List (Nat × α)) (column : Nat) :
    column ∈ (rowOfEntries entries).keys ↔ column ∈ entries.map Prod.fst := by
  rw [rowOfEntries, SortedMap.mem_keys_foldl _ Prod.fst column fun row e => mem_keys_accumulate row e.1 e.2 column]
  simp [SortedMap.empty, SortedMap.keys]

variable (m : SparseMatrix α)

def Inside : Prop := ∀ row ∈ m.rows, ∀ column ∈ row.keys, column < m.cols

end SparseMatrix

end FactorGraph
