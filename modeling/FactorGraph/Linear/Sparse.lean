import FactorGraph.Block
import FactorGraph.SortedMap

set_option autoImplicit false

namespace FactorGraph

structure SparseMatrix (α : Type) where
  cols : Nat
  rows : List (SortedMap Nat α)

namespace SparseMatrix

variable {α : Type}

def height (m : SparseMatrix α) : Nat := m.rows.length

def stored (m : SparseMatrix α) : Nat := (m.rows.flatMap SortedMap.keys).length

def pattern (m : SparseMatrix α) : List (List Nat) := m.rows.map SortedMap.keys

def openRows (m : SparseMatrix α) : List (List (Option α)) :=
  m.rows.map fun row => (List.range m.cols).map row.get?

variable [Scalar α]

def accumulate (row : SortedMap Nat α) (col : Nat) (a : α) : SortedMap Nat α :=
  row.upsert col fun
    | none => a
    | some b => b + a

def accumulateRow (row : SortedMap Nat α) (scale : α) (other : SortedMap Nat α) :
    SortedMap Nat α :=
  other.entries.foldl (fun acc e => accumulate acc e.1 (scale * e.2)) row

-- What is written twice to one place is added up, and a zero is stored where it is written.
def rowOfEntries (entries : List (Nat × α)) : SortedMap Nat α :=
  entries.foldl (fun acc e => accumulate acc e.1 e.2) .empty

def ofEntries (height cols : Nat) (entries : List (Nat × Nat × α)) : SparseMatrix α where
  cols := cols
  rows := (List.range height).map fun i =>
    rowOfEntries ((entries.filter (·.1 = i)).map (·.2))

def ofTriplets? (height cols : Nat) (entries : List (Nat × Nat × α)) : Option (SparseMatrix α) :=
  if ∀ e ∈ entries, e.1 < height ∧ e.2.1 < cols then some (ofEntries height cols entries) else none

def toDense (m : SparseMatrix α) : Block α where
  cols := m.cols
  rows := m.rows.map fun row => (List.range m.cols).map fun j => (row.get? j).getD 0
  length_of_mem row mem := by
    obtain ⟨_, _, rfl⟩ := List.mem_map.mp mem
    simp

def rowDot (row : SortedMap Nat α) (v : List α) : α :=
  row.entries.foldl (fun acc e => acc + e.2 * (v[e.1]?.getD 0)) 0

def mulVec (m : SparseMatrix α) (v : List α) : List α := m.rows.map (rowDot · v)

def transposeMulVec (m : SparseMatrix α) (v : List α) : List α :=
  (List.range m.cols).map fun j =>
    (m.rows.zip v).foldl
      (fun acc e =>
        match e.1.get? j with
        | none => acc
        | some a => acc + a * e.2)
      0

def gram (m : SparseMatrix α) : SparseMatrix α where
  cols := m.cols
  rows := (List.range m.cols).map fun i =>
    m.rows.foldl
      (fun acc row =>
        match row.get? i with
        | none => acc
        | some a => accumulateRow acc a row)
      .empty

def add (a b : SparseMatrix α) : SparseMatrix α where
  cols := a.cols
  rows := List.zipWith
    (fun row other => other.entries.foldl (fun acc e => accumulate acc e.1 e.2) row) a.rows b.rows

end SparseMatrix

end FactorGraph
