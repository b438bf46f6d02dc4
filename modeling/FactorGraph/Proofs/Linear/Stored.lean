import FactorGraph.Proofs.Linear.History
import FactorGraph.Proofs.Linear.RowOrder

set_option autoImplicit false

namespace FactorGraph

theorem SortedMap.filter_entries {ν : Type} (m : SortedMap Nat ν) (j : Nat) :
    (m.entries.filter (·.1 = j)).map (·.2) = (m.get? j).toList := by
  obtain ⟨es, sorted⟩ := m
  change _ = (findEntry j es).toList
  induction es with
  | nil => rfl
  | cons e rest ih =>
      obtain ⟨k, v⟩ := e
      rw [List.map_cons, List.pairwise_cons] at sorted
      have absent (before : j ≤ k) : rest.filter (·.1 = j) = [] := by
        refine List.filter_eq_nil_iff.mpr fun e mem => ?_
        have after : k < e.1 := sorted.1 e.1 (List.mem_map_of_mem mem)
        simp only [decide_eq_true_eq]
        omega
      rw [findEntry]
      rcases Nat.lt_trichotomy j k with less | rfl | more
      · rw [if_pos less, List.filter_cons_of_neg (by simp [Nat.ne_of_gt less]), absent (Nat.le_of_lt less)]
        rfl
      · rw [if_neg (Nat.lt_irrefl j), if_neg (Nat.lt_irrefl j), List.filter_cons_of_pos (by simp), absent (Nat.le_refl j)]
        rfl
      · rw [if_neg (Nat.lt_asymm more), if_pos more, List.filter_cons_of_neg (by simp [Nat.ne_of_lt more]), ih sorted.2]

variable {α : Type} [Scalar α]

namespace SparseMatrix

omit [Scalar α] in
def place (m : SparseMatrix α) (i j : Nat) : Option α := m.rows[i]?.bind (·.get? j)

def added (sum : Option α) (a : α) : Option α := some ((sum.map (· + a)).getD a)

def productAt (i j : Nat) (row : SortedMap Nat α) : List α :=
  match row.get? i, row.get? j with
  | some a, some b => [a * b]
  | _, _ => []

theorem get_foldl_accumulate (entries : List (Nat × α)) (row : SortedMap Nat α) (j : Nat) :
    (entries.foldl (fun acc e => accumulate acc e.1 e.2) row).get? j =
      ((entries.filter (·.1 = j)).map (·.2)).foldl added (row.get? j) := by
  induction entries generalizing row with
  | nil => rfl
  | cons e rest ih =>
      rw [List.foldl_cons, ih, get_accumulate]
      by_cases here : e.1 = j
      · rw [List.filter_cons_of_pos (by simpa using here), if_pos here.symm, here]
        rfl
      · rw [List.filter_cons_of_neg (by simpa using here), if_neg (Ne.symm here)]

theorem filter_products (i j : Nat) (row : SortedMap Nat α) :
    ((products i row).filter (·.1 = j)).map (·.2) = productAt i j row := by
  unfold products productAt
  cases row.get? i with
  | none => rfl
  | some a =>
      have filtered : (row.entries.map fun e => (e.1, a * e.2)).filter (·.1 = j) =
          (row.entries.filter (·.1 = j)).map fun e => (e.1, a * e.2) := List.filter_map
      have scaled : ((row.entries.filter (·.1 = j)).map fun e => (e.1, a * e.2)).map (·.2) =
          ((row.entries.filter (·.1 = j)).map (·.2)).map (a * ·) := by
        rw [List.map_map, List.map_map]
        rfl
      dsimp only
      rw [filtered, scaled, row.filter_entries]
      cases row.get? j <;> rfl

theorem place_gram (m : SparseMatrix α) (i j : Nat) (inside : i < m.cols) :
    m.gram.place i j = (m.rows.flatMap (productAt i j)).foldl added none := by
  rw [place, gram_rows, List.getElem?_map, List.getElem?_range inside]
  change (rowOfEntries _).get? j = _
  rw [rowOfEntries, get_foldl_accumulate, List.filter_flatMap, List.map_flatMap]
  simp only [filter_products]
  rfl

theorem place_add_diagonal (m : SparseMatrix α) (damping : α) (i j : Nat) (inside : i < m.height) :
    (m.addDiagonal damping).place i j = if j = i then added (m.place i j) damping else m.place i j := by
  have row : m.rows[i]? = some (m.rows.get ⟨i, inside⟩) := List.getElem?_eq_getElem inside
  simp only [place, addDiagonal, List.getElem?_mapIdx, row, Option.map_some, Option.bind_some, get_accumulate]
  split
  · rename_i same
    rw [same]
    rfl
  · rfl

omit [Scalar α] in
theorem open_rows_eq (m : SparseMatrix α) :
    m.openRows = (List.range m.height).map fun i => (List.range m.cols).map (m.place i) := by
  refine List.ext_getElem (by simp [openRows, height]) fun i bound _ => ?_
  have inside : i < m.rows.length := by simpa [openRows] using bound
  simp only [openRows, List.getElem_map, List.getElem_range]
  exact List.map_congr_left fun j _ => by simp [place, inside]

end SparseMatrix

namespace Demand

open SparseMatrix

variable (demand : Demand α)

def summands (i j : Nat) : List α :=
  demand.jacobian.rows.flatMap (productAt i j) ++ if j = i then demand.damping.toList else []

theorem matrix_square : demand.matrix.height = demand.jacobian.cols ∧ demand.matrix.cols = demand.jacobian.cols :=
  Solver.damped_square demand.jacobian demand.damping

theorem place_matrix (i j : Nat) (inside : i < demand.jacobian.cols) :
    demand.matrix.place i j = (demand.summands i j).foldl added none := by
  have gram := place_gram demand.jacobian i j inside
  unfold matrix summands
  cases demand.damping with
  | none => simpa [Solver.damped] using gram
  | some damping =>
      rw [Solver.damped, place_add_diagonal _ _ _ _ (demand.jacobian.gram_height.symm ▸ inside), gram, List.foldl_append]
      split <;> rfl

theorem open_rows_matrix : demand.matrix.openRows =
    (List.range demand.jacobian.cols).map fun i => (List.range demand.jacobian.cols).map (demand.matrix.place i) := by
  obtain ⟨height, cols⟩ := demand.matrix_square
  rw [open_rows_eq, height, cols]

theorem open_rows_square : demand.matrix.openRows.length = demand.jacobian.cols ∧
    ∀ row ∈ demand.matrix.openRows, row.length = demand.jacobian.cols := by
  rw [open_rows_matrix]
  refine ⟨by simp, fun row mem => ?_⟩
  obtain ⟨i, _, rfl⟩ := List.mem_map.mp mem
  simp

theorem pattern_size : demand.matrix.pattern.length = demand.jacobian.cols :=
  demand.matrix.pattern_length.trans demand.matrix_square.1

end Demand

end FactorGraph
