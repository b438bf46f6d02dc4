import Mathlib.Data.List.Nodup
import FactorGraph.Linear.Solver

set_option autoImplicit false

namespace FactorGraph

variable {α : Type} [Scalar α]

namespace SparseMatrix

def addDiagonal (m : SparseMatrix α) (damping : α) : SparseMatrix α where
  cols := m.cols
  rows := m.rows.mapIdx fun i row => accumulate row i damping

theorem gram_height (m : SparseMatrix α) : m.gram.height = m.cols := by
  simp [gram, height]

theorem of_triplets_ok_iff (height cols : Nat) (entries : List (Nat × Nat × α)) (m : SparseMatrix α) :
    ofTriplets? height cols entries = some m ↔
      (∀ e ∈ entries, e.1 < height ∧ e.2.1 < cols) ∧ ofEntries height cols entries = m := by
  rw [ofTriplets?, Option.ite_none_right_eq_some, Option.some.injEq]

theorem scaled_row (n i : Nat) (a : α) (inside : i < n) :
    rowOfEntries ((((List.range n).map fun k => (k, k, a)).filter (·.1 = i)).map (·.2)) = accumulate .empty i a := by
  have once : (List.range n).filter (fun k => decide (k = i)) = [i] := by
    rw [List.filter_eq, List.count_eq_one_of_mem List.nodup_range (List.mem_range.mpr inside)]
    rfl
  have here : ((List.range n).map fun k => (k, k, a)).filter (·.1 = i) = [(i, i, a)] := by
    rw [List.filter_map]
    exact congrArg (List.map fun k => (k, k, a)) once
  rw [here]
  rfl

theorem add_scaled (m : SparseMatrix α) (square : m.height = m.cols) (damping : α) :
    m.add (ofEntries m.cols m.cols ((List.range m.cols).map fun i => (i, i, damping))) = m.addDiagonal damping := by
  refine congrArg (SparseMatrix.mk m.cols) (List.ext_getElem ?_ fun i bound _ => ?_)
  · rw [List.length_zipWith, List.length_mapIdx, ofEntries, List.length_map, List.length_range, ← square]
    exact Nat.min_self m.rows.length
  · have inside : i < m.cols := by
      rw [List.length_zipWith] at bound
      exact square ▸ (Nat.lt_min.mp bound).1
    rw [List.getElem_zipWith, List.getElem_mapIdx]
    simp only [ofEntries, List.getElem_map, List.getElem_range, scaled_row m.cols i damping inside]
    rfl

end SparseMatrix

namespace Solver

def damped (hessian : SparseMatrix α) : Option α → SparseMatrix α
  | none => hessian
  | some damping => hessian.addDiagonal damping

theorem add_damping_eq (hessian : SparseMatrix α) (square : hessian.height = hessian.cols) (damping : α) :
    addDamping hessian damping = .ok (hessian.addDiagonal damping) := by
  have inside : ∀ e ∈ (List.range hessian.cols).map fun i => (i, i, damping), e.1 < hessian.cols ∧ e.2.1 < hessian.cols := by
    intro e mem
    obtain ⟨i, among, rfl⟩ := List.mem_map.mp mem
    exact ⟨List.mem_range.mp among, List.mem_range.mp among⟩
  simp only [addDamping, (SparseMatrix.of_triplets_ok_iff _ _ _ _).mpr ⟨inside, rfl⟩, hessian.add_scaled square]

theorem to_factor_gram (jacobian : SparseMatrix α) (damping : Option α) :
    toFactor jacobian.gram damping = .ok (damped jacobian.gram damping) := by
  cases damping with
  | none => rfl
  | some damping => exact add_damping_eq _ jacobian.gram_height damping

end Solver

end FactorGraph
