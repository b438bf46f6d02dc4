import FactorGraph.Proofs.Graph.System
import FactorGraph.Proofs.Linear.RowOrder

set_option autoImplicit false

namespace FactorGraph

-- What a solver is given for a system: the residual `-b`, as a column, beside the Jacobian.
def LinearSystem.normalEquations {α : Type} [Scalar α] (system : LinearSystem α) : Option (SparseMatrix α × List α) :=
  SparseMatrix.normalEquations (Block.column (system.rhs.map (- ·))) system.jacobian

namespace LinearGraph

section Rows

variable {α : Type} [Scalar α]

def rowsOf (layout : Layout) (factor : LinearFactor α) : List (SortedMap Nat α × α) :=
  match factor.sparseRows layout with
  | .ok rows => rows.zip factor.rhs
  | .error _ => []

theorem stacked_rows (layout : Layout) (factors : List (LinearFactor α)) (lists : List (List (SortedMap Nat α)))
    (each : List.Forall₂ (fun factor rows => factor.sparseRows layout = .ok rows) factors lists) :
    lists.flatten.zip (factors.flatMap (·.rhs)) = factors.flatMap (rowsOf layout) := by
  induction each with
  | nil => rfl
  | @cons factor rows factors lists here others ih =>
      have length : rows.length = factor.rhs.length := by
        obtain ⟨blocks, _, same⟩ := (Outcome.bind_ok_iff _ _ _).mp here
        cases same
        simp [LinearFactor.rows]
      rw [List.flatten_cons, List.flatMap_cons, List.flatMap_cons, List.zip_append length, ih, rowsOf, here]

theorem to_sparse_rows (graph : LinearGraph α) (layout : Layout) (system : LinearSystem α)
    (assembled : graph.toSparse layout = .ok system) :
    system.jacobian.rows.zip system.rhs = graph.equalities.flatMap (rowsOf layout) := by
  obtain ⟨lists, each, rfl⟩ := graph.to_sparse_rows_of_ok layout system assembled
  exact stacked_rows layout graph.equalities lists each

theorem normal_equations_exist (graph : LinearGraph α) (layout : Layout) (fits : layout.Inside)
    (system : LinearSystem α) (assembled : graph.toSparse layout = .ok system) :
    ∃ equations, system.normalEquations = some equations := by
  obtain ⟨height, _, length, _⟩ := graph.to_sparse_inside layout fits system assembled
  exact ⟨_, SparseMatrix.normal_equations_column _ _ (by rw [List.length_map, length, height])⟩

end Rows

theorem to_sparse_reordered (graph reordered : LinearGraph ℝ) (perm : reordered.Perm graph) (layout : Layout)
    (fits : layout.Inside) (system : LinearSystem ℝ) (assembled : graph.toSparse layout = .ok system) :
    ∃ other, reordered.toSparse layout = .ok other ∧ other.normalEquations = system.normalEquations := by
  have equalities : reordered.equalities.Perm graph.equalities := perm.filter _
  obtain ⟨lists, each, _⟩ := graph.to_sparse_rows_of_ok layout system assembled
  obtain ⟨others, made, _⟩ := Outcome.map_all_perm _ _ _ equalities lists ((Outcome.map_all_ok_iff _ _ _).mpr each)
  have reassembled := reordered.to_sparse_of_rows layout fits others ((Outcome.map_all_ok_iff _ _ _).mp made)
  generalize LinearSystem.mk _ _ = other at reassembled
  obtain ⟨height, cols, length, _⟩ := graph.to_sparse_inside layout fits system assembled
  obtain ⟨heightOther, colsOther, lengthOther, _⟩ := reordered.to_sparse_inside layout fits other reassembled
  have rows : (other.jacobian.rows.zip other.rhs).Perm (system.jacobian.rows.zip system.rhs) := by
    rw [to_sparse_rows reordered layout other reassembled, to_sparse_rows graph layout system assembled]
    exact equalities.flatMap_right (rowsOf layout)
  refine ⟨other, reassembled, SparseMatrix.normal_equations_perm _ _ _ _ (colsOther.trans cols.symm) ?_ ?_ ?_⟩
  · rw [List.length_map, length, height]
  · rw [List.length_map, lengthOther, heightOther]
  · rw [List.zip_map_right, List.zip_map_right]
    exact rows.map _

end LinearGraph

namespace Graph

variable (graph reordered : Graph ℝ) (perm : reordered.Perm graph)

include perm

theorem error_reordered (values : Values ℝ) (error : ℝ) (done : Graph.error graph values = .ok error) :
    Graph.error reordered values = .ok error := by
  obtain ⟨errors, each, same⟩ := (Outcome.bind_ok_iff _ _ _).mp done
  cases same
  have equalities : (Graph.equalities reordered).Perm (Graph.equalities graph) := perm.filter _
  obtain ⟨others, made, order⟩ := Outcome.map_all_perm _ _ _ equalities errors each
  rw [Graph.error, made, Outcome.ok_bind, total_eq_sum, total_eq_sum, order.sum_eq]
  rfl

theorem normal_equations_reordered (values : Values ℝ) (linear : LinearGraph ℝ)
    (done : Graph.linearize graph values = .ok linear) (layout : Layout) (fits : layout.Inside)
    (system : LinearSystem ℝ) (assembled : linear.toSparse layout = .ok system) :
    ∃ other second, Graph.linearize reordered values = .ok other ∧ other.toSparse layout = .ok second ∧
      second.normalEquations = system.normalEquations := by
  obtain ⟨other, linearized, order⟩ := Outcome.map_all_perm _ _ _ perm linear done
  obtain ⟨second, reassembled, same⟩ := linear.to_sparse_reordered other order layout fits system assembled
  exact ⟨other, second, linearized, reassembled, same⟩

end Graph

end FactorGraph
