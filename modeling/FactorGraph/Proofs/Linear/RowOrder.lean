import FactorGraph.Optimizer.Result
import FactorGraph.Proofs.Exact
import FactorGraph.Proofs.Graph.Shape

set_option autoImplicit false

namespace FactorGraph

namespace SparseMatrix

theorem get_accumulate {α : Type} [Scalar α] (row : SortedMap Nat α) (col other : Nat) (a : α) :
    (accumulate row col a).get? other =
      if other = col then some (((row.get? col).map (· + a)).getD a) else row.get? other := by
  by_cases same : other = col
  · subst same
    rw [if_pos rfl, accumulate, SortedMap.get_upsert_self]
    cases row.get? other <;> rfl
  · rw [if_neg same, accumulate, SortedMap.get_upsert_of_ne _ same]

theorem accumulate_comm (row : SortedMap Nat ℝ) (c d : Nat) (a b : ℝ) :
    accumulate (accumulate row c a) d b = accumulate (accumulate row d b) c a := by
  apply SortedMap.ext_get
  intro j
  simp only [get_accumulate]
  by_cases here : c = d
  · subst here
    split
    · cases row.get? c with
      | none => simp [add_comm]
      | some e => simp [add_right_comm]
    · rfl
  · simp only [if_neg here, if_neg (Ne.symm here)]
    by_cases first : j = c
    · subst first
      simp [here]
    · simp [first]

theorem row_of_entries_perm (xs ys : List (Nat × ℝ)) (perm : xs.Perm ys) : rowOfEntries xs = rowOfEntries ys :=
  perm.foldl_eq' (fun x _ y _ row => accumulate_comm row x.1 y.1 x.2 y.2) .empty

section Rows

variable {α : Type} [Scalar α]

def products (i : Nat) (row : SortedMap Nat α) : List (Nat × α) :=
  match row.get? i with
  | none => []
  | some a => row.entries.map fun e => (e.1, a * e.2)

theorem gram_rows (m : SparseMatrix α) :
    m.gram.rows = (List.range m.cols).map fun i => rowOfEntries (m.rows.flatMap (products i)) := by
  refine List.map_congr_left fun i _ => ?_
  rw [rowOfEntries, List.foldl_flatMap]
  refine congrArg (fun step => List.foldl step SortedMap.empty m.rows) (funext fun acc => funext fun row => ?_)
  unfold products
  cases row.get? i with
  | none => rfl
  | some a => simp only [accumulateRow, List.foldl_map]

-- What a solver sees of a residual and a Jacobian: `JᵀJ` and `Jᵀr`, if the residual fits the rows.
def normalEquations (residual : Block α) (jacobian : SparseMatrix α) : Option (SparseMatrix α × List α) :=
  if residual.height = jacobian.height ∧ residual.cols = 1 then
    some (jacobian.gram, jacobian.transposeMulVec residual.rows.flatten)
  else none

theorem normal_equations_some_iff (residual : Block α) (jacobian hessian : SparseMatrix α) (gradient : List α) :
    normalEquations residual jacobian = some (hessian, gradient) ↔
      (residual.height = jacobian.height ∧ residual.cols = 1) ∧ jacobian.gram = hessian ∧
        jacobian.transposeMulVec residual.rows.flatten = gradient := by
  rw [normalEquations, Option.ite_none_right_eq_some, Option.some.injEq, Prod.mk.injEq]

theorem normal_equations_column (rhs : List α) (jacobian : SparseMatrix α) (fits : rhs.length = jacobian.height) :
    normalEquations (Block.column rhs) jacobian = some (jacobian.gram, jacobian.transposeMulVec rhs) := by
  rw [normalEquations, if_pos ⟨by simpa [Block.height, Block.column] using fits, rfl⟩, Block.column_flatten]

end Rows

theorem gram_perm (a b : SparseMatrix ℝ) (cols : b.cols = a.cols) (perm : b.rows.Perm a.rows) : b.gram = a.gram := by
  have rows : b.gram.rows = a.gram.rows := by
    rw [gram_rows, gram_rows, cols]
    exact List.map_congr_left fun i _ => row_of_entries_perm _ _ (perm.flatMap_right (products i))
  exact congrArg₂ SparseMatrix.mk cols rows

theorem transpose_mul_vec_perm (a b : SparseMatrix ℝ) (v w : List ℝ) (cols : b.cols = a.cols)
    (perm : (b.rows.zip w).Perm (a.rows.zip v)) : b.transposeMulVec w = a.transposeMulVec v := by
  rw [transposeMulVec, transposeMulVec, cols]
  refine List.map_congr_left fun j _ => perm.foldl_eq' (fun x _ y _ sum => ?_) 0
  cases x.1.get? j with
  | none => rfl
  | some a =>
      cases y.1.get? j with
      | none => rfl
      | some b => exact add_right_comm sum (a * x.2) (b * y.2)

theorem normal_equations_perm (a b : SparseMatrix ℝ) (v w : List ℝ) (cols : b.cols = a.cols)
    (left : v.length = a.height) (right : w.length = b.height) (perm : (b.rows.zip w).Perm (a.rows.zip v)) :
    normalEquations (Block.column w) b = normalEquations (Block.column v) a := by
  have rows : b.rows.Perm a.rows := by
    have firsts := perm.map Prod.fst
    rwa [List.map_fst_zip right.ge, List.map_fst_zip left.ge] at firsts
  rw [normal_equations_column w b right, normal_equations_column v a left, gram_perm a b cols rows,
    transpose_mul_vec_perm a b v w cols perm]

end SparseMatrix

section Solvers

variable {α σ : Type} [Scalar α]

-- Systems with the same normal equations are the same to the solver, from whatever state and at whatever damping.
def LinearSolver.SeesNormalEquations (solver : LinearSolver α σ) : Prop :=
  ∀ (a b : SparseMatrix α) (r s : Block α) (equations : SparseMatrix α × List α),
    SparseMatrix.normalEquations r a = some equations → SparseMatrix.normalEquations s b = some equations →
      ∀ state damping, solver.solve state s b damping = solver.solve state r a damping

theorem Method.sees_normal_equations (method : Method α) : method.linearSolver.SeesNormalEquations := by
  intro a b r s (hessian, gradient) first second state damping
  obtain ⟨fits, rfl, rfl⟩ := (SparseMatrix.normal_equations_some_iff r a hessian gradient).mp first
  obtain ⟨fitsOther, hessian, gradient⟩ := (SparseMatrix.normal_equations_some_iff s b _ _).mp second
  simp only [linearSolver, Solver.solve, Solver.prepare, if_pos fits, if_pos fitsOther, hessian, gradient]

end Solvers

end FactorGraph
