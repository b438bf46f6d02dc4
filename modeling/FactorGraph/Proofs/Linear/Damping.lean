import Mathlib
import FactorGraph.Proofs.Graph.Assembly
import FactorGraph.Proofs.Linear.Cholesky
import FactorGraph.Proofs.Linear.Plan
import FactorGraph.Proofs.Linear.Reflection

set_option autoImplicit false

open Matrix

namespace FactorGraph

-- The method has factors for a matrix, if it is nonsingular, and solves each of its systems.
def Method.SolvesExactly (method : Method ℝ) (n : ℕ) (matrix : SparseMatrix ℝ) : Prop :=
  (matrix.toMatrix n n).det ≠ 0 →
    ∃ plan factors, method.plan matrix.pattern = some plan ∧ method.factor plan matrix = some factors ∧
      ∀ rhs : List ℝ, rhs.length = n → (method.solve factors rhs).length = n ∧
        matrix.toMatrix n n *ᵥ vector n (method.solve factors rhs) = vector n rhs

namespace SparseMatrix

theorem shaped_open_rows (n : ℕ) (m : SparseMatrix ℝ) (height : m.height = n) (cols : m.cols = n) :
    Places.Shaped n n m.openRows := by
  refine ⟨by rw [openRows, List.length_map, ← height]; rfl, ?_⟩
  intro row mem
  obtain ⟨stored, _, rfl⟩ := List.mem_map.mp mem
  simp [cols]

theorem to_matrix_open_rows (n : ℕ) (m : SparseMatrix ℝ) (height : m.height = n) (cols : m.cols = n) :
    Places.toMatrix n n m.openRows = m.toMatrix n n := by
  ext i j
  have row : i.val < m.rows.length := height ▸ i.isLt
  have col : j.val < m.cols := cols ▸ j.isLt
  simp [Places.toMatrix, places, openRows, toMatrix, entry, row, col]

end SparseMatrix

theorem Method.cholesky_solves (n : ℕ) (matrix : SparseMatrix ℝ) (height : matrix.height = n)
    (cols : matrix.cols = n) (positive : (matrix.toMatrix n n).PosDef) :
    Method.cholesky.SolvesExactly n matrix := by
  intro _
  have square := matrix.shaped_open_rows n height cols
  rw [← matrix.to_matrix_open_rows n height cols] at positive ⊢
  obtain ⟨columns, factored, solves⟩ := Cholesky.factor_solves matrix.openRows square positive
  have size : matrix.pattern.length = n := matrix.pattern_length.trans height
  exact ⟨_, columns, rfl, (congrArg (Cholesky.factor · matrix.openRows) size).trans factored, solves⟩

theorem Method.qr_solves (n : ℕ) (matrix : SparseMatrix ℝ) (height : matrix.height = n)
    (cols : matrix.cols = n) (precise : Reflection.PreciseThroughout n matrix.openRows) :
    Method.qr.SolvesExactly n matrix := by
  intro nonsingular
  have shaped := matrix.shaped_open_rows n height cols
  rw [← matrix.to_matrix_open_rows n height cols] at nonsingular ⊢
  have size : matrix.pattern.length = n := matrix.pattern_length.trans height
  refine ⟨_, Reflection.factor n matrix.openRows, rfl,
    congrArg (fun size => some (Reflection.factor size matrix.openRows)) size, ?_⟩
  exact Reflection.factor_solves n matrix.openRows shaped
    (fun x => eq_zero_of_mulVec_eq_zero nonsingular) precise

theorem gram_pos_semidef (h n : ℕ) (J : Matrix (Fin h) (Fin n) ℝ) : (Jᵀ * J).PosSemidef := by
  simpa using posSemidef_conjTranspose_mul_self J

section Damped

variable (h n : ℕ) (J : Matrix (Fin h) (Fin n) ℝ) (b : Fin h → ℝ) (lambda : ℝ)

theorem damped_pos_def (positive : 0 < lambda) : (Jᵀ * J + lambda • (1 : Matrix (Fin n) (Fin n) ℝ)).PosDef :=
  PosDef.posSemidef_add (gram_pos_semidef h n J) (PosDef.one.smul positive)

def dampedError (x : Fin n → ℝ) : ℝ := (J *ᵥ x - b) ⬝ᵥ (J *ᵥ x - b) + lambda * (x ⬝ᵥ x)

theorem damped_error_add (s d : Fin n → ℝ)
    (solved : (Jᵀ * J + lambda • (1 : Matrix (Fin n) (Fin n) ℝ)) *ᵥ s = Jᵀ *ᵥ b) :
    dampedError h n J b lambda (s + d) = dampedError h n J b lambda s +
      d ⬝ᵥ ((Jᵀ * J + lambda • (1 : Matrix (Fin n) (Fin n) ℝ)) *ᵥ d) := by
  -- Completing the square around the solution of the normal equations.
  have apply (v : Fin n → ℝ) : (Jᵀ * J + lambda • (1 : Matrix (Fin n) (Fin n) ℝ)) *ᵥ v =
      Jᵀ *ᵥ (J *ᵥ v) + lambda • v := by
    rw [add_mulVec, ← mulVec_mulVec, smul_mulVec, one_mulVec]
  have cross : (J *ᵥ d) ⬝ᵥ (J *ᵥ s - b) + lambda * (d ⬝ᵥ s) = 0 := by
    have met := congrArg (d ⬝ᵥ ·) solved
    simp only [apply, dotProduct_add, dotProduct_smul, dotProduct_transpose_mulVec, smul_eq_mul] at met
    rw [dotProduct_sub, dotProduct_comm, dotProduct_comm (J *ᵥ d) b]
    linarith
  rw [apply, dotProduct_add, dotProduct_transpose_mulVec, dotProduct_smul, smul_eq_mul]
  have moved : J *ᵥ (s + d) - b = (J *ᵥ s - b) + J *ᵥ d := by rw [mulVec_add]; abel
  simp only [dampedError, moved, add_dotProduct, dotProduct_add]
  rw [dotProduct_comm (J *ᵥ s - b) (J *ᵥ d), dotProduct_comm s d]
  linarith

theorem damped_error_minimal (positive : 0 < lambda) (s x : Fin n → ℝ)
    (solved : (Jᵀ * J + lambda • (1 : Matrix (Fin n) (Fin n) ℝ)) *ᵥ s = Jᵀ *ᵥ b) (other : x ≠ s) :
    dampedError h n J b lambda s < dampedError h n J b lambda x := by
  have apart := (damped_pos_def h n J lambda positive).dotProduct_mulVec_pos (sub_ne_zero.mpr other)
  rw [star_trivial] at apart
  have moved := damped_error_add h n J b lambda s (x - s) solved
  rw [add_sub_cancel] at moved
  linarith

end Damped

theorem SparseMatrix.to_matrix_damped (n h : ℕ) (jacobian : SparseMatrix ℝ) (cols : jacobian.cols = n)
    (height : jacobian.height = h) (lambda : ℝ) :
    (jacobian.gram.addDiagonal lambda).toMatrix n n =
      (jacobian.toMatrix h n)ᵀ * jacobian.toMatrix h n + lambda • (1 : Matrix (Fin n) (Fin n) ℝ) := by
  subst cols
  rw [to_matrix_add_diagonal _ _ _ jacobian.gram_height, to_matrix_gram h jacobian height.le]

theorem Method.cholesky_solves_damped (n h : ℕ) (jacobian : SparseMatrix ℝ) (cols : jacobian.cols = n)
    (height : jacobian.height = h) (lambda : ℝ) (positive : 0 < lambda) :
    Method.cholesky.SolvesExactly n (jacobian.gram.addDiagonal lambda) := by
  have square : (jacobian.gram.addDiagonal lambda).height = n :=
    (SparseMatrix.add_diagonal_height _ _).trans (jacobian.gram_height.trans cols)
  refine Method.cholesky_solves _ _ square cols ?_
  rw [jacobian.to_matrix_damped n h cols height]
  exact damped_pos_def _ _ _ _ positive

namespace Solver

variable {method : Method ℝ}

theorem vector_neg (n : ℕ) (v : List ℝ) : vector n (v.map (- ·)) = - vector n v := by
  funext i
  cases held : v[i.val]? <;> simp [vector, held]

theorem solve_damped (n : ℕ) (jacobian : SparseMatrix ℝ) (rhs : List ℝ) (lambda : ℝ) (cols : jacobian.cols = n)
    (height : jacobian.height = rhs.length) (positive : 0 < lambda)
    (exact : method.SolvesExactly n (jacobian.gram.addDiagonal lambda)) (solver : Solver method)
    (reached : solver.Reached) :
    let J := jacobian.toMatrix rhs.length n
    ∃ s : Fin n → ℝ, (solver.solve (Block.column (rhs.map (- ·))) jacobian (some lambda)).1 = .ok (List.ofFn s) ∧
      (Jᵀ * J + lambda • (1 : Matrix (Fin n) (Fin n) ℝ)) *ᵥ s = Jᵀ *ᵥ vector rhs.length rhs := by
  intro J
  have damped := jacobian.to_matrix_damped n rhs.length cols height lambda
  have regular : ((jacobian.gram.addDiagonal lambda).toMatrix n n).det ≠ 0 := by
    rw [damped]
    exact ((isUnit_iff_isUnit_det _).mp (damped_pos_def _ n J lambda positive).isUnit).ne_zero
  obtain ⟨plan, factors, planned, factored, solves⟩ := exact regular
  obtain ⟨length, solved⟩ := solves ((jacobian.transposeMulVec (rhs.map (- ·))).map (- ·))
    (by rw [List.length_map, SparseMatrix.transpose_mul_vec_length, cols])
  refine ⟨vector n (method.solve factors ((jacobian.transposeMulVec (rhs.map (- ·))).map (- ·))), ?_, ?_⟩
  · rw [of_fn_vector n _ length, solve_ok_iff solver (reached_planned solver reached), Block.column_flatten]
    refine ⟨⟨by simp [Block.column, Block.height, height], rfl⟩, plan, factors, planned, ?_⟩
    rw [factor_and_solve_ok_iff]
    exact ⟨factored, rfl, all_finite _⟩
  · rw [← damped, solved, vector_neg]
    subst cols
    rw [SparseMatrix.to_matrix_transpose_mul_vec rhs.length jacobian _ height.le, vector_neg, mulVec_neg, neg_neg]

end Solver

namespace LinearGraph

theorem damped_steps_minimize (graph : LinearGraph ℝ) (values : Values ℝ) (system : LinearSystem ℝ)
    (assembled : graph.toSparse (.ofValues values) = .ok system) (lambda : ℝ) (positive : 0 < lambda)
    (cholesky qr : Method ℝ)
    (exact : cholesky.SolvesExactly (Layout.ofValues values).total (system.jacobian.gram.addDiagonal lambda))
    (alsoExact : qr.SolvesExactly (Layout.ofValues values).total (system.jacobian.gram.addDiagonal lambda))
    (byCholesky : Solver cholesky) (byReflections : Solver qr) (ready : byCholesky.Reached)
    (prepared : byReflections.Reached) :
    let n := (Layout.ofValues values).total
    let residual := Block.column (system.rhs.map (- ·))
    ((system.jacobian.gram.addDiagonal lambda).toMatrix n n).det ≠ 0 ∧
    ∃ s : Fin n → ℝ,
      (byCholesky.solve residual system.jacobian (some lambda)).1 = .ok (List.ofFn s) ∧
      (byReflections.solve residual system.jacobian (some lambda)).1 = .ok (List.ofFn s) ∧
      ∃ least, errorAt graph (.ofValues values) (List.ofFn s) = .ok least ∧
        ∀ x : Fin n → ℝ, x ≠ s → ∃ error, errorAt graph (.ofValues values) (List.ofFn x) = .ok error ∧
          least + lambda * (s ⬝ᵥ s) < error + lambda * (x ⬝ᵥ x) := by
  intro n residual
  have quadratic (x : Fin n → ℝ) :=
    error_at_eq_quadratic graph values system assembled (List.ofFn x) List.length_ofFn
  simp only [vector_of_fn] at quadratic
  obtain ⟨height, cols, _⟩ := quadratic 0
  have damped := system.jacobian.to_matrix_damped n system.rhs.length cols height lambda
  have definite := damped_pos_def _ n (system.jacobian.toMatrix system.rhs.length n) lambda positive
  rw [← damped] at definite
  have regular := definite.isUnit
  obtain ⟨s, found, solved⟩ := byCholesky.solve_damped n system.jacobian system.rhs lambda cols height positive
    exact ready
  obtain ⟨t, other, agrees⟩ := byReflections.solve_damped n system.jacobian system.rhs lambda cols height positive
    alsoExact prepared
  -- Both solve one nonsingular system.
  have same : t = s := mulVec_injective_of_isUnit regular (by rw [damped, solved, agrees])
  subst same
  refine ⟨((isUnit_iff_isUnit_det _).mp regular).ne_zero, t, found, other, _, (quadratic t).2.2, fun x apart =>
    ⟨_, (quadratic x).2.2, ?_⟩⟩
  exact damped_error_minimal _ n _ _ lambda positive t x solved apart

-- The only row of this system is five, and damping makes it 5 · 5 + 1.
theorem damped_steps_minimize_named_twice :
    ∃ system, toSparse namedTwice (.ofValues oneNumber) = .ok system ∧ ∃ s : Fin 1 → ℝ,
      ((Solver.start : Solver Method.cholesky).solve (Block.column (system.rhs.map (- ·))) system.jacobian
        (some 1)).1 = .ok (List.ofFn s) ∧
      ((Solver.start : Solver Method.qr).solve (Block.column (system.rhs.map (- ·))) system.jacobian
        (some 1)).1 = .ok (List.ofFn s) ∧
      ∃ least, errorAt namedTwice (.ofValues oneNumber) (List.ofFn s) = .ok least ∧
        ∀ x : Fin 1 → ℝ, x ≠ s → ∃ error, errorAt namedTwice (.ofValues oneNumber) (List.ofFn x) = .ok error ∧
          least + 1 * (s ⬝ᵥ s) < error + 1 * (x ⬝ᵥ x) := by
  let jacobian : SparseMatrix ℝ := ⟨1, [SparseMatrix.rowOfEntries [(0, 2), (0, 3)]]⟩
  have assembled : toSparse namedTwice (.ofValues oneNumber) = .ok ⟨jacobian, [1]⟩ := rfl
  have damped : (jacobian.gram.addDiagonal 1).openRows = [[some ((2 + 3) * (2 + 3) + 1)]] := rfl
  have large : ¬ Scalar.abs ((2 + 3) * (2 + 3) + 1 : ℝ) < Scalar.leastNormal := by
    rw [scalar_abs_eq, not_lt]
    exact least_normal_le_one.trans (by norm_num)
  have precise : Reflection.PreciseThroughout 1 (jacobian.gram.addDiagonal 1).openRows := by
    rw [damped]
    exact ⟨⟨fun small => absurd small large, fun _ => by simp [Places.held]⟩, trivial⟩
  obtain ⟨_, s, first, second, minimal⟩ := damped_steps_minimize namedTwice oneNumber _ assembled 1 one_pos
    Method.cholesky Method.qr (Method.cholesky_solves_damped 1 1 jacobian rfl rfl 1 one_pos)
    (Method.qr_solves 1 _ rfl rfl precise) .start .start .start .start
  exact ⟨_, assembled, s, first, second, minimal⟩

end LinearGraph

end FactorGraph
