import Mathlib
import FactorGraph.Proofs.Linear.Damping
import FactorGraph.Proofs.Optimizer.Damping
import FactorGraph.Proofs.Optimizer.Planning
import FactorGraph.Proofs.Optimizer.Reordering

set_option autoImplicit false

open Matrix

namespace FactorGraph

section Model

variable (h n : ℕ) (J : Matrix (Fin h) (Fin n) ℝ) (b : Fin h → ℝ) (lambda : ℝ) (s : Fin n → ℝ)
  (solved : (Jᵀ * J + lambda • (1 : Matrix (Fin n) (Fin n) ℝ)) *ᵥ s = Jᵀ *ᵥ b)

include solved

theorem step_dot_gradient : s ⬝ᵥ (Jᵀ *ᵥ b) = (J *ᵥ s) ⬝ᵥ (J *ᵥ s) + lambda * (s ⬝ᵥ s) := by
  rw [← solved, add_mulVec, ← mulVec_mulVec, smul_mulVec, one_mulVec, dotProduct_add, dotProduct_transpose_mulVec,
    dotProduct_smul, smul_eq_mul]

theorem prediction_eq :
    s ⬝ᵥ (lambda • s + Jᵀ *ᵥ b) = (J *ᵥ s) ⬝ᵥ (J *ᵥ s) + 2 * lambda * (s ⬝ᵥ s) := by
  rw [dotProduct_add, step_dot_gradient h n J b lambda s solved, dotProduct_smul, smul_eq_mul]
  ring

theorem model_decrease_eq : b ⬝ᵥ b - (J *ᵥ s - b) ⬝ᵥ (J *ᵥ s - b) =
    (J *ᵥ s) ⬝ᵥ (J *ᵥ s) + 2 * lambda * (s ⬝ᵥ s) := by
  have along := step_dot_gradient h n J b lambda s solved
  rw [dotProduct_transpose_mulVec] at along
  simp only [sub_dotProduct, dotProduct_sub, dotProduct_comm (J *ᵥ s) b, along]
  ring

theorem step_eq_zero_iff (positive : 0 < lambda) : s = 0 ↔ Jᵀ *ᵥ b = 0 := by
  constructor
  · rintro rfl
    rw [← solved, mulVec_zero]
  · intro flat
    have regular := (damped_pos_def h n J lambda positive).isUnit
    exact mulVec_injective_of_isUnit regular (by rw [solved, flat, mulVec_zero])

omit solved in
theorem decrease_nonneg (positive : 0 < lambda) : 0 ≤ (J *ᵥ s) ⬝ᵥ (J *ᵥ s) + 2 * lambda * (s ⬝ᵥ s) := by
  have first := dotProduct_self_star_nonneg (J *ᵥ s)
  have second := dotProduct_self_star_nonneg s
  rw [star_trivial] at first second
  positivity

omit solved in
theorem decrease_eq_zero_iff (positive : 0 < lambda) :
    (J *ᵥ s) ⬝ᵥ (J *ᵥ s) + 2 * lambda * (s ⬝ᵥ s) = 0 ↔ s = 0 := by
  have first := dotProduct_self_star_nonneg (J *ᵥ s)
  have second := dotProduct_self_star_nonneg s
  rw [star_trivial] at first second
  constructor
  · intro none
    have still : s ⬝ᵥ s = 0 := by nlinarith
    exact dotProduct_self_eq_zero.mp still
  · rintro rfl
    simp

end Model

theorem vector_eq_zero_iff (n : ℕ) (v : List ℝ) (length : v.length = n) : vector n v = 0 ↔ ∀ a ∈ v, a = 0 := by
  subst length
  rw [funext_iff, List.forall_mem_iff_getElem]
  simp [vector, Fin.forall_iff]

theorem predicted_reduction_eq_dot (n : ℕ) (step gradient : List ℝ) (lambda : ℝ) (length : step.length = n)
    (same : gradient.length = n) :
    predictedReduction step gradient lambda = vector n step ⬝ᵥ (lambda • vector n step - vector n gradient) := by
  subst length
  rw [predictedReduction, total_eq_sum]
  induction step generalizing gradient with
  | nil => simp [vector_nil]
  | cons a step ih =>
      cases gradient with
      | nil => cases same
      | cons g gradient =>
          rw [List.zipWith_cons_cons, List.sum_cons, ih gradient (Nat.succ.inj same), List.length_cons, vector_cons,
            vector_cons]
          simp

structure SolvesDamped (jacobian : SparseMatrix ℝ) (rhs : List ℝ) (lambda : ℝ) (step : List ℝ) : Prop where
  height : jacobian.height = rhs.length
  length : step.length = jacobian.cols
  positive : 0 < lambda
  solved : ((jacobian.toMatrix rhs.length jacobian.cols)ᵀ * jacobian.toMatrix rhs.length jacobian.cols +
      lambda • (1 : Matrix (Fin jacobian.cols) (Fin jacobian.cols) ℝ)) *ᵥ vector jacobian.cols step =
    (jacobian.toMatrix rhs.length jacobian.cols)ᵀ *ᵥ vector rhs.length rhs

section Step

variable (jacobian : SparseMatrix ℝ) (rhs : List ℝ) (lambda : ℝ) (step : List ℝ)
  (solves : SolvesDamped jacobian rhs lambda step)

include solves

theorem predicted_reduction_of_solved :
    predictedReduction step (jacobian.transposeMulVec (rhs.map (- ·))) lambda =
      (jacobian.toMatrix rhs.length jacobian.cols *ᵥ vector jacobian.cols step) ⬝ᵥ
        (jacobian.toMatrix rhs.length jacobian.cols *ᵥ vector jacobian.cols step) +
      2 * lambda * (vector jacobian.cols step ⬝ᵥ vector jacobian.cols step) := by
  rw [predicted_reduction_eq_dot jacobian.cols step _ lambda solves.length (jacobian.transpose_mul_vec_length _),
    jacobian.to_matrix_transpose_mul_vec rhs.length _ solves.height.le, Solver.vector_neg, mulVec_neg, sub_neg_eq_add]
  exact prediction_eq _ _ _ _ lambda _ solves.solved

theorem predicted_reduction_nonneg :
    0 ≤ predictedReduction step (jacobian.transposeMulVec (rhs.map (- ·))) lambda := by
  rw [predicted_reduction_of_solved jacobian rhs lambda step solves]
  exact decrease_nonneg _ _ _ _ _ solves.positive

theorem predicted_reduction_eq_zero_iff :
    predictedReduction step (jacobian.transposeMulVec (rhs.map (- ·))) lambda = 0 ↔ ∀ a ∈ step, a = 0 := by
  rw [predicted_reduction_of_solved jacobian rhs lambda step solves, decrease_eq_zero_iff _ _ _ _ _ solves.positive,
    vector_eq_zero_iff _ _ solves.length]

theorem step_zero_iff_gradient_zero :
    (∀ a ∈ step, a = 0) ↔ ∀ g ∈ jacobian.transposeMulVec (rhs.map (- ·)), g = 0 := by
  rw [← vector_eq_zero_iff _ _ solves.length, ← vector_eq_zero_iff _ _ (jacobian.transpose_mul_vec_length _),
    jacobian.to_matrix_transpose_mul_vec rhs.length _ solves.height.le, Solver.vector_neg, mulVec_neg, neg_eq_zero]
  exact step_eq_zero_iff _ _ _ _ lambda _ solves.solved solves.positive

end Step

theorem gain_pos_iff (current candidate predicted : ℝ) (nonneg : 0 ≤ predicted) :
    0 < gainRatio current candidate predicted ↔ candidate < current := by
  rw [gainRatio, scalar_abs_eq, abs_of_nonneg nonneg]
  by_cases tiny : predicted < 1e-15
  · rw [if_pos tiny]
    by_cases lower : 0 < current - candidate
    · simp [lower, sub_pos.mp lower]
    · simp [lower, mt sub_pos.mpr lower]
  · rw [if_neg tiny]
    have positive : 0 < predicted := lt_of_lt_of_le (by norm_num) (not_lt.mp tiny)
    rw [div_pos_iff_of_pos_right positive, sub_pos]

namespace Optimizer

section Accepted

variable {α σ : Type} [Scalar α] (solver : LinearSolver α σ) (problem : Problem α)

theorem accepted_attempt (base : Base α) (remaining : ℕ) (damping : Damping α) (state last : σ) (iteration : Iteration α)
    (tries : Tries solver problem base remaining damping state iteration last) (trial : Trial α)
    (verdict : iteration.verdict = .accepted trial) : ∃ asked ∈ iteration.attempts.map (base, ·),
      asked.2.outcome = .ok trial ∧ improves asked.1 trial = true := by
  obtain ⟨refused, lambda, attempts, _⟩ := tries_accepted_last _ _ _ _ _ _ _ _ tries trial verdict
  have better := (tries_accepted _ _ _ _ _ _ _ _ _ tries verdict).1
  exact ⟨(base, ⟨lambda, .ok trial⟩), by simp [attempts], rfl, better⟩

theorem accepted_tried (remaining done : ℕ) (state : State α σ) (iterations : List (Iteration α)) (damping : Damping α)
    (ending : Except (OptimizerError α) Status)
    (course : Course solver problem remaining done state iterations damping ending) :
    ∀ trial ∈ iterations.filterMap (·.accepted?), ∃ asked ∈ tried problem state.values state.error iterations,
      asked.2.outcome = .ok trial ∧ improves asked.1 trial = true := by
  induction course with
  | converged | budget | aborted | broken => simp
  | fatal remaining done state base iteration last e begins tries verdict => simp [Iteration.accepted?, verdict]
  | surrendered remaining done state base iteration last begins tries verdict => simp [Iteration.accepted?, verdict]
  | settled remaining done state base iteration last trial begins tries verdict small =>
      rw [tried_last problem done state base iteration begins]
      simpa [Iteration.accepted?, verdict] using accepted_attempt solver problem base _ _ _ last iteration tries trial verdict
  | onward remaining done state base iteration last trial rest damping ending begins tries verdict large others ih =>
      have accepted : iteration.accepted? = some trial := by rw [Iteration.accepted?, verdict]
      rw [tried_cons problem done state base iteration rest begins, accepted]
      simp only [List.filterMap_cons, accepted, List.forall_mem_cons, List.mem_append]
      refine ⟨?_, fun other mem => ?_⟩
      · obtain ⟨asked, mem, passed⟩ := accepted_attempt solver problem base _ _ _ last iteration tries trial verdict
        exact ⟨asked, .inl mem, passed⟩
      · obtain ⟨asked, later, passed⟩ := ih other mem
        exact ⟨asked, .inr later, passed⟩

end Accepted

theorem run_damping_pos {σ : Type} (solver : LinearSolver ℝ σ) (config : Config ℝ) (graph : Graph ℝ) (initial : Values ℝ)
    (run : Run ℝ) (reached : Optimizer.run solver config graph initial = .ok run) : ∀ a ∈ run.attempts, 0 < a.damping := by
  obtain ⟨valid, _, attempts⟩ := run_tracks solver config graph initial run reached
  intro a mem
  obtain ⟨i, _, same⟩ := attempts a mem
  rw [same]
  exact Damping.lambda_pos config _ (Damping.after_take_kept config valid run.updates i) valid

theorem linearized_system {α : Type} [Scalar α] (config : Config α) (graph : Graph α) (first values : Values α)
    (same : values.shape = first.shape) (error : α) (base : Base α)
    (linear : linearize ⟨graph, .ofValues first, config⟩ values error = .ok base) :
    ∃ rhs : List α, base.jacobian.height = rhs.length ∧ base.jacobian.cols = (Layout.ofValues first).total ∧
      base.residual = Block.column (rhs.map (- ·)) := by
  obtain ⟨_, _, factors, system, _, assembled, jacobian, residual⟩ := linearize_ok _ _ _ _ linear
  rw [← Layout.of_values_of_shape values first same] at assembled ⊢
  obtain ⟨height, cols, length, _⟩ := factors.to_sparse_inside _ (Layout.of_values_inside values) system assembled
  exact ⟨system.rhs, by rw [jacobian, height, length], by rw [jacobian, cols], residual⟩

section Run

variable (method : Method ℝ) (config : Config ℝ) (graph : Graph ℝ) (initial : Values ℝ) (run : Run ℝ)
  (reached : Optimizer.run method.linearSolver config graph initial = .ok run)

include reached

theorem tried_system (asked : Base ℝ × Attempt ℝ) (mem : asked ∈ run.tried config graph) : ∃ rhs : List ℝ,
    asked.1.jacobian.height = rhs.length ∧ asked.1.jacobian.cols = (Layout.ofValues initial).total ∧
      asked.1.residual = Block.column (rhs.map (- ·)) ∧ 0 < asked.2.damping := by
  have recorded := run_recorded _ config graph initial run reached
  obtain ⟨values, error, same, linear⟩ := recorded.linear asked mem
  obtain ⟨rhs, height, cols, residual⟩ := linearized_system config graph initial values same error asked.1 linear
  exact ⟨rhs, height, cols, residual, run_damping_pos _ config graph initial run reached asked.2
    (recorded.attempts ▸ List.mem_map_of_mem mem)⟩

theorem tried_solved (asked : Base ℝ × Attempt ℝ) (mem : asked ∈ run.tried config graph) (trial : Trial ℝ)
    (evaluated : asked.2.outcome = .ok trial)
    (exact : method.SolvesExactly (Layout.ofValues initial).total (demandOf asked).matrix) :
    ∃ rhs step : List ℝ, asked.1.residual = Block.column (rhs.map (- ·)) ∧
      SolvesDamped asked.1.jacobian rhs asked.2.damping step ∧
      trial.gain = gainRatio asked.1.error trial.error
        (predictedReduction step (asked.1.jacobian.transposeMulVec (rhs.map (- ·))) asked.2.damping) := by
  obtain ⟨rhs, height, cols, residual, positive⟩ := tried_system method config graph initial run reached asked mem
  obtain ⟨k, inside, here⟩ := List.mem_iff_getElem.mp mem
  obtain ⟨step, answered, known⟩ := run_evaluated method config graph initial run reached k asked.1 asked.2 trial
    (List.getElem?_eq_some_iff.mpr ⟨inside, here⟩) evaluated
  have ready : (solverBefore method (run.tried config graph) k).Reached := Solver.after_reached _ .start _
  rw [← cols] at exact
  obtain ⟨s, solves, solved⟩ := Solver.solve_damped _ asked.1.jacobian rhs asked.2.damping rfl height positive exact _ ready
  rw [← residual] at solves
  obtain rfl : List.ofFn s = step := Except.ok.inj (solves.symm.trans answered)
  have gradient : (demandOf asked).gradient = asked.1.jacobian.transposeMulVec (rhs.map (- ·)) := by
    rw [Demand.gradient, demandOf, residual, Block.column_flatten]
  refine ⟨rhs, List.ofFn s, residual, ⟨height, List.length_ofFn, positive, by rw [vector_of_fn]; exact solved⟩, ?_⟩
  rw [known.gain, gradient]
  rfl

theorem tried_gain (asked : Base ℝ × Attempt ℝ) (mem : asked ∈ run.tried config graph) (trial : Trial ℝ)
    (evaluated : asked.2.outcome = .ok trial)
    (exact : method.SolvesExactly (Layout.ofValues initial).total (demandOf asked).matrix) :
    0 < trial.gain ↔ trial.error < asked.1.error := by
  obtain ⟨rhs, step, _, solves, gain⟩ := tried_solved method config graph initial run reached asked mem trial evaluated exact
  rw [gain]
  exact gain_pos_iff _ _ _ (predicted_reduction_nonneg asked.1.jacobian rhs asked.2.damping step solves)

theorem cholesky_exact (byCholesky : method = Method.cholesky) (asked : Base ℝ × Attempt ℝ)
    (mem : asked ∈ run.tried config graph) :
    method.SolvesExactly (Layout.ofValues initial).total (demandOf asked).matrix := by
  subst byCholesky
  obtain ⟨rhs, height, cols, _, positive⟩ := tried_system .cholesky config graph initial run reached asked mem
  exact Method.cholesky_solves_damped _ _ _ cols height _ positive

theorem accepted_gain (exact : ∀ asked ∈ run.tried config graph,
      method.SolvesExactly (Layout.ofValues initial).total (demandOf asked).matrix) :
    ∀ trial ∈ run.accepted, 0 < trial.gain := by
  intro trial mem
  obtain ⟨_, _, same, _, _, course⟩ := run_ok _ _ _ _ _ reached
  obtain ⟨asked, among, evaluated, better⟩ := accepted_tried _ _ _ _ _ _ _ _ course trial mem
  rw [State.start, ← same] at among
  refine (tried_gain method config graph initial run reached asked among trial evaluated (exact asked among)).mpr ?_
  exact of_decide_eq_true (Bool.and_eq_true_iff.mp better).2

end Run

/-- For an exact solution of the damped normal equations the prediction is the decrease of the squared error of the linear
model. It vanishes together with the gradient and the step and is positive otherwise. So along a run whose systems are
solved exactly, as all are by Cholesky factors, a step gains if and only if it lowers the error. -/
theorem predicted_reduction_exact :
    (∀ (jacobian : SparseMatrix ℝ) (rhs : List ℝ) (lambda : ℝ) (step : List ℝ),
      SolvesDamped jacobian rhs lambda step →
        let J := jacobian.toMatrix rhs.length jacobian.cols
        let b := vector rhs.length rhs
        let s := vector jacobian.cols step
        let gradient := jacobian.transposeMulVec (rhs.map (- ·))
        let predicted := predictedReduction step gradient lambda
        predicted = b ⬝ᵥ b - (J *ᵥ s - b) ⬝ᵥ (J *ᵥ s - b) ∧
        predicted = (J *ᵥ s) ⬝ᵥ (J *ᵥ s) + 2 * lambda * (s ⬝ᵥ s) ∧
        0 ≤ predicted ∧ (predicted = 0 ↔ ∀ a ∈ step, a = 0) ∧ (predicted = 0 ↔ ∀ g ∈ gradient, g = 0)) ∧
    ∀ (method : Method ℝ) (config : Config ℝ) (graph : Graph ℝ) (initial : Values ℝ) (run : Run ℝ),
      Optimizer.run method.linearSolver config graph initial = .ok run →
      (method = .cholesky ∨ ∀ asked ∈ run.tried config graph,
        method.SolvesExactly (Layout.ofValues initial).total (demandOf asked).matrix) →
      (∀ base a trial, (base, a) ∈ run.tried config graph → a.outcome = .ok trial →
        (∃ rhs step : List ℝ, base.residual = Block.column (rhs.map (- ·)) ∧
          SolvesDamped base.jacobian rhs a.damping step ∧ trial.gain = gainRatio base.error trial.error
            (predictedReduction step (base.jacobian.transposeMulVec (rhs.map (- ·))) a.damping)) ∧
        (0 < trial.gain ↔ trial.error < base.error)) ∧
      ∀ trial ∈ run.accepted, 0 < trial.gain := by
  refine ⟨fun jacobian rhs lambda step solves => ?_, fun method config graph initial run reached exact => ?_⟩
  · have value := predicted_reduction_of_solved jacobian rhs lambda step solves
    have still := predicted_reduction_eq_zero_iff jacobian rhs lambda step solves
    refine ⟨value.trans (model_decrease_eq _ _ _ _ lambda _ solves.solved).symm, value,
      predicted_reduction_nonneg jacobian rhs lambda step solves, still, ?_⟩
    exact still.trans (step_zero_iff_gradient_zero jacobian rhs lambda step solves)
  · have exact : ∀ asked ∈ run.tried config graph,
        method.SolvesExactly (Layout.ofValues initial).total (demandOf asked).matrix := by
      rcases exact with byCholesky | exact
      · exact cholesky_exact method config graph initial run reached byCholesky
      · exact exact
    refine ⟨fun base a trial mem evaluated => ⟨?_, ?_⟩, accepted_gain method config graph initial run reached exact⟩
    · exact tried_solved method config graph initial run reached (base, a) mem trial evaluated (exact _ mem)
    · exact tried_gain method config graph initial run reached (base, a) mem trial evaluated (exact _ mem)

theorem predicted_reduction_exact_two_pulls :
    let jacobian : SparseMatrix ℝ := ⟨1, [SparseMatrix.rowOfEntries [(0, 2)]]⟩
    SolvesDamped jacobian [5] 1 [2] ∧ predictedReduction [2] (jacobian.transposeMulVec ([5].map (- ·))) 1 = (24 : ℝ) ∧
    ∃ run, Optimizer.run Method.cholesky.linearSolver halfwayProblem.config (pulls 0 3) (oneNumberAt 3) = .ok run ∧
      ∃ trial ∈ run.accepted, 0 < trial.gain := by
  intro jacobian
  obtain ⟨model, runs⟩ := predicted_reduction_exact
  have row : jacobian.toMatrix 1 1 = !![2] := by
    ext i j
    fin_cases i
    fin_cases j
    rfl
  have step : vector 1 [(2 : ℝ)] = ![2] := by
    funext i
    fin_cases i
    rfl
  have rhs : vector 1 [(5 : ℝ)] = ![5] := by
    funext i
    fin_cases i
    rfl
  have solves : SolvesDamped jacobian [5] 1 [2] := by
    refine ⟨rfl, rfl, one_pos, ?_⟩
    change ((jacobian.toMatrix 1 1)ᵀ * jacobian.toMatrix 1 1 + (1 : ℝ) • (1 : Matrix (Fin 1) (Fin 1) ℝ)) *ᵥ vector 1 [2] =
      (jacobian.toMatrix 1 1)ᵀ *ᵥ vector 1 [5]
    rw [row, step, rhs]
    funext i
    fin_cases i
    norm_num [Matrix.mulVec, dotProduct, Matrix.mul_apply]
  refine ⟨solves, ?_, ?_⟩
  · refine (model jacobian [5] 1 [2] solves).1.trans ?_
    change vector 1 [5] ⬝ᵥ vector 1 [5] - (jacobian.toMatrix 1 1 *ᵥ vector 1 [2] - vector 1 [5]) ⬝ᵥ
      (jacobian.toMatrix 1 1 *ᵥ vector 1 [2] - vector 1 [5]) = 24
    rw [row, step, rhs]
    norm_num [Matrix.mulVec, dotProduct]
  · obtain ⟨run, some, reached, _⟩ := pulled_run 0 3 (by norm_num) (by norm_num)
    obtain ⟨trial, mem⟩ := List.exists_mem_of_ne_nil _ some
    exact ⟨run, reached, trial, mem, (runs .cholesky _ _ _ run reached (.inl rfl)).2 trial mem⟩

end Optimizer

end FactorGraph
