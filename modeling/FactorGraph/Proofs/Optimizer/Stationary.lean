import Mathlib
import FactorGraph.Proofs.Graph.Standstill
import FactorGraph.Proofs.Optimizer.Insertion
import FactorGraph.Proofs.Optimizer.Prediction
import FactorGraph.Proofs.Optimizer.Retries

set_option autoImplicit false

open Matrix

namespace FactorGraph

-- The gradient `Jᵀ r` of a system vanishes; the residual `r` is the negated right-hand side.
def LinearSystem.Stationary (system : LinearSystem ℝ) : Prop :=
  (system.jacobian.toMatrix system.rhs.length system.jacobian.cols)ᵀ *ᵥ
    vector system.rhs.length (system.rhs.map (- ·)) = 0

theorem Block.norm_zeros (n : ℕ) : Block.norm (List.replicate n (0 : ℝ)) = 0 := by
  have none : Block.largest (List.replicate n (0 : ℝ)) = 0 := by
    rw [largest]
    induction n with
    | zero => rfl
    | succ n ih => rwa [List.replicate_succ, List.foldl_cons, scalar_max_eq, scalar_abs_eq, abs_zero, max_self]
  have still : Block.dot (List.replicate n (0 : ℝ)) (List.replicate n 0) = 0 := by
    simp [dot_eq_sum]
  rw [norm, none, if_neg (fun positive => lt_irrefl 0 positive.1), still]
  exact Real.sqrt_zero

namespace Optimizer

def Base.of (values : Values ℝ) (error : ℝ) (system : LinearSystem ℝ) : Base ℝ :=
  ⟨values, error, system.jacobian, Block.column (system.rhs.map (- ·))⟩

-- An attempt that moves nothing: the solver answers with zeros, these lead from the estimate back to it, and the
-- attempt is refused.
structure StandsStill (method : Method ℝ) (problem : Problem ℝ) (base : Base ℝ) (a : Attempt ℝ) : Prop where
  answered : ∃ before after : Solver method,
    attempt method.linearSolver problem base a.damping before = (a.outcome, after) ∧
      (before.solve base.residual base.jacobian (some a.damping)).1 = .ok (List.replicate problem.layout.total 0)
  moved : ∃ updates, problem.layout.split (Block.column (List.replicate problem.layout.total 0)) = .ok updates ∧
    base.values.retract updates = .ok base.values
  refused : ∃ trial, a.outcome = .ok trial ∧ trial.values = base.values ∧ trial.error = base.error ∧ trial.stepNorm = 0 ∧
    improves base trial = false

section Attempt

variable (method : Method ℝ) (config : Config ℝ) (graph : Graph ℝ) (values : Values ℝ) (error : ℝ) (system : LinearSystem ℝ)

theorem zero_step_refused (evaluated : graph.error values = .ok error) (lambda : ℝ) (gradient? : Option (List ℝ)) : ∃ trial,
    evaluateStep ⟨graph, .ofValues values, config⟩ (.of values error system) lambda
        (List.replicate (Layout.ofValues values).total 0) gradient? = .ok trial ∧
      trial.values = values ∧ trial.error = error ∧ trial.stepNorm = 0 ∧
      improves (.of values error system) trial = false := by
  let zeros := List.replicate (Layout.ofValues values).total (0 : ℝ)
  let gain := gainRatio error error ((gradient?.map (predictedReduction zeros · lambda)).getD 0)
  refine ⟨⟨values, error, 0, (gradient?.map Block.norm).getD 0, gain⟩, (evaluate_step_ok_iff _ _ _ _ _ _).mpr
    ⟨⟨_, Layout.split_zero values, values.retract_zero⟩, evaluated, (Block.norm_zeros _).symm, rfl, rfl⟩, rfl, rfl, rfl, ?_⟩
  simp [improves, Base.of]

variable (linear : LinearGraph ℝ) (assembled : linear.toSparse (.ofValues values) = .ok system)

include assembled

theorem stationary_solve (stationary : system.Stationary) (lambda : ℝ) (positive : 0 < lambda)
    (exact : method.SolvesExactly system.jacobian.cols (system.jacobian.gram.addDiagonal lambda)) (solver : Solver method)
    (ready : solver.Reached) :
    (solver.solve (Block.column (system.rhs.map (- ·))) system.jacobian (some lambda)).1 =
      .ok (List.replicate (Layout.ofValues values).total 0) := by
  -- Damped systems are regular, so that zero is the only solution for a zero right-hand side.
  obtain ⟨height, cols, length, _⟩ := linear.to_sparse_inside _ (Layout.of_values_inside values) system assembled
  obtain ⟨s, solves, solved⟩ :=
    solver.solve_damped _ system.jacobian system.rhs lambda rfl (height.trans length.symm) positive exact ready
  have flat : (system.jacobian.toMatrix system.rhs.length system.jacobian.cols)ᵀ *ᵥ
      vector system.rhs.length system.rhs = 0 := by
    rwa [LinearSystem.Stationary, Solver.vector_neg, mulVec_neg, neg_eq_zero] at stationary
  have still : s = 0 := (step_eq_zero_iff _ _ _ _ lambda s solved positive).mpr flat
  rw [solves, still, ← cols]
  exact congrArg Except.ok (List.ofFn_const _ 0)

theorem stationary_attempt (evaluated : graph.error values = .ok error) (stationary : system.Stationary) (a : Attempt ℝ)
    (positive : 0 < a.damping)
    (exact : method.SolvesExactly system.jacobian.cols (system.jacobian.gram.addDiagonal a.damping))
    (before after : Solver method) (ready : before.Reached)
    (tried : attempt method.linearSolver ⟨graph, .ofValues values, config⟩ (.of values error system) a.damping before =
      (a.outcome, after)) :
    StandsStill method ⟨graph, .ofValues values, config⟩ (.of values error system) a := by
  have zeros := stationary_solve method values system linear assembled stationary a.damping positive exact before ready
  refine ⟨⟨before, after, tried, zeros⟩, ⟨_, Layout.split_zero values, values.retract_zero⟩, ?_⟩
  have outcome := congrArg Prod.fst tried
  unfold attempt at outcome
  split at outcome
  · rename_i failed
    cases (congrArg Prod.fst failed).symm.trans zeros
  · rename_i step state answer
    obtain rfl := Except.ok.inj ((congrArg Prod.fst answer).symm.trans zeros)
    obtain ⟨trial, made, refused⟩ := zero_step_refused config graph values error system evaluated a.damping
      (method.linearSolver.gradient? state)
    exact ⟨trial, outcome.symm.trans made, refused⟩

end Attempt

section Tries

variable {α σ : Type} [Scalar α]

theorem tries_all_refused (solver : LinearSolver α σ) (problem : Problem α) (base : Base α) (remaining : ℕ)
    (damping : Damping α) (state last : σ) (iteration : Iteration α)
    (tries : Tries solver problem base remaining damping state iteration last)
    (each : ∀ a ∈ iteration.attempts, Refused base a.outcome) : iteration.verdict = .exhausted := by
  obtain ⟨refused, closing, attempts, _, closes⟩ := tries_closing _ _ _ _ _ _ _ _ tries
  rw [attempts, List.forall_mem_append] at each
  generalize iteration.verdict = verdict at closes
  cases closes with
  | accepted lambda trial better =>
      have worse : improves base trial = false := each.2 _ (List.mem_singleton_self _)
      rw [better] at worse
      cases worse
  | fatal lambda e beyond =>
      have mendable : e.recoverable = true := each.2 _ (List.mem_singleton_self _)
      rw [beyond] at mendable
      cases mendable
  | exhausted => rfl

theorem course_surrenders (solver : LinearSolver α σ) (problem : Problem α) (remaining done : ℕ) (state : State α σ)
    (iterations : List (Iteration α)) (damping : Damping α) (ending : Except (OptimizerError α) Status)
    (course : Course solver problem remaining done state iterations damping ending) (iteration : Iteration α)
    (mem : iteration ∈ iterations) (verdict : iteration.verdict = .exhausted) : ending = surrender iteration := by
  induction course with
  | converged | budget | aborted | broken => cases mem
  | fatal remaining done state base only last e begins tries other =>
      rw [List.mem_singleton.mp mem, other] at verdict
      cases verdict
  | surrendered remaining done state base only last begins tries other =>
      rw [List.mem_singleton.mp mem]
  | settled remaining done state base only last trial begins tries other =>
      rw [List.mem_singleton.mp mem, other] at verdict
      cases verdict
  | onward remaining done state base first last trial rest damping ending begins tries other large others ih =>
      rcases List.mem_cons.mp mem with rfl | later
      · rw [other] at verdict
        cases verdict
      · exact ih later

theorem course_iterates (solver : LinearSolver α σ) (problem : Problem α) (remaining done : ℕ) (state : State α σ)
    (iterations : List (Iteration α)) (damping : Damping α) (ending : Except (OptimizerError α) Status)
    (course : Course solver problem remaining done state iterations damping ending) (base : Base α)
    (begins : Begins problem done state base) (some : remaining ≠ 0) : iterations ≠ [] := by
  cases course with
  | converged _ _ _ low => exact absurd low begins.unconverged
  | budget => exact absurd rfl some
  | aborted _ _ _ _ signal =>
      rw [begins.undisturbed] at signal
      cases signal
  | broken _ _ _ _ _ _ failed =>
      rw [begins.linear] at failed
      cases failed
  | fatal | surrendered | settled | onward => exact List.cons_ne_nil _ _

theorem surrender_evaluated (iteration : Iteration α) (some : iteration.attempts ≠ [])
    (evaluated : ∀ a ∈ iteration.attempts, ∃ trial, a.outcome = .ok trial) :
    surrender iteration = .ok (if iteration.damping.atLimit then .dampingLimit else .noDecrease) := by
  obtain ⟨⟨lambda, outcome⟩, last⟩ := Option.isSome_iff_exists.mp (List.getLast?_isSome.mpr some)
  obtain ⟨trial, rfl⟩ : ∃ trial, outcome = .ok trial := evaluated _ (List.mem_of_getLast? last)
  rw [surrender, last]
  dsimp only
  split <;> rfl

end Tries

theorem exhausted_at_limit_iff {σ : Type} (solver : LinearSolver ℝ σ) (problem : Problem ℝ) (base : Base ℝ) (remaining : ℕ)
    (start : Damping ℝ) (state last : σ) (iteration : Iteration ℝ) (config : Config ℝ) (valid : config.validate = .ok ())
    (fresh : Damping.Fresh config start)
    (tries : Tries solver problem base (remaining + 1) start state iteration last)
    (verdict : iteration.verdict = .exhausted) : iteration.damping.atLimit = true ↔
      ∃ k, 1 ≤ k ∧ k ≤ remaining + 1 ∧ config.dampingMax ≤ start.lambda * 2 ^ (k * (k + 1) / 2) := by
  obtain ⟨K, least⟩ := Damping.limit_exists config start fresh valid
  have count := tries_exhausted _ _ _ _ _ _ _ _ config valid fresh K least tries verdict
  have some := List.length_pos_of_ne_nil (tries_attempted _ _ _ _ _ _ _ _ tries)
  have leaves := tries_leaves _ _ _ _ _ _ _ _ tries
  rw [Leaves, verdict] at leaves
  rw [leaves, Damping.at_limit_iff config valid start fresh _ some]
  constructor
  · intro top
    exact ⟨_, some, count ▸ min_le_left _ _, top⟩
  · rintro ⟨k, positive, inside, top⟩
    have reached : K ≤ remaining + 1 := (least.2 ⟨positive, top⟩).trans inside
    rw [count, min_eq_right reached]
    exact least.1.2

section Run

variable (method : Method ℝ) (config : Config ℝ) (graph : Graph ℝ) (initial : Values ℝ) (run : Run ℝ)
  (reached : Optimizer.run method.linearSolver config graph initial = .ok run)

include reached

theorem run_begins (i : ℕ) (iteration : Iteration ℝ) (here : run.iterations[i]? = some iteration) :
    ∃ state : State ℝ (Solver method), state.values = run.estimate i ∧ state.values.shape = initial.shape ∧
      state.solver.Reached ∧ graph.error state.values = .ok state.error ∧
      MadeFrom method.linearSolver ⟨graph, .ofValues initial, config⟩ i state iteration := by
  obtain ⟨_, _, same, evaluated, _, course⟩ := run_ok _ _ _ _ _ reached
  obtain ⟨inside, rfl⟩ := List.getElem?_eq_some_iff.mp here
  have visits := course_visits method.linearSolver _
    (fun state => state.values.shape = initial.shape ∧ state.solver.Reached ∧ graph.error state.values = .ok state.error)
    (fun done state base iteration last trial held begins tries verdict => by
      obtain ⟨_, error, updates, moved⟩ := tries_accepted _ _ _ _ _ _ _ _ _ tries verdict
      rw [(linearize_ok _ _ _ _ begins.linear).1] at moved
      refine ⟨(Values.retract_shape _ _ _ moved).trans held.1, ?_, error⟩
      have keeps := tries_keeps method.linearSolver Solver.Reached (fun state _ _ _ ready => .solved state _ _ _ ready)
      exact (keeps _ _ _ _ _ _ _ tries held.2.1).1)
    _ _ _ _ _ _ course ⟨rfl, .start, evaluated⟩
  obtain ⟨state, ⟨shape, ready, error⟩, values, made⟩ := visits i inside.le
  refine ⟨state, ?_, shape, ready, error, by simpa using made inside⟩
  rw [values, Run.estimate, same]
  rfl

section Stationary

variable (i : ℕ) (iteration : Iteration ℝ) (here : run.iterations[i]? = some iteration) (linear : LinearGraph ℝ)
  (system : LinearSystem ℝ) (linearized : graph.linearize (run.estimate i) = .ok linear)
  (assembled : linear.toSparse (.ofValues (run.estimate i)) = .ok system) (stationary : system.Stationary)
  (exact : method = .cholesky ∨ ∀ a ∈ iteration.attempts,
    method.SolvesExactly system.jacobian.cols (system.jacobian.gram.addDiagonal a.damping))

include here linearized assembled stationary exact

theorem stationary_iteration : ∃ error, graph.error (run.estimate i) = .ok error ∧
    linearize ⟨graph, .ofValues initial, config⟩ (run.estimate i) error = .ok (.of (run.estimate i) error system) ∧
    iteration.verdict = .exhausted ∧ iteration.attempts ≠ [] ∧
    ∀ a ∈ iteration.attempts,
      StandsStill method ⟨graph, .ofValues initial, config⟩ (.of (run.estimate i) error system) a := by
  obtain ⟨state, values, shape, ready, error, base, last, begins, tries⟩ :=
    run_begins method config graph initial run reached i iteration here
  rw [values] at shape error
  have layout := Layout.of_values_of_shape _ _ shape
  have model : linearize ⟨graph, .ofValues initial, config⟩ (run.estimate i) state.error =
      .ok (.of (run.estimate i) state.error system) := by
    rw [← layout]
    simp only [linearize, linearized, assembled, Except.mapError, Outcome.ok_bind, Outcome.return_ok]
    rfl
  obtain rfl : base = .of (run.estimate i) state.error system :=
    Except.ok.inj (begins.linear.symm.trans (values ▸ model))
  have still : ∀ a ∈ iteration.attempts,
      StandsStill method ⟨graph, .ofValues initial, config⟩ (.of (run.estimate i) state.error system) a := by
    intro a mem
    have positive : 0 < a.damping := run_damping_pos _ config graph initial run reached a
      (List.mem_flatMap.mpr ⟨iteration, List.mem_of_getElem? here, mem⟩)
    obtain ⟨height, _, length, _⟩ := linear.to_sparse_inside _ (Layout.of_values_inside _) system assembled
    have exactly : method.SolvesExactly system.jacobian.cols (system.jacobian.gram.addDiagonal a.damping) := by
      rcases exact with rfl | exact
      · exact Method.cholesky_solves_damped _ _ system.jacobian rfl (height.trans length.symm) _ positive
      · exact exact a mem
    obtain ⟨before, after, ready, tried⟩ := (tries_keeps method.linearSolver Solver.Reached
      (fun state _ _ _ ready => .solved state _ _ _ ready) _ _ _ _ _ _ _ tries ready).2 a mem
    rw [← layout] at tried ⊢
    exact stationary_attempt method config graph _ _ system linear assembled error stationary a positive exactly before after
      ready tried
  refine ⟨state.error, error, model, ?_, tries_attempted _ _ _ _ _ _ _ _ tries, still⟩
  refine tries_all_refused _ _ _ _ _ _ _ _ tries fun a mem => ?_
  obtain ⟨trial, outcome, _, _, _, worse⟩ := (still a mem).refused
  rw [outcome]
  exact worse

end Stationary

end Run

/-- A zero tangent vector leaves every value where it is. So where an iteration begins at an estimate at which the gradient
vanishes and its systems are solved exactly, as all are by Cholesky factors, each attempt stands still, and the run ends
there; the status tells whether the attempts that are allowed raise the damping to its limit. -/
theorem stationary_run_stops :
    (∀ value : Value ℝ, value.retract (List.replicate value.dimension 0) = .ok value) ∧
    ∀ (method : Method ℝ) (config : Config ℝ) (graph : Graph ℝ) (initial : Values ℝ) (run : Run ℝ),
      Optimizer.run method.linearSolver config graph initial = .ok run →
      ∀ (i : ℕ) (start : Damping ℝ) (iteration : Iteration ℝ) (linear : LinearGraph ℝ) (system : LinearSystem ℝ),
      (run.dampings config)[i]? = some start → run.iterations[i]? = some iteration →
      graph.linearize (run.estimate i) = .ok linear →
      linear.toSparse (.ofValues (run.estimate i)) = .ok system → system.Stationary →
      (method = .cholesky ∨ ∀ a ∈ iteration.attempts,
        method.SolvesExactly system.jacobian.cols (system.jacobian.gram.addDiagonal a.damping)) →
      let problem : Problem ℝ := ⟨graph, .ofValues initial, config⟩
      let limited := ∃ k, 1 ≤ k ∧ k ≤ config.maxRetries + 1 ∧ config.dampingMax ≤ start.lambda * 2 ^ (k * (k + 1) / 2)
      (∃ error, graph.error (run.estimate i) = .ok error ∧
        linearize problem (run.estimate i) error = .ok (.of (run.estimate i) error system) ∧
        iteration.attempts ≠ [] ∧
        ∀ a ∈ iteration.attempts, StandsStill method problem (.of (run.estimate i) error system) a) ∧
      ∃ result, optimize method.linearSolver config graph initial = .ok result ∧
        result.values = run.estimate i ∧ result.iterations = i + 1 ∧
        (limited → result.status = .dampingLimit) ∧ (¬ limited → result.status = .noDecrease) := by
  refine ⟨Value.retract_zero, fun method config graph initial run reached i start iteration linear system starts here
    linearized assembled stationary exact => ?_⟩
  intro problem limited
  obtain ⟨error, evaluated, model, verdict, some, still⟩ := stationary_iteration method config graph initial run reached i
    iteration here linear system linearized assembled stationary exact
  have unaccepted : iteration.accepted? = none := by rw [Iteration.accepted?, verdict]
  obtain ⟨inside, rfl⟩ := List.getElem?_eq_some_iff.mp here
  obtain ⟨⟨base, before, after, tries⟩, last⟩ := run_iteration _ config graph initial run reached i start _ starts here
  have fresh := run_fresh _ config graph initial run reached i start starts inside
  obtain ⟨valid, _, _, _, _, course⟩ := run_ok _ _ _ _ _ reached
  -- An iteration that accepts nothing is the last one, and its attempts were evaluated.
  have ending := (course_surrenders _ _ _ _ _ _ _ _ course _ (List.getElem_mem inside) verdict).trans
    (surrender_evaluated _ some fun a mem => by
      obtain ⟨trial, outcome, _⟩ := (still a mem).refused
      exact ⟨trial, outcome⟩)
  have limit := exhausted_at_limit_iff _ _ _ _ start _ _ _ config valid fresh tries verdict
  refine ⟨⟨error, evaluated, model, some, still⟩, report method.linearSolver config graph run
    (if run.iterations[i].damping.atLimit then .dampingLimit else .noDecrease), ?_, ?_, last unaccepted, fun reachable => ?_,
    fun unreachable => ?_⟩
  · rw [optimize, reached, Outcome.ok_bind, ending, Outcome.ok_bind]
    rfl
  · change run.values = _
    rw [← run.estimate_last, last unaccepted, Run.estimate, Run.estimate, List.take_add_one, here, List.foldl_append]
    simp [Iteration.leadsTo, unaccepted]
  · exact if_pos (limit.mpr reachable)
  · exact if_neg (mt limit.mp unreachable)

noncomputable def briefConfig (greatest : ℝ) : Config ℝ :=
  { halfwayProblem.config with maxRetries := 1, dampingMax := greatest }

theorem brief_valid (greatest : ℝ) (large : 1 ≤ greatest) : (briefConfig greatest).validate = .ok () := by
  rw [Config.validate_ok_iff]
  refine ⟨one_ne_zero, ⟨?_, le_rfl⟩, one_pos, le_rfl, large⟩
  norm_num [briefConfig, halfwayProblem, Config.standard]

theorem centred_run (greatest : ℝ) (large : 1 ≤ greatest) : ∃ run iteration,
    Optimizer.run Method.cholesky.linearSolver (briefConfig greatest) (pulls (-1) 1) (oneNumberAt 0) = .ok run ∧
      run.iterations[0]? = some iteration ∧ run.estimate 0 = oneNumberAt 0 := by
  have error : Graph.error (pulls (-1) 1) (oneNumberAt 0) = .ok 2 := by
    rw [pulls_error]
    norm_num
  have first : firstError (briefConfig greatest) (pulls (-1) 1) (oneNumberAt 0) = .ok 2 := by
    rw [firstError, brief_valid greatest large, error]
    rfl
  have reached : Optimizer.run Method.cholesky.linearSolver (briefConfig greatest) (pulls (-1) 1) (oneNumberAt 0) =
      .ok (runFrom Method.cholesky.linearSolver (briefConfig greatest) (pulls (-1) 1) (oneNumberAt 0) 2) := by
    rw [run_eq, first]
    rfl
  obtain ⟨_, _, _, _, _, course⟩ := run_ok _ _ _ _ _ reached
  have high : ¬ (2 : ℝ) ≤ (briefConfig greatest).absoluteTolerance := by norm_num [briefConfig, halfwayProblem]
  have some := course_iterates _ _ _ _ _ _ _ _ course (pulledBase (-1) 1 0 2) ⟨high, rfl, rfl⟩ one_ne_zero
  exact ⟨_, _, reached, List.getElem?_eq_getElem (List.length_pos_of_ne_nil some), rfl⟩

theorem centred_stationary : ∃ linear system, Graph.linearize (pulls (-1) 1) (oneNumberAt 0) = .ok linear ∧
    linear.toSparse (.ofValues (oneNumberAt 0)) = .ok system ∧ system.Stationary := by
  refine ⟨_, ⟨pulledRows, [-(0 - -1), -(0 - 1)]⟩, rfl, rfl, ?_⟩
  have gradient : pulledRows.transposeMulVec [- -(0 - -1), - -(0 - 1)] = [(0 : ℝ)] := by
    have unfolded : pulledRows.transposeMulVec [- -(0 - -1), - -(0 - 1)] =
        [(0 + 1 * (- -(0 - -1)) + 1 * (- -(0 - 1)) : ℝ)] := rfl
    rw [unfolded]
    norm_num
  change (pulledRows.toMatrix 2 pulledRows.cols)ᵀ *ᵥ vector 2 [- -(0 - -1), - -(0 - 1)] = 0
  rw [← pulledRows.to_matrix_transpose_mul_vec 2 _ le_rfl, gradient]
  exact (vector_eq_zero_iff 1 [0] rfl).mpr (by simp)

theorem stationary_run_stops_centred :
    (∃ result, optimize Method.cholesky.linearSolver (briefConfig 8) (pulls (-1) 1) (oneNumberAt 0) = .ok result ∧
      result.values = oneNumberAt 0 ∧ result.iterations = 1 ∧ result.status = .dampingLimit) ∧
    ∃ result, optimize Method.cholesky.linearSolver (briefConfig 9) (pulls (-1) 1) (oneNumberAt 0) = .ok result ∧
      result.values = oneNumberAt 0 ∧ result.iterations = 1 ∧ result.status = .noDecrease := by
  obtain ⟨linear, system, linearized, assembled, stationary⟩ := centred_stationary
  obtain ⟨_, stops⟩ := stationary_run_stops
  have start (greatest : ℝ) : (Damping.start (briefConfig greatest)).lambda = 1 := rfl
  have bound (greatest : ℝ) : (briefConfig greatest).dampingMax = greatest := rfl
  constructor
  · obtain ⟨run, iteration, reached, here, first⟩ := centred_run 8 (by norm_num)
    obtain ⟨_, result, finished, values, count, top, _⟩ := stops .cholesky _ _ _ run reached 0 _ iteration linear system rfl
      here (first ▸ linearized) (first ▸ assembled) stationary (.inl rfl)
    refine ⟨result, finished, values.trans first, count, top ⟨2, one_le_two, le_rfl, ?_⟩⟩
    rw [start, bound]
    norm_num
  · obtain ⟨run, iteration, reached, here, first⟩ := centred_run 9 (by norm_num)
    obtain ⟨_, result, finished, values, count, _, room⟩ := stops .cholesky _ _ _ run reached 0 _ iteration linear system rfl
      here (first ▸ linearized) (first ▸ assembled) stationary (.inl rfl)
    refine ⟨result, finished, values.trans first, count, room ?_⟩
    rintro ⟨k, some, few, limit⟩
    rw [start, bound] at limit
    have two : k ≤ 2 := few
    interval_cases k <;> norm_num at limit

end Optimizer

end FactorGraph
