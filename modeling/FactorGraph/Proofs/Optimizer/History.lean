import FactorGraph.Proofs.Optimizer.Course

set_option autoImplicit false

namespace FactorGraph.Optimizer

variable {α σ : Type} [Scalar α]

inductive Descent (graph : Graph α) : Values α → α → List (Trial α) → Prop where
  | rest (values : Values α) (error : α) : Descent graph values error []
  | step (values : Values α) (error : α) (trial : Trial α) (others : List (Trial α))
      (moved : ∃ updates, values.retract updates = .ok trial.values)
      (evaluated : graph.error trial.values = .ok trial.error)
      (finite : Scalar.isFinite trial.error = true) (lower : trial.error < error)
      (further : Descent graph trial.values trial.error others) :
      Descent graph values error (trial :: others)

theorem descent_member (graph : Graph α) (values : Values α) (error : α) (trials : List (Trial α))
    (descent : Descent graph values error trials) :
    ∀ trial ∈ trials, graph.error trial.values = .ok trial.error ∧ Scalar.isFinite trial.error = true := by
  induction descent with
  | rest => simp
  | step values error trial others moved evaluated finite lower further ih =>
      intro t mem
      rcases List.mem_cons.mp mem with rfl | later
      · exact ⟨evaluated, finite⟩
      · exact ih t later

theorem descent_decreasing (graph : Graph α) (values : Values α) (error : α) (trials : List (Trial α))
    (descent : Descent graph values error trials) :
    (error :: trials.map (·.error)).IsChain fun before after => after < before := by
  induction descent with
  | rest => simp
  | step values error trial others moved evaluated finite lower further ih =>
      exact List.isChain_cons_cons.mpr ⟨lower, ih⟩

theorem descent_moves (graph : Graph α) (values : Values α) (error : α) (trials : List (Trial α))
    (descent : Descent graph values error trials) :
    (values :: trials.map (·.values)).IsChain fun before after =>
      ∃ updates, before.retract updates = .ok after := by
  induction descent with
  | rest => simp
  | step values error trial others moved evaluated finite lower further ih =>
      exact List.isChain_cons_cons.mpr ⟨moved, ih⟩

theorem descent_errors (graph : Graph α) (values : Values α) (error : α) (trials : List (Trial α))
    (evaluated : graph.error values = .ok error) (descent : Descent graph values error trials) :
    List.Forall₂ (fun estimate e => graph.error estimate = .ok e)
      (values :: trials.map (·.values)) (error :: trials.map (·.error)) := by
  induction descent with
  | rest => exact .cons evaluated .nil
  | step values error trial others moved here finite lower further ih =>
      exact .cons evaluated (ih here)

theorem tries_accepted (solver : LinearSolver α σ) (problem : Problem α) (base : Base α)
    (remaining : Nat) (damping : Damping α) (state last : σ) (iteration : Iteration α) (trial : Trial α)
    (tries : Tries solver problem base remaining damping state iteration last)
    (verdict : iteration.verdict = .accepted trial) :
    improves base trial = true ∧ problem.graph.error trial.values = .ok trial.error ∧
      ∃ updates, base.values.retract updates = .ok trial.values := by
  induction tries with
  | spent => cases verdict
  | accepted remaining damping state next candidate solved better =>
      cases verdict
      obtain ⟨step, _, evaluated⟩ := attempt_ok _ _ _ _ _ _ _ solved
      obtain ⟨updates, _, moved⟩ := evaluated.moved
      exact ⟨better, evaluated.error, updates, moved⟩
  | fatal => cases verdict
  | limit => cases verdict
  | again remaining damping state next last outcome rest tried refused room others ih => exact ih verdict

theorem accepted_descends (solver : LinearSolver α σ) (problem : Problem α) (done : Nat)
    (state : State α σ) (base : Base α) (iteration : Iteration α) (last : σ) (trial : Trial α)
    (trials : List (Trial α)) (begins : Begins problem done state base)
    (tries : Tries solver problem base (problem.config.maxRetries + 1) state.damping state.solver iteration last)
    (verdict : iteration.verdict = .accepted trial)
    (further : Descent problem.graph trial.values trial.error trials) :
    Descent problem.graph state.values state.error (trial :: trials) := by
  obtain ⟨better, evaluated, updates, moved⟩ := tries_accepted _ _ _ _ _ _ _ _ _ tries verdict
  obtain ⟨sameValues, sameError, _⟩ := linearize_ok _ _ _ _ begins.linear
  rw [sameValues] at moved
  simp only [improves, Bool.and_eq_true, decide_eq_true_eq, sameError] at better
  exact .step _ _ _ _ ⟨updates, moved⟩ evaluated better.1 better.2 further

theorem course_descends (solver : LinearSolver α σ) (problem : Problem α) (remaining done : Nat)
    (state : State α σ) (iterations : List (Iteration α)) (damping : Damping α)
    (ending : Except (OptimizerError α) Status)
    (course : Course solver problem remaining done state iterations damping ending) :
    Descent problem.graph state.values state.error (iterations.filterMap (·.accepted?)) := by
  induction course with
  | converged | budget | aborted | broken => exact .rest _ _
  | fatal remaining done state base iteration last e begins tries verdict =>
      simpa [Iteration.accepted?, verdict] using Descent.rest state.values state.error
  | surrendered remaining done state base iteration last begins tries verdict =>
      simpa [Iteration.accepted?, verdict] using Descent.rest state.values state.error
  | settled remaining done state base iteration last trial begins tries verdict small =>
      simpa [Iteration.accepted?, verdict] using
        accepted_descends _ _ _ _ _ _ _ _ [] begins tries verdict (.rest _ _)
  | onward remaining done state base iteration last trial rest damping ending begins tries verdict large
      others ih =>
      simpa [Iteration.accepted?, verdict] using
        accepted_descends _ _ _ _ _ _ _ _ _ begins tries verdict ih

end FactorGraph.Optimizer

namespace FactorGraph.Run

variable {α : Type}

theorem values_last (run : Run α) :
    (run.initial :: run.accepted.map (·.values)).getLast? = some run.values := by
  rw [values, List.getLast?_cons, List.getLast?_map]
  cases run.accepted.getLast? <;> rfl

theorem history_last (run : Run α) : run.history.getLast? = some run.error := by
  rw [history, error, List.getLast?_cons, List.getLast?_map]
  cases run.accepted.getLast? <;> rfl

end FactorGraph.Run

namespace FactorGraph.Optimizer

variable {α σ : Type} [Scalar α]

theorem optimize_ok (solver : LinearSolver α σ) (config : Config α) (graph : Graph α)
    (initial : Values α) (result : OptimizationResult α)
    (finished : optimize solver config graph initial = .ok result) :
    ∃ run status, Optimizer.run solver config graph initial = .ok run ∧ run.ending = .ok status ∧
      result = report solver config graph run status := by
  obtain ⟨run, reached, finished⟩ := (Outcome.bind_ok_iff _ _ _).mp finished
  obtain ⟨status, ended, finished⟩ := (Outcome.bind_ok_iff _ _ _).mp finished
  cases finished
  exact ⟨run, status, reached, ended, rfl⟩

theorem optimize_history_descends (solver : LinearSolver α σ) (config : Config α) (graph : Graph α)
    (initial : Values α) (result : OptimizationResult α)
    (finished : optimize solver config graph initial = .ok result) :
    graph.error initial = .ok result.initialError ∧
    result.history.head? = some result.initialError ∧
    (∀ e ∈ result.history, Scalar.isFinite e = true) ∧
    (result.history.IsChain fun before after => after < before) ∧
    result.history.getLast? = some result.finalError ∧
    result.history.length = result.statistics.accepted + 1 ∧
    graph.error result.values = .ok result.finalError ∧
    (result.statistics.accepted = 0 → result.values = initial) ∧
    ∃ estimates : List (Values α),
      estimates.head? = some initial ∧ estimates.getLast? = some result.values ∧
      List.Forall₂ (fun estimate e => graph.error estimate = .ok e) estimates result.history ∧
      estimates.IsChain fun before after => ∃ updates, before.retract updates = .ok after := by
  obtain ⟨run, status, reached, _, rfl⟩ := optimize_ok _ _ _ _ _ finished
  obtain ⟨_, _, rfl, evaluated, finite, course⟩ := run_ok _ _ _ _ _ reached
  have descent : Descent graph run.initial run.initialError run.accepted :=
    course_descends _ _ _ _ _ _ _ _ course
  have errors := descent_errors _ _ _ _ evaluated descent
  refine ⟨evaluated, rfl, ?_, descent_decreasing _ _ _ _ descent, run.history_last, ?_, ?_, ?_,
    run.initial :: run.accepted.map (·.values), rfl, run.values_last, errors, descent_moves _ _ _ _ descent⟩
  · intro e mem
    rcases List.mem_cons.mp mem with rfl | later
    · exact finite
    · obtain ⟨trial, inside, rfl⟩ := List.mem_map.mp later
      exact (descent_member _ _ _ _ descent trial inside).2
  · simp [report, Run.history, Run.statistics]
  · simp only [report, Run.values, Run.error]
    cases last : run.accepted.getLast? with
    | none => exact evaluated
    | some trial => exact (descent_member _ _ _ _ descent trial (List.mem_of_getLast? last)).1
  · intro none
    have empty : run.accepted = [] := List.eq_nil_of_length_eq_zero none
    simp [report, Run.values, empty]

def prepared (answers : List (Except SolveError (List α))) :
    LinearSolver α (List (Except SolveError (List α))) where
  start := answers
  solve
    | [], _, _, _ => (.error .singular, [])
    | answer :: rest, _, _, _ => (answer, rest)
  gradient? _ := none
  covariance? _ := none

def halfGraph : Graph Float :=
  [⟨[⟨'x', 0⟩], Factor.prior [(0.5 : Float)], .unit 1, .equality, rfl, by simp⟩]

def halfStart : Values Float := SortedMap.empty.insert ⟨'x', 0⟩ (.vector [2.0])

-- A singular system and a step in the wrong direction come before the step that is accepted.
theorem optimize_history_descends_past_refusals :
    ∃ result, optimize (prepared [.error .singular, .ok [10.0], .ok [-1.5]]) .standard
        halfGraph halfStart = .ok result ∧ result.statistics.rejected = 2 ∧
      result.history.length = result.statistics.accepted + 1 ∧
      (result.history.IsChain fun before after => after < before) ∧
      halfGraph.error result.values = .ok result.finalError := by
  obtain ⟨result, finished, rejected⟩ := Outcome.passes_ok (·.statistics.rejected == 2)
    (optimize (prepared [.error .singular, .ok [10.0], .ok [-1.5]]) .standard halfGraph halfStart) (by decide +kernel)
  obtain ⟨_, _, _, decreasing, _, length, evaluated, _⟩ :=
    optimize_history_descends _ _ _ _ result finished
  exact ⟨result, finished, by simpa using rejected, length, decreasing, evaluated⟩

end FactorGraph.Optimizer
