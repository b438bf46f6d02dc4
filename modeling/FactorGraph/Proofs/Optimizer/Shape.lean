import FactorGraph.Proofs.Graph.Linearization
import FactorGraph.Proofs.Linear.Plan
import FactorGraph.Proofs.Optimizer.History

set_option autoImplicit false

namespace FactorGraph

variable {α : Type}

def Iteration.leadsTo (values : Values α) (iteration : Iteration α) : Values α :=
  match iteration.accepted? with
  | none => values
  | some trial => trial.values

def Run.estimate (run : Run α) (count : Nat) : Values α :=
  (run.iterations.take count).foldl Iteration.leadsTo run.initial

def OptimizerError.ReportsMissing : OptimizerError α → Prop
  | .graph (.missingKey _) => True
  | .retriesExhausted _ cause => cause.ReportsMissing
  | _ => False

theorem SolverChoice.method_fits [Scalar α] (choice : SolverChoice) : (choice.method : Method α).Fits := by
  cases choice with
  | cholesky => exact Method.cholesky_fits
  | qr => exact Method.qr_fits

namespace Optimizer

variable {σ : Type} [Scalar α]

section Visits

variable (solver : LinearSolver α σ) (problem : Problem α)

def MadeFrom (done : Nat) (state : State α σ) (iteration : Iteration α) : Prop :=
  ∃ base last, Begins problem done state base ∧
    Tries solver problem base (problem.config.maxRetries + 1) state.damping state.solver iteration last

theorem last_visits (holds : State α σ → Prop) (done : Nat) (state after : State α σ) (iteration : Iteration α)
    (start : holds state) (made : MadeFrom solver problem done state iteration) (finish : holds after)
    (led : after.values = iteration.leadsTo state.values) :
    ∀ i ≤ [iteration].length, ∃ visited : State α σ, holds visited ∧
      visited.values = ([iteration].take i).foldl Iteration.leadsTo state.values ∧
      ∀ inside : i < [iteration].length, MadeFrom solver problem (done + i) visited [iteration][i] := by
  intro i bound
  match i, bound with
  | 0, _ => exact ⟨state, start, rfl, fun _ => made⟩
  | 1, _ => exact ⟨after, finish, led, fun inside => absurd inside (Nat.lt_irrefl 1)⟩

theorem course_visits (holds : State α σ → Prop)
    (keeps : ∀ done state base iteration last trial, holds state → Begins problem done state base →
      Tries solver problem base (problem.config.maxRetries + 1) state.damping state.solver iteration last →
      iteration.verdict = .accepted trial → holds ⟨trial.values, trial.error, iteration.damping, last⟩)
    (remaining done : Nat) (state : State α σ) (iterations : List (Iteration α)) (damping : Damping α)
    (ending : Except (OptimizerError α) Status)
    (course : Course solver problem remaining done state iterations damping ending) (start : holds state) :
    ∀ i ≤ iterations.length, ∃ visited : State α σ, holds visited ∧
      visited.values = (iterations.take i).foldl Iteration.leadsTo state.values ∧
      ∀ inside : i < iterations.length, MadeFrom solver problem (done + i) visited iterations[i] := by
  -- By induction on the course. Only an accepted step changes the state, and `keeps` says what it leaves.
  induction course with
  | converged | budget | aborted | broken =>
      intro i bound
      cases Nat.le_zero.mp bound
      exact ⟨_, start, rfl, fun inside => absurd inside (Nat.lt_irrefl 0)⟩
  | fatal remaining done state base iteration last e begins tries verdict =>
      exact last_visits solver problem holds done state state iteration start ⟨base, last, begins, tries⟩ start
        (by simp [Iteration.leadsTo, Iteration.accepted?, verdict])
  | surrendered remaining done state base iteration last begins tries verdict =>
      exact last_visits solver problem holds done state state iteration start ⟨base, last, begins, tries⟩ start
        (by simp [Iteration.leadsTo, Iteration.accepted?, verdict])
  | settled remaining done state base iteration last trial begins tries verdict small =>
      exact last_visits solver problem holds done state _ iteration start ⟨base, last, begins, tries⟩
        (keeps done state base iteration last trial start begins tries verdict)
        (by simp [Iteration.leadsTo, Iteration.accepted?, verdict])
  | onward remaining done state base iteration last trial rest damping ending begins tries verdict large
      others ih =>
      have next := keeps done state base iteration last trial start begins tries verdict
      intro i bound
      cases i with
      | zero => exact ⟨state, start, rfl, fun _ => ⟨base, last, begins, tries⟩⟩
      | succ i =>
          obtain ⟨visited, held, values, made⟩ := ih next i (Nat.le_of_succ_le_succ bound)
          refine ⟨visited, held, ?_, fun inside => ?_⟩
          · simpa [Iteration.leadsTo, Iteration.accepted?, verdict] using values
          · simpa [Nat.add_assoc, Nat.add_comm 1 i] using made (Nat.lt_of_succ_lt_succ inside)

theorem course_error (remaining done : Nat) (state : State α σ) (iterations : List (Iteration α))
    (damping : Damping α) (ending : Except (OptimizerError α) Status) (e : OptimizerError α)
    (course : Course solver problem remaining done state iterations damping ending)
    (failed : ending = .error e) :
    (∃ error, linearize problem (iterations.foldl Iteration.leadsTo state.values) error = .error e) ∨
    ∃ iteration ∈ iterations, ∃ a ∈ iteration.attempts, ∃ cause, a.outcome = .error cause ∧
      (e = cause ∨ e = .retriesExhausted iteration.attempts.length cause) := by
  induction course with
  | converged | budget | aborted | settled => cases failed
  | broken remaining done state cause high undisturbed broke =>
      cases failed
      exact .inl ⟨state.error, broke⟩
  | fatal remaining done state base iteration last cause begins tries verdict =>
      cases failed
      obtain ⟨_, refused, lambda, attempts, _⟩ := tries_fatal_last _ _ _ _ _ _ _ _ tries e verdict
      exact .inr ⟨iteration, by simp, ⟨lambda, .error e⟩, by simp [attempts], e, rfl, .inl rfl⟩
  | surrendered remaining done state base iteration last begins tries verdict =>
      obtain ⟨earlier, lambda, cause, attempts, given⟩ := surrender_exhausted iteration e failed
      exact .inr ⟨iteration, by simp, ⟨lambda, .error cause⟩, by simp [attempts], cause, rfl, .inr given⟩
  | onward remaining done state base iteration last trial rest damping ending begins tries verdict large
      others ih =>
      rcases ih failed with ⟨error, broke⟩ | ⟨other, mem, found⟩
      · left
        exact ⟨error, by simpa [Iteration.leadsTo, Iteration.accepted?, verdict] using broke⟩
      · exact .inr ⟨other, by simp [mem], found⟩

end Visits

theorem attempt_state (solver : LinearSolver α σ) (problem : Problem α) (base : Base α) (lambda : α) (state : σ) :
    (attempt solver problem base lambda state).2 =
      (solver.solve state base.residual base.jacobian (some lambda)).2 := by
  unfold attempt
  split
  · rename_i answer
    rw [answer]
  · rename_i answer
    rw [answer]

theorem attempt_keeps (solver : LinearSolver α σ) (holds : σ → Prop)
    (kept : ∀ state residual jacobian damping, holds state → holds (solver.solve state residual jacobian damping).2)
    (problem : Problem α) (base : Base α) (lambda : α) (state next : σ) (outcome : Except (OptimizerError α) (Trial α))
    (tried : attempt solver problem base lambda state = (outcome, next)) (ready : holds state) : holds next := by
  have left := attempt_state solver problem base lambda state
  rw [tried] at left
  change next = _ at left
  rw [left]
  exact kept state base.residual base.jacobian (some lambda) ready

theorem tries_keeps (solver : LinearSolver α σ) (holds : σ → Prop)
    (kept : ∀ state residual jacobian damping, holds state → holds (solver.solve state residual jacobian damping).2)
    (problem : Problem α) (base : Base α) (remaining : Nat) (damping : Damping α) (state last : σ) (iteration : Iteration α)
    (tries : Tries solver problem base remaining damping state iteration last) (ready : holds state) :
    holds last ∧ ∀ a ∈ iteration.attempts, ∃ before after : σ, holds before ∧
      attempt solver problem base a.damping before = (a.outcome, after) := by
  have next := attempt_keeps solver holds kept problem base
  induction tries with
  | spent => exact ⟨ready, by simp⟩
  | accepted remaining damping state after trial solved better =>
      exact ⟨next damping.lambda state after _ solved ready, by simpa using ⟨state, ready, after, solved⟩⟩
  | fatal remaining damping state after e failed beyond =>
      exact ⟨next damping.lambda state after _ failed ready, by simpa using ⟨state, ready, after, failed⟩⟩
  | limit remaining damping state after outcome tried refused top =>
      exact ⟨next damping.lambda state after _ tried ready, by simpa using ⟨state, ready, after, tried⟩⟩
  | again remaining damping state after last outcome rest tried refused room others ih =>
      obtain ⟨finish, each⟩ := ih (next damping.lambda state after _ tried ready)
      exact ⟨finish, List.forall_mem_cons.mpr ⟨⟨state, after, ready, tried⟩, each⟩⟩

theorem tries_planned {method : Method α} (problem : Problem α) (base : Base α) (remaining : Nat)
    (damping : Damping α) (state last : Solver method) (iteration : Iteration α)
    (tries : Tries method.linearSolver problem base remaining damping state iteration last)
    (planned : state.Planned) :
    last.Planned ∧ ∀ a ∈ iteration.attempts, ∃ before after : Solver method, before.Planned ∧
      attempt method.linearSolver problem base a.damping before = (a.outcome, after) :=
  tries_keeps method.linearSolver Solver.Planned
    (fun state residual jacobian damping ready => state.solve_planned ready residual jacobian damping) problem base
    remaining damping state last iteration tries planned

section Kept

variable {method : Method α} (config : Config α) (graph : Graph α) (first values : Values α)

theorem step_moves (fits : method.Fits) (same : values.shape = first.shape) (error : α) (base : Base α)
    (linear : linearize ⟨graph, .ofValues first, config⟩ values error = .ok base) (state : Solver method)
    (planned : state.Planned) (lambda : α) (step : List α)
    (answered : (state.solve base.residual base.jacobian (some lambda)).1 = .ok step) :
    ∃ updates candidate, (Layout.ofValues first).split (Block.column step) = .ok updates ∧
      base.values.retract updates = .ok candidate := by
  -- The solution is as long as the Jacobian has columns, and these are the rows of the layout.
  obtain ⟨rfl, _, factors, system, _, assembled, columns, _⟩ := linearize_ok _ _ _ _ linear
  obtain ⟨lists, _, rfl⟩ := factors.to_sparse_rows_of_ok _ system assembled
  obtain ⟨length, finite⟩ := Solver.solve_length fits state planned _ _ _ step answered
  rw [columns] at length
  have total : step.length = (Layout.ofValues base.values).total := by
    rw [length, Layout.of_values_of_shape base.values first same]
  rw [← Layout.of_values_of_shape base.values first same]
  exact Layout.retract_split base.values step total finite

theorem closed_keeps (same : values.shape = first.shape) (closed : Graph.Closed graph first) :
    Graph.Closed graph values := by
  intro f mem key inside
  rw [Values.keys_of_shape values first same]
  exact closed f mem key inside

theorem attempt_not_missing (fits : method.Fits) (same : values.shape = first.shape)
    (closed : Graph.Closed graph first) (error : α) (base : Base α)
    (linear : linearize ⟨graph, .ofValues first, config⟩ values error = .ok base) (state next : Solver method)
    (planned : state.Planned) (lambda : α) (e : OptimizerError α)
    (failed : attempt method.linearSolver ⟨graph, .ofValues first, config⟩ base lambda state = (.error e, next)) :
    ¬ e.ReportsMissing := by
  unfold attempt at failed
  split at failed
  · cases failed
    exact id
  · rename_i step after answer
    obtain ⟨updates, candidate, cut, moved⟩ := step_moves config graph first values fits same error base linear
      state planned lambda step (congrArg Prod.fst answer)
    have shape := (Values.retract_shape _ _ _ moved).trans
      ((congrArg Values.shape (linearize_ok _ _ _ _ linear).1).trans same)
    have evaluation := (Prod.mk.inj failed).1
    simp only [evaluateStep, cut, moved, Except.mapError, Outcome.ok_bind] at evaluation
    cases evaluated : Graph.error graph candidate with
    | ok error => simp [evaluated] at evaluation
    | error cause =>
        simp only [evaluated, Outcome.error_bind, Except.error.injEq] at evaluation
        subst evaluation
        cases cause with
        | missingKey key =>
            exact absurd evaluated (graph.error_not_missing candidate
              (closed_keeps graph first candidate shape closed) key)
        | _ => exact id

theorem linearize_not_reported (same : values.shape = first.shape) (closed : Graph.Closed graph first)
    (error : α) (e : OptimizerError α)
    (failed : linearize ⟨graph, .ofValues first, config⟩ values error = .error e) : ¬ e.ReportsMissing := by
  have known := closed_keeps graph first values same closed
  rcases (Outcome.bind_error_iff _ _ _).mp failed with linear | ⟨factors, linear, failed⟩
  · obtain ⟨cause, broke, rfl⟩ := (Outcome.map_error_error_iff _ _ _).mp linear
    cases cause with
    | missingKey key => exact absurd broke (graph.linearize_not_missing values known key)
    | _ => exact id
  · rw [Outcome.map_error_ok_iff] at linear
    obtain ⟨system, assembled⟩ := Graph.to_sparse_succeeds graph values factors linear
    rw [Layout.of_values_of_shape values first same] at assembled
    simp [assembled, Except.mapError] at failed

variable (run : Run α) (reached : Optimizer.run method.linearSolver config graph first = .ok run)

include reached

theorem run_visits (i : Nat) (bound : i ≤ run.iterations.length) :
    ∃ visited : State α (Solver method), visited.values = run.estimate i ∧
      visited.values.shape = first.shape ∧ visited.solver.Planned ∧
      ∀ inside : i < run.iterations.length,
        MadeFrom method.linearSolver ⟨graph, .ofValues first, config⟩ i visited run.iterations[i] := by
  obtain ⟨_, _, same, _, _, course⟩ := run_ok _ _ _ _ _ reached
  have visits := course_visits method.linearSolver _
    (fun state => state.values.shape = first.shape ∧ state.solver.Planned)
    (fun done state base iteration last trial held begins tries verdict => by
      obtain ⟨_, _, updates, moved⟩ := tries_accepted _ _ _ _ _ _ _ _ _ tries verdict
      obtain ⟨sameValues, _⟩ := linearize_ok _ _ _ _ begins.linear
      rw [sameValues] at moved
      exact ⟨(Values.retract_shape _ _ _ moved).trans held.1, (tries_planned _ _ _ _ _ _ _ tries held.2).1⟩)
    _ _ _ _ _ _ course ⟨rfl, Solver.start_planned⟩
  obtain ⟨visited, ⟨shape, planned⟩, values, made⟩ := visits i bound
  refine ⟨visited, ?_, shape, planned, fun inside => by simpa using made inside⟩
  rw [values, Run.estimate, same]
  rfl

theorem run_attempts (i : Nat) (inside : i < run.iterations.length) (a : Attempt α)
    (mem : a ∈ run.iterations[i].attempts) :
    ∃ (base : Base α) (before after : Solver method), before.Planned ∧
      linearize ⟨graph, .ofValues first, config⟩ (run.estimate i) base.error = .ok base ∧
      attempt method.linearSolver ⟨graph, .ofValues first, config⟩ base a.damping before = (a.outcome, after) := by
  obtain ⟨visited, values, _, ready, made⟩ := run_visits config graph first run reached i (Nat.le_of_lt inside)
  obtain ⟨base, last, begins, tries⟩ := made inside
  obtain ⟨before, after, planned, tried⟩ := (tries_planned _ _ _ _ _ _ _ tries ready).2 a mem
  refine ⟨base, before, after, planned, ?_, tried⟩
  rw [(linearize_ok _ _ _ _ begins.linear).2.1, ← values]
  exact begins.linear

end Kept

theorem run_keeps_shape (method : Method α) (fits : method.Fits) (config : Config α) (graph : Graph α)
    (initial : Values α) (run : Run α)
    (reached : Optimizer.run method.linearSolver config graph initial = .ok run) :
    let problem : Problem α := ⟨graph, .ofValues initial, config⟩
    (∀ i ≤ run.iterations.length, (run.estimate i).shape = initial.shape ∧
      Layout.ofValues (run.estimate i) = .ofValues initial) ∧
    (∀ (i : Nat) (inside : i < run.iterations.length), ∀ a ∈ run.iterations[i].attempts,
      ∃ (base : Base α) (before after : Solver method),
        linearize problem (run.estimate i) base.error = .ok base ∧
        attempt method.linearSolver problem base a.damping before = (a.outcome, after) ∧
        ∀ step, (before.solve base.residual base.jacobian (some a.damping)).1 = .ok step →
          ∃ updates candidate, problem.layout.split (Block.column step) = .ok updates ∧
            (run.estimate i).retract updates = .ok candidate) ∧
    ((∃ linear system, graph.linearize initial = .ok linear ∧ linear.toSparse problem.layout = .ok system) →
      (∀ i ≤ run.iterations.length, ∀ linear, graph.linearize (run.estimate i) = .ok linear →
        ∃ system, linear.toSparse problem.layout = .ok system) ∧
      (∀ i ≤ run.iterations.length, ∀ key, graph.linearize (run.estimate i) ≠ .error (.missingKey key)) ∧
      (∀ a ∈ run.attempts, ∀ e, a.outcome = .error e → ¬ e.ReportsMissing) ∧
      ∀ e, run.ending = .error e → ¬ e.ReportsMissing) := by
  intro problem
  have shape : ∀ i ≤ run.iterations.length, (run.estimate i).shape = initial.shape := by
    intro i bound
    obtain ⟨visited, values, shape, _⟩ := run_visits config graph initial run reached i bound
    exact values ▸ shape
  refine ⟨fun i bound => ⟨shape i bound, Layout.of_values_of_shape _ _ (shape i bound)⟩, ?_, ?_⟩
  · intro i inside a mem
    obtain ⟨base, before, after, planned, linear, tried⟩ := run_attempts config graph initial run reached i inside a mem
    refine ⟨base, before, after, linear, tried, fun step answered => ?_⟩
    rw [← (linearize_ok _ _ _ _ linear).1]
    exact step_moves config graph initial _ fits (shape i (Nat.le_of_lt inside)) _ base linear before planned
      a.damping step answered
  · rintro ⟨factors, _, linearized, _⟩
    have closed : Graph.Closed graph initial := graph.linearize_closed initial factors linearized
    have attempts : ∀ a ∈ run.attempts, ∀ e, a.outcome = .error e → ¬ e.ReportsMissing := by
      intro a mem e failed
      obtain ⟨iteration, among, mem⟩ := List.mem_flatMap.mp mem
      obtain ⟨i, inside, rfl⟩ := List.mem_iff_getElem.mp among
      obtain ⟨base, before, after, planned, linear, tried⟩ := run_attempts config graph initial run reached i inside a mem
      exact attempt_not_missing config graph initial _ fits (shape i (Nat.le_of_lt inside)) closed _ base linear
        before after planned a.damping e (failed ▸ tried)
    refine ⟨fun i bound linear done => ?_, fun i bound => ?_, attempts, fun e failed => ?_⟩
    · have assembled := graph.to_sparse_succeeds _ linear done
      rwa [Layout.of_values_of_shape _ _ (shape i bound)] at assembled
    · exact graph.linearize_not_missing _ (closed_keeps graph initial _ (shape i bound) closed)
    · obtain ⟨_, _, same, _, _, course⟩ := run_ok _ _ _ _ _ reached
      -- A run ends with an error at a linearization or because of an attempt.
      rcases course_error _ _ _ _ _ _ _ _ e course failed with ⟨error, broke⟩ | ⟨iteration, among, a, mem, cause, known, stems⟩
      · have final : run.estimate run.iterations.length = run.iterations.foldl Iteration.leadsTo initial := by
          rw [Run.estimate, same, List.take_length]
        exact linearize_not_reported config graph initial _ (final ▸ shape _ (Nat.le_refl _)) closed error e broke
      · have quiet := attempts a (List.mem_flatMap.mpr ⟨iteration, among, mem⟩) cause known
        rcases stems with rfl | rfl
        · exact quiet
        · exact quiet

theorem run_keeps_shape_after_step :
    ∃ run, Optimizer.run Method.cholesky.linearSolver .standard halfGraph halfStart = .ok run ∧
      0 < run.iterations.length ∧ (run.estimate 1).shape = halfStart.shape ∧
      (∀ linear, halfGraph.linearize (run.estimate 1) = .ok linear →
        ∃ system, linear.toSparse (.ofValues halfStart) = .ok system) ∧
      ∀ e, run.ending = .error e → ¬ e.ReportsMissing := by
  obtain ⟨run, reached, longer⟩ := Outcome.passes_ok (fun run : Run Float => decide (0 < run.iterations.length))
    (Optimizer.run Method.cholesky.linearSolver .standard halfGraph halfStart) (by decide +kernel)
  have more : 0 < run.iterations.length := of_decide_eq_true longer
  obtain ⟨linear, linearized, _⟩ := Outcome.passes_ok (fun _ : LinearGraph Float => true)
    (halfGraph.linearize halfStart) (by decide +kernel)
  obtain ⟨system, assembled⟩ := halfGraph.to_sparse_succeeds halfStart linear linearized
  obtain ⟨shapes, _, onward⟩ := run_keeps_shape .cholesky (SolverChoice.method_fits .cholesky) _ _ _ run reached
  obtain ⟨later, _, _, ending⟩ := onward ⟨linear, system, linearized, assembled⟩
  exact ⟨run, reached, more, (shapes 1 more).1, later 1 more, ending⟩

end Optimizer

end FactorGraph
