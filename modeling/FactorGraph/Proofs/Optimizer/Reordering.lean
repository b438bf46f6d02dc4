import FactorGraph.Proofs.Graph.Reordering
import FactorGraph.Proofs.Optimizer.Comparison
import FactorGraph.Proofs.Optimizer.Damping

set_option autoImplicit false

namespace FactorGraph

variable {α σ : Type}

def Attempt.seen (attempt : Attempt α) : α × Option (Trial α) := (attempt.damping, attempt.trial?)

def Iteration.seen (iteration : Iteration α) : List (α × Option (Trial α)) × Option (Trial α) × Damping α :=
  (iteration.attempts.map Attempt.seen, iteration.accepted?, iteration.damping)

-- Iterations that are alike up to the causes for which attempts failed.
structure Iteration.Agrees (a b : Iteration α) : Prop where
  attempts : b.attempts.map Attempt.seen = a.attempts.map Attempt.seen
  verdict : b.verdict = a.verdict
  damping : b.damping = a.damping

theorem Iteration.agrees_seen (a b : Iteration α) (agree : a.Agrees b) : b.seen = a.seen := by
  simp only [Iteration.seen, Iteration.accepted?, agree.attempts, agree.verdict, agree.damping]

def Iteration.Broken (iteration : Iteration α) : Prop := ∃ e, iteration.verdict = .fatal e

-- Runs from one estimate whose iterations look alike.
structure Run.Agrees (a b : Run α) : Prop where
  initial : b.initial = a.initial
  initialError : b.initialError = a.initialError
  iterations : b.iterations.map Iteration.seen = a.iterations.map Iteration.seen
  damping : b.damping = a.damping

namespace Run

variable (a b : Run α) (agree : a.Agrees b)

include agree

theorem accepted_agree : b.accepted = a.accepted := by
  have accepted (run : Run α) : run.accepted = (run.iterations.map Iteration.seen).filterMap (·.2.1) := by
    rw [List.filterMap_map]
    rfl
  rw [accepted, accepted, agree.iterations]

theorem attempts_agree : b.attempts.map Attempt.seen = a.attempts.map Attempt.seen := by
  have attempts (run : Run α) : run.attempts.map Attempt.seen = (run.iterations.map Iteration.seen).flatMap (·.1) := by
    rw [Run.attempts, List.map_flatMap, List.flatMap_map]
    rfl
  rw [attempts, attempts, agree.iterations]

theorem trials_agree : b.trials = a.trials := by
  have trials (run : Run α) : run.trials = (run.attempts.map Attempt.seen).filterMap (·.2) := by
    rw [List.filterMap_map]
    rfl
  rw [trials, trials, attempts_agree a b agree]

theorem iterations_agree : b.iterations.length = a.iterations.length := by
  simpa using congrArg List.length agree.iterations

theorem values_agree : b.values = a.values := by
  rw [values, values, accepted_agree a b agree, agree.initial]

theorem statistics_agree [Scalar α] : b.statistics = a.statistics := by
  have attempts : b.attempts.length = a.attempts.length := by
    simpa using congrArg List.length (attempts_agree a b agree)
  simp only [statistics, gradientNorm, stepNorm, trials_agree a b agree, accepted_agree a b agree, attempts,
    iterations_agree a b agree, agree.damping]

end Run

namespace Optimizer

-- Records that are alike up to the causes for which attempts failed.
structure Record.Agrees (first second : Record α) : Prop where
  iterations : second.1.map Iteration.seen = first.1.map Iteration.seen
  damping : second.2.1 = first.2.1
  ending : second.2.2 = first.2.2

def Record.Failed (record : Record α) : Prop := ∃ e, record.2.2 = .error e

def Record.Together (first second : Record α) : Prop := first.Failed ∨ second.Failed ∨ first.Agrees second

theorem run_together (initial : Values α) (error : α) (first second : Record α) (together : first.Together second)
    (status statusOther : Status) (ended : (first.run initial error).ending = .ok status)
    (endedOther : (second.run initial error).ending = .ok statusOther) :
    status = statusOther ∧ (first.run initial error).Agrees (second.run initial error) := by
  rcases together with ⟨e, failed⟩ | ⟨e, failed⟩ | agree
  · cases ended.symm.trans failed
  · cases endedOther.symm.trans failed
  · cases ended.symm.trans (agree.ending.symm.trans endedOther)
    exact ⟨rfl, rfl, rfl, agree.iterations, agree.damping⟩

variable [Scalar α]

-- Linearizations at one estimate that a solver cannot tell apart.
structure SameEquations (x y : Base α) : Prop where
  values : y.values = x.values
  error : y.error = x.error
  equations : ∃ equations, SparseMatrix.normalEquations x.residual x.jacobian = some equations ∧
    SparseMatrix.normalEquations y.residual y.jacobian = some equations

-- Problems that a run cannot tell apart while neither of them fails.
structure Interchangeable (a b : Problem α) : Prop where
  layout : b.layout = a.layout
  config : b.config = a.config
  error : ∀ values, Outcome.Together (· = ·) (a.graph.error values) (b.graph.error values)
  linear : ∀ values error, Outcome.Together SameEquations (linearize a values error) (linearize b values error)

-- Iterations that agree and leave a solver in one state, if neither of them is broken.
def InStep (first second : Iteration α × σ) : Prop :=
  first.1.Broken ∨ second.1.Broken ∨ first.1.Agrees second.1 ∧ second.2 = first.2

def retried (this : Attempt α) (raised : Damping α) (state : σ) (rest : Iteration α × σ) : Iteration α × σ :=
  if raised.atLimit then (⟨[this], .exhausted, raised⟩, state)
  else (⟨this :: rest.1.attempts, rest.1.verdict, rest.1.damping⟩, rest.2)

theorem attempts_succ (solver : LinearSolver α σ) (problem : Problem α) (base : Base α) (remaining : Nat)
    (damping : Damping α) (state : σ) :
    attempts solver problem base (remaining + 1) damping state =
      let (outcome, next) := attempt solver problem base damping.lambda state
      let this : Attempt α := ⟨damping.lambda, outcome⟩
      let again := retried this damping.reject next (attempts solver problem base remaining damping.reject next)
      match outcome with
      | .ok trial =>
          if improves base trial then (⟨[this], .accepted trial, damping.accept trial.gain⟩, next) else again
      | .error e => if e.recoverable then again else (⟨[this], .fatal e, damping⟩, next) := rfl

theorem retried_in_step (this other : Attempt α) (seen : other.seen = this.seen) (raised : Damping α) (state : σ)
    (first second : Iteration α × σ) (rest : InStep first second) :
    InStep (retried this raised state first) (retried other raised state second) := by
  unfold retried
  split
  · exact .inr (.inr ⟨⟨by simp [seen], rfl, rfl⟩, rfl⟩)
  · rcases rest with broken | broken | ⟨agree, states⟩
    · exact .inl broken
    · exact .inr (.inl broken)
    · refine .inr (.inr ⟨⟨?_, agree.verdict, agree.damping⟩, states⟩)
      rw [List.map_cons, List.map_cons, seen, agree.attempts]

theorem surrender_together (first second : Iteration α) (agree : first.Agrees second) :
    Record.Together ([first], first.damping, surrender first) ([second], second.damping, surrender second) := by
  have last : second.attempts.getLast?.map Attempt.seen = first.attempts.getLast?.map Attempt.seen := by
    rw [← List.getLast?_map, ← List.getLast?_map, agree.attempts]
  have iterations := congrArg (fun seen => [seen]) (first.agrees_seen second agree)
  suffices ended : (∃ e, surrender first = .error e) ∨ surrender second = surrender first from
    ended.imp id fun same => .inr ⟨iterations, agree.damping, same⟩
  unfold surrender
  rw [agree.damping]
  cases firstLast : first.attempts.getLast? with
  | none =>
      rw [firstLast, Option.map_none, Option.map_eq_none_iff] at last
      rw [last]
      exact .inr rfl
  | some attempt =>
      rw [firstLast, Option.map_some, Option.map_eq_some_iff] at last
      obtain ⟨other, found, seen⟩ := last
      rw [found]
      obtain ⟨lambda, outcome⟩ := attempt
      obtain ⟨lambdaOther, outcomeOther⟩ := other
      cases outcome with
      | error e => exact .inl ⟨_, rfl⟩
      | ok trial =>
          cases outcomeOther with
          | error d => cases seen
          | ok _ => exact .inr rfl

theorem covariances_linearize (solver : LinearSolver α σ) (problem : Problem α) (values : Values α) (error : α) :
    covariances solver problem.graph problem.layout values = linearize problem values error >>= fun base => do
      let (outcome, state) := solver.solve solver.start base.residual base.jacobian none
      let _ ← outcome.mapError .linear
      return (solver.covariance? state).map (marginals · problem.layout) := by
  rw [covariances, linearize]
  cases problem.graph.linearize values with
  | error e => rfl
  | ok linear =>
      cases assembled : linear.toSparse problem.layout with
      | error e => simp [Except.mapError, assembled]
      | ok system => simp [Except.mapError, assembled]

section Interchangeable

variable (solver : LinearSolver α σ) (normal : solver.SeesNormalEquations) (a b : Problem α)
  (alike : Interchangeable a b)

include alike

theorem evaluate_step_together (x y : Base α) (same : SameEquations x y) (lambda : α) (step : List α)
    (gradient? : Option (List α)) :
    Outcome.Together (· = ·) (evaluateStep a x lambda step gradient?) (evaluateStep b y lambda step gradient?) := by
  unfold evaluateStep
  rw [alike.layout, same.values, same.error]
  refine Outcome.together_bind (· = ·) _ _ _ _ _ (Outcome.together_self _) fun updates _ here => here ▸ ?_
  refine Outcome.together_bind (· = ·) _ _ _ _ _ (Outcome.together_self _) fun candidate _ here => here ▸ ?_
  refine Outcome.together_bind (· = ·) _ _ _ _ _ (Outcome.together_map_error _ _ _ _ _ (alike.error candidate)) ?_
  exact fun error _ here => here ▸ Outcome.together_self _

theorem first_error_together (initial : Values α) :
    Outcome.Together (· = ·) (firstError a.config a.graph initial) (firstError b.config b.graph initial) := by
  unfold firstError
  rw [alike.config]
  refine Outcome.together_bind (· = ·) _ _ _ _ _ (Outcome.together_self _) fun _ _ _ => ?_
  split
  · exact .error _ _
  refine Outcome.together_bind (· = ·) _ _ _ _ _ (Outcome.together_map_error _ _ _ _ _ (alike.error initial)) ?_
  exact fun error _ here => here ▸ Outcome.together_self _

include normal

theorem attempt_together (x y : Base α) (same : SameEquations x y) (lambda : α) (state : σ) :
    Outcome.Together (· = ·) (attempt solver a x lambda state).1 (attempt solver b y lambda state).1 ∧
      (attempt solver b y lambda state).2 = (attempt solver a x lambda state).2 := by
  obtain ⟨equations, first, second⟩ := same.equations
  rw [attempt, attempt, normal x.jacobian y.jacobian x.residual y.residual equations first second state (some lambda)]
  generalize solver.solve state x.residual x.jacobian (some lambda) = answer
  obtain ⟨outcome, next⟩ := answer
  cases outcome with
  | error e => exact ⟨.error _ _, rfl⟩
  | ok step => exact ⟨evaluate_step_together a b alike x y same lambda step (solver.gradient? next), rfl⟩

theorem attempts_together (x y : Base α) (same : SameEquations x y) (remaining : Nat) (damping : Damping α)
    (state : σ) :
    InStep (attempts solver a x remaining damping state) (attempts solver b y remaining damping state) := by
  induction remaining generalizing damping state with
  | zero => exact .inr (.inr ⟨⟨rfl, rfl, rfl⟩, rfl⟩)
  | succ remaining ih =>
      obtain ⟨together, sameState⟩ := attempt_together solver normal a b alike x y same damping.lambda state
      rw [attempts_succ, attempts_succ]
      generalize attempt solver a x damping.lambda state = first at together sameState ⊢
      generalize attempt solver b y damping.lambda state = second at together sameState ⊢
      obtain ⟨outcome, next⟩ := first
      obtain ⟨other, nextOther⟩ := second
      dsimp only at together sameState
      subst sameState
      -- Where both attempts are refused, the others go together from the raised damping.
      have onward := retried_in_step ⟨damping.lambda, outcome⟩ ⟨damping.lambda, other⟩
        (congrArg (Prod.mk damping.lambda) (Outcome.together_option _ _ together)) damping.reject nextOther _ _
        (ih damping.reject nextOther)
      cases together with
      | ok trial _ here =>
          subst here
          have better : improves y trial = improves x trial := by rw [improves, improves, same.error]
          dsimp only
          rw [better]
          split
          · exact .inr (.inr ⟨⟨rfl, rfl, rfl⟩, rfl⟩)
          · exact onward
      | error e d =>
          dsimp only
          cases first : e.recoverable with
          | false => exact .inl ⟨e, rfl⟩
          | true =>
              cases second : d.recoverable with
              | false => exact .inr (.inl ⟨d, rfl⟩)
              | true => exact onward

theorem boundary_together (done : Nat) (state : State α σ) (onward further : Iteration α × State α σ → Record α)
    (next : ∀ (first second : Iteration α) (later : State α σ), first.Agrees second →
      Record.Together (onward (first, later)) (further (second, later))) :
    Record.Together ((boundary solver a done state).elim id onward)
      ((boundary solver b done state).elim id further) := by
  rw [boundary, boundary, alike.config]
  split
  · exact .inr (.inr ⟨rfl, rfl, rfl⟩)
  split
  · exact .inr (.inr ⟨rfl, rfl, rfl⟩)
  have linear := alike.linear state.values state.error
  generalize linearize a state.values state.error = first at linear ⊢
  generalize linearize b state.values state.error = second at linear ⊢
  cases linear with
  | error e d => exact .inl ⟨e, rfl⟩
  | ok x y same =>
      have attempted :=
        attempts_together solver normal a b alike x y same (a.config.maxRetries + 1) state.damping state.solver
      dsimp only
      generalize attempts solver a x (a.config.maxRetries + 1) state.damping state.solver = first at attempted ⊢
      generalize attempts solver b y (a.config.maxRetries + 1) state.damping state.solver = second at attempted ⊢
      obtain ⟨iteration, last⟩ := first
      obtain ⟨other, lastOther⟩ := second
      rcases attempted with ⟨e, broken⟩ | ⟨e, broken⟩ | ⟨agree, sameState⟩
      · dsimp only at broken ⊢
        rw [broken]
        exact .inl ⟨e, rfl⟩
      · dsimp only at broken ⊢
        rw [broken]
        exact .inr (.inl ⟨e, rfl⟩)
      · dsimp only at agree sameState ⊢
        subst sameState
        rw [agree.verdict]
        cases iteration.verdict with
        | fatal e => exact .inl ⟨e, rfl⟩
        | exhausted => exact surrender_together iteration other agree
        | accepted trial =>
            dsimp only
            rw [agree.damping]
            split
            · exact .inr (.inr ⟨congrArg (fun seen => [seen]) (iteration.agrees_seen other agree), rfl, rfl⟩)
            · exact next iteration other _ agree

theorem iterate_together (remaining done : Nat) (state : State α σ) :
    Record.Together (iterate solver a remaining done state) (iterate solver b remaining done state) := by
  induction remaining generalizing done state with
  | zero =>
      rw [iterate_spent, iterate_spent, alike.config]
      exact .inr (.inr ⟨rfl, rfl, rfl⟩)
  | succ remaining ih =>
      rw [iterate_boundary, iterate_boundary]
      refine boundary_together solver normal a b alike done state _ _ fun first second later agree => ?_
      rcases ih (done + 1) later with failed | failed | same
      · exact .inl failed
      · exact .inr (.inl failed)
      · refine .inr (.inr ⟨?_, same.damping, same.ending⟩)
        simp only [Record.onward, List.map_cons, first.agrees_seen second agree, same.iterations]

theorem covariances_together (values : Values α) :
    Outcome.Together (· = ·) (covariances solver a.graph a.layout values)
      (covariances solver b.graph b.layout values) := by
  rw [covariances_linearize solver a values a.config.absoluteTolerance,
    covariances_linearize solver b values a.config.absoluteTolerance, alike.layout]
  refine Outcome.together_bind _ _ _ _ _ _ (alike.linear values _) fun x y same => ?_
  obtain ⟨equations, first, second⟩ := same.equations
  rw [normal x.jacobian y.jacobian x.residual y.residual equations first second]
  exact Outcome.together_self _

theorem report_together (first second : Run α) (agree : first.Agrees second)
    (layout : a.layout = .ofValues first.initial) (status : Status) :
    report solver b.config b.graph second status = report solver a.config a.graph first status := by
  have together := covariances_together solver normal a b alike first.values
  rw [alike.layout, layout] at together
  simp only [report, Run.error, Run.history, Run.accepted_agree first second agree, Run.values_agree first second agree,
    Run.statistics_agree first second agree, Run.iterations_agree first second agree, agree.initial, agree.initialError,
    alike.config]
  generalize covariances solver a.graph _ first.values = one at together
  generalize covariances solver b.graph _ first.values = other at together
  cases together with
  | ok blocks _ here => rw [here]
  | error e d => rfl

end Interchangeable

theorem optimize_together (solver : LinearSolver α σ) (normal : solver.SeesNormalEquations) (config : Config α)
    (graph reordered : Graph α) (initial : Values α)
    (alike : Interchangeable ⟨graph, .ofValues initial, config⟩ ⟨reordered, .ofValues initial, config⟩)
    (result other : OptimizationResult α) (finished : optimize solver config graph initial = .ok result)
    (finishedOther : optimize solver config reordered initial = .ok other) : other = result := by
  rw [optimize_eq] at finished finishedOther
  obtain ⟨error, started, finished⟩ := (Outcome.bind_ok_iff _ _ _).mp finished
  obtain ⟨errorOther, startedOther, finishedOther⟩ := (Outcome.bind_ok_iff _ _ _).mp finishedOther
  have same : error = errorOther := by
    have together := first_error_together _ _ alike initial
    rw [started, startedOther] at together
    cases together
    assumption
  subst same
  obtain ⟨status, ended, rfl⟩ := (Outcome.map_ok_iff _ _ _).mp finished
  obtain ⟨statusOther, endedOther, rfl⟩ := (Outcome.map_ok_iff _ _ _).mp finishedOther
  have together := iterate_together solver normal _ _ alike config.maxIterations 0 (.start solver config initial error)
  obtain ⟨rfl, runs⟩ := run_together initial error _ _ together status statusOther ended endedOther
  exact report_together solver normal _ _ alike _ _ runs rfl status

section Reordered

variable (graph reordered : Graph ℝ) (perm : reordered.Perm graph)

include perm

theorem linearize_reordered (config : Config ℝ) (layout : Layout) (fits : layout.Inside) (values : Values ℝ) (error : ℝ)
    (base : Base ℝ) (done : linearize ⟨graph, layout, config⟩ values error = .ok base) :
    ∃ other, linearize ⟨reordered, layout, config⟩ values error = .ok other ∧ SameEquations base other := by
  obtain ⟨rfl, rfl, linear, system, linearized, assembled, jacobian, residual⟩ := linearize_ok _ _ _ _ done
  obtain ⟨equations, stood⟩ := linear.normal_equations_exist layout fits system assembled
  obtain ⟨other, second, relinearized, reassembled, same⟩ :=
    Graph.normal_equations_reordered graph reordered perm base.values linear linearized layout fits system assembled
  refine ⟨⟨base.values, base.error, second.jacobian, Block.column (second.rhs.map (- ·))⟩, ?_, rfl, rfl, equations, ?_,
    ?_⟩
  · simp only [linearize, relinearized, reassembled, Except.mapError, Outcome.ok_bind, Outcome.return_ok]
  · rw [jacobian, residual]
    exact stood
  · exact same.trans stood

theorem interchangeable_reordered (config : Config ℝ) (layout : Layout) (fits : layout.Inside) :
    Interchangeable ⟨graph, layout, config⟩ ⟨reordered, layout, config⟩ where
  layout := rfl
  config := rfl
  error values := Outcome.together_of_ok _ _ _
    (fun error done => ⟨error, Graph.error_reordered graph reordered perm values error done, rfl⟩)
    (fun error done => ⟨error, Graph.error_reordered reordered graph perm.symm values error done⟩)
  linear values error := Outcome.together_of_ok _ _ _
    (fun base done => linearize_reordered graph reordered perm config layout fits values error base done)
    (fun base done => by
      obtain ⟨other, back, _⟩ := linearize_reordered reordered graph perm.symm config layout fits values error base done
      exact ⟨other, back⟩)

/-- In exact arithmetic the order of the factors is seen in the rows of the system only: wherever a graph can be
evaluated its error is the same in every order, and wherever it can be linearized its normal equations are the same. A
solver, of any method, sees only these. So if two runs with one configuration come to a result, it is one result. -/
theorem optimize_reordered :
    (∀ values error, Graph.error graph values = .ok error → Graph.error reordered values = .ok error) ∧
    (∀ values linear, Graph.linearize graph values = .ok linear → ∃ other system second equations,
      Graph.linearize reordered values = .ok other ∧ linear.toSparse (.ofValues values) = .ok system ∧
      other.toSparse (.ofValues values) = .ok second ∧ system.normalEquations = some equations ∧
      second.normalEquations = some equations) ∧
    (∀ method : Method ℝ, method.linearSolver.SeesNormalEquations) ∧
    ∀ (σ : Type) (solver : LinearSolver ℝ σ), solver.SeesNormalEquations → ∀ config initial result other,
      optimize solver config graph initial = .ok result → optimize solver config reordered initial = .ok other →
        other = result := by
  refine ⟨Graph.error_reordered graph reordered perm, fun values linear done => ?_, Method.sees_normal_equations,
    fun σ solver normal config initial result other finished finishedOther => ?_⟩
  · have fits := Layout.of_values_inside values
    obtain ⟨system, assembled⟩ := Graph.to_sparse_succeeds graph values linear done
    obtain ⟨equations, stood⟩ := linear.normal_equations_exist _ fits system assembled
    obtain ⟨other, second, linearized, reassembled, same⟩ :=
      Graph.normal_equations_reordered graph reordered perm values linear done _ fits system assembled
    exact ⟨other, system, second, equations, linearized, assembled, reassembled, stood, same.trans stood⟩
  · exact optimize_together solver normal config graph reordered initial
      (interchangeable_reordered graph reordered perm config _ (Layout.of_values_inside initial)) result other finished
      finishedOther

end Reordered

noncomputable def pull (target : List ℝ) : NonlinearFactor ℝ :=
  ⟨[⟨'v', 0⟩], .prior target, .unit target.length, .equality, rfl, List.cons_ne_nil _ _⟩

noncomputable def pulls (a b : ℝ) : Graph ℝ := [pull [a], pull [b]]

noncomputable def pulledProblem (a b : ℝ) : Problem ℝ := { halfwayProblem with graph := pulls a b }

noncomputable def pulledRows : SparseMatrix ℝ :=
  ⟨1, [SparseMatrix.rowOfEntries [(0, 1)], SparseMatrix.rowOfEntries [(0, 1)]]⟩

noncomputable def pulledBase (a b x error : ℝ) : Base ℝ :=
  ⟨oneNumberAt x, error, pulledRows, Block.column [- -(x - a), - -(x - b)]⟩

theorem pulls_linearize (a b x error : ℝ) :
    linearize (pulledProblem a b) (oneNumberAt x) error = .ok (pulledBase a b x error) := rfl

theorem pulls_error (a b x : ℝ) :
    Graph.error (pulls a b) (oneNumberAt x) = .ok ((x - a) * (x - a) + (x - b) * (x - b)) := by
  have unfolded : Graph.error (pulls a b) (oneNumberAt x) =
    .ok (Scalar.total [Noise.squaredNorm [x - a], Noise.squaredNorm [x - b]]) := rfl
  rw [unfolded, total_eq_sum]
  simp [Noise.squaredNorm, Block.dot]

-- `JᵀJ` is two, damping makes it three, and `Jᵀr` is three.
theorem pulled_solve (r s : ℝ) (sum : r + s = 3) :
    ((Solver.start : Solver Method.cholesky).solve (Block.column [r, s]) pulledRows (some 1)).1 = .ok [-1] := by
  have places : (pulledRows.gram.addDiagonal 1).openRows = [[some (1 * 1 + 1 * 1 + 1)]] := rfl
  have pivot : (1 * 1 + 1 * 1 + 1 : ℝ) = 3 := by norm_num
  have factored : Cholesky.factor 1 (pulledRows.gram.addDiagonal 1).openRows = some [⟨Real.sqrt 3, []⟩] := by
    rw [places, pivot, Cholesky.factor, if_pos (by norm_num)]
    rfl
  have gradient : pulledRows.transposeMulVec [r, s] = [3] := by
    have unfolded : pulledRows.transposeMulVec [r, s] = [0 + 1 * r + 1 * s] := rfl
    rw [unfolded, ← sum]
    ring_nf
  have step : Cholesky.solve [⟨Real.sqrt 3, []⟩] [(-3 : ℝ)] = [-1] := by
    change [(-3 / Real.sqrt 3 - 0) / Real.sqrt 3] = [-1]
    rw [sub_zero, div_div, Real.mul_self_sqrt (by norm_num)]
    norm_num
  rw [Solver.solve_ok_iff _ Solver.start_planned, Block.column_flatten, gradient]
  exact ⟨⟨rfl, rfl⟩, _, _, rfl, (Solver.factor_and_solve_ok_iff _ _ _ _ _).mpr ⟨factored, step.symm, all_finite _⟩⟩

section Pulled

variable (a b : ℝ) (sum : a + b = 3) (product : a * b = 0)

include sum product

theorem pulled_attempt : ∃ trial next,
    attempt Method.cholesky.linearSolver (pulledProblem a b) (pulledBase a b 3 9) 1 .start = (.ok trial, next) ∧
      trial.error = 5 := by
  have lower : Graph.error (pulls a b) (oneNumberAt (3 + -1)) = .ok 5 := by
    rw [pulls_error]
    congr 1
    linear_combination (a + b - 1) * sum - 2 * product
  have solved := pulled_solve (- -(3 - a)) (- -(3 - b)) (by linarith)
  generalize answer : (Solver.start : Solver Method.cholesky).solve (Block.column [- -(3 - a), - -(3 - b)]) pulledRows
    (some 1) = answered at solved
  obtain ⟨outcome, next⟩ := answered
  dsimp only at solved
  subst solved
  let predicted : ℝ := (next.gradient?.map (predictedReduction [-1] · 1)).getD 0
  let trial : Trial ℝ :=
    ⟨oneNumberAt (3 + -1), 5, Block.norm [-1], (next.gradient?.map Block.norm).getD 0, gainRatio 9 5 predicted⟩
  have evaluated : evaluateStep (pulledProblem a b) (pulledBase a b 3 9) 1 [-1] next.gradient? = .ok trial :=
    (evaluate_step_ok_iff _ _ _ _ _ _).mpr ⟨⟨_, rfl, rfl⟩, lower, rfl, rfl, rfl⟩
  have answered : Method.cholesky.linearSolver.solve .start (pulledBase a b 3 9).residual
    (pulledBase a b 3 9).jacobian (some 1) = (.ok [-1], next) := answer
  refine ⟨trial, next, ?_, rfl⟩
  rw [attempt, answered]
  exact Prod.ext evaluated rfl

theorem pulled_iterates : ∃ iteration : Iteration ℝ, iteration.accepted?.isSome ∧
    iterate Method.cholesky.linearSolver (pulledProblem a b) 1 0
      (.start Method.cholesky.linearSolver halfwayProblem.config (oneNumberAt 3) 9) =
        ([iteration], iteration.damping, .ok .maxIterations) := by
  obtain ⟨trial, next, tried, five⟩ := pulled_attempt a b sum product
  have better : improves (pulledBase a b 3 9) trial = true := by
    rw [improves, five, pulledBase]
    norm_num
    rfl
  have high : ¬ (9 : ℝ) ≤ (pulledProblem a b).config.absoluteTolerance := by norm_num [pulledProblem, halfwayProblem]
  have higher : ¬ (5 : ℝ) ≤ (pulledProblem a b).config.absoluteTolerance := by norm_num [pulledProblem, halfwayProblem]
  have large : settled (pulledProblem a b).config 9 5 = false := by
    norm_num [settled, pulledProblem, halfwayProblem, Config.standard]
  have led := boundary_accepted Method.cholesky.linearSolver (pulledProblem a b) 0
    (.start Method.cholesky.linearSolver halfwayProblem.config (oneNumberAt 3) 9) (pulledBase a b 3 9) trial next high rfl
    (pulls_linearize a b 3 9) tried better (five.symm ▸ large)
  rw [iterate_onward _ _ _ _ _ _ _ led, iterate_spent, five, if_neg higher]
  exact ⟨_, rfl, rfl⟩

theorem pulled_first : firstError halfwayProblem.config (pulls a b) (oneNumberAt 3) = .ok 9 := by
  have valid : halfwayProblem.config.validate = .ok () := by
    norm_num [Config.validate, halfwayProblem, Config.standard]
  have error : Graph.error (pulls a b) (oneNumberAt 3) = .ok 9 := by
    rw [pulls_error]
    congr 1
    linear_combination (a + b - 3) * sum - 2 * product
  rw [firstError, valid, error]
  rfl

theorem pulled_run : ∃ run : Run ℝ, run.accepted ≠ [] ∧
    Optimizer.run Method.cholesky.linearSolver halfwayProblem.config (pulls a b) (oneNumberAt 3) = .ok run ∧
      run.iterations.length = 1 ∧ run.ending = .ok .maxIterations := by
  obtain ⟨iteration, accepted, iterated⟩ := pulled_iterates a b sum product
  obtain ⟨trial, here⟩ := Option.isSome_iff_exists.mp accepted
  have problem : (⟨pulls a b, .ofValues (oneNumberAt 3), halfwayProblem.config⟩ : Problem ℝ) = pulledProblem a b := rfl
  have once : halfwayProblem.config.maxIterations = 1 := rfl
  refine ⟨runFrom Method.cholesky.linearSolver halfwayProblem.config (pulls a b) (oneNumberAt 3) 9, ?_, ?_, ?_⟩
  · simp [Run.accepted, runFrom, problem, once, iterated, Record.run, here]
  · rw [run_eq, pulled_first a b sum product]
    rfl
  · simp [runFrom, problem, once, iterated, Record.run]

theorem pulled_optimize : ∃ result,
    optimize Method.cholesky.linearSolver halfwayProblem.config (pulls a b) (oneNumberAt 3) = .ok result ∧
      result.iterations = 1 := by
  obtain ⟨run, _, reached, one, ending⟩ := pulled_run a b sum product
  rw [optimize, reached, Outcome.ok_bind, ending, Outcome.ok_bind]
  exact ⟨_, rfl, one⟩

end Pulled

theorem optimize_reordered_two_pulls : ∃ result,
    optimize Method.cholesky.linearSolver halfwayProblem.config (pulls 0 3) (oneNumberAt 3) = .ok result ∧
    optimize Method.cholesky.linearSolver halfwayProblem.config (pulls 3 0) (oneNumberAt 3) = .ok result ∧
      result.iterations = 1 := by
  obtain ⟨result, finished, one⟩ := pulled_optimize 0 3 (by norm_num) (by norm_num)
  obtain ⟨other, finishedOther, _⟩ := pulled_optimize 3 0 (by norm_num) (by norm_num)
  obtain ⟨_, _, normal, same⟩ := optimize_reordered (pulls 0 3) (pulls 3 0) (.swap _ _ _)
  have unique := same _ Method.cholesky.linearSolver (normal _) _ _ result other finished finishedOther
  exact ⟨result, finished, unique ▸ finishedOther, one⟩

end Optimizer

end FactorGraph
