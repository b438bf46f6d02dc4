import FactorGraph.Proofs.Optimizer.Damping
import FactorGraph.Proofs.Optimizer.Planning
import FactorGraph.Proofs.Optimizer.Status

set_option autoImplicit false

namespace FactorGraph

variable {α : Type} [Scalar α]

def Status.stalled : Status → Bool
  | .dampingLimit | .noDecrease => true
  | _ => false

namespace Optimizer

def models (problem : Problem α) : Values α → α → List (Iteration α) → List (Base α)
  | _, _, [] => []
  | values, error, iteration :: rest =>
      (match linearize problem values error with
        | .error _ => []
        | .ok base => [base]) ++
      match iteration.accepted? with
        | none => []
        | some trial => models problem trial.values trial.error rest

def evaluated (asked : Base α × Attempt α) : Bool := asked.2.trial?.isSome

def passes (asked : Base α × Attempt α) : Bool := asked.2.trial?.any (improves asked.1)

instance (base : Base α) (outcome : Except (OptimizerError α) (Trial α)) : Decidable (Refused base outcome) :=
  match outcome with
  | .ok trial => inferInstanceAs (Decidable (improves base trial = false))
  | .error e => inferInstanceAs (Decidable (e.recoverable = true))

def refused (asked : Base α × Attempt α) : Bool := decide (Refused asked.1 asked.2.outcome)

theorem passes_evaluated (asked : Base α × Attempt α) (passed : passes asked = true) : evaluated asked = true := by
  obtain ⟨trial, made, _⟩ := (Option.any_eq_true _ _).mp passed
  rw [evaluated, made, Option.isSome_some]

theorem refused_not_passes (asked : Base α × Attempt α) (refusal : refused asked = true) : passes asked = false := by
  obtain ⟨base, lambda, outcome⟩ := asked
  have refusal : Refused base outcome := of_decide_eq_true refusal
  cases outcome with
  | ok trial => exact refusal
  | error e => rfl

section Iteration

variable {σ : Type} (solver : LinearSolver α σ) (problem : Problem α) (base : Base α) (remaining : ℕ) (damping : Damping α)
  (state last : σ) (iteration : Iteration α)
  (tries : Tries solver problem base remaining damping state iteration last)

include tries

theorem tries_passes : (iteration.attempts.map (base, ·)).countP passes = iteration.accepted?.toList.length := by
  obtain ⟨earlier, closing, attempts, each, closes⟩ := tries_closing _ _ _ _ _ _ _ _ tries
  have none : (earlier.map (base, ·)).countP passes = 0 := by
    refine List.countP_eq_zero.mpr fun asked mem => ?_
    obtain ⟨a, inside, rfl⟩ := List.mem_map.mp mem
    rw [refused_not_passes (base, a) (decide_eq_true (each a inside))]
    exact Bool.false_ne_true
  rw [attempts, List.map_append, List.countP_append, none, Nat.zero_add, Iteration.accepted?]
  generalize iteration.verdict = verdict at closes
  cases closes with
  | accepted lambda trial better => exact List.countP_singleton.trans (if_pos better)
  | fatal | exhausted => rfl

theorem tries_decided (mendable : ∀ e, iteration.verdict ≠ .fatal e) :
    ∀ asked ∈ iteration.attempts.map (base, ·), refused asked = !passes asked := by
  obtain ⟨earlier, closing, attempts, each, closes⟩ := tries_closing _ _ _ _ _ _ _ _ tries
  rw [attempts, List.map_append, List.forall_mem_append]
  constructor
  · intro asked mem
    obtain ⟨a, inside, rfl⟩ := List.mem_map.mp mem
    have refusal : refused (base, a) = true := decide_eq_true (each a inside)
    rw [refusal, refused_not_passes (base, a) refusal, Bool.not_false]
  · generalize iteration.verdict = verdict at closes mendable
    cases closes with
    | accepted lambda trial better => simp [refused, Refused, passes, Attempt.trial?, Except.toOption, better]
    | fatal lambda e beyond => exact absurd rfl (mendable e)
    | exhausted => simp

end Iteration

section Counts

variable (asked : List (Base α × Attempt α)) (decided : ∀ one ∈ asked, refused one = !passes one)

include decided

theorem count_refused : asked.countP passes + asked.countP refused = asked.length := by
  have other : asked.countP refused = asked.countP fun one => decide ¬passes one = true :=
    List.countP_congr fun one mem => by simp [decided one mem]
  rw [other, ← List.length_eq_countP_add_countP]

theorem count_evaluated : asked.countP evaluated =
    asked.countP passes + asked.countP fun one => refused one && evaluated one := by
  rw [List.countP_eq_countP_filter_add asked evaluated passes, List.countP_filter, List.countP_filter]
  congr 1
  · refine List.countP_congr fun one _ => ?_
    rw [Bool.and_eq_true, and_iff_right_of_imp (passes_evaluated one)]
  · refine List.countP_congr fun one mem => ?_
    rw [decided one mem, Bool.and_comm]

end Counts

-- What is counted of iterations that lead to a status: their linear models, and their attempts, each with the linear model
-- that it is made of.
structure Reconciled (config : Config α) (models : List (Base α)) (asked : List (Base α × Attempt α))
    (iterations : List (Iteration α)) (status : Status) : Prop where
  linearized : models.length = iterations.length
  accepted : asked.countP passes = (iterations.filterMap (·.accepted?)).length
  decided : ∀ one ∈ asked, refused one = !passes one
  paired : asked = (List.zipWith (fun base iteration => iteration.attempts.map (base, ·)) models iterations).flatten
  moved : (iterations.filterMap (·.accepted?)).length + status.stalled.toNat = iterations.length
  least : iterations.length ≤ asked.length
  most : asked.length ≤ iterations.length * (config.maxRetries + 1)
  last : iterations ≠ [] → ∃ base lambda trial, models.getLast? = some base ∧
    asked.getLast? = some (base, ⟨lambda, .ok trial⟩)

theorem reconciled_none (config : Config α) (status : Status) (moving : status.stalled = false) :
    Reconciled config [] [] [] status where
  linearized := rfl
  accepted := rfl
  decided := by simp
  paired := rfl
  moved := by simp [moving]
  least := Nat.le_refl 0
  most := Nat.zero_le _
  last some := absurd rfl some

theorem reconciled_append (config : Config α) (early late : List (Base α)) (first second : List (Base α × Attempt α))
    (iterations rest : List (Iteration α)) (middle status : Status) (moving : middle.stalled = false)
    (before : Reconciled config early first iterations middle) (after : Reconciled config late second rest status) :
    Reconciled config (early ++ late) (first ++ second) (iterations ++ rest) status where
  linearized := by rw [List.length_append, List.length_append, before.linearized, after.linearized]
  accepted := by
    rw [List.countP_append, List.filterMap_append, List.length_append, before.accepted, after.accepted]
  decided := List.forall_mem_append.mpr ⟨before.decided, after.decided⟩
  paired := by rw [List.zipWith_append before.linearized, List.flatten_append, ← before.paired, ← after.paired]
  moved := by
    have here := before.moved
    rw [moving, Bool.toNat_false, Nat.add_zero] at here
    rw [List.filterMap_append, List.length_append, List.length_append, Nat.add_assoc, after.moved, here]
  least := by
    rw [List.length_append, List.length_append]
    exact Nat.add_le_add before.least after.least
  most := by
    rw [List.length_append, List.length_append, Nat.add_mul]
    exact Nat.add_le_add before.most after.most
  last some := by
    cases rest with
    | nil =>
        obtain rfl : late = [] := List.eq_nil_of_length_eq_zero after.linearized
        obtain rfl : second = [] := List.eq_nil_of_length_eq_zero (Nat.le_zero.mp (by simpa using after.most))
        simpa using before.last (by simpa using some)
    | cons iteration rest =>
        obtain ⟨base, lambda, trial, model, attempt⟩ := after.last (List.cons_ne_nil _ _)
        exact ⟨base, lambda, trial, by rw [List.getLast?_append, model]; rfl, by rw [List.getLast?_append, attempt]; rfl⟩

section Course

variable {σ : Type} (solver : LinearSolver α σ) (problem : Problem α)

theorem models_cons (done : ℕ) (state : State α σ) (base : Base α) (iteration : Iteration α) (rest : List (Iteration α))
    (begins : Begins problem done state base) : models problem state.values state.error (iteration :: rest) =
      [base] ++ match iteration.accepted? with
        | none => []
        | some trial => models problem trial.values trial.error rest := by
  rw [models, begins.linear]

omit [Scalar α] in
theorem accepted_singleton (iteration : Iteration α) :
    [iteration].filterMap (·.accepted?) = iteration.accepted?.toList := by
  cases accepted : iteration.accepted? <;> simp [accepted]

theorem reconciled_one (base : Base α) (damping : Damping α) (before last : σ) (iteration : Iteration α)
    (tries : Tries solver problem base (problem.config.maxRetries + 1) damping before iteration last) (status : Status)
    (mendable : ∀ e, iteration.verdict ≠ .fatal e)
    (moved : iteration.accepted?.toList.length + status.stalled.toNat = 1)
    (ends : ∃ earlier lambda trial, iteration.attempts = earlier ++ [⟨lambda, .ok trial⟩]) :
    Reconciled problem.config [base] (iteration.attempts.map (base, ·)) [iteration] status where
  linearized := rfl
  accepted := by
    rw [tries_passes solver problem base _ _ _ _ _ tries, accepted_singleton]
  decided := tries_decided solver problem base _ _ _ _ _ tries mendable
  paired := by simp
  moved := by
    rw [accepted_singleton, moved, List.length_singleton]
  least := by
    rw [List.length_map]
    exact List.length_pos_of_ne_nil (tries_attempted _ _ _ _ _ _ _ _ tries)
  most := by
    rw [List.length_map, List.length_singleton, Nat.one_mul]
    exact tries_count _ _ _ _ _ _ _ _ tries
  last _ := by
    obtain ⟨earlier, lambda, trial, attempts⟩ := ends
    exact ⟨base, lambda, trial, rfl, by simp [attempts]⟩

theorem reconciled_accepted (base : Base α) (damping : Damping α) (before last : σ) (iteration : Iteration α)
    (tries : Tries solver problem base (problem.config.maxRetries + 1) damping before iteration last) (trial : Trial α)
    (verdict : iteration.verdict = .accepted trial) :
    Reconciled problem.config [base] (iteration.attempts.map (base, ·)) [iteration] .converged := by
  obtain ⟨earlier, lambda, attempts, _⟩ := tries_accepted_last _ _ _ _ _ _ _ _ tries trial verdict
  refine reconciled_one solver problem base damping before last iteration tries .converged (fun e other => ?_) ?_
    ⟨earlier, lambda, trial, attempts⟩
  · rw [verdict] at other
    cases other
  · rw [Iteration.accepted?, verdict]
    rfl

theorem reconciled_surrendered (base : Base α) (damping : Damping α) (before last : σ) (iteration : Iteration α)
    (tries : Tries solver problem base (problem.config.maxRetries + 1) damping before iteration last) (status : Status)
    (verdict : iteration.verdict = .exhausted) (given : surrender iteration = .ok status) :
    Reconciled problem.config [base] (iteration.attempts.map (base, ·)) [iteration] status := by
  obtain ⟨evaluated, same⟩ := surrender_ok iteration status given
  refine reconciled_one solver problem base damping before last iteration tries status (fun e other => ?_) ?_ ?_
  · rw [verdict] at other
    cases other
  · have stalled : status.stalled = true := by
      rw [same]
      split <;> rfl
    rw [Iteration.accepted?, verdict, stalled]
    rfl
  · exact last_evaluated _ _ _ _ _ _ _ _ tries evaluated

theorem course_reconciled (remaining done : ℕ) (state : State α σ) (iterations : List (Iteration α)) (damping : Damping α)
    (ending : Except (OptimizerError α) Status) (status : Status)
    (course : Course solver problem remaining done state iterations damping ending) (ended : ending = .ok status) :
    Reconciled problem.config (models problem state.values state.error iterations)
      (tried problem state.values state.error iterations) iterations status := by
  -- By induction on the course: what is counted of an iteration is added to what is counted of the others.
  induction course with
  | converged | budget | aborted =>
      cases ended
      exact reconciled_none problem.config _ rfl
  | broken => cases ended
  | fatal => cases ended
  | surrendered remaining done state base iteration last begins tries verdict =>
      have unaccepted : iteration.accepted? = none := by rw [Iteration.accepted?, verdict]
      rw [models_cons problem done state base iteration [] begins, tried_last problem done state base iteration begins,
        unaccepted]
      exact reconciled_surrendered solver problem base _ _ last iteration tries status verdict ended
  | settled remaining done state base iteration last trial begins tries verdict small =>
      cases ended
      have accepted : iteration.accepted? = some trial := by rw [Iteration.accepted?, verdict]
      rw [models_cons problem done state base iteration [] begins, tried_last problem done state base iteration begins,
        accepted]
      exact reconciled_accepted solver problem base _ _ last iteration tries trial verdict
  | onward remaining done state base iteration last trial rest damping ending begins tries verdict large others ih =>
      have accepted : iteration.accepted? = some trial := by rw [Iteration.accepted?, verdict]
      rw [models_cons problem done state base iteration rest begins, tried_cons problem done state base iteration rest begins,
        accepted]
      have first := reconciled_accepted solver problem base _ _ last iteration tries trial verdict
      exact reconciled_append problem.config _ _ _ _ [iteration] rest .converged status rfl first (ih ended)

theorem begins_linear (done : ℕ) (state : State α σ) (base : Base α) (begins : Begins problem done state base) :
    linearize problem state.values base.error = .ok base := by
  rw [(linearize_ok _ _ _ _ begins.linear).2.1]
  exact begins.linear

theorem course_models (remaining done : ℕ) (state : State α σ) (iterations : List (Iteration α)) (damping : Damping α)
    (ending : Except (OptimizerError α) Status)
    (course : Course solver problem remaining done state iterations damping ending) (i : ℕ) (base : Base α)
    (made : (models problem state.values state.error iterations)[i]? = some base) :
    linearize problem ((iterations.take i).foldl Iteration.leadsTo state.values) base.error = .ok base := by
  induction course generalizing i with
  | converged | budget | aborted | broken => cases made
  | fatal remaining done state first iteration last e begins tries verdict
  | surrendered remaining done state first iteration last begins tries verdict
  | settled remaining done state first iteration last trial begins tries verdict =>
      -- An iteration that ends the run has one linear model, made where the iteration begins.
      have only : models problem state.values state.error [iteration] = [first] := by
        rw [models_cons problem done state first iteration [] begins]
        cases iteration.accepted? <;> rfl
      rw [only] at made
      cases i with
      | zero =>
          cases made
          exact begins_linear problem done state _ begins
      | succ i => cases made
  | onward remaining done state first iteration last trial rest damping ending begins tries verdict large others ih =>
      have accepted : iteration.accepted? = some trial := by rw [Iteration.accepted?, verdict]
      rw [models_cons problem done state first iteration rest begins, accepted] at made
      cases i with
      | zero =>
          cases made
          exact begins_linear problem done state _ begins
      | succ i =>
          rw [List.take_succ_cons, List.foldl_cons, Iteration.leadsTo, accepted]
          exact ih i made

theorem course_budget (remaining done : ℕ) (state : State α σ) (iterations : List (Iteration α)) (damping : Damping α)
    (ending : Except (OptimizerError α) Status)
    (course : Course solver problem remaining done state iterations damping ending) : iterations.length ≤ remaining := by
  induction course with
  | converged | budget | aborted | broken => exact Nat.zero_le _
  | fatal | surrendered | settled => exact Nat.succ_le_succ (Nat.zero_le _)
  | onward remaining done state base iteration last trial rest damping ending begins tries verdict large others ih =>
      exact Nat.succ_le_succ ih

end Course

end Optimizer

def Run.models (run : Run α) (config : Config α) (graph : Graph α) : List (Optimizer.Base α) :=
  Optimizer.models ⟨graph, .ofValues run.initial, config⟩ run.initial run.initialError run.iterations

namespace Optimizer

section Run

variable (method : Method α) (config : Config α) (graph : Graph α) (initial : Values α) (run : Run α)
  (reached : Optimizer.run method.linearSolver config graph initial = .ok run)

include reached

theorem run_last_norms (base : Base α) (a : Attempt α) (trial : Trial α)
    (last : (run.tried config graph).getLast? = some (base, a)) (evaluated : a.outcome = .ok trial) :
    ∃ step, (method.linearSolver.solve
        (solverBefore method (run.tried config graph) ((run.tried config graph).length - 1))
        base.residual base.jacobian (some a.damping)).1 = .ok step ∧
      run.stepNorm = Block.norm step ∧
      run.gradientNorm = Block.norm (base.jacobian.transposeMulVec base.residual.rows.flatten) := by
  have reported : run.trials.getLast? = some trial := by
    obtain ⟨earlier, tried⟩ := List.getLast?_eq_some_iff.mp last
    rw [Run.trials, ← (run_recorded _ config graph initial run reached).attempts, tried]
    simp [Attempt.trial?, evaluated, Except.toOption]
  rw [List.getLast?_eq_getElem?] at last
  obtain ⟨step, answered, known⟩ := run_evaluated method config graph initial run reached _ base a trial last evaluated
  refine ⟨step, answered, ?_, ?_⟩
  · rw [Run.stepNorm, reported]
    exact known.stepNorm
  · rw [Run.gradientNorm, reported]
    exact known.gradientNorm

end Run

/-- The statistics of a result count what its run did: linear models, one for each iteration and made at the estimate that the
run had come to; attempts, each accepted or refused; and evaluations. The norms are those of the last linear model and of the
step of the last attempt. -/
theorem optimize_reconciled (method : Method α) (config : Config α) (graph : Graph α) (initial : Values α)
    (result : OptimizationResult α) (finished : optimize method.linearSolver config graph initial = .ok result) :
    ∃ run, Optimizer.run method.linearSolver config graph initial = .ok run ∧
      result = report method.linearSolver config graph run result.status ∧
      let models := run.models config graph
      let tried := run.tried config graph
      let statistics := result.statistics
      ((∀ i base, models[i]? = some base →
          linearize ⟨graph, .ofValues initial, config⟩ (run.estimate i) base.error = .ok base) ∧
        tried = (List.zipWith (fun base iteration => iteration.attempts.map (base, ·)) models run.iterations).flatten) ∧
      (result.iterations = models.length ∧ statistics.linearizations = models.length ∧
        models.length ≤ config.maxIterations) ∧
      statistics.accepted + (if result.status = .noDecrease ∨ result.status = .dampingLimit then 1 else 0) =
        result.iterations ∧
      (statistics.accepted = tried.countP passes ∧ statistics.rejected = tried.countP refused ∧
        statistics.accepted + statistics.rejected = tried.length ∧ result.iterations ≤ tried.length ∧
        tried.length ≤ result.iterations * (config.maxRetries + 1)) ∧
      statistics.evaluations =
        1 + statistics.accepted + tried.countP (fun asked => refused asked && evaluated asked) ∧
      statistics.damping = ((Damping.start config).after run.updates).lambda ∧
      (1 ≤ result.iterations → ∃ base a step, models.getLast? = some base ∧ tried.getLast? = some (base, a) ∧
        (method.linearSolver.solve (solverBefore method tried (tried.length - 1)) base.residual base.jacobian
          (some a.damping)).1 = .ok step ∧
        statistics.stepNorm = Block.norm step ∧
        statistics.gradientNorm = Block.norm (base.jacobian.transposeMulVec base.residual.rows.flatten)) := by
  obtain ⟨run, status, reached, ended, rfl⟩ := optimize_ok _ _ _ _ _ finished
  obtain ⟨_, _, rfl, _, _, course⟩ := run_ok _ _ _ _ _ reached
  have counts : Reconciled config (run.models config graph) (run.tried config graph) run.iterations status :=
    course_reconciled _ _ _ _ _ _ _ _ status course ended
  -- The attempts that are counted are those of the record, each beside its linear model.
  have attempts : (run.tried config graph).length = run.attempts.length := by
    rw [← (run_recorded _ config graph run.initial run reached).attempts, List.length_map]
  have trials : run.trials.length = (run.tried config graph).countP evaluated := by
    rw [Run.trials, ← (run_recorded _ config graph run.initial run reached).attempts, List.length_filterMap_eq_countP,
      List.countP_map]
    rfl
  have accepted : run.accepted.length = (run.tried config graph).countP passes := counts.accepted.symm
  have refusals := count_refused _ counts.decided
  have evaluations := count_evaluated _ counts.decided
  refine ⟨run, reached, rfl, ⟨fun i base made => ?_, counts.paired⟩, ⟨?_, ?_, ?_⟩, ?_, ⟨accepted, ?_, ?_, ?_, ?_⟩, ?_, ?_,
    fun some => ?_⟩
  · exact course_models _ _ _ _ _ _ _ _ course i base made
  · exact counts.linearized.symm
  · exact counts.linearized.symm
  · rw [counts.linearized]
    exact course_budget _ _ _ _ _ _ _ _ course
  · refine Eq.trans ?_ counts.moved
    cases status <;> rfl
  · change run.attempts.length - run.accepted.length = _
    omega
  · change run.accepted.length + (run.attempts.length - run.accepted.length) = _
    omega
  · exact counts.least
  · exact counts.most
  · change 1 + run.trials.length = 1 + run.accepted.length + _
    omega
  · exact congrArg Damping.lambda (run_tracks _ _ _ _ _ reached).2.finish
  · have iterated : run.iterations ≠ [] := List.length_pos_iff.mp some
    obtain ⟨base, lambda, trial, model, last⟩ := counts.last iterated
    obtain ⟨step, answered, stepNorm, gradientNorm⟩ :=
      run_last_norms method config graph run.initial run reached base _ trial last rfl
    exact ⟨base, _, step, model, last, answered, stepNorm, gradientNorm⟩

-- A number that should be zero, with a slope of a tenth in place of one: a step with little damping overshoots.
def gentleGraph : Graph Float := halfGraph.map fun f =>
  { f with factor := { f.factor with evaluate := fun values request => do
      let x ← Factor.variableAt (List Float) values 0
      return Factor.answer request x fun _ => [.column (x.map fun _ => 0.1)] } }

theorem optimize_reconciled_gentle :
    let config : Config Float := { Config.standard with damping := 0.01, maxIterations := 3 }
    ∃ result run, optimize Method.cholesky.linearSolver config gentleGraph halfStart = .ok result ∧
      Optimizer.run Method.cholesky.linearSolver config gentleGraph halfStart = .ok run ∧
      result.status = .maxIterations ∧ (run.models config gentleGraph).length = 3 ∧
      (run.tried config gentleGraph).countP passes = 3 ∧ (run.tried config gentleGraph).length = 8 ∧
      ((run.tried config gentleGraph).countP fun asked => refused asked && evaluated asked) = 5 ∧
      ∃ base, (run.models config gentleGraph).getLast? = some base ∧
        result.statistics.gradientNorm = Block.norm (base.jacobian.transposeMulVec base.residual.rows.flatten) := by
  intro config
  obtain ⟨result, finished, seen⟩ := Outcome.passes_ok (fun result : OptimizationResult Float =>
      decide (result.iterations = 3 ∧ result.status = .maxIterations ∧ result.statistics.rejected = 5 ∧
        result.statistics.evaluations = 9))
    (optimize Method.cholesky.linearSolver config gentleGraph halfStart) (by decide +kernel)
  obtain ⟨three, status, rejections, evaluations⟩ := of_decide_eq_true seen
  obtain ⟨run, reached, _, _, ⟨models, _⟩, moved, ⟨accepted, _, solves, _⟩, counted, _, last⟩ :=
    optimize_reconciled .cholesky config gentleGraph halfStart result finished
  obtain ⟨base, _, _, model, _, _, _, gradient⟩ := last (by omega)
  have steps : result.statistics.accepted = 3 := by simpa [status, three] using moved
  refine ⟨result, run, finished, reached, status, models.symm.trans three, accepted.symm.trans steps, ?_, ?_, base, model,
    gradient⟩
  · omega
  · omega

end Optimizer

end FactorGraph
