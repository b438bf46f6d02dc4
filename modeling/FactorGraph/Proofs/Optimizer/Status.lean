import FactorGraph.Proofs.Optimizer.Failure
import FactorGraph.Proofs.Order

set_option autoImplicit false

namespace FactorGraph

variable {α σ : Type} [Scalar α]

theorem Config.validate_ok_iff (config : Config α) : config.validate = .ok () ↔
    config.maxIterations ≠ 0 ∧ (0 ≤ config.relativeTolerance ∧ 0 ≤ config.absoluteTolerance) ∧
      0 < config.dampingMin ∧ config.dampingMin ≤ config.damping ∧ config.damping ≤ config.dampingMax := by
  unfold Config.validate
  split_ifs <;> simp_all

def Config.Slight (config : Config α) (before after : α) : Prop :=
  (before - after) / before < config.relativeTolerance

namespace Optimizer

-- Every iteration accepted a step, and no step was slight.
structure Advancing (config : Config α) (run : Run α) : Prop where
  accepted : ∀ i ∈ run.iterations, i.accepted?.isSome
  ample : run.history.IsChain fun before after => ¬ config.Slight before after

-- The last iteration accepted a step, and it was slight.
structure Settling (config : Config α) (run : Run α) : Prop where
  accepted : ∃ earlier iteration, run.iterations = earlier ++ [iteration] ∧ iteration.accepted?.isSome
  slight : ∃ errors before, run.history = errors ++ [before, run.error] ∧ config.Slight before run.error

-- The last iteration accepted nothing, although its last attempt was evaluated: the error was no finite decrease.
structure Stalled (solver : LinearSolver α σ) (problem : Problem α) (run : Run α) (base : Base α)
    (iteration : Iteration α) : Prop where
  stuck : Stuck solver problem run base iteration
  evaluated : ∃ refused lambda trial, iteration.attempts = refused ++ [⟨lambda, .ok trial⟩] ∧
    problem.graph.error trial.values = .ok trial.error ∧
    ¬ (Scalar.isFinite trial.error = true ∧ trial.error < run.error)

-- What a status tells of a run that begins with `done` iterations behind it and makes at most `budget` more.
def Tells (solver : LinearSolver α σ) (problem : Problem α) (budget done : Nat) (run : Run α) : Status → Prop
  | .converged => run.error ≤ problem.config.absoluteTolerance ∨
      problem.config.absoluteTolerance < run.error ∧ Settling problem.config run
  | .maxIterations => run.iterations.length = budget ∧
      problem.config.absoluteTolerance < run.error ∧ Advancing problem.config run
  | .userTerminated => problem.config.aborted (done + run.iterations.length) = true ∧ run.iterations.length < budget ∧
      problem.config.absoluteTolerance < run.error ∧ Advancing problem.config run
  | .dampingLimit => problem.config.dampingMax ≤ run.damping.lambda ∧ problem.config.absoluteTolerance < run.error ∧
      ∃ base iteration, Stalled solver problem run base iteration
  | .noDecrease => ¬ problem.config.dampingMax ≤ run.damping.lambda ∧ problem.config.absoluteTolerance < run.error ∧
      ∃ base iteration, Stalled solver problem run base iteration ∧
        iteration.attempts.length = problem.config.maxRetries + 1

section Tries

variable (solver : LinearSolver α σ) (problem : Problem α) (base : Base α) (remaining : Nat) (damping : Damping α)
  (state last : σ) (iteration : Iteration α)

theorem tries_attempted
    (tries : Tries solver problem base (remaining + 1) damping state iteration last) : iteration.attempts ≠ [] := by
  cases tries <;> simp

theorem last_evaluated (tries : Tries solver problem base (remaining + 1) damping state iteration last)
    (evaluated : ∀ lambda cause, iteration.attempts.getLast? ≠ some ⟨lambda, .error cause⟩) :
    ∃ refused lambda trial, iteration.attempts = refused ++ [⟨lambda, .ok trial⟩] := by
  obtain ⟨⟨lambda, outcome⟩, final⟩ := Option.isSome_iff_exists.mp
    (List.getLast?_isSome.mpr (tries_attempted solver problem base _ _ _ _ iteration tries))
  obtain ⟨refused, attempts⟩ := List.getLast?_eq_some_iff.mp final
  cases outcome with
  | error cause => exact absurd final (evaluated lambda cause)
  | ok trial => exact ⟨refused, lambda, trial, attempts⟩

variable (tries : Tries solver problem base remaining damping state iteration last)

include tries

theorem tries_greatest : iteration.damping.max = damping.max := by
  induction tries with
  | spent | accepted | fatal | limit => rfl
  | again remaining damping state next last outcome rest tried refused room others ih => exact ih

theorem tries_spent (verdict : iteration.verdict = .exhausted) (room : iteration.damping.atLimit = false) :
    iteration.attempts.length = remaining := by
  induction tries with
  | spent => rfl
  | accepted => cases verdict
  | fatal => cases verdict
  | limit remaining damping state next outcome tried refused top =>
      rw [top] at room
      cases room
  | again remaining damping state next last outcome rest tried refused below others ih =>
      exact congrArg (· + 1) (ih verdict room)

theorem accepted_finite (trial : Trial α) (verdict : iteration.verdict = .accepted trial) :
    Scalar.isFinite trial.error = true := by
  have better := (tries_accepted _ _ _ _ _ _ _ _ _ tries verdict).1
  exact (Bool.and_eq_true_iff.mp better).1

end Tries

theorem surrender_ok (iteration : Iteration α) (status : Status) (given : surrender iteration = .ok status) :
    (∀ lambda cause, iteration.attempts.getLast? ≠ some ⟨lambda, .error cause⟩) ∧
      status = if iteration.damping.atLimit then .dampingLimit else .noDecrease := by
  unfold surrender at given
  split at given
  · cases given
  · rename_i evaluated
    refine ⟨evaluated, ?_⟩
    split at given <;> simp_all

section Onward

variable (solver : LinearSolver α σ) (problem : Problem α) (values : Values α) (error : α) (iteration : Iteration α)
  (rest : List (Iteration α)) (damping : Damping α) (ending : Except (OptimizerError α) Status) (trial : Trial α)
  (verdict : iteration.verdict = .accepted trial)

include verdict

omit [Scalar α] in
theorem accepted_onward (accepted : ∀ i ∈ rest, i.accepted?.isSome) : ∀ i ∈ iteration :: rest, i.accepted?.isSome :=
  List.forall_mem_cons.mpr ⟨by simp [Iteration.accepted?, verdict], accepted⟩

theorem advancing_onward (config : Config α) (ample : ¬ config.Slight error trial.error)
    (advancing : Advancing config ⟨trial.values, trial.error, rest, damping, ending⟩) :
    Advancing config ⟨values, error, iteration :: rest, damping, ending⟩ where
  accepted := accepted_onward iteration rest trial verdict advancing.accepted
  ample := by
    rw [Run.history_cons values error iteration rest damping ending trial verdict]
    exact List.isChain_cons_cons.mpr ⟨ample, advancing.ample⟩

theorem settling_onward (config : Config α)
    (settling : Settling config ⟨trial.values, trial.error, rest, damping, ending⟩) :
    Settling config ⟨values, error, iteration :: rest, damping, ending⟩ where
  accepted := by
    obtain ⟨earlier, last, iterations, accepted⟩ := settling.accepted
    exact ⟨iteration :: earlier, last, congrArg (iteration :: ·) iterations, accepted⟩
  slight := by
    obtain ⟨errors, before, history, slight⟩ := settling.slight
    rw [Run.history_cons values error iteration rest damping ending trial verdict,
      Run.error_cons values error iteration rest damping ending trial verdict]
    exact ⟨error :: errors, before, congrArg (error :: ·) history, slight⟩

theorem stalled_onward (base : Base α) (other : Iteration α)
    (stalled : Stalled solver problem ⟨trial.values, trial.error, rest, damping, ending⟩ base other) :
    Stalled solver problem ⟨values, error, iteration :: rest, damping, ending⟩ base other where
  stuck := stuck_onward solver problem values error iteration rest damping ending trial verdict base other stalled.stuck
  evaluated := by
    rw [Run.error_cons values error iteration rest damping ending trial verdict]
    exact stalled.evaluated

theorem tells_onward (budget done : Nat) (status : Status)
    (ample : status = .maxIterations ∨ status = .userTerminated → ¬ problem.config.Slight error trial.error)
    (told : Tells solver problem budget (done + 1) ⟨trial.values, trial.error, rest, damping, ending⟩ status) :
    Tells solver problem (budget + 1) done ⟨values, error, iteration :: rest, damping, ending⟩ status := by
  have same := Run.error_cons values error iteration rest damping ending trial verdict
  cases status with
  | converged =>
      rcases told with low | ⟨high, settling⟩
      · exact .inl (same ▸ low)
      · exact .inr ⟨same ▸ high, settling_onward values error iteration rest damping ending trial verdict _ settling⟩
  | maxIterations =>
      obtain ⟨spent, high, advancing⟩ := told
      exact ⟨congrArg (· + 1) spent, same ▸ high,
        advancing_onward values error iteration rest damping ending trial verdict _ (ample (.inl rfl)) advancing⟩
  | userTerminated =>
      obtain ⟨signal, short, high, advancing⟩ := told
      refine ⟨?_, Nat.succ_lt_succ short, same ▸ high,
        advancing_onward values error iteration rest damping ending trial verdict _ (ample (.inr rfl)) advancing⟩
      rwa [List.length_cons, Nat.add_comm rest.length 1, ← Nat.add_assoc]
  | dampingLimit =>
      obtain ⟨top, high, base, other, stalled⟩ := told
      exact ⟨top, same ▸ high, base, other,
        stalled_onward solver problem values error iteration rest damping ending trial verdict base other stalled⟩
  | noDecrease =>
      obtain ⟨room, high, base, other, stalled, count⟩ := told
      exact ⟨room, same ▸ high, base, other,
        stalled_onward solver problem values error iteration rest damping ending trial verdict base other stalled, count⟩

end Onward

section Course

variable (solver : LinearSolver α σ) (problem : Problem α)

theorem stalled_last (done : Nat) (state : State α σ) (base : Base α) (iteration : Iteration α) (last : σ)
    (ending : Except (OptimizerError α) Status) (begins : Begins problem done state base)
    (tries : Tries solver problem base (problem.config.maxRetries + 1) state.damping state.solver iteration last)
    (verdict : iteration.verdict = .exhausted)
    (evaluated : ∀ lambda cause, iteration.attempts.getLast? ≠ some ⟨lambda, .error cause⟩) :
    Stalled solver problem ⟨state.values, state.error, [iteration], iteration.damping, ending⟩ base iteration := by
  have unaccepted : iteration.accepted? = none := by rw [Iteration.accepted?, verdict]
  refine ⟨stuck_last solver problem done state base iteration last ending begins tries unaccepted, ?_⟩
  obtain ⟨refused, lambda, trial, attempts⟩ := last_evaluated _ _ _ _ _ _ _ _ tries evaluated
  have mem : (⟨lambda, .ok trial⟩ : Attempt α) ∈ iteration.attempts := by simp [attempts]
  have worse : improves base trial = false := tries_refused _ _ _ _ _ _ _ _ tries verdict _ mem
  obtain ⟨before, after, tried⟩ := tries_tried _ _ _ _ _ _ _ _ tries _ mem
  obtain ⟨_, _, known⟩ := attempt_ok _ _ _ _ _ _ _ tried
  obtain ⟨_, same, _⟩ := linearize_ok _ _ _ _ begins.linear
  refine ⟨refused, lambda, trial, attempts, known.error, ?_⟩
  rw [improves, same] at worse
  simpa [Run.error, Run.accepted, unaccepted] using worse

theorem course_high (remaining done : Nat) (state : State α σ) (iterations : List (Iteration α)) (damping : Damping α)
    (ending : Except (OptimizerError α) Status)
    (course : Course solver problem remaining done state iterations damping ending) (other : ending ≠ .ok .converged) :
    ¬ state.error ≤ problem.config.absoluteTolerance := by
  cases course with
  | converged => exact absurd rfl other
  | budget | aborted | broken => assumption
  | fatal | surrendered | settled | onward => exact (‹Begins problem done state _›).unconverged

variable [Scalar.Ordered α] (compares : problem.config.absoluteTolerance ≤ problem.config.absoluteTolerance)

include compares

theorem surrendered_tells (remaining done : Nat) (state : State α σ) (base : Base α) (iteration : Iteration α) (last : σ)
    (status : Status) (finite : Scalar.isFinite state.error = true)
    (greatest : state.damping.max = problem.config.dampingMax) (begins : Begins problem done state base)
    (tries : Tries solver problem base (problem.config.maxRetries + 1) state.damping state.solver iteration last)
    (verdict : iteration.verdict = .exhausted) (given : surrender iteration = .ok status) :
    Tells solver problem (remaining + 1) done
      ⟨state.values, state.error, [iteration], iteration.damping, surrender iteration⟩ status := by
  obtain ⟨evaluated, rfl⟩ := surrender_ok iteration status given
  have unaccepted : iteration.accepted? = none := by rw [Iteration.accepted?, verdict]
  have high := Scalar.lt_of_finite_of_not_le _ _ finite compares begins.unconverged
  have stalled := stalled_last solver problem done state base iteration last (surrender iteration) begins tries verdict evaluated
  have limit : iteration.damping.atLimit = decide (problem.config.dampingMax ≤ iteration.damping.lambda) := by
    rw [Damping.atLimit, tries_greatest _ _ _ _ _ _ _ _ tries, greatest]
  cases top : iteration.damping.atLimit with
  | true =>
      refine ⟨of_decide_eq_true (limit.symm.trans top), ?_, base, iteration, stalled⟩
      simpa [Run.error, Run.accepted, unaccepted] using high
  | false =>
      refine ⟨of_decide_eq_false (limit.symm.trans top), ?_, base, iteration, stalled,
        tries_spent _ _ _ _ _ _ _ _ tries verdict top⟩
      simpa [Run.error, Run.accepted, unaccepted] using high

theorem course_tells (remaining done : Nat) (state : State α σ) (iterations : List (Iteration α)) (damping : Damping α)
    (ending : Except (OptimizerError α) Status) (status : Status)
    (course : Course solver problem remaining done state iterations damping ending) (ended : ending = .ok status)
    (finite : Scalar.isFinite state.error = true) (greatest : state.damping.max = problem.config.dampingMax) :
    Tells solver problem remaining done ⟨state.values, state.error, iterations, damping, ending⟩ status := by
  -- By induction on the course: the error stays finite and the damping under one bound, and each step that leads on is ample.
  induction course with
  | converged remaining done state low =>
      cases ended
      exact .inl low
  | budget done state high =>
      cases ended
      exact ⟨rfl, Scalar.lt_of_finite_of_not_le _ _ finite compares high, by simp, .singleton _⟩
  | aborted remaining done state high signal =>
      cases ended
      exact ⟨signal, Nat.succ_pos _, Scalar.lt_of_finite_of_not_le _ _ finite compares high, by simp, .singleton _⟩
  | broken => cases ended
  | fatal => cases ended
  | surrendered remaining done state base iteration last begins tries verdict =>
      exact surrendered_tells solver problem compares remaining done state base iteration last status finite greatest begins
        tries verdict ended
  | settled remaining done state base iteration last trial begins tries verdict small =>
      cases ended
      simp only [settled, Bool.and_eq_true, decide_eq_true_eq] at small
      have error : (⟨state.values, state.error, [iteration], iteration.damping, .ok .converged⟩ : Run α).error = trial.error :=
        Run.error_cons _ _ _ [] _ _ trial verdict
      have accepted : iteration.accepted?.isSome := by simp [Iteration.accepted?, verdict]
      refine .inr ⟨error ▸ small.1, ⟨[], iteration, rfl, accepted⟩, [], state.error, ?_, error ▸ small.2⟩
      rw [error]
      exact Run.history_cons _ _ _ [] _ _ trial verdict
  | onward remaining done state base iteration last trial rest damping ending begins tries verdict large others ih =>
      have further := accepted_finite solver problem base _ _ _ last iteration tries trial verdict
      have told := ih ended further ((tries_greatest _ _ _ _ _ _ _ _ tries).trans greatest)
      refine tells_onward solver problem _ _ iteration rest damping ending trial verdict remaining done status ?_ told
      intro goesOn slight
      have high := course_high solver problem _ _ _ _ _ _ others (by rcases goesOn with rfl | rfl <;> simp [ended])
      have above := Scalar.lt_of_finite_of_not_le _ _ further compares high
      simp only [settled, above, decide_true, Bool.true_and, decide_eq_false_iff_not] at large
      exact large slight

theorem course_divisors (remaining done : Nat) (state : State α σ) (iterations : List (Iteration α)) (damping : Damping α)
    (ending : Except (OptimizerError α) Status)
    (course : Course solver problem remaining done state iterations damping ending)
    (finite : Scalar.isFinite state.error = true) :
    (⟨state.values, state.error, iterations, damping, ending⟩ : Run α).history.IsChain
      fun before _ => problem.config.absoluteTolerance < before := by
  induction course with
  | converged | budget | aborted | broken => exact .singleton _
  | fatal remaining done state base iteration last e begins tries verdict =>
      simp [Run.history, Run.accepted, Iteration.accepted?, verdict]
  | surrendered remaining done state base iteration last begins tries verdict =>
      simp [Run.history, Run.accepted, Iteration.accepted?, verdict]
  | settled remaining done state base iteration last trial begins tries verdict small =>
      rw [Run.history_cons _ _ _ [] _ _ trial verdict]
      exact .cons_cons (Scalar.lt_of_finite_of_not_le _ _ finite compares begins.unconverged) (.singleton trial.error)
  | onward remaining done state base iteration last trial rest damping ending begins tries verdict large others ih =>
      rw [Run.history_cons _ _ _ rest _ _ trial verdict]
      have later := ih (accepted_finite solver problem base _ _ _ last iteration tries trial verdict)
      exact .cons_cons (Scalar.lt_of_finite_of_not_le _ _ finite compares begins.unconverged) later

end Course

section Precedence

variable (solver : LinearSolver α σ) (problem : Problem α) (budget done : Nat) (run : Run α)

theorem stalled_not_accepted (base : Base α) (iteration : Iteration α) (stalled : Stalled solver problem run base iteration)
    (accepted : ∀ i ∈ run.iterations, i.accepted?.isSome) : False :=
  stuck_not_accepted solver problem run base iteration stalled.stuck accepted

theorem stalled_not_settling (base : Base α) (iteration : Iteration α) (stalled : Stalled solver problem run base iteration)
    (settling : Settling problem.config run) : False := by
  obtain ⟨earlier, iterations, _⟩ := stalled.stuck.last
  obtain ⟨before, last, same, accepted⟩ := settling.accepted
  cases (List.append_inj' (iterations.symm.trans same) rfl).2
  rw [stalled.stuck.unaccepted] at accepted
  cases accepted

theorem advancing_not_settling (config : Config α) (advancing : Advancing config run) (settling : Settling config run) :
    False := by
  obtain ⟨errors, before, history, slight⟩ := settling.slight
  have ample := advancing.ample
  rw [history] at ample
  exact (List.isChain_cons_cons.mp (List.isChain_append.mp ample).2.1).1 slight

open Classical in
noncomputable def precedence : Status :=
  if run.error ≤ problem.config.absoluteTolerance then .converged
  else if ∃ base iteration, Stalled solver problem run base iteration then
    if problem.config.dampingMax ≤ run.damping.lambda then .dampingLimit else .noDecrease
  else if Settling problem.config run then .converged
  else if run.iterations.length < budget then .userTerminated
  else .maxIterations

theorem tells_precedence [Scalar.Ordered α] (status : Status) (told : Tells solver problem budget done run status) :
    status = precedence solver problem budget run := by
  have low (high : problem.config.absoluteTolerance < run.error) := Scalar.Ordered.not_le_of_lt _ _ high
  have unstalled (accepted : ∀ i ∈ run.iterations, i.accepted?.isSome) :
      ¬ ∃ base iteration, Stalled solver problem run base iteration := fun ⟨base, iteration, stalled⟩ =>
    stalled_not_accepted solver problem run base iteration stalled accepted
  -- Each status excludes the conditions that are looked at before its own.
  unfold precedence
  cases status with
  | converged =>
      rcases told with within | ⟨high, settling⟩
      · rw [if_pos within]
      · have moved : ¬ ∃ base iteration, Stalled solver problem run base iteration := fun ⟨base, iteration, stalled⟩ =>
          stalled_not_settling solver problem run base iteration stalled settling
        rw [if_neg (low high), if_neg moved, if_pos settling]
  | maxIterations =>
      obtain ⟨spent, high, advancing⟩ := told
      rw [if_neg (low high), if_neg (unstalled advancing.accepted), if_neg (advancing_not_settling run _ advancing),
        if_neg (Nat.not_lt.mpr spent.ge)]
  | userTerminated =>
      obtain ⟨signal, short, high, advancing⟩ := told
      rw [if_neg (low high), if_neg (unstalled advancing.accepted), if_neg (advancing_not_settling run _ advancing),
        if_pos short]
  | dampingLimit =>
      obtain ⟨top, high, base, iteration, stalled⟩ := told
      rw [if_neg (low high), if_pos ⟨base, iteration, stalled⟩, if_pos top]
  | noDecrease =>
      obtain ⟨room, high, base, iteration, stalled, count⟩ := told
      rw [if_neg (low high), if_pos ⟨base, iteration, stalled⟩, if_neg room]

end Precedence

/-- The status of a result is the one that tells what is true of the run. Every error that a relative decrease is taken of is
positive. -/
theorem optimize_status_iff [Scalar.Ordered α] (solver : LinearSolver α σ) (config : Config α) (graph : Graph α)
    (initial : Values α) (result : OptimizationResult α)
    (finished : optimize solver config graph initial = .ok result) :
    ∃ run, Optimizer.run solver config graph initial = .ok run ∧
      result = report solver config graph run result.status ∧
      (∀ status, result.status = status ↔
        Tells solver ⟨graph, .ofValues initial, config⟩ config.maxIterations 0 run status) ∧
      result.history.IsChain fun before _ => config.absoluteTolerance < before ∧ 0 < before := by
  obtain ⟨run, status, reached, ended, rfl⟩ := optimize_ok _ _ _ _ _ finished
  obtain ⟨valid, _, rfl, _, finite, course⟩ := run_ok _ _ _ _ _ reached
  obtain ⟨_, ⟨_, nonnegative⟩, _⟩ := config.validate_ok_iff.mp valid
  have compares := (Scalar.Ordered.comparable _ _ nonnegative).2
  have told := course_tells solver _ compares _ _ _ _ _ _ status course ended finite rfl
  have divisors := course_divisors solver _ compares _ _ _ _ _ _ course finite
  refine ⟨run, reached, rfl, fun other => ⟨fun same => same ▸ told, fun also => ?_⟩, ?_⟩
  · exact (tells_precedence solver _ _ _ run status told).trans (tells_precedence solver _ _ _ run other also).symm
  · exact divisors.imp fun before _ high => ⟨high, Scalar.lt_of_le_of_lt _ _ _ nonnegative high⟩

-- A singular system, then a step in the wrong direction as the last attempt allowed.
theorem optimize_status_iff_worse :
    let brief : Config Float := { Config.standard with maxRetries := 1 }
    let solver := prepared [.error .singular, .ok [10.0]]
    ∃ result run, optimize solver brief halfGraph halfStart = .ok result ∧ result.status = .noDecrease ∧
      ∃ base iteration, Stalled solver ⟨halfGraph, .ofValues halfStart, brief⟩ run base iteration ∧
        iteration.attempts.length = 2 := by
  intro brief solver
  obtain ⟨result, finished, status⟩ := Outcome.passes_ok (fun result : OptimizationResult Float =>
    decide (result.status = .noDecrease)) (optimize solver brief halfGraph halfStart) (by decide +kernel)
  obtain ⟨run, _, _, told, _⟩ := optimize_status_iff solver brief halfGraph halfStart result finished
  obtain ⟨_, _, base, iteration, stalled, count⟩ := (told .noDecrease).mp (of_decide_eq_true status)
  exact ⟨result, run, finished, of_decide_eq_true status, base, iteration, stalled, count⟩

end Optimizer

end FactorGraph
