import FactorGraph.Optimizer.Result
import FactorGraph.Proofs.Outcome

set_option autoImplicit false

namespace FactorGraph.Optimizer

variable {α σ : Type} [Scalar α]

structure Evaluated (problem : Problem α) (base : Base α) (lambda : α) (step : List α)
    (gradient? : Option (List α)) (trial : Trial α) : Prop where
  moved : ∃ updates, problem.layout.split (Block.column step) = .ok updates ∧
    base.values.retract updates = .ok trial.values
  error : problem.graph.error trial.values = .ok trial.error
  stepNorm : trial.stepNorm = Block.norm step
  gradientNorm : trial.gradientNorm = (gradient?.map Block.norm).getD 0
  gain : trial.gain =
    gainRatio base.error trial.error ((gradient?.map (predictedReduction step · lambda)).getD 0)

theorem evaluate_step_ok_iff (problem : Problem α) (base : Base α) (lambda : α) (step : List α)
    (gradient? : Option (List α)) (trial : Trial α) :
    evaluateStep problem base lambda step gradient? = .ok trial ↔
      Evaluated problem base lambda step gradient? trial := by
  constructor
  · intro computed
    obtain ⟨updates, cut, computed⟩ := (Outcome.bind_ok_iff _ _ _).mp computed
    obtain ⟨candidate, moved, computed⟩ := (Outcome.bind_ok_iff _ _ _).mp computed
    obtain ⟨error, evaluated, computed⟩ := (Outcome.bind_ok_iff _ _ _).mp computed
    rw [Outcome.map_error_ok_iff] at cut moved evaluated
    cases computed
    exact ⟨⟨updates, cut, moved⟩, evaluated, rfl, rfl, rfl⟩
  · rintro ⟨⟨updates, cut, moved⟩, evaluated, stepNorm, gradientNorm, gain⟩
    cases trial
    simp only at moved evaluated stepNorm gradientNorm gain
    subst stepNorm gradientNorm gain
    simp only [evaluateStep, cut, moved, evaluated, Except.mapError, Outcome.ok_bind, Outcome.return_ok]

theorem attempt_ok (solver : LinearSolver α σ) (problem : Problem α) (base : Base α) (lambda : α)
    (state next : σ) (trial : Trial α) (solved : attempt solver problem base lambda state = (.ok trial, next)) :
    ∃ step, solver.solve state base.residual base.jacobian (some lambda) = (.ok step, next) ∧
      Evaluated problem base lambda step (solver.gradient? next) trial := by
  unfold attempt at solved
  split at solved
  · cases solved
  · rename_i step after answer
    obtain ⟨evaluated, rfl⟩ := Prod.mk.inj solved
    exact ⟨step, answer, (evaluate_step_ok_iff _ _ _ _ _ _).mp evaluated⟩

theorem linearize_ok (problem : Problem α) (values : Values α) (error : α) (base : Base α)
    (linear : linearize problem values error = .ok base) :
    base.values = values ∧ base.error = error ∧
      ∃ factors system, problem.graph.linearize values = .ok factors ∧
        factors.toSparse problem.layout = .ok system ∧ base.jacobian = system.jacobian ∧
        base.residual = Block.column (system.rhs.map (- ·)) := by
  obtain ⟨factors, linearized, linear⟩ := (Outcome.bind_ok_iff _ _ _).mp linear
  obtain ⟨system, assembled, linear⟩ := (Outcome.bind_ok_iff _ _ _).mp linear
  rw [Outcome.map_error_ok_iff] at linearized assembled
  cases linear
  exact ⟨rfl, rfl, factors, system, linearized, assembled, rfl, rfl⟩

def Refused (base : Base α) : Except (OptimizerError α) (Trial α) → Prop
  | .ok trial => improves base trial = false
  | .error e => e.recoverable = true

inductive Tries (solver : LinearSolver α σ) (problem : Problem α) (base : Base α) :
    (remaining : Nat) → Damping α → σ → Iteration α → σ → Prop where
  | spent (damping : Damping α) (state : σ) :
      Tries solver problem base 0 damping state ⟨[], .exhausted, damping⟩ state
  | accepted (remaining : Nat) (damping : Damping α) (state next : σ) (trial : Trial α)
      (solved : attempt solver problem base damping.lambda state = (.ok trial, next))
      (better : improves base trial = true) :
      Tries solver problem base (remaining + 1) damping state
        ⟨[⟨damping.lambda, .ok trial⟩], .accepted trial, damping.accept trial.gain⟩ next
  | fatal (remaining : Nat) (damping : Damping α) (state next : σ) (e : OptimizerError α)
      (failed : attempt solver problem base damping.lambda state = (.error e, next))
      (beyond : e.recoverable = false) :
      Tries solver problem base (remaining + 1) damping state
        ⟨[⟨damping.lambda, .error e⟩], .fatal e, damping⟩ next
  | limit (remaining : Nat) (damping : Damping α) (state next : σ)
      (outcome : Except (OptimizerError α) (Trial α))
      (tried : attempt solver problem base damping.lambda state = (outcome, next))
      (refused : Refused base outcome) (top : damping.reject.atLimit = true) :
      Tries solver problem base (remaining + 1) damping state
        ⟨[⟨damping.lambda, outcome⟩], .exhausted, damping.reject⟩ next
  | again (remaining : Nat) (damping : Damping α) (state next last : σ)
      (outcome : Except (OptimizerError α) (Trial α)) (rest : Iteration α)
      (tried : attempt solver problem base damping.lambda state = (outcome, next))
      (refused : Refused base outcome) (room : damping.reject.atLimit = false)
      (others : Tries solver problem base remaining damping.reject next rest last) :
      Tries solver problem base (remaining + 1) damping state
        ⟨⟨damping.lambda, outcome⟩ :: rest.attempts, rest.verdict, rest.damping⟩ last

theorem refused_tries (solver : LinearSolver α σ) (problem : Problem α) (base : Base α)
    (remaining : Nat) (damping : Damping α) (state next last : σ)
    (outcome : Except (OptimizerError α) (Trial α)) (rest : Iteration α)
    (tried : attempt solver problem base damping.lambda state = (outcome, next))
    (refused : Refused base outcome)
    (others : Tries solver problem base remaining damping.reject next rest last) :
    let result : Iteration α × σ :=
      if damping.reject.atLimit then (⟨[⟨damping.lambda, outcome⟩], .exhausted, damping.reject⟩, next)
      else (⟨⟨damping.lambda, outcome⟩ :: rest.attempts, rest.verdict, rest.damping⟩, last)
    Tries solver problem base (remaining + 1) damping state result.1 result.2 := by
  cases top : damping.reject.atLimit with
  | true => exact .limit remaining damping state next outcome tried refused top
  | false => exact .again remaining damping state next last outcome rest tried refused top others

theorem attempts_tries (solver : LinearSolver α σ) (problem : Problem α) (base : Base α)
    (remaining : Nat) (damping : Damping α) (state : σ) :
    Tries solver problem base remaining damping state
      (attempts solver problem base remaining damping state).1
      (attempts solver problem base remaining damping state).2 := by
  -- By induction on the attempts that are left: a refusal raises the damping and leaves the others to go on from there.
  induction remaining generalizing damping state with
  | zero => exact .spent damping state
  | succ remaining ih =>
      rw [attempts]
      generalize tried : attempt solver problem base damping.lambda state = result
      obtain ⟨outcome, next⟩ := result
      have others := ih damping.reject next
      cases outcome with
      | ok trial =>
          cases better : improves base trial with
          | true =>
              simp only [better, if_true]
              exact .accepted remaining damping state next trial tried better
          | false =>
              simp only [better, Bool.false_eq_true, if_false]
              exact refused_tries solver problem base remaining damping state next _ _ _ tried better others
      | error e =>
          cases recoverable : e.recoverable with
          | true =>
              simp only [recoverable, if_true]
              exact refused_tries solver problem base remaining damping state next _ _ _ tried recoverable others
          | false =>
              simp only [recoverable, Bool.false_eq_true, if_false]
              exact .fatal remaining damping state next e tried recoverable

section Iteration

inductive Closing (base : Base α) : Verdict α → List (Attempt α) → Prop where
  | accepted (lambda : α) (trial : Trial α) (better : improves base trial = true) :
      Closing base (.accepted trial) [⟨lambda, .ok trial⟩]
  | fatal (lambda : α) (e : OptimizerError α) (beyond : e.recoverable = false) :
      Closing base (.fatal e) [⟨lambda, .error e⟩]
  | exhausted : Closing base .exhausted []

variable (solver : LinearSolver α σ) (problem : Problem α) (base : Base α) (remaining : Nat) (damping : Damping α)
  (state last : σ) (iteration : Iteration α)
  (tries : Tries solver problem base remaining damping state iteration last)

include tries

theorem tries_closing : ∃ refused closing, iteration.attempts = refused ++ closing ∧
    (∀ a ∈ refused, Refused base a.outcome) ∧ Closing base iteration.verdict closing := by
  induction tries with
  | spent => exact ⟨[], [], rfl, by simp, .exhausted⟩
  | accepted remaining damping state next trial solved better =>
      exact ⟨[], _, rfl, by simp, .accepted damping.lambda trial better⟩
  | fatal remaining damping state next e failed beyond =>
      exact ⟨[], _, rfl, by simp, .fatal damping.lambda e beyond⟩
  | limit remaining damping state next outcome tried refused top =>
      exact ⟨[_], [], rfl, by simpa using refused, .exhausted⟩
  | again remaining damping state next last outcome rest tried refused room others ih =>
      obtain ⟨earlier, closing, same, each, closes⟩ := ih
      exact ⟨⟨damping.lambda, outcome⟩ :: earlier, closing, by rw [same, List.cons_append],
        List.forall_mem_cons.mpr ⟨refused, each⟩, closes⟩

theorem tries_count : iteration.attempts.length ≤ remaining := by
  induction tries with
  | spent => exact Nat.le_refl 0
  | accepted | fatal | limit => exact Nat.succ_le_succ (Nat.zero_le _)
  | again remaining damping state next last outcome rest tried refused room others ih => exact Nat.succ_le_succ ih

theorem tries_tried : ∀ a ∈ iteration.attempts, ∃ before after,
    attempt solver problem base a.damping before = (a.outcome, after) := by
  induction tries with
  | spent => simp
  | accepted remaining damping state next trial tried | fatal remaining damping state next e tried
  | limit remaining damping state next outcome tried =>
      intro a mem
      cases List.mem_singleton.mp mem
      exact ⟨state, next, tried⟩
  | again remaining damping state next last outcome rest tried refused room others ih =>
      exact List.forall_mem_cons.mpr ⟨⟨state, next, tried⟩, ih⟩

theorem tries_refused (verdict : iteration.verdict = .exhausted) : ∀ a ∈ iteration.attempts, Refused base a.outcome := by
  obtain ⟨refused, closing, attempts, each, closes⟩ := tries_closing _ _ _ _ _ _ _ _ tries
  rw [verdict] at closes
  cases closes with
  | exhausted => rwa [attempts, List.append_nil]

theorem tries_accepted_last (trial : Trial α) (verdict : iteration.verdict = .accepted trial) :
    ∃ refused lambda, iteration.attempts = refused ++ [⟨lambda, .ok trial⟩] ∧ ∀ a ∈ refused, Refused base a.outcome := by
  obtain ⟨refused, closing, attempts, each, closes⟩ := tries_closing _ _ _ _ _ _ _ _ tries
  rw [verdict] at closes
  cases closes with
  | accepted lambda trial better => exact ⟨refused, lambda, attempts, each⟩

theorem tries_fatal_last (e : OptimizerError α) (verdict : iteration.verdict = .fatal e) :
    e.recoverable = false ∧ ∃ refused lambda, iteration.attempts = refused ++ [⟨lambda, .error e⟩] ∧
      ∀ a ∈ refused, Refused base a.outcome := by
  obtain ⟨refused, closing, attempts, each, closes⟩ := tries_closing _ _ _ _ _ _ _ _ tries
  rw [verdict] at closes
  cases closes with
  | fatal lambda e beyond => exact ⟨beyond, refused, lambda, attempts, each⟩

end Iteration

theorem surrender_exhausted (iteration : Iteration α) (e : OptimizerError α)
    (given : surrender iteration = .error e) : ∃ earlier lambda cause,
      iteration.attempts = earlier ++ [⟨lambda, .error cause⟩] ∧ e = .retriesExhausted iteration.attempts.length cause := by
  unfold surrender at given
  split at given
  · rename_i lambda cause last
    cases given
    obtain ⟨earlier, attempts⟩ := List.getLast?_eq_some_iff.mp last
    exact ⟨earlier, lambda, cause, attempts, rfl⟩
  · split at given <;> cases given

structure Begins (problem : Problem α) (done : Nat) (state : State α σ) (base : Base α) : Prop where
  unconverged : ¬ state.error ≤ problem.config.absoluteTolerance
  undisturbed : problem.config.aborted done = false
  linear : linearize problem state.values state.error = .ok base

inductive Course (solver : LinearSolver α σ) (problem : Problem α) :
    (remaining done : Nat) → State α σ → List (Iteration α) → Damping α →
      Except (OptimizerError α) Status → Prop where
  | converged (remaining done : Nat) (state : State α σ)
      (low : state.error ≤ problem.config.absoluteTolerance) :
      Course solver problem remaining done state [] state.damping (.ok .converged)
  | budget (done : Nat) (state : State α σ)
      (high : ¬ state.error ≤ problem.config.absoluteTolerance) :
      Course solver problem 0 done state [] state.damping (.ok .maxIterations)
  | aborted (remaining done : Nat) (state : State α σ)
      (high : ¬ state.error ≤ problem.config.absoluteTolerance)
      (signal : problem.config.aborted done = true) :
      Course solver problem (remaining + 1) done state [] state.damping (.ok .userTerminated)
  | broken (remaining done : Nat) (state : State α σ) (e : OptimizerError α)
      (high : ¬ state.error ≤ problem.config.absoluteTolerance)
      (undisturbed : problem.config.aborted done = false)
      (failed : linearize problem state.values state.error = .error e) :
      Course solver problem (remaining + 1) done state [] state.damping (.error e)
  | fatal (remaining done : Nat) (state : State α σ) (base : Base α) (iteration : Iteration α)
      (last : σ) (e : OptimizerError α) (begins : Begins problem done state base)
      (tries : Tries solver problem base (problem.config.maxRetries + 1) state.damping state.solver iteration last)
      (verdict : iteration.verdict = .fatal e) :
      Course solver problem (remaining + 1) done state [iteration] iteration.damping (.error e)
  | surrendered (remaining done : Nat) (state : State α σ) (base : Base α) (iteration : Iteration α)
      (last : σ) (begins : Begins problem done state base)
      (tries : Tries solver problem base (problem.config.maxRetries + 1) state.damping state.solver iteration last)
      (verdict : iteration.verdict = .exhausted) :
      Course solver problem (remaining + 1) done state [iteration] iteration.damping (surrender iteration)
  | settled (remaining done : Nat) (state : State α σ) (base : Base α) (iteration : Iteration α)
      (last : σ) (trial : Trial α) (begins : Begins problem done state base)
      (tries : Tries solver problem base (problem.config.maxRetries + 1) state.damping state.solver iteration last)
      (verdict : iteration.verdict = .accepted trial)
      (small : settled problem.config state.error trial.error = true) :
      Course solver problem (remaining + 1) done state [iteration] iteration.damping (.ok .converged)
  | onward (remaining done : Nat) (state : State α σ) (base : Base α) (iteration : Iteration α)
      (last : σ) (trial : Trial α) (rest : List (Iteration α)) (damping : Damping α)
      (ending : Except (OptimizerError α) Status) (begins : Begins problem done state base)
      (tries : Tries solver problem base (problem.config.maxRetries + 1) state.damping state.solver iteration last)
      (verdict : iteration.verdict = .accepted trial)
      (large : settled problem.config state.error trial.error = false)
      (others : Course solver problem remaining (done + 1)
        ⟨trial.values, trial.error, iteration.damping, last⟩ rest damping ending) :
      Course solver problem (remaining + 1) done state (iteration :: rest) damping ending

theorem iterate_course (solver : LinearSolver α σ) (problem : Problem α) (remaining done : Nat)
    (state : State α σ) :
    let result := iterate solver problem remaining done state
    Course solver problem remaining done state result.1 result.2.1 result.2.2 := by
  -- By induction on the budget: a step that is accepted and not slight leads to the course of the rest of the run.
  induction remaining generalizing done state with
  | zero =>
      rw [iterate]
      by_cases low : state.error ≤ problem.config.absoluteTolerance
      · simp only [if_pos low]
        exact .converged 0 done state low
      · simp only [if_neg low]
        exact .budget done state low
  | succ remaining ih =>
      rw [iterate]
      by_cases low : state.error ≤ problem.config.absoluteTolerance
      · simp only [if_pos low]
        exact .converged (remaining + 1) done state low
      simp only [if_neg low]
      cases signal : problem.config.aborted done with
      | true =>
          simp only [if_true]
          exact .aborted remaining done state low signal
      | false =>
          simp only [Bool.false_eq_true, if_false]
          cases linear : linearize problem state.values state.error with
          | error e => exact .broken remaining done state e low signal linear
          | ok base =>
              have begins : Begins problem done state base := ⟨low, signal, linear⟩
              have tries := attempts_tries solver problem base (problem.config.maxRetries + 1)
                state.damping state.solver
              dsimp only
              generalize attempts solver problem base (problem.config.maxRetries + 1)
                state.damping state.solver = made at tries ⊢
              obtain ⟨iteration, last⟩ := made
              dsimp only at tries ⊢
              cases verdict : iteration.verdict with
              | fatal e => exact .fatal remaining done state base iteration last e begins tries verdict
              | exhausted => exact .surrendered remaining done state base iteration last begins tries verdict
              | accepted trial =>
                  cases small : settled problem.config state.error trial.error with
                  | true =>
                      simp only [small, if_true]
                      exact .settled remaining done state base iteration last trial begins tries verdict small
                  | false =>
                      simp only [small, Bool.false_eq_true, if_false]
                      exact .onward remaining done state base iteration last trial _ _ _ begins tries
                        verdict small (ih _ _)

def State.start (solver : LinearSolver α σ) (config : Config α) (initial : Values α) (error : α) :
    State α σ :=
  ⟨initial, error, .start config, solver.start⟩

theorem run_ok (solver : LinearSolver α σ) (config : Config α) (graph : Graph α) (initial : Values α)
    (run : Run α) (reached : Optimizer.run solver config graph initial = .ok run) :
    config.validate = .ok () ∧ initial.isEmpty = false ∧ run.initial = initial ∧
      graph.error initial = .ok run.initialError ∧ Scalar.isFinite run.initialError = true ∧
      Course solver ⟨graph, .ofValues initial, config⟩ config.maxIterations 0
        (.start solver config initial run.initialError) run.iterations run.damping run.ending := by
  obtain ⟨_, valid, reached⟩ := (Outcome.bind_ok_iff _ _ _).mp reached
  cases empty : initial.isEmpty with
  | true => simp [empty] at reached
  | false =>
      simp only [empty, Bool.false_eq_true, if_false] at reached
      obtain ⟨error, evaluated, reached⟩ := (Outcome.bind_ok_iff _ _ _).mp reached
      rw [Outcome.map_error_ok_iff] at evaluated
      cases finite : Scalar.isFinite error with
      | false => simp [finite] at reached
      | true =>
          simp only [finite, Bool.not_true, Bool.false_eq_true, if_false] at reached
          cases reached
          exact ⟨valid, rfl, rfl, evaluated, finite, iterate_course _ _ _ _ _⟩

end FactorGraph.Optimizer
