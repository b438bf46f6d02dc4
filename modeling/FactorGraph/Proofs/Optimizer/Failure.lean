import FactorGraph.Proofs.Optimizer.History

set_option autoImplicit false

namespace FactorGraph

variable {α : Type}

-- What is wrong with the graph or the types of its variables, whatever the step.
def OptimizerError.Structural : OptimizerError α → Prop
  | .graph (.missingKey _) | .graph (.typeMismatch ..) | .graph (.shape _) => True
  | .graph (.manifold (.tangentDimension ..)) | .graph (.manifold (.dimensionMismatch ..)) => True
  | .graph (.factor _ cause) => ∀ fault, cause ≠ .cheirality fault
  | _ => False

theorem OptimizerError.structural_beyond (e : OptimizerError α) (structural : e.Structural) : e.recoverable = false := by
  cases e with
  | graph cause =>
      cases cause with
      | factor subject fault =>
          cases fault with
          | cheirality fault => exact absurd rfl (structural fault)
          | _ => rfl
      | manifold fault =>
          cases fault with
          | notFinite => exact structural.elim
          | _ => rfl
      | notFinite => exact structural.elim
      | _ => rfl
  | _ => exact structural.elim

namespace Run

section Accepted

variable (values : Values α) (error : α) (iteration : Iteration α) (rest : List (Iteration α)) (damping : Damping α)
  (ending : Except (OptimizerError α) Status) (trial : Trial α) (verdict : iteration.verdict = .accepted trial)

include verdict

theorem accepted_cons : (⟨values, error, iteration :: rest, damping, ending⟩ : Run α).accepted =
    trial :: (⟨trial.values, trial.error, rest, damping, ending⟩ : Run α).accepted := by
  simp [accepted, Iteration.accepted?, verdict]

theorem history_cons : (⟨values, error, iteration :: rest, damping, ending⟩ : Run α).history =
    error :: (⟨trial.values, trial.error, rest, damping, ending⟩ : Run α).history := by
  rw [history, accepted_cons values error iteration rest damping ending trial verdict]
  rfl

theorem values_cons : (⟨values, error, iteration :: rest, damping, ending⟩ : Run α).values =
    (⟨trial.values, trial.error, rest, damping, ending⟩ : Run α).values := by
  refine Option.some.inj ?_
  rw [← values_last, ← values_last, accepted_cons values error iteration rest damping ending trial verdict]
  exact List.getLast?_cons_cons

theorem error_cons : (⟨values, error, iteration :: rest, damping, ending⟩ : Run α).error =
    (⟨trial.values, trial.error, rest, damping, ending⟩ : Run α).error := by
  refine Option.some.inj ?_
  rw [← history_last, ← history_last, history_cons values error iteration rest damping ending trial verdict]
  exact List.getLast?_cons_cons

end Accepted

end Run

namespace Optimizer

variable {σ : Type} [Scalar α]

def Mendable (a : Attempt α) : Prop := ∀ e, a.outcome = .error e → e.recoverable = true

theorem refused_mendable (base : Base α) (a : Attempt α) (refused : Refused base a.outcome) : Mendable a := by
  intro e failed
  rw [failed] at refused
  exact refused

theorem tries_mendable (solver : LinearSolver α σ) (problem : Problem α) (base : Base α) (remaining : Nat)
    (damping : Damping α) (state last : σ) (iteration : Iteration α) (trial : Trial α)
    (tries : Tries solver problem base remaining damping state iteration last)
    (verdict : iteration.verdict = .accepted trial) : ∀ a ∈ iteration.attempts, Mendable a := by
  obtain ⟨refused, lambda, attempts, each⟩ := tries_accepted_last _ _ _ _ _ _ _ _ tries trial verdict
  rw [attempts, List.forall_mem_append, List.forall_mem_singleton]
  exact ⟨fun a mem => refused_mendable base a (each a mem), nofun⟩

inductive Origin where
  | beginning
  | linearization
  | trial
  | exhaustion
deriving DecidableEq

inductive Unbegun (config : Config α) (graph : Graph α) (initial : Values α) : OptimizerError α → Prop where
  | parameters (fault : ParameterFault) (invalid : config.validate = .error (.parameters fault)) :
      Unbegun config graph initial (.parameters fault)
  | emptyProblem (valid : config.validate = .ok ()) (empty : initial.isEmpty = true) :
      Unbegun config graph initial .emptyProblem
  | evaluation (cause : GraphError α) (valid : config.validate = .ok ()) (inhabited : initial.isEmpty = false)
      (failed : graph.error initial = .error cause) : Unbegun config graph initial (.graph cause)
  | instability (error : α) (valid : config.validate = .ok ()) (inhabited : initial.isEmpty = false)
      (evaluated : graph.error initial = .ok error) (infinite : Scalar.isFinite error = false) :
      Unbegun config graph initial (.instability (.initialError error))

-- The last iteration of a run, made from the last accepted estimate, accepted nothing.
structure Stuck (solver : LinearSolver α σ) (problem : Problem α) (run : Run α) (base : Base α)
    (iteration : Iteration α) : Prop where
  last : ∃ earlier, run.iterations = earlier ++ [iteration] ∧ ∀ i ∈ earlier, i.accepted?.isSome
  unaccepted : iteration.accepted? = none
  linear : linearize problem run.values run.error = .ok base
  tried : ∀ a ∈ iteration.attempts, ∃ before after, attempt solver problem base a.damping before = (a.outcome, after)

inductive Failure (solver : LinearSolver α σ) (problem : Problem α) (run : Run α) : Origin → OptimizerError α → Prop where
  | linearization (cause : GraphError α) (accepted : ∀ i ∈ run.iterations, i.accepted?.isSome)
      (failed : problem.graph.linearize run.values = .error cause ∨
        ∃ linear, problem.graph.linearize run.values = .ok linear ∧ linear.toSparse problem.layout = .error cause) :
      Failure solver problem run .linearization (.graph cause)
  | trial (base : Base α) (iteration : Iteration α) (stuck : Stuck solver problem run base iteration)
      (refused : List (Attempt α)) (lambda : α) (e : OptimizerError α)
      (attempts : iteration.attempts = refused ++ [⟨lambda, .error e⟩])
      (others : ∀ a ∈ refused, Refused base a.outcome) (beyond : e.recoverable = false) :
      Failure solver problem run .trial e
  | exhaustion (base : Base α) (iteration : Iteration α) (stuck : Stuck solver problem run base iteration)
      (refused : List (Attempt α)) (lambda : α) (cause : OptimizerError α)
      (attempts : iteration.attempts = refused ++ [⟨lambda, .error cause⟩])
      (others : ∀ a ∈ iteration.attempts, Refused base a.outcome) (mendable : cause.recoverable = true)
      (counted : 1 ≤ iteration.attempts.length ∧ iteration.attempts.length ≤ problem.config.maxRetries + 1) :
      Failure solver problem run .exhaustion (.retriesExhausted iteration.attempts.length cause)

inductive Explains (solver : LinearSolver α σ) (config : Config α) (graph : Graph α) (initial : Values α) :
    Origin → OptimizerError α → Prop where
  | beginning (e : OptimizerError α) (unbegun : Unbegun config graph initial e) :
      Explains solver config graph initial .beginning e
  | begun (run : Run α) (origin : Origin) (e : OptimizerError α)
      (reached : Optimizer.run solver config graph initial = .ok run) (ended : run.ending = .error e)
      (failure : Failure solver ⟨graph, .ofValues initial, config⟩ run origin e) :
      Explains solver config graph initial origin e

section Course

variable (solver : LinearSolver α σ) (problem : Problem α)

theorem linearize_error (values : Values α) (error : α) (e : OptimizerError α)
    (failed : linearize problem values error = .error e) :
    ∃ cause, e = .graph cause ∧ (problem.graph.linearize values = .error cause ∨
      ∃ linear, problem.graph.linearize values = .ok linear ∧ linear.toSparse problem.layout = .error cause) := by
  rcases (Outcome.bind_error_iff _ _ _).mp failed with broke | ⟨linear, linearized, failed⟩
  · obtain ⟨cause, unlinearized, rfl⟩ := (Outcome.map_error_error_iff _ _ _).mp broke
    exact ⟨cause, rfl, .inl unlinearized⟩
  · rw [Outcome.map_error_ok_iff] at linearized
    rcases (Outcome.bind_error_iff _ _ _).mp failed with broke | ⟨system, assembled, impossible⟩
    · obtain ⟨cause, unassembled, rfl⟩ := (Outcome.map_error_error_iff _ _ _).mp broke
      exact ⟨cause, rfl, .inr ⟨linear, linearized, unassembled⟩⟩
    · cases impossible

theorem stuck_last (done : Nat) (state : State α σ) (base : Base α) (iteration : Iteration α) (last : σ)
    (ending : Except (OptimizerError α) Status) (begins : Begins problem done state base)
    (tries : Tries solver problem base (problem.config.maxRetries + 1) state.damping state.solver iteration last)
    (unaccepted : iteration.accepted? = none) :
    Stuck solver problem ⟨state.values, state.error, [iteration], iteration.damping, ending⟩ base iteration where
  last := ⟨[], rfl, by simp⟩
  unaccepted := unaccepted
  linear := by simpa [Run.values, Run.error, Run.accepted, unaccepted] using begins.linear
  tried := tries_tried _ _ _ _ _ _ _ _ tries

section Onward

variable (values : Values α) (error : α) (iteration : Iteration α) (rest : List (Iteration α)) (damping : Damping α)
  (ending : Except (OptimizerError α) Status) (trial : Trial α) (verdict : iteration.verdict = .accepted trial)

include verdict

theorem stuck_onward (base : Base α) (other : Iteration α)
    (stuck : Stuck solver problem ⟨trial.values, trial.error, rest, damping, ending⟩ base other) :
    Stuck solver problem ⟨values, error, iteration :: rest, damping, ending⟩ base other where
  last := by
    obtain ⟨earlier, iterations, accepted⟩ := stuck.last
    refine ⟨iteration :: earlier, congrArg (iteration :: ·) iterations, List.forall_mem_cons.mpr ⟨?_, accepted⟩⟩
    simp [Iteration.accepted?, verdict]
  unaccepted := stuck.unaccepted
  linear := by
    rw [Run.values_cons values error iteration rest damping ending trial verdict,
      Run.error_cons values error iteration rest damping ending trial verdict]
    exact stuck.linear
  tried := stuck.tried

theorem failure_onward (origin : Origin) (e : OptimizerError α)
    (failure : Failure solver problem ⟨trial.values, trial.error, rest, damping, ending⟩ origin e) :
    Failure solver problem ⟨values, error, iteration :: rest, damping, ending⟩ origin e := by
  cases failure with
  | linearization cause accepted failed =>
      refine .linearization cause (List.forall_mem_cons.mpr ⟨by simp [Iteration.accepted?, verdict], accepted⟩) ?_
      rwa [Run.values_cons values error iteration rest damping ending trial verdict]
  | trial base other stuck refused lambda e attempts others beyond =>
      exact .trial base other (stuck_onward _ _ _ _ _ _ _ _ trial verdict base other stuck) refused lambda e attempts
        others beyond
  | exhaustion base other stuck refused lambda cause attempts others mendable counted =>
      exact .exhaustion base other (stuck_onward _ _ _ _ _ _ _ _ trial verdict base other stuck) refused lambda cause
        attempts others mendable counted

end Onward

theorem course_failure (remaining done : Nat) (state : State α σ) (iterations : List (Iteration α)) (damping : Damping α)
    (ending : Except (OptimizerError α) Status) (e : OptimizerError α)
    (course : Course solver problem remaining done state iterations damping ending) (failed : ending = .error e) :
    ∃ origin, Failure solver problem ⟨state.values, state.error, iterations, damping, ending⟩ origin e := by
  induction course with
  | converged | budget | aborted | settled => cases failed
  | broken remaining done state cause high undisturbed broke =>
      cases failed
      obtain ⟨cause, rfl, reason⟩ := linearize_error problem _ _ _ broke
      exact ⟨.linearization, .linearization cause (by simp) reason⟩
  | fatal remaining done state base iteration last cause begins tries verdict =>
      cases failed
      obtain ⟨beyond, refused, lambda, attempts, others⟩ := tries_fatal_last _ _ _ _ _ _ _ _ tries e verdict
      have stuck := stuck_last solver problem done state base iteration last (.error e) begins tries
        (by rw [Iteration.accepted?, verdict])
      exact ⟨.trial, .trial base iteration stuck refused lambda e attempts others beyond⟩
  | surrendered remaining done state base iteration last begins tries verdict =>
      obtain ⟨earlier, lambda, cause, attempts, rfl⟩ := surrender_exhausted iteration e failed
      have refused := tries_refused _ _ _ _ _ _ _ _ tries verdict
      have stuck := stuck_last solver problem done state base iteration last (surrender iteration) begins tries
        (by rw [Iteration.accepted?, verdict])
      have mendable : cause.recoverable = true := refused ⟨lambda, .error cause⟩ (by simp [attempts])
      have made : 1 ≤ iteration.attempts.length := by simp [attempts]
      exact ⟨.exhaustion, .exhaustion base iteration stuck earlier lambda cause attempts refused mendable
        ⟨made, tries_count _ _ _ _ _ _ _ _ tries⟩⟩
  | onward remaining done state base iteration last trial rest damping ending begins tries verdict large
      others ih =>
      obtain ⟨origin, failure⟩ := ih failed
      exact ⟨origin, failure_onward _ _ _ _ _ _ _ _ trial verdict origin e failure⟩

theorem course_mendable (remaining done : Nat) (state : State α σ) (iterations : List (Iteration α)) (damping : Damping α)
    (ending : Except (OptimizerError α) Status)
    (course : Course solver problem remaining done state iterations damping ending) :
    ∃ mendable closing, iterations.flatMap (·.attempts) = mendable ++ closing ∧ (∀ a ∈ mendable, Mendable a) ∧
      ∀ a ∈ closing, closing = [a] ∧ ∃ e, a.outcome = .error e ∧ ending = .error e := by
  induction course with
  | converged | budget | aborted | broken => exact ⟨[], [], rfl, by simp, by simp⟩
  | fatal remaining done state base iteration last e begins tries verdict =>
      obtain ⟨_, refused, lambda, attempts, others⟩ := tries_fatal_last _ _ _ _ _ _ _ _ tries e verdict
      refine ⟨refused, [⟨lambda, .error e⟩], by simpa using attempts,
        fun a mem => refused_mendable base a (others a mem), ?_⟩
      exact List.forall_mem_singleton.mpr ⟨rfl, e, rfl, rfl⟩
  | surrendered remaining done state base iteration last begins tries verdict =>
      have refused := tries_refused _ _ _ _ _ _ _ _ tries verdict
      exact ⟨iteration.attempts, [], by simp, fun a mem => refused_mendable base a (refused a mem), by simp⟩
  | settled remaining done state base iteration last trial begins tries verdict small =>
      exact ⟨iteration.attempts, [], by simp, tries_mendable _ _ _ _ _ _ _ _ trial tries verdict, by simp⟩
  | onward remaining done state base iteration last trial rest damping ending begins tries verdict large
      others ih =>
      obtain ⟨mendable, closing, same, each, closes⟩ := ih
      refine ⟨iteration.attempts ++ mendable, closing, by simp [same], ?_, closes⟩
      rw [List.forall_mem_append]
      exact ⟨tries_mendable _ _ _ _ _ _ _ _ trial tries verdict, each⟩

end Course

section Beginning

variable (solver : LinearSolver α σ) (config : Config α) (graph : Graph α) (initial : Values α) (e : OptimizerError α)

theorem validate_error (invalid : config.validate = .error e) : ∃ fault, e = .parameters fault := by
  unfold Config.validate at invalid
  split_ifs at invalid
  all_goals cases invalid
  all_goals exact ⟨_, rfl⟩

theorem run_error_iff : Optimizer.run solver config graph initial = .error e ↔ Unbegun config graph initial e := by
  constructor
  · intro failed
    rcases (Outcome.bind_error_iff _ _ _).mp failed with invalid | ⟨_, valid, failed⟩
    · obtain ⟨fault, rfl⟩ := validate_error config e invalid
      exact .parameters fault invalid
    cases empty : initial.isEmpty with
    | true =>
        simp only [empty, if_true, Outcome.throw_error, Outcome.error_bind, Except.error.injEq] at failed
        exact failed ▸ .emptyProblem valid empty
    | false =>
        simp only [empty, Bool.false_eq_true, if_false] at failed
        rcases (Outcome.bind_error_iff _ _ _).mp failed with broke | ⟨error, evaluated, failed⟩
        · obtain ⟨cause, unevaluated, rfl⟩ := (Outcome.map_error_error_iff _ _ _).mp broke
          exact .evaluation cause valid empty unevaluated
        · rw [Outcome.map_error_ok_iff] at evaluated
          cases finite : Scalar.isFinite error with
          | true => simp [finite] at failed
          | false =>
              simp only [finite, Bool.not_false, if_true, Outcome.throw_error, Outcome.error_bind,
                Except.error.injEq] at failed
              exact failed ▸ .instability error valid empty evaluated finite
  · rintro (⟨fault, invalid⟩ | ⟨valid, empty⟩ | ⟨cause, valid, inhabited, failed⟩ |
      ⟨error, valid, inhabited, evaluated, infinite⟩)
    · simp [Optimizer.run, invalid]
    · simp [Optimizer.run, valid, empty]
    · simp [Optimizer.run, valid, inhabited, failed, Except.mapError]
    · simp [Optimizer.run, valid, inhabited, evaluated, infinite, Except.mapError]

theorem optimize_error (failed : optimize solver config graph initial = .error e) :
    Unbegun config graph initial e ∨
      ∃ run, Optimizer.run solver config graph initial = .ok run ∧ run.ending = .error e := by
  rcases (Outcome.bind_error_iff _ _ _).mp failed with unbegun | ⟨run, reached, failed⟩
  · exact .inl ((run_error_iff solver config graph initial e).mp unbegun)
  · rcases (Outcome.bind_error_iff _ _ _).mp failed with ended | ⟨status, ended, impossible⟩
    · exact .inr ⟨run, reached, ended⟩
    · cases impossible

end Beginning

section Origin

variable (solver : LinearSolver α σ) (problem : Problem α) (run : Run α)

theorem stuck_not_accepted (base : Base α) (iteration : Iteration α) (stuck : Stuck solver problem run base iteration)
    (accepted : ∀ i ∈ run.iterations, i.accepted?.isSome) : False := by
  obtain ⟨earlier, iterations, _⟩ := stuck.last
  have here := accepted iteration (by simp [iterations])
  rw [stuck.unaccepted] at here
  cases here

theorem stuck_same (base other : Base α) (iteration another : Iteration α)
    (stuck : Stuck solver problem run base iteration) (again : Stuck solver problem run other another) :
    iteration = another := by
  obtain ⟨earlier, iterations, _⟩ := stuck.last
  obtain ⟨before, same, _⟩ := again.last
  exact List.singleton_inj.mp (List.append_inj' (iterations.symm.trans same) rfl).2

theorem trial_not_exhaustion (e cause : OptimizerError α) (trial : Failure solver problem run .trial e)
    (exhaustion : Failure solver problem run .exhaustion cause) : False := by
  cases trial with
  | trial base iteration stuck refused lambda e attempts each beyond =>
      cases exhaustion with
      | exhaustion other another again _ _ _ _ others _ _ =>
          cases stuck_same solver problem run _ _ _ _ stuck again
          have mendable : e.recoverable = true := others ⟨lambda, .error e⟩ (by simp [attempts])
          rw [beyond] at mendable
          cases mendable

theorem linearization_only (e cause : OptimizerError α) (origin : Origin)
    (linearization : Failure solver problem run .linearization e) (failure : Failure solver problem run origin cause) :
    origin = .linearization := by
  cases linearization with
  | linearization _ accepted _ =>
      cases failure with
      | linearization => rfl
      | trial base iteration stuck => exact (stuck_not_accepted _ _ _ base iteration stuck accepted).elim
      | exhaustion base iteration stuck => exact (stuck_not_accepted _ _ _ base iteration stuck accepted).elim

theorem failure_unique (first second : Origin) (e cause : OptimizerError α)
    (one : Failure solver problem run first e) (two : Failure solver problem run second cause) : first = second := by
  cases first with
  | beginning => cases one
  | linearization => exact (linearization_only solver problem run e cause second one two).symm
  | trial =>
      cases second with
      | beginning => cases two
      | linearization => exact linearization_only solver problem run cause e _ two one
      | trial => rfl
      | exhaustion => exact (trial_not_exhaustion solver problem run e cause one two).elim
  | exhaustion =>
      cases second with
      | beginning => cases two
      | linearization => exact linearization_only solver problem run cause e _ two one
      | trial => exact (trial_not_exhaustion solver problem run cause e two one).elim
      | exhaustion => rfl

theorem evaluate_step_error (base : Base α) (lambda : α) (step : List α) (gradient? : Option (List α))
    (e : OptimizerError α) (failed : evaluateStep problem base lambda step gradient? = .error e) :
    ∃ cause, e = .graph cause := by
  rcases (Outcome.bind_error_iff _ _ _).mp failed with broke | ⟨_, _, failed⟩
  · obtain ⟨cause, _, rfl⟩ := (Outcome.map_error_error_iff _ _ _).mp broke
    exact ⟨cause, rfl⟩
  rcases (Outcome.bind_error_iff _ _ _).mp failed with broke | ⟨_, _, failed⟩
  · obtain ⟨cause, _, rfl⟩ := (Outcome.map_error_error_iff _ _ _).mp broke
    exact ⟨cause, rfl⟩
  rcases (Outcome.bind_error_iff _ _ _).mp failed with broke | ⟨_, _, impossible⟩
  · obtain ⟨cause, _, rfl⟩ := (Outcome.map_error_error_iff _ _ _).mp broke
    exact ⟨cause, rfl⟩
  · cases impossible

theorem attempt_error (base : Base α) (lambda : α) (state next : σ) (e : OptimizerError α)
    (failed : attempt solver problem base lambda state = (.error e, next)) :
    (∃ cause, e = .graph cause) ∨ ∃ cause, e = .linear cause := by
  unfold attempt at failed
  split at failed
  · obtain ⟨same, _⟩ := Prod.mk.inj failed
    cases same
    exact .inr ⟨_, rfl⟩
  · exact .inl (evaluate_step_error problem base lambda _ _ e (Prod.mk.inj failed).1)

theorem failure_not_nested (origin : Origin) (e cause : OptimizerError α) (retries : Nat)
    (failure : Failure solver problem run origin e) (gaveUp : e = .retriesExhausted retries cause) :
    cause.recoverable = true := by
  cases failure with
  | linearization => cases gaveUp
  | trial base iteration stuck refused lambda e attempts =>
      obtain ⟨before, after, tried⟩ := stuck.tried ⟨lambda, .error e⟩ (by simp [attempts])
      rcases attempt_error solver problem base lambda before after e tried with ⟨fault, rfl⟩ | ⟨fault, rfl⟩
      · cases gaveUp
      · cases gaveUp
  | exhaustion base iteration stuck refused lambda cause attempts others mendable =>
      cases gaveUp
      exact mendable

theorem failure_recoverable (origin : Origin) (e : OptimizerError α) (failure : Failure solver problem run origin e)
    (mendable : e.recoverable = true) : origin = .linearization := by
  cases failure with
  | linearization => rfl
  | trial _ _ _ _ _ _ _ _ beyond =>
      rw [beyond] at mendable
      cases mendable
  | exhaustion => cases mendable

end Origin

section Explained

variable (solver : LinearSolver α σ) (config : Config α) (graph : Graph α) (initial : Values α)

theorem optimize_explained (e : OptimizerError α) (failed : optimize solver config graph initial = .error e) :
    ∃ origin, Explains solver config graph initial origin e := by
  rcases optimize_error solver config graph initial e failed with unbegun | ⟨run, reached, ended⟩
  · exact ⟨.beginning, .beginning e unbegun⟩
  · obtain ⟨_, _, rfl, _, _, course⟩ := run_ok _ _ _ _ _ reached
    obtain ⟨origin, failure⟩ := course_failure solver _ _ _ _ _ _ _ e course ended
    exact ⟨origin, .begun run origin e reached ended failure⟩

theorem run_failed (run : Run α) (reached : Optimizer.run solver config graph initial = .ok run) (e : OptimizerError α)
    (ended : run.ending = .error e) : optimize solver config graph initial = .error e := by
  simp [optimize, reached, ended]

theorem explains_failed (origin : Origin) (e : OptimizerError α)
    (explains : Explains solver config graph initial origin e) : optimize solver config graph initial = .error e := by
  cases explains with
  | beginning _ unbegun => simp [optimize, (run_error_iff solver config graph initial e).mpr unbegun]
  | begun run _ _ reached ended => exact run_failed solver config graph initial run reached e ended

theorem unbegun_not_reached (e : OptimizerError α) (unbegun : Unbegun config graph initial e) (run : Run α) :
    Optimizer.run solver config graph initial ≠ .ok run := by
  rw [(run_error_iff solver config graph initial e).mpr unbegun]
  nofun

theorem explains_unique (first second : Origin) (e : OptimizerError α)
    (one : Explains solver config graph initial first e) (two : Explains solver config graph initial second e) :
    first = second := by
  cases one with
  | beginning _ unbegun =>
      cases two with
      | beginning => rfl
      | begun run _ _ reached => exact absurd reached (unbegun_not_reached solver config graph initial e unbegun run)
  | begun run _ _ reached _ failure =>
      cases two with
      | beginning _ unbegun => exact absurd reached (unbegun_not_reached solver config graph initial e unbegun run)
      | begun other _ _ again _ another =>
          cases reached.symm.trans again
          exact failure_unique solver _ run first second e e failure another

theorem explains_recoverable (origin : Origin) (e : OptimizerError α)
    (explains : Explains solver config graph initial origin e) (mendable : e.recoverable = true) :
    origin = .beginning ∨ origin = .linearization := by
  cases explains with
  | beginning => exact .inl rfl
  | begun run _ _ reached _ failure => exact .inr (failure_recoverable solver _ run origin e failure mendable)

theorem explains_not_nested (origin : Origin) (retries : Nat) (cause : OptimizerError α)
    (explains : Explains solver config graph initial origin (.retriesExhausted retries cause)) :
    cause.recoverable = true := by
  cases explains with
  | beginning _ unbegun => cases unbegun
  | begun run _ _ reached _ failure => exact failure_not_nested solver _ run origin _ cause retries failure rfl

theorem run_beyond (run : Run α) (reached : Optimizer.run solver config graph initial = .ok run) (a : Attempt α)
    (mem : a ∈ run.attempts) (fault : OptimizerError α) (failed : a.outcome = .error fault)
    (beyond : fault.recoverable = false) :
    run.ending = .error fault ∧ ∃ earlier, run.attempts = earlier ++ [a] ∧ ∀ b ∈ earlier, Mendable b := by
  obtain ⟨_, _, _, _, _, course⟩ := run_ok _ _ _ _ _ reached
  obtain ⟨earlier, closing, attempts, mendable, closes⟩ := course_mendable solver _ _ _ _ _ _ _ course
  change run.attempts = _ at attempts
  rw [attempts] at mem ⊢
  rcases List.mem_append.mp mem with before | here
  · have mended := mendable a before fault failed
    rw [beyond] at mended
    cases mended
  · obtain ⟨only, e, same, ended⟩ := closes a here
    cases same.symm.trans failed
    exact ⟨ended, earlier, by rw [only], mendable⟩

/-- A failure of the optimizer has exactly one origin. A recoverable failure of an attempt is returned only as the cause of
giving up, and giving up is never such a cause; one that is not, as no structural error is, ends the run where it first
occurs. -/
theorem failure_has_one_origin :
    (∀ e, optimize solver config graph initial = .error e ↔ ∃! origin, Explains solver config graph initial origin e) ∧
    (∀ origin e, Explains solver config graph initial origin e → e.recoverable = true →
      origin = .beginning ∨ origin = .linearization) ∧
    (∀ retries cause, optimize solver config graph initial = .error (.retriesExhausted retries cause) →
      cause.recoverable = true ∧ ∀ others inner, cause ≠ .retriesExhausted others inner) ∧
    (∀ run, Optimizer.run solver config graph initial = .ok run →
      ∀ a ∈ run.attempts, ∀ fault, a.outcome = .error fault → fault.recoverable = false →
        optimize solver config graph initial = .error fault ∧
        ∃ earlier, run.attempts = earlier ++ [a] ∧ ∀ b ∈ earlier, ∀ e, b.outcome = .error e → e.recoverable = true) ∧
    ∀ fault : OptimizerError α, fault.Structural → fault.recoverable = false := by
  refine ⟨fun e => ⟨fun failed => ?_, fun one => ?_⟩, explains_recoverable solver config graph initial,
    fun retries cause failed => ?_, fun run reached a mem fault failed beyond => ?_, OptimizerError.structural_beyond⟩
  · obtain ⟨origin, explains⟩ := optimize_explained solver config graph initial e failed
    exact ⟨origin, explains, fun other again => explains_unique solver config graph initial other origin e again explains⟩
  · obtain ⟨origin, explains, _⟩ := one
    exact explains_failed solver config graph initial origin e explains
  · obtain ⟨origin, explains⟩ := optimize_explained solver config graph initial _ failed
    have mendable := explains_not_nested solver config graph initial origin retries cause explains
    refine ⟨mendable, ?_⟩
    rintro others inner rfl
    cases mendable
  · obtain ⟨ended, last⟩ := run_beyond solver config graph initial run reached a mem fault failed beyond
    exact ⟨run_failed solver config graph initial run reached fault ended, last⟩

def breaksAt (a : Attempt α) : Bool := Outcome.fails (fun e => !e.recoverable) a.outcome

def gaveUpAfter (retries : Nat) : OptimizerError α → Bool
  | .retriesExhausted attempts _ => attempts == retries
  | _ => false

-- A step in the wrong direction, then a singular system at the last attempt allowed; and a solver that breaks down after
-- a singular system.
theorem failure_has_one_origin_after_refusals :
    let brief : Config Float := { Config.standard with maxRetries := 1 }
    let exhausting := prepared [.ok [10.0], .error .singular]
    let breaking := prepared [.error .singular, .error (.creation "")]
    (∃ cause, optimize exhausting brief halfGraph halfStart = .error (.retriesExhausted 2 cause) ∧
      cause.recoverable = true ∧
      ∃! origin, Explains exhausting brief halfGraph halfStart origin (.retriesExhausted 2 cause)) ∧
    ∃ run fault, Optimizer.run breaking .standard halfGraph halfStart = .ok run ∧ run.attempts.length = 2 ∧
      fault.recoverable = false ∧ optimize breaking .standard halfGraph halfStart = .error fault := by
  intro brief exhausting breaking
  constructor
  · obtain ⟨e, failed, twice⟩ := Outcome.fails_error (gaveUpAfter 2)
      (optimize exhausting brief halfGraph halfStart) (by decide +kernel)
    obtain ⟨origin, _, gaveUp, _⟩ := failure_has_one_origin exhausting brief halfGraph halfStart
    cases e with
    | retriesExhausted retries cause =>
        cases (beq_iff_eq.mp twice : retries = 2)
        exact ⟨cause, failed, (gaveUp 2 cause failed).1, (origin _).mp failed⟩
    | _ => cases twice
  · obtain ⟨run, reached, broken⟩ := Outcome.passes_ok
      (fun run : Run Float => run.attempts.length == 2 && run.attempts.any breaksAt)
      (Optimizer.run breaking .standard halfGraph halfStart) (by decide +kernel)
    obtain ⟨two, breaks⟩ := Bool.and_eq_true_iff.mp broken
    obtain ⟨a, mem, breaks⟩ := List.any_eq_true.mp breaks
    obtain ⟨fault, failed, beyond⟩ := Outcome.fails_error _ _ breaks
    have unmended : fault.recoverable = false := by simpa using beyond
    obtain ⟨_, _, _, ends, _⟩ := failure_has_one_origin breaking .standard halfGraph halfStart
    exact ⟨run, fault, reached, beq_iff_eq.mp two, unmended, (ends run reached a mem fault failed unmended).1⟩

end Explained

end Optimizer

end FactorGraph
