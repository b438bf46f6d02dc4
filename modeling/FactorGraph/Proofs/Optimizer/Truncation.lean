import FactorGraph.Proofs.Optimizer.Comparison
import FactorGraph.Proofs.Optimizer.Status

set_option autoImplicit false

namespace FactorGraph

variable {α σ : Type} [Scalar α]

def Config.bounded (config : Config α) (budget : Nat) (abort : Option (Nat → Bool)) : Config α :=
  { config with maxIterations := budget, abort := abort }

def Status.interrupted : Status → Status
  | .maxIterations => .userTerminated
  | other => other

-- The result of a run, had a signal ended it where the budget did.
def OptimizationResult.interrupted (result : OptimizationResult α) : OptimizationResult α :=
  { result with status := result.status.interrupted }

namespace Optimizer

section Iterate

variable (solver : LinearSolver α σ) (problem : Problem α)

theorem iterate_extends (extra short done : Nat) (state : State α σ) :
    let brief := iterate solver problem short done state
    let full := iterate solver problem (extra + short) done state
    brief.1 <+: full.1 ∧ (brief.2.2 ≠ .ok .maxIterations → full = brief) := by
  induction short generalizing done state with
  | zero =>
      by_cases low : state.error ≤ problem.config.absoluteTolerance
      · simp [iterate_low solver problem _ done state low]
      · rw [iterate_spent, if_neg low]
        exact ⟨List.nil_prefix, fun other => absurd rfl other⟩
  | succ short ih =>
      rw [← Nat.add_assoc]
      cases here : boundary solver problem done state with
      | inl record => simp [iterate_ended solver problem _ done state record here]
      | inr led =>
          obtain ⟨iteration, next⟩ := led
          rw [iterate_onward solver problem short done state iteration next here,
            iterate_onward solver problem (extra + short) done state iteration next here]
          obtain ⟨begun, same⟩ := ih (done + 1) next
          exact ⟨List.cons_prefix_cons.mpr ⟨rfl, begun⟩, fun other => congrArg (Record.onward iteration) (same other)⟩

omit [Scalar α] in
theorem interrupted_of_ne (ending : Except (OptimizerError α) Status) (other : ending ≠ .ok .maxIterations) :
    ending.map Status.interrupted = ending := by
  match ending with
  | .error e => rfl
  | .ok .maxIterations => exact absurd rfl other
  | .ok .converged | .ok .dampingLimit | .ok .noDecrease | .ok .userTerminated => rfl

theorem surrender_not_spent (iteration : Iteration α) : surrender iteration ≠ .ok .maxIterations := by
  intro spent
  have status := (surrender_ok iteration _ spent).2
  split_ifs at status

theorem boundary_not_spent (done : Nat) (state : State α σ) (record : Record α)
    (ended : boundary solver problem done state = .inl record) : record.2.2 ≠ .ok .maxIterations := by
  unfold boundary at ended
  split_ifs at ended
  · cases ended
    simp
  · cases ended
    simp
  split at ended
  · cases ended
    simp
  dsimp only at ended
  split at ended
  · cases ended
    simp
  · cases ended
    exact surrender_not_spent _
  · split_ifs at ended
    cases ended
    simp

theorem iterate_interrupted (extra quiet done : Nat) (state : State α σ)
    (silent : ∀ i < quiet, problem.config.aborted (done + i) = false)
    (signal : problem.config.aborted (done + quiet) = true) :
    iterate solver problem (extra + 1 + quiet) done state =
      (iterate solver problem quiet done state).map id (.map id (.map Status.interrupted)) := by
  -- By induction on the iterations before the signal. What ends the run earlier does so whatever the budget.
  induction quiet generalizing done state with
  | zero =>
      by_cases low : state.error ≤ problem.config.absoluteTolerance
      · simp [iterate_low solver problem _ done state low, Prod.map, Except.map, Status.interrupted]
      · have here : boundary solver problem done state = .inl ([], state.damping, .ok .userTerminated) := by
          rw [boundary, if_neg low]
          exact if_pos signal
        rw [iterate_spent, if_neg low]
        exact iterate_ended solver problem extra done state _ here
  | succ quiet ih =>
      cases here : boundary solver problem done state with
      | inl record =>
          have kept := interrupted_of_ne _ (boundary_not_spent solver problem done state record here)
          rw [← Nat.add_assoc, iterate_ended solver problem quiet done state record here,
            iterate_ended solver problem (extra + 1 + quiet) done state record here]
          exact Prod.ext rfl (Prod.ext rfl kept.symm)
      | inr led =>
          obtain ⟨iteration, next⟩ := led
          have rest := ih (done + 1) next
            (fun i inside => by simpa [Nat.add_assoc, Nat.add_comm 1 i] using silent (i + 1) (Nat.succ_lt_succ inside))
            (by simpa [Nat.add_assoc, Nat.add_comm 1 quiet] using signal)
          rw [← Nat.add_assoc, iterate_onward solver problem quiet done state iteration next here,
            iterate_onward solver problem (extra + 1 + quiet) done state iteration next here, rest]
          rfl

end Iterate

section Run

variable (solver : LinearSolver α σ) (config : Config α) (graph : Graph α) (initial : Values α) (short long : Nat)

theorem first_error_bounded (abort other : Option (Nat → Bool)) (first : short ≠ 0) (second : long ≠ 0) :
    firstError (config.bounded long other) graph initial = firstError (config.bounded short abort) graph initial := by
  have validated : (config.bounded long other).validate = (config.bounded short abort).validate := by
    simp [Config.validate, Config.bounded, first, second]
  rw [firstError, firstError, validated]

theorem iterate_bounded (abort other : Option (Nat → Bool)) (remaining : Nat) (state : State α σ)
    (signal : ∀ i < remaining, (config.bounded long other).aborted i = (config.bounded short abort).aborted i) :
    iterate solver ⟨graph, .ofValues initial, config.bounded long other⟩ remaining 0 state =
      iterate solver ⟨graph, .ofValues initial, config.bounded short abort⟩ remaining 0 state := by
  have alike : Alike (⟨graph, .ofValues initial, config.bounded short abort⟩ : Problem α)
      ⟨graph, .ofValues initial, config.bounded long other⟩ := ⟨rfl, fun _ => rfl, rfl, rfl, rfl⟩
  refine iterate_alike solver _ _ alike remaining 0 state (fun i inside => ?_) fun _ _ _ => rfl
  simpa using signal i inside

theorem run_from_extends (abort : Option (Nat → Bool)) (within : short ≤ long) (error : α) :
    let brief := runFrom solver (config.bounded short abort) graph initial error
    let full := runFrom solver (config.bounded long abort) graph initial error
    brief.iterations <+: full.iterations ∧ (brief.ending ≠ .ok .maxIterations → full = brief) := by
  obtain ⟨extra, rfl⟩ := Nat.exists_eq_add_of_le' within
  have same := iterate_bounded solver config graph initial short (extra + short) abort abort (extra + short)
    (.start solver config initial error) fun _ _ => rfl
  obtain ⟨begun, kept⟩ := iterate_extends solver ⟨graph, .ofValues initial, config.bounded short abort⟩ extra short 0
    (.start solver config initial error)
  rw [← same] at begun kept
  exact ⟨begun, fun other => congrArg (Record.run initial error) (kept other)⟩

theorem run_from_interrupted (signal : Nat → Bool) (within : short < long) (silent : ∀ i < short, signal i = false)
    (read : signal short = true) (error : α) :
    let brief := runFrom solver (config.bounded short none) graph initial error
    runFrom solver (config.bounded long (some signal)) graph initial error =
      { brief with ending := brief.ending.map Status.interrupted } := by
  obtain ⟨extra, rfl⟩ := Nat.exists_eq_add_of_lt within
  have same := iterate_bounded solver config graph initial short (short + extra + 1) none (some signal) short
    (.start solver config initial error) silent
  have cut := iterate_interrupted solver ⟨graph, .ofValues initial, config.bounded (short + extra + 1) (some signal)⟩
    extra short 0 (.start solver config initial error) (by simpa [Config.aborted, Config.bounded] using silent)
    (by simpa [Config.aborted, Config.bounded] using read)
  rw [same, Nat.add_comm (extra + 1) short] at cut
  exact congrArg (Record.run initial error) cut

theorem run_from_spent (error : α) : runFrom solver (config.bounded 0 none) graph initial error =
    ⟨initial, error, [], .start config, if error ≤ config.absoluteTolerance then .ok .converged else .ok .maxIterations⟩ := by
  have spent := iterate_spent solver ⟨graph, .ofValues initial, config.bounded 0 none⟩ 0 (.start solver config initial error)
  refine (congrArg (Record.run initial error) spent).trans ?_
  change Record.run initial error (if error ≤ config.absoluteTolerance then _ else _) = _
  split_ifs <;> rfl

theorem run_error_finite (run : Run α) (reached : Optimizer.run solver config graph initial = .ok run) :
    Scalar.isFinite run.error = true := by
  obtain ⟨_, _, rfl, _, finite, course⟩ := run_ok _ _ _ _ _ reached
  have descent : Descent graph run.initial run.initialError run.accepted := course_descends _ _ _ _ _ _ _ _ course
  rw [Run.error]
  cases last : run.accepted.getLast? with
  | none => exact finite
  | some trial => exact (descent_member _ _ _ _ descent trial (List.mem_of_getLast? last)).2

theorem error_extends [Scalar.Ordered α] (brief full : Run α)
    (reached : Optimizer.run solver config graph initial = .ok full) (finite : Scalar.isFinite brief.error = true)
    (begun : brief.history <+: full.history) : full.error ≤ brief.error := by
  obtain ⟨_, _, rfl, _, _, course⟩ := run_ok _ _ _ _ _ reached
  have descending : full.history.IsChain fun before after => after < before :=
    descent_decreasing _ _ _ _ (course_descends _ _ _ _ _ _ _ _ course)
  obtain ⟨more, history⟩ := begun
  obtain ⟨earlier, brief_history⟩ := List.getLast?_eq_some_iff.mp brief.history_last
  have final := full.history_last
  rw [← history, brief_history, List.append_assoc, List.singleton_append] at descending final
  rw [List.getLast?_append_of_ne_nil _ (List.cons_ne_nil _ _)] at final
  exact Scalar.last_le_of_descending brief.error full.error more (Scalar.Ordered.le_refl _ finite)
    (List.isChain_append.mp descending).2.1 final

end Run

/-- A budget and an abort signal only cut a run short. With a larger budget the run begins with the run of the smaller
one, and is that run if something else ended it; a signal ends a run as a budget of as many iterations would have,
under another status. -/
theorem optimize_cut_short [Scalar.Ordered α] (solver : LinearSolver α σ) (config : Config α) (graph : Graph α)
    (initial : Values α) (short long : Nat) (positive : 1 ≤ short) (within : short ≤ long) :
    (∀ abort brief full, optimize solver (config.bounded short abort) graph initial = .ok brief →
      optimize solver (config.bounded long abort) graph initial = .ok full →
      brief.history <+: full.history ∧ full.finalError ≤ brief.finalError ∧
        (brief.status ≠ .maxIterations → full = brief)) ∧
    (∀ signal : Nat → Bool, short < long → (∀ i < short, signal i = false) → signal short = true →
      optimize solver (config.bounded long (some signal)) graph initial =
        (optimize solver (config.bounded short none) graph initial).map OptimizationResult.interrupted) ∧
    ∀ signal : Nat → Bool, signal 0 = true → ∀ result,
      optimize solver (config.bounded long (some signal)) graph initial = .ok result →
        result.values = initial ∧ result.history = [result.finalError] ∧ result.iterations = 0 ∧
          (result.status = .converged ∨ result.status = .userTerminated) := by
  have first : short ≠ 0 := Nat.one_le_iff_ne_zero.mp positive
  have second : long ≠ 0 := Nat.one_le_iff_ne_zero.mp (positive.trans within)
  refine ⟨fun abort brief full few many => ?_, fun signal inside silent read => ?_, fun signal read result finished => ?_⟩
  · obtain ⟨begun, status, reached, ended, rfl⟩ := optimize_ok _ _ _ _ _ few
    obtain ⟨run, other, along, finished, rfl⟩ := optimize_ok _ _ _ _ _ many
    obtain ⟨error, evaluated, rfl⟩ := run_reached _ _ _ _ _ reached
    obtain ⟨again, evaluated', rfl⟩ := run_reached _ _ _ _ _ along
    rw [first_error_bounded config graph initial short long abort abort first second, evaluated] at evaluated'
    cases evaluated'
    obtain ⟨iterations, same⟩ := run_from_extends solver config graph initial short long abort within error
    have history : (runFrom solver (config.bounded short abort) graph initial error).history <+:
        (runFrom solver (config.bounded long abort) graph initial error).history :=
      List.cons_prefix_cons.mpr ⟨rfl, (iterations.filterMap _).map _⟩
    refine ⟨history, error_extends solver _ graph initial _ _ along (run_error_finite solver _ graph initial _ reached)
      history, fun spent => ?_⟩
    have equal := same (by rw [ended]; exact fun h => spent (Except.ok.inj h))
    rw [equal, ended] at finished
    cases finished
    rw [equal]
    rfl
  · rw [optimize_eq, optimize_eq, first_error_bounded config graph initial short long none (some signal) first second]
    cases firstError (config.bounded short none) graph initial with
    | error e => rfl
    | ok error =>
        simp only [Outcome.ok_bind]
        rw [run_from_interrupted solver config graph initial short long signal inside silent read error]
        cases (runFrom solver (config.bounded short none) graph initial error).ending <;> rfl
  · obtain ⟨run, status, reached, ended, rfl⟩ := optimize_ok _ _ _ _ _ finished
    obtain ⟨error, _, rfl⟩ := run_reached _ _ _ _ _ reached
    rw [run_from_interrupted solver config graph initial 0 long signal (Nat.pos_of_ne_zero second) (by simp) read error,
      run_from_spent] at ended ⊢
    refine ⟨rfl, rfl, rfl, ?_⟩
    dsimp only at ended
    split_ifs at ended <;> cases ended <;> simp [report, Status.interrupted]

theorem optimize_cut_short_after_step :
    let damped : Config Float := { Config.standard with damping := 1.0 }
    let solver := (Method.cholesky : Method Float).linearSolver
    let signal : Nat → Bool := fun boundary => decide (1 ≤ boundary)
    ∃ brief full, optimize solver (damped.bounded 1 none) halfGraph halfStart = .ok brief ∧
      optimize solver (damped.bounded 3 none) halfGraph halfStart = .ok full ∧
      brief.status = .maxIterations ∧ full.iterations = 3 ∧
      brief.history <+: full.history ∧ full.finalError ≤ brief.finalError ∧
      optimize solver (damped.bounded 3 (some signal)) halfGraph halfStart =
        .ok { brief with status := .userTerminated } := by
  intro damped solver signal
  obtain ⟨brief, few, spent⟩ := Outcome.passes_ok (fun result : OptimizationResult Float =>
    decide (result.status = .maxIterations)) (optimize solver (damped.bounded 1 none) halfGraph halfStart)
    (by decide +kernel)
  obtain ⟨full, many, count⟩ := Outcome.passes_ok (fun result : OptimizationResult Float =>
    decide (result.iterations = 3)) (optimize solver (damped.bounded 3 none) halfGraph halfStart) (by decide +kernel)
  obtain ⟨longer, interrupted, _⟩ := optimize_cut_short solver damped halfGraph halfStart 1 3 (by decide) (by decide)
  obtain ⟨history, error, _⟩ := longer none brief full few many
  have status := of_decide_eq_true spent
  have cut := interrupted signal (by decide) (by decide) rfl
  rw [few] at cut
  refine ⟨brief, full, few, many, status, of_decide_eq_true count, history, error, cut.trans ?_⟩
  simp [Except.map, OptimizationResult.interrupted, status, Status.interrupted]

end Optimizer

end FactorGraph
