import FactorGraph.Proofs.Optimizer.Shape

set_option autoImplicit false

namespace FactorGraph

variable {α σ : Type} [Scalar α]

namespace Optimizer

abbrev Record (α : Type) := List (Iteration α) × Damping α × Except (OptimizerError α) Status

def Record.onward (iteration : Iteration α) (record : Record α) : Record α :=
  (iteration :: record.1, record.2)

def Record.run (initial : Values α) (error : α) (record : Record α) : Run α :=
  ⟨initial, error, record.1, record.2.1, record.2.2⟩

-- What happens at a boundary within the budget: the run ends, or an iteration leads to the next boundary.
def boundary (solver : LinearSolver α σ) (problem : Problem α) (done : Nat) (state : State α σ) :
    Record α ⊕ Iteration α × State α σ :=
  if state.error ≤ problem.config.absoluteTolerance then .inl ([], state.damping, .ok .converged)
  else if problem.config.aborted done then .inl ([], state.damping, .ok .userTerminated)
  else
    match linearize problem state.values state.error with
    | .error e => .inl ([], state.damping, .error e)
    | .ok base =>
        let (iteration, last) :=
          attempts solver problem base (problem.config.maxRetries + 1) state.damping state.solver
        match iteration.verdict with
        | .fatal e => .inl ([iteration], iteration.damping, .error e)
        | .exhausted => .inl ([iteration], iteration.damping, surrender iteration)
        | .accepted trial =>
            if settled problem.config state.error trial.error then .inl ([iteration], iteration.damping, .ok .converged)
            else .inr (iteration, ⟨trial.values, trial.error, iteration.damping, last⟩)

section Boundary

variable (solver : LinearSolver α σ) (problem : Problem α) (remaining done : Nat) (state : State α σ)

theorem iterate_spent : iterate solver problem 0 done state =
    if state.error ≤ problem.config.absoluteTolerance then ([], state.damping, .ok .converged)
    else ([], state.damping, .ok .maxIterations) := by
  rw [iterate]

theorem iterate_low (low : state.error ≤ problem.config.absoluteTolerance) :
    iterate solver problem remaining done state = ([], state.damping, .ok .converged) := by
  rw [iterate.eq_def]
  simp only [if_pos low]

theorem iterate_boundary : iterate solver problem (remaining + 1) done state =
    (boundary solver problem done state).elim id fun (iteration, next) =>
      Record.onward iteration (iterate solver problem remaining (done + 1) next) := by
  rw [iterate, boundary]
  by_cases low : state.error ≤ problem.config.absoluteTolerance
  · simp only [if_pos low, Sum.elim_inl, id]
  simp only [if_neg low]
  cases problem.config.aborted done with
  | true => rfl
  | false =>
      simp only [Bool.false_eq_true, if_false]
      cases linearize problem state.values state.error with
      | error e => rfl
      | ok base =>
          dsimp only
          generalize attempts solver problem base (problem.config.maxRetries + 1) state.damping state.solver = made
          obtain ⟨iteration, last⟩ := made
          dsimp only
          cases iteration.verdict with
          | fatal e => rfl
          | exhausted => rfl
          | accepted trial =>
              dsimp only
              split <;> rfl

variable (record : Record α) (iteration : Iteration α) (next : State α σ)

theorem iterate_ended (ended : boundary solver problem done state = .inl record) :
    iterate solver problem (remaining + 1) done state = record := by
  rw [iterate_boundary, ended]
  rfl

theorem iterate_onward (led : boundary solver problem done state = .inr (iteration, next)) :
    iterate solver problem (remaining + 1) done state =
      Record.onward iteration (iterate solver problem remaining (done + 1) next) := by
  rw [iterate_boundary, led]
  rfl

theorem boundary_accepted (base : Base α) (trial : Trial α) (last : σ)
    (high : ¬ state.error ≤ problem.config.absoluteTolerance) (undisturbed : problem.config.aborted done = false)
    (linear : linearize problem state.values state.error = .ok base)
    (tried : attempt solver problem base state.damping.lambda state.solver = (.ok trial, last))
    (better : improves base trial = true) (large : settled problem.config state.error trial.error = false) :
    boundary solver problem done state =
      .inr (⟨[⟨state.damping.lambda, .ok trial⟩], .accepted trial, state.damping.accept trial.gain⟩,
        ⟨trial.values, trial.error, state.damping.accept trial.gain, last⟩) := by
  have made : attempts solver problem base (problem.config.maxRetries + 1) state.damping state.solver =
      (⟨[⟨state.damping.lambda, .ok trial⟩], .accepted trial, state.damping.accept trial.gain⟩, last) := by
    rw [attempts, tried]
    simp only [better, if_true]
  simp only [boundary, high, if_false, undisturbed, Bool.false_eq_true, linear, made, large]

theorem boundary_leads (led : boundary solver problem done state = .inr (iteration, next)) :
    iteration.leadsTo state.values = next.values := by
  unfold boundary at led
  split_ifs at led
  split at led
  · cases led
  · dsimp only at led
    split at led
    · cases led
    · cases led
    · rename_i verdict
      split_ifs at led
      cases led
      simp [Iteration.leadsTo, Iteration.accepted?, verdict]

end Boundary

-- Problems whose runs can differ only where the signal or the linear model does.
structure Alike (a b : Problem α) : Prop where
  layout : b.layout = a.layout
  error : ∀ values, b.graph.error values = a.graph.error values
  absolute : b.config.absoluteTolerance = a.config.absoluteTolerance
  relative : b.config.relativeTolerance = a.config.relativeTolerance
  retries : b.config.maxRetries = a.config.maxRetries

section Alike

variable (solver : LinearSolver α σ) (a b : Problem α) (alike : Alike a b)

include alike

theorem attempt_alike (base : Base α) (lambda : α) (state : σ) :
    attempt solver b base lambda state = attempt solver a base lambda state := by
  simp only [attempt, evaluateStep, alike.layout, alike.error]

theorem attempts_alike (base : Base α) (remaining : Nat) (damping : Damping α) (state : σ) :
    attempts solver b base remaining damping state = attempts solver a base remaining damping state := by
  induction remaining generalizing damping state with
  | zero => rfl
  | succ remaining ih => simp only [attempts, attempt_alike solver a b alike, ih]

theorem settled_alike (previous current : α) : settled b.config previous current = settled a.config previous current := by
  rw [settled, settled, alike.absolute, alike.relative]

theorem boundary_alike (done : Nat) (state : State α σ)
    (signal : b.config.aborted done = a.config.aborted done)
    (linear : linearize b state.values state.error = linearize a state.values state.error) :
    boundary solver b done state = boundary solver a done state := by
  rw [boundary, boundary, alike.absolute, signal, linear]
  simp only [attempts_alike solver a b alike, settled_alike a b alike, alike.retries]

theorem iterate_alike (remaining done : Nat) (state : State α σ)
    (signal : ∀ i < remaining, b.config.aborted (done + i) = a.config.aborted (done + i))
    (linear : let iterations := (iterate solver a remaining done state).1
      ∀ i ≤ iterations.length, ∀ error,
        linearize b ((iterations.take i).foldl Iteration.leadsTo state.values) error =
          linearize a ((iterations.take i).foldl Iteration.leadsTo state.values) error) :
    iterate solver b remaining done state = iterate solver a remaining done state := by
  -- By induction on the budget: the boundaries are alike, and past the first one come the boundaries of the rest of the run.
  induction remaining generalizing done state with
  | zero => rw [iterate_spent, iterate_spent, alike.absolute]
  | succ remaining ih =>
      have same := boundary_alike solver a b alike done state (signal 0 (Nat.succ_pos remaining))
        (linear 0 (Nat.zero_le _) state.error)
      cases here : boundary solver a done state with
      | inl record =>
          rw [iterate_ended solver b remaining done state record (same.trans here),
            iterate_ended solver a remaining done state record here]
      | inr led =>
          obtain ⟨iteration, next⟩ := led
          have onward := iterate_onward solver a remaining done state iteration next here
          rw [onward] at linear ⊢
          rw [iterate_onward solver b remaining done state iteration next (same.trans here)]
          refine congrArg (Record.onward iteration) (ih (done + 1) next (fun i inside => ?_) fun i inside error => ?_)
          · have later := signal (i + 1) (Nat.succ_lt_succ inside)
            rwa [← Nat.add_assoc, Nat.add_right_comm] at later
          · have later := linear (i + 1) (Nat.succ_le_succ inside) error
            rw [Record.onward, List.take_succ_cons, List.foldl_cons,
              boundary_leads solver a done state iteration next here] at later
            exact later

end Alike

def firstError (config : Config α) (graph : Graph α) (initial : Values α) : Except (OptimizerError α) α := do
  config.validate
  if initial.isEmpty then throw .emptyProblem
  let error ← (graph.error initial).mapError .graph
  if !Scalar.isFinite error then throw (.instability (.initialError error))
  return error

def runFrom (solver : LinearSolver α σ) (config : Config α) (graph : Graph α) (initial : Values α) (error : α) : Run α :=
  Record.run initial error <|
    iterate solver ⟨graph, .ofValues initial, config⟩ config.maxIterations 0 (.start solver config initial error)

theorem run_eq (solver : LinearSolver α σ) (config : Config α) (graph : Graph α) (initial : Values α) :
    Optimizer.run solver config graph initial =
      (firstError config graph initial).map (runFrom solver config graph initial) := by
  unfold Optimizer.run firstError
  cases config.validate with
  | error e => rfl
  | ok _ =>
      cases initial.isEmpty with
      | true => rfl
      | false =>
          cases graph.error initial with
          | error e => rfl
          | ok error => cases finite : Scalar.isFinite error <;> simp [finite, Except.mapError] <;> rfl

theorem run_reached (solver : LinearSolver α σ) (config : Config α) (graph : Graph α) (initial : Values α) (run : Run α)
    (reached : Optimizer.run solver config graph initial = .ok run) :
    ∃ error, firstError config graph initial = .ok error ∧ run = runFrom solver config graph initial error := by
  rw [run_eq] at reached
  obtain ⟨error, first, same⟩ := (Outcome.map_ok_iff _ _ _).mp reached
  exact ⟨error, first, same.symm⟩

theorem optimize_eq (solver : LinearSolver α σ) (config : Config α) (graph : Graph α) (initial : Values α) :
    optimize solver config graph initial = firstError config graph initial >>= fun error =>
      (runFrom solver config graph initial error).ending.map
        (report solver config graph (runFrom solver config graph initial error)) := by
  rw [optimize, run_eq]
  cases firstError config graph initial with
  | error e => rfl
  | ok error => rfl

end Optimizer

end FactorGraph
