import FactorGraph.Proofs.Graph.Insertion
import FactorGraph.Proofs.Optimizer.Comparison

set_option autoImplicit false

namespace FactorGraph

variable {α σ : Type}

theorem Run.estimate_last (run : Run α) : run.estimate run.iterations.length = run.values := by
  obtain ⟨initial, error, iterations, damping, ending⟩ := run
  simp only [estimate, values, accepted, List.take_length]
  induction iterations using List.reverseRecOn with
  | nil => rfl
  | append_singleton earlier iteration ih =>
      rw [List.foldl_append, List.filterMap_append, ih]
      cases here : iteration.accepted? with
      | none => simp [Iteration.leadsTo, here]
      | some trial => simp [Iteration.leadsTo, here]

variable [Scalar α]

namespace Optimizer

section Inserted

variable (extra : List (NonlinearFactor α)) (graph larger : Graph α) (inserted : Inserted extra graph larger)

include inserted

theorem assembled_inserted {β : Type} (layout : Layout) (values : Values α)
    (succeed : ∀ f ∈ extra, ∃ linear, f.linearize values = .ok linear)
    (further : LinearSystem α → Except (OptimizerError α) β) :
    ((Graph.linearize larger values).mapError OptimizerError.graph >>= fun linear =>
        (linear.toSparse layout).mapError OptimizerError.graph >>= further) =
      ((Graph.linearize graph values).mapError OptimizerError.graph >>= fun linear =>
        (linear.toSparse layout).mapError OptimizerError.graph >>= further) := by
  have same := Graph.linearize_inserted extra graph larger inserted values succeed
  cases first : Graph.linearize graph values <;> cases second : Graph.linearize larger values <;>
    rw [first, second] at same
  · cases same
    rfl
  · cases same
  · cases same
  · rename_i linear larger
    simp only [Except.mapError, Outcome.ok_bind, linear.to_sparse_of_equalities larger (Except.ok.inj same)]

variable (solver : LinearSolver α σ) (config : Config α) (initial : Values α)

theorem run_from_inserted (error : α)
    (succeed : let run := runFrom solver config graph initial error
      ∀ i ≤ run.iterations.length, ∀ f ∈ extra, ∃ linear, f.linearize (run.estimate i) = .ok linear) :
    runFrom solver config larger initial error = runFrom solver config graph initial error := by
  have alike : Alike (⟨graph, .ofValues initial, config⟩ : Problem α) ⟨larger, .ofValues initial, config⟩ :=
    ⟨rfl, Graph.error_inserted extra graph larger inserted, rfl, rfl, rfl⟩
  refine congrArg (Record.run initial error) ?_
  refine iterate_alike solver _ _ alike _ 0 (.start solver config initial error) (fun _ _ => rfl) fun i inside other => ?_
  exact assembled_inserted extra graph larger inserted _ _ (succeed i inside) _

theorem first_error_inserted : firstError config larger initial = firstError config graph initial := by
  rw [firstError, firstError, Graph.error_inserted extra graph larger inserted]

theorem covariances_inserted (layout : Layout) (values : Values α)
    (succeed : ∀ f ∈ extra, ∃ linear, f.linearize values = .ok linear) :
    covariances solver larger layout values = covariances solver graph layout values :=
  assembled_inserted extra graph larger inserted layout values succeed _

theorem report_inserted (run : Run α) (status : Status)
    (succeed : ∀ f ∈ extra, ∃ linear, f.linearize run.values = .ok linear) :
    report solver config larger run status = report solver config graph run status := by
  rw [report, report, covariances_inserted extra graph larger inserted solver _ run.values succeed]

theorem optimize_start_inserted (error : α) (start : firstError config graph initial = .ok error)
    (succeed : let run := runFrom solver config graph initial error
      ∀ i ≤ run.iterations.length, ∀ f ∈ extra, ∃ linear, f.linearize (run.estimate i) = .ok linear) :
    optimize solver config larger initial = optimize solver config graph initial := by
  have same := run_from_inserted extra graph larger inserted solver config initial error succeed
  have final := succeed _ (Nat.le_refl _)
  rw [Run.estimate_last] at final
  have reported : report solver config larger (runFrom solver config graph initial error) =
      report solver config graph (runFrom solver config graph initial error) := by
    funext status
    exact report_inserted extra graph larger inserted solver config _ status final
  rw [optimize_eq, optimize_eq, first_error_inserted extra graph larger inserted, start, Outcome.ok_bind, Outcome.ok_bind,
    same, reported]

end Inserted

/-- Inequality factors in a graph do not change what is minimized: neither the error nor the least-squares problem, nor, as
long as they can be linearized at the estimates of a run, the run and its result. -/
theorem optimize_inserted (solver : LinearSolver α σ) (config : Config α) (extra : List (NonlinearFactor α))
    (graph larger : Graph α) (initial : Values α) (inserted : Inserted extra graph larger) :
    (∀ values, Graph.error larger values = Graph.error graph values) ∧
    (∀ values linear other, Graph.linearize graph values = .ok linear → Graph.linearize larger values = .ok other →
      (∀ layout, LinearGraph.toSparse other layout = LinearGraph.toSparse linear layout) ∧
        ∀ updates, LinearGraph.error other updates = LinearGraph.error linear updates) ∧
    ((∀ run, Optimizer.run solver config graph initial = .ok run →
        ∀ i ≤ run.iterations.length, ∀ f ∈ extra, ∃ linear, f.linearize (run.estimate i) = .ok linear) →
      Optimizer.run solver config larger initial = Optimizer.run solver config graph initial ∧
        optimize solver config larger initial = optimize solver config graph initial) := by
  refine ⟨Graph.error_inserted extra graph larger inserted, fun values linear other first second => ?_, fun succeed => ?_⟩
  · have known : ∀ f ∈ extra, ∃ linear, f.linearize values = .ok linear := by
      intro f mem
      obtain ⟨here, _, done⟩ := Outcome.map_all_inputs _ _ _ second f (inserted.mem f mem)
      exact ⟨here, done⟩
    have same := Graph.linearize_inserted extra graph larger inserted values known
    rw [first, second] at same
    have same := Except.ok.inj same
    exact ⟨LinearGraph.to_sparse_of_equalities linear other same, LinearGraph.error_of_equalities linear other same⟩
  · cases start : firstError config graph initial with
    | error e =>
        have same := (first_error_inserted extra graph larger inserted config initial).trans start
        rw [run_eq, run_eq, optimize_eq, optimize_eq, same, start]
        simp only [Except.map, Outcome.error_bind, and_self]
    | ok error =>
        have reached : Optimizer.run solver config graph initial = .ok (runFrom solver config graph initial error) := by
          rw [run_eq, start, Except.map]
        have known := succeed _ reached
        refine ⟨?_, optimize_start_inserted extra graph larger inserted solver config initial error start known⟩
        rw [reached, run_eq, first_error_inserted extra graph larger inserted, start, Except.map,
          run_from_inserted extra graph larger inserted solver config initial error known]

def sideOf (key : Key) (bound : Float) (side : Factor.BoundSide) (dual : Nat) : NonlinearFactor Float :=
  ⟨[key], Factor.componentBound 0 bound side, .isotropic 1 0.5, .inequality ⟨'d', dual⟩, rfl, List.cons_ne_nil _ _⟩

def linearizesAlong (extra : List (NonlinearFactor α)) (run : Run α) : Bool :=
  (List.range (run.iterations.length + 1)).all fun i =>
    extra.all fun f => Outcome.passes (fun _ => true) (f.linearize (run.estimate i))

-- One bound stands before the prior and is violated all along, another stands after it and never is.
theorem optimize_inserted_bounds :
    let solver := (Method.cholesky : Method Float).linearSolver
    let config : Config Float := { Config.standard with covariances := true }
    let below := sideOf ⟨'x', 0⟩ 0.25 .upper 0
    let above := sideOf ⟨'x', 0⟩ 0.25 .lower 1
    Inserted [below, above] halfGraph (below :: (halfGraph ++ [above])) ∧
      (∃ result, optimize solver config (below :: (halfGraph ++ [above])) halfStart = .ok result ∧
        0 < result.iterations ∧ result.covariances.isSome = true ∧
        optimize solver config halfGraph halfStart = .ok result) := by
  intro solver config below above
  have inserted : Inserted [below, above] halfGraph (below :: (halfGraph ++ [above])) :=
    .insert below _ _ _ rfl (.keep _ _ _ _ (.insert above _ _ _ rfl .none))
  obtain ⟨result, finished, longer⟩ := Outcome.passes_ok (fun result : OptimizationResult Float =>
    decide (0 < result.iterations) && result.covariances.isSome) (optimize solver config halfGraph halfStart)
    (by decide +kernel)
  obtain ⟨run, reached, along⟩ := Outcome.passes_ok (linearizesAlong [below, above])
    (Optimizer.run solver config halfGraph halfStart) (by decide +kernel)
  obtain ⟨_, _, same⟩ := optimize_inserted solver config [below, above] halfGraph _ halfStart inserted
  obtain ⟨_, same⟩ := same fun other again i bound f mem => by
    cases reached.symm.trans again
    have here := List.all_eq_true.mp (List.all_eq_true.mp along i (List.mem_range.mpr (Nat.lt_succ_of_le bound))) f mem
    obtain ⟨linear, done, _⟩ := Outcome.passes_ok _ _ here
    exact ⟨linear, done⟩
  obtain ⟨iterations, covariances⟩ := Bool.and_eq_true_iff.mp longer
  exact ⟨inserted, result, same.trans finished, of_decide_eq_true iterations, covariances, finished⟩

end Optimizer

end FactorGraph
