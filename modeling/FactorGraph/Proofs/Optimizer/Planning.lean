import FactorGraph.Proofs.Graph.Pattern
import FactorGraph.Proofs.Linear.History
import FactorGraph.Proofs.Optimizer.Shape

set_option autoImplicit false

namespace FactorGraph

variable {α : Type} [Scalar α]

namespace Solver

variable {method : Method α} (solver : Solver method)

def Alike (pattern : Pattern) (demands : List (Demand α)) : Prop :=
  ∀ demand ∈ demands, (demand.residual.height = demand.jacobian.height ∧ demand.residual.cols = 1) ∧
    demand.matrix.pattern = pattern

section Alike

variable (pattern : Pattern) (plan : method.Plan) (known : method.plan pattern = some plan)
  (demands : List (Demand α)) (alike : Alike pattern demands)

include known alike

end Alike

theorem after_reached (reached : solver.Reached) (demands : List (Demand α)) :
    (solver.after (demands.map .solve)).Reached := by
  induction demands generalizing solver with
  | nil => exact reached
  | cons demand rest ih => exact ih (solver.next (.solve demand)) (.solved solver _ _ _ reached)

theorem gradient_after (planned : solver.Planned) (demand : Demand α) (step : List α)
    (answered : solver.answer demand = .ok step) : (solver.next (.solve demand)).gradient? = some demand.gradient := by
  obtain ⟨last, found, remembers⟩ := solver.solve_ok_last planned demand step answered
  rw [gradient?, found, Option.map_some, remembers.gradient]

end Solver

namespace Optimizer

def demandOf (asked : Base α × Attempt α) : Demand α := ⟨asked.1.residual, asked.1.jacobian, some asked.2.damping⟩

def tried (problem : Problem α) : Values α → α → List (Iteration α) → List (Base α × Attempt α)
  | _, _, [] => []
  | values, error, iteration :: rest =>
      (match linearize problem values error with
        | .error _ => []
        | .ok base => iteration.attempts.map (base, ·)) ++
      match iteration.accepted? with
        | none => []
        | some trial => tried problem trial.values trial.error rest

variable {σ : Type}

inductive Chained (solver : LinearSolver α σ) (problem : Problem α) :
    σ → List (Base α × Attempt α) → σ → Prop where
  | none (state : σ) : Chained solver problem state [] state
  | next (state middle last : σ) (base : Base α) (a : Attempt α) (rest : List (Base α × Attempt α))
      (made : attempt solver problem base a.damping state = (a.outcome, middle))
      (others : Chained solver problem middle rest last) : Chained solver problem state ((base, a) :: rest) last

section Chained

variable (solver : LinearSolver α σ) (problem : Problem α)

theorem chained_append (state middle last : σ) (first second : List (Base α × Attempt α))
    (begins : Chained solver problem state first middle) (ends : Chained solver problem middle second last) :
    Chained solver problem state (first ++ second) last := by
  induction begins with
  | none => exact ends
  | next state middle _ base a rest made others ih => exact .next state middle last base a _ made (ih ends)

theorem tries_chained (base : Base α) (remaining : ℕ) (damping : Damping α) (state last : σ) (iteration : Iteration α)
    (tries : Tries solver problem base remaining damping state iteration last) :
    Chained solver problem state (iteration.attempts.map (base, ·)) last := by
  induction tries with
  | spent damping state => exact .none state
  | accepted remaining damping state next trial made | fatal remaining damping state next e made
  | limit remaining damping state next outcome made => exact .next state next next base _ [] made (.none next)
  | again remaining damping state next last outcome rest made refused room others ih =>
      exact .next state next last base _ _ made ih

theorem tried_cons (done : ℕ) (state : State α σ) (base : Base α) (iteration : Iteration α) (rest : List (Iteration α))
    (begins : Begins problem done state base) : tried problem state.values state.error (iteration :: rest) =
      iteration.attempts.map (base, ·) ++
        match iteration.accepted? with
        | none => []
        | some trial => tried problem trial.values trial.error rest := by
  rw [tried, begins.linear]

theorem tried_last (done : ℕ) (state : State α σ) (base : Base α) (iteration : Iteration α)
    (begins : Begins problem done state base) :
    tried problem state.values state.error [iteration] = iteration.attempts.map (base, ·) := by
  rw [tried_cons problem done state base iteration [] begins]
  cases iteration.accepted? <;> simp [tried]

-- What holds of the attempts of a course: they are those that were recorded, one follows from the other, and each was
-- made of a linear model at an estimate of the first shape.
structure Recorded (shape : List (Key × VariableType × ℕ)) (state : σ) (attempts : List (Attempt α))
    (asked : List (Base α × Attempt α)) : Prop where
  attempts : asked.map Prod.snd = attempts
  chained : ∃ last, Chained solver problem state asked last
  linear : ∀ pair ∈ asked, ∃ values error, values.shape = shape ∧ linearize problem values error = .ok pair.1

theorem iteration_recorded (done : ℕ) (state : State α σ) (base : Base α) (iteration : Iteration α) (last : σ)
    (begins : Begins problem done state base)
    (tries : Tries solver problem base (problem.config.maxRetries + 1) state.damping state.solver iteration last) :
    Recorded solver problem state.values.shape state.solver iteration.attempts (iteration.attempts.map (base, ·)) where
  attempts := by simp
  chained := ⟨last, tries_chained solver problem base _ _ _ _ _ tries⟩
  linear pair mem := by
    obtain ⟨a, _, rfl⟩ := List.mem_map.mp mem
    exact ⟨state.values, state.error, rfl, begins.linear⟩

theorem course_recorded (remaining done : ℕ) (state : State α σ) (iterations : List (Iteration α)) (damping : Damping α)
    (ending : Except (OptimizerError α) Status)
    (course : Course solver problem remaining done state iterations damping ending) :
    Recorded solver problem state.values.shape state.solver (iterations.flatMap (·.attempts))
      (tried problem state.values state.error iterations) := by
  induction course with
  | converged remaining done state | budget done state | aborted remaining done state | broken remaining done state =>
      exact ⟨rfl, ⟨state.solver, .none _⟩, by simp [tried]⟩
  | fatal remaining done state base iteration last e begins tries
  | surrendered remaining done state base iteration last begins tries
  | settled remaining done state base iteration last trial begins tries =>
      rw [tried_last problem done state base iteration begins, List.flatMap_singleton]
      exact iteration_recorded solver problem done state base iteration last begins tries
  | onward remaining done state base iteration last trial rest damping ending begins tries verdict large others ih =>
      obtain ⟨_, _, updates, moved⟩ := tries_accepted _ _ _ _ _ _ _ _ _ tries verdict
      rw [(linearize_ok _ _ _ _ begins.linear).1] at moved
      -- The step keeps the shape, so the models of the other iterations belong to estimates of the first shape too.
      have same : trial.values.shape = state.values.shape := Values.retract_shape _ _ _ moved
      have accepted : iteration.accepted? = some trial := by rw [Iteration.accepted?, verdict]
      obtain ⟨here, _, linear⟩ := iteration_recorded solver problem done state base iteration last begins tries
      obtain ⟨there, ⟨final, onward⟩, later⟩ := ih
      rw [tried_cons problem done state base iteration rest begins, accepted, List.flatMap_cons]
      refine ⟨by rw [List.map_append, here, there], ⟨final, ?_⟩, fun pair mem => ?_⟩
      · exact chained_append _ _ _ _ _ _ _ (tries_chained solver problem base _ _ _ _ _ tries) onward
      · rcases List.mem_append.mp mem with early | late
        · exact linear pair early
        · obtain ⟨values, error, shape, done⟩ := later pair late
          exact ⟨values, error, shape.trans same, done⟩

end Chained

section Solver

variable {method : Method α}

theorem chained_after (problem : Problem α) (state last : Solver method) (asked : List (Base α × Attempt α))
    (chained : Chained method.linearSolver problem state asked last) (k : ℕ) (base : Base α) (a : Attempt α)
    (made : asked[k]? = some (base, a)) :
    attempt method.linearSolver problem base a.damping (state.after (((asked.take k).map demandOf).map .solve)) =
      (a.outcome, state.after (((asked.take (k + 1)).map demandOf).map .solve)) := by
  induction chained generalizing k with
  | none => cases made
  | next state middle last first b rest tried others ih =>
      have left : middle = state.next (.solve (demandOf (first, b))) := by
        have kept := attempt_state method.linearSolver problem first b.damping state
        rw [tried] at kept
        exact kept
      subst left
      cases k with
      | zero =>
          cases made
          exact tried
      | succ k => exact ih k made

end Solver

end Optimizer

def Run.tried (run : Run α) (config : Config α) (graph : Graph α) : List (Optimizer.Base α × Attempt α) :=
  Optimizer.tried ⟨graph, .ofValues run.initial, config⟩ run.initial run.initialError run.iterations

namespace Optimizer

theorem run_recorded {σ : Type} (solver : LinearSolver α σ) (config : Config α) (graph : Graph α) (initial : Values α)
    (run : Run α) (reached : Optimizer.run solver config graph initial = .ok run) :
    Recorded solver ⟨graph, .ofValues initial, config⟩ initial.shape solver.start run.attempts
      (run.tried config graph) := by
  obtain ⟨_, _, rfl, _, _, course⟩ := run_ok _ _ _ _ _ reached
  exact course_recorded _ _ _ _ _ _ _ _ course

def solverBefore (method : Method α) (tried : List (Base α × Attempt α)) (k : ℕ) : Solver method :=
  Solver.start.after (((tried.take k).map demandOf).map .solve)

section Run

variable (method : Method α) (config : Config α) (graph : Graph α) (initial : Values α) (run : Run α)
  (reached : Optimizer.run method.linearSolver config graph initial = .ok run)

include reached

theorem run_attempt (k : ℕ) (base : Base α) (a : Attempt α) (made : (run.tried config graph)[k]? = some (base, a)) :
    attempt method.linearSolver ⟨graph, .ofValues initial, config⟩ base a.damping
        (solverBefore method (run.tried config graph) k) =
      (a.outcome, solverBefore method (run.tried config graph) (k + 1)) := by
  obtain ⟨last, chained⟩ := (run_recorded _ config graph initial run reached).chained
  exact chained_after _ _ last _ chained k base a made

theorem run_evaluated (k : ℕ) (base : Base α) (a : Attempt α) (trial : Trial α)
    (made : (run.tried config graph)[k]? = some (base, a)) (evaluated : a.outcome = .ok trial) :
    ∃ step, (solverBefore method (run.tried config graph) k).answer (demandOf (base, a)) = .ok step ∧
      Evaluated ⟨graph, .ofValues initial, config⟩ base a.damping step (some (demandOf (base, a)).gradient) trial := by
  have attempted := run_attempt method config graph initial run reached k base a made
  rw [evaluated] at attempted
  have ready : (solverBefore method (run.tried config graph) k).Reached := Solver.after_reached _ .start _
  obtain ⟨step, answer, known⟩ := attempt_ok _ _ _ _ _ _ _ attempted
  have answered := congrArg Prod.fst answer
  have held := Solver.gradient_after _ (Solver.reached_planned _ ready) (demandOf (base, a)) step answered
  have after : (solverBefore method (run.tried config graph) k).next (.solve (demandOf (base, a))) =
      solverBefore method (run.tried config graph) (k + 1) := congrArg Prod.snd answer
  rw [after] at held
  exact ⟨step, answered, held ▸ known⟩

end Run

end Optimizer

end FactorGraph
