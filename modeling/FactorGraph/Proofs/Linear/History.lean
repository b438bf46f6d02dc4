import FactorGraph.Proofs.Exact
import FactorGraph.Proofs.Linear.Plan

set_option autoImplicit false

namespace FactorGraph

-- A system of normal equations, damped or not, that a solver is asked to solve.
structure Demand (α : Type) where
  residual : Block α
  jacobian : SparseMatrix α
  damping : Option α

inductive Call (α : Type) where
  | solve (demand : Demand α)
  | covariance
  | standardErrors

variable {α : Type} [Scalar α] {method : Method α}

namespace Demand

variable (demand : Demand α)

def matrix : SparseMatrix α := Solver.damped demand.jacobian.gram demand.damping

def gradient : List α := demand.jacobian.transposeMulVec demand.residual.rows.flatten

def single (a b : α) : Demand α := ⟨Block.column [b], ⟨1, [SparseMatrix.rowOfEntries [(0, a)]]⟩, none⟩

def misfit : Demand α := ⟨Block.column [0, 0], ⟨1, [SparseMatrix.rowOfEntries [(0, 1)]]⟩, none⟩

end Demand

namespace Solver

variable (solver : Solver method)

def answer (demand : Demand α) : Except SolveError (List α) :=
  (solver.solve demand.residual demand.jacobian demand.damping).1

def next : Call α → Solver method
  | .solve demand => (solver.solve demand.residual demand.jacobian demand.damping).2
  | .covariance => solver.withCovariance
  | .standardErrors => solver.withStandardErrors.2

def after (calls : List (Call α)) : Solver method := calls.foldl next solver

theorem next_planned (planned : solver.Planned) (call : Call α) : (solver.next call).Planned := by
  cases call with
  | solve demand => exact solver.solve_planned planned demand.residual demand.jacobian demand.damping
  | covariance => exact solver.with_covariance_planned planned
  | standardErrors => exact solver.with_standard_errors_planned planned

theorem after_planned (planned : solver.Planned) (calls : List (Call α)) : (solver.after calls).Planned := by
  induction calls generalizing solver with
  | nil => exact planned
  | cons call rest ih => exact ih (solver.next call) (solver.next_planned planned call)

theorem solve_of_planned (planned : solver.Planned) (demand : Demand α) :
    solver.answer demand = (start : Solver method).answer demand ∧
      ∀ step, (start : Solver method).answer demand = .ok step →
        solver.next (.solve demand) = (start : Solver method).next (.solve demand) := by
  simp only [answer, next]
  by_cases fits : demand.residual.height = demand.jacobian.height ∧ demand.residual.cols = 1
  · cases known : method.plan (damped demand.jacobian.gram demand.damping).pattern with
    | none =>
        rw [solve_unplanned solver planned _ _ _ fits known, solve_unplanned start start_planned _ _ _ fits known]
        exact ⟨rfl, fun _ impossible => by cases impossible⟩
    | some plan =>
        rw [solve_of_plan solver planned _ _ _ fits plan known, solve_of_plan start start_planned _ _ _ fits plan known]
        cases factorAndSolve plan (damped demand.jacobian.gram demand.damping)
            ((demand.jacobian.transposeMulVec demand.residual.rows.flatten).map (- ·)) with
        | none => exact ⟨rfl, fun _ impossible => by cases impossible⟩
        | some found => exact ⟨rfl, fun _ _ => rfl⟩
  · rw [solve_misfit solver _ _ _ fits, solve_misfit start _ _ _ fits]
    exact ⟨rfl, fun _ impossible => by cases impossible⟩

theorem answer_ok_iff (planned : solver.Planned) (demand : Demand α) (step : List α) :
    solver.answer demand = .ok step ↔
      (demand.residual.height = demand.jacobian.height ∧ demand.residual.cols = 1) ∧
      ∃ plan factors, method.plan demand.matrix.pattern = some plan ∧ method.factor plan demand.matrix = some factors ∧
        step = method.solve factors (demand.gradient.map (- ·)) ∧ step.all Scalar.isFinite = true := by
  rw [answer, solve_ok_iff solver planned]
  simp only [factor_and_solve_ok_iff]
  rfl

theorem answer_single (a b : α) (positive : 0 < a * a)
    (finite : Scalar.isFinite ((-(0 + a * b) / Scalar.sqrt (a * a) - 0) / Scalar.sqrt (a * a)) = true) :
    (start : Solver Method.cholesky).answer (.single a b) =
      .ok [(-(0 + a * b) / Scalar.sqrt (a * a) - 0) / Scalar.sqrt (a * a)] := by
  have factored : Cholesky.factor 1 [[some (a * a)]] = some [⟨Scalar.sqrt (a * a), []⟩] := by
    simp [Cholesky.factor, positive]
  exact (start.answer_ok_iff start_planned (.single a b) _).mpr
    ⟨⟨rfl, rfl⟩, _, _, rfl, factored, rfl, by simpa using finite⟩

theorem history_independent (calls : List (Call α)) (demand : Demand α) :
    ((start : Solver method).after calls).answer demand = (start : Solver method).answer demand ∧
      ∀ step, (start : Solver method).answer demand = .ok step →
        ((start : Solver method).after calls).next (.solve demand) = (start : Solver method).next (.solve demand) :=
  solve_of_planned _ (start.after_planned start_planned calls) demand

theorem history_independent_after_misfit :
    let calls : List (Call ℝ) := [.solve (.single 3 1), .covariance, .solve .misfit]
    ((start : Solver Method.cholesky).after calls).answer (.single 2 5) = .ok [-5 / 2] ∧
      ((start : Solver Method.cholesky).after calls).next (.solve (.single 2 5)) =
        (start : Solver Method.cholesky).next (.solve (.single 2 5)) := by
  intro calls
  have root : (Scalar.sqrt (2 * 2) : ℝ) = 2 := Real.sqrt_mul_self two_pos.le
  have answered : (start : Solver Method.cholesky).answer (.single (2 : ℝ) 5) = .ok [-5 / 2] := by
    rw [answer_single 2 5 (by norm_num) rfl, root]
    norm_num
  obtain ⟨same, kept⟩ := @history_independent ℝ _ Method.cholesky calls (.single 2 5)
  exact ⟨same.trans answered, kept _ answered⟩

section Memory

-- What is kept of a solve is kept of this demand, the covariance and the standard errors included.
structure Remembers (last : Solved method) (demand : Demand α) : Prop where
  hessian : last.hessian = demand.jacobian.gram
  gradient : last.gradient = demand.gradient
  factors : ∃ plan, method.plan demand.matrix.pattern = some plan ∧ method.factor plan demand.matrix = some last.factors
  finite : (method.solve last.factors (demand.gradient.map (- ·))).all Scalar.isFinite = true
  covariance : ∀ C, last.covariance = some C → C = inverse demand.jacobian.cols last.factors
  standardErrors : ∀ errors, last.standardErrors = some errors → ∃ C, last.covariance = some C ∧
    C.diagonalEntries.any (fun v => decide (v < 0)) = false ∧ errors = C.diagonalEntries.map Scalar.sqrt

def met (known : Option (Demand α)) : Call α → Option (Demand α)
  | .solve demand =>
      match solver.answer demand with
      | .ok _ => some demand
      | .error _ => known
  | .covariance => known
  | .standardErrors => known

def latest (solver : Solver method) (known : Option (Demand α)) : List (Call α) → Option (Demand α)
  | [] => known
  | call :: rest => (solver.next call).latest (solver.met known call) rest

theorem solve_error_keeps (demand : Demand α) (cause : SolveError) (failed : solver.answer demand = .error cause) :
    (solver.next (.solve demand)).last = solver.last := by
  change (solver.solve demand.residual demand.jacobian demand.damping).2.last = solver.last
  unfold answer at failed
  rw [solve] at failed ⊢
  cases prepared : solver.prepare demand.residual demand.jacobian demand.damping with
  | error e => rfl
  | ok system =>
      simp only [prepared] at failed ⊢
      cases found : factorAndSolve system.planning.plan system.matrix (system.gradient.map (- ·)) with
      | none => exact solver.remember_last system.matrix.pattern system.planning
      | some solution => simp [found] at failed

theorem solve_ok_last (planned : solver.Planned) (demand : Demand α) (step : List α)
    (answered : solver.answer demand = .ok step) :
    ∃ last, (solver.next (.solve demand)).last = some last ∧ Remembers last demand := by
  obtain ⟨fits, plan, factors, known, factored, rfl, finite⟩ := (solver.answer_ok_iff planned demand step).mp answered
  refine ⟨⟨demand.jacobian.gram, demand.gradient, factors, none, none⟩, ?_, rfl, rfl, ⟨plan, known, factored⟩, finite, ?_, ?_⟩
  · have found := (factor_and_solve_ok_iff _ demand.matrix (demand.gradient.map (- ·)) _ factors).mpr
      ⟨factored, rfl, finite⟩
    simp only [Demand.matrix, Demand.gradient] at found
    rw [next, solve_of_plan solver planned _ _ _ fits plan known, found]
    rfl
  · simp
  · simp

theorem with_covariance_remembers (last : Solved method) (demand : Demand α) (kept : solver.last = some last)
    (remembers : Remembers last demand) :
    ∃ filled C, solver.withCovariance.last = some filled ∧ filled.covariance = some C ∧ Remembers filled demand := by
  unfold withCovariance
  rw [kept]
  cases cached : last.covariance with
  | some C =>
      simp only [cached]
      exact ⟨last, C, kept, cached, remembers⟩
  | none =>
      simp only [cached]
      refine ⟨_, _, rfl, rfl, remembers.hessian, remembers.gradient, remembers.factors, remembers.finite, ?_, ?_⟩
      · rintro C ⟨⟩
        rw [remembers.hessian]
        rfl
      · intro errors known
        obtain ⟨C, impossible, _⟩ := remembers.standardErrors errors known
        cases cached.symm.trans impossible

theorem with_standard_errors_remembers (last : Solved method) (demand : Demand α) (kept : solver.last = some last)
    (remembers : Remembers last demand) :
    ∃ filled, solver.withStandardErrors.2.last = some filled ∧ Remembers filled demand := by
  obtain ⟨filled, C, found, cached, remembers⟩ := solver.with_covariance_remembers last demand kept remembers
  unfold withStandardErrors
  simp only [found, cached]
  split
  · exact ⟨filled, found, remembers⟩
  · rename_i nonnegative
    refine ⟨_, rfl, remembers.hessian, remembers.gradient, remembers.factors, remembers.finite, ?_, ?_⟩
    · rintro _ ⟨⟩
      exact remembers.covariance C cached
    · rintro errors ⟨⟩
      exact ⟨C, rfl, eq_false_of_ne_true nonnegative, rfl⟩

theorem with_covariance_none (kept : solver.last = none) : solver.withCovariance.last = none := by
  simp [withCovariance, kept]

theorem with_standard_errors_none (kept : solver.last = none) : solver.withStandardErrors.2.last = none := by
  simp [withStandardErrors, solver.with_covariance_none kept]

theorem next_remembers (planned : solver.Planned) (known : Option (Demand α))
    (kept : Option.Rel Remembers solver.last known) (call : Call α) :
    Option.Rel Remembers (solver.next call).last (solver.met known call) := by
  cases call with
  | solve demand =>
      cases answered : solver.answer demand with
      | ok step =>
          obtain ⟨last, found, remembers⟩ := solver.solve_ok_last planned demand step answered
          rw [met, answered, found]
          exact .some remembers
      | error cause =>
          rw [met, answered, solver.solve_error_keeps demand cause answered]
          exact kept
  | covariance =>
      rw [next, met]
      generalize memory : solver.last = last at kept
      cases kept with
      | none => exact solver.with_covariance_none memory ▸ .none
      | some remembers =>
          obtain ⟨filled, _, found, _, remembers⟩ := solver.with_covariance_remembers _ _ memory remembers
          exact found ▸ .some remembers
  | standardErrors =>
      rw [next, met]
      generalize memory : solver.last = last at kept
      cases kept with
      | none => exact solver.with_standard_errors_none memory ▸ .none
      | some remembers =>
          obtain ⟨filled, found, remembers⟩ := solver.with_standard_errors_remembers _ _ memory remembers
          exact found ▸ .some remembers

theorem after_remembers (planned : solver.Planned) (known : Option (Demand α))
    (kept : Option.Rel Remembers solver.last known) (calls : List (Call α)) :
    Option.Rel Remembers (solver.after calls).last (solver.latest known calls) := by
  induction calls generalizing solver known with
  | nil => exact kept
  | cons call rest ih =>
      exact ih (solver.next call) (solver.next_planned planned call) _ (solver.next_remembers planned known kept call)

theorem latest_remembers (calls : List (Call α)) (last : Solved method) (demand : Demand α)
    (kept : ((start : Solver method).after calls).last = some last)
    (known : (start : Solver method).latest none calls = some demand) : Remembers last demand := by
  have related := after_remembers (start : Solver method) start_planned none .none calls
  rw [kept, known] at related
  cases related with
  | some remembers => exact remembers

theorem answer_misfit : ∃ cause, solver.answer .misfit = .error cause :=
  ⟨_, congrArg Prod.fst (solver.solve_misfit _ _ _ fun fits : 2 = 1 ∧ 1 = 1 => absurd fits.1 (by decide))⟩

theorem after_misfit (demand : Demand α) (step : List α) (answered : (start : Solver method).answer demand = .ok step) :
    (start : Solver method).latest none [.solve demand, .covariance, .solve .misfit] = some demand ∧
      ∃ last C, ((start : Solver method).after [.solve demand, .covariance, .solve .misfit]).last = some last ∧
        last.covariance = some C := by
  obtain ⟨cause, failed⟩ := (((start : Solver method).next (.solve demand)).next .covariance).answer_misfit
  obtain ⟨last, found, remembers⟩ := start.solve_ok_last start_planned demand step answered
  obtain ⟨filled, C, kept, cached, _⟩ := with_covariance_remembers _ last demand found remembers
  constructor
  · simp only [latest, met, answered, failed]
  · exact ⟨filled, C, (solve_error_keeps _ .misfit cause failed).trans kept, cached⟩

end Memory

end Solver

end FactorGraph
