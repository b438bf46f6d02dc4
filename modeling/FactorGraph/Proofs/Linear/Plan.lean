import FactorGraph.Proofs.Linear.Triplets
import FactorGraph.Proofs.Outcome

set_option autoImplicit false

namespace FactorGraph

variable {α : Type} [Scalar α]

namespace SparseMatrix

theorem add_diagonal_height (m : SparseMatrix α) (damping : α) : (m.addDiagonal damping).height = m.height := by
  simp [addDiagonal, height]

theorem transpose_mul_vec_length (m : SparseMatrix α) (v : List α) : (m.transposeMulVec v).length = m.cols := by
  simp [transposeMulVec]

omit [Scalar α] in
theorem pattern_length (m : SparseMatrix α) : m.pattern.length = m.height := by
  simp [pattern, height]

end SparseMatrix

-- A method whose solutions are as long as the matrix has columns.
def Method.Fits (method : Method α) : Prop :=
  ∀ (matrix : SparseMatrix α) (plan : method.Plan) (factors : method.Factors) (rhs : List α),
    matrix.height = matrix.cols → method.plan matrix.pattern = some plan → method.factor plan matrix = some factors →
    rhs.length = matrix.cols → (method.solve factors rhs).length = matrix.cols

omit [Scalar α] in
theorem Places.tails_length (n : Nat) (rows : List (List (Option α))) (wide : ∀ row ∈ rows, row.length = n + 1) :
    ∀ row ∈ rows.map List.tail, row.length = n := by
  intro row mem
  obtain ⟨whole, inside, rfl⟩ := List.mem_map.mp mem
  simp [wide whole inside]

omit [Scalar α] in
theorem Places.head_length (n i : Nat) (rows : List (List (Option α))) (wide : ∀ row ∈ rows, row.length = n)
    (inside : i < rows.length) : (rows.headD []).length = n := by
  match rows, inside with
  | row :: _, _ => exact wide row List.mem_cons_self

theorem Places.weighted_sum_length (width : Nat) (weights : List (Option α)) (rows : List (List (Option α)))
    (wide : ∀ row ∈ rows, row.length = width) : (Places.weightedSum width weights rows).length = width := by
  induction weights generalizing rows with
  | nil => simp [Places.weightedSum]
  | cons weight weights ih =>
      cases rows with
      | nil => simp [Places.weightedSum]
      | cons row rows =>
          obtain ⟨first, others⟩ := List.forall_mem_cons.mp wide
          cases weight with
          | none => simp [Places.weightedSum, ih rows others]
          | some weight => simp [Places.weightedSum, first, ih rows others]

namespace Cholesky

theorem remainder_shape (n : Nat) (below : List (Option α)) (rows : List (List (Option α))) (height : rows.length = n)
    (wide : ∀ row ∈ rows, row.length = n + 1) (length : below.length = n) :
    (remainder below rows).length = n ∧ ∀ row ∈ remainder below rows, row.length = n := by
  refine ⟨by simp [remainder, height, length], fun row mem => ?_⟩
  obtain ⟨i, bound, rfl⟩ := List.mem_iff_getElem.mp mem
  simp only [remainder, List.length_zipWith, List.length_map] at bound
  have inside : i < rows.length := by omega
  have long : rows[i].tail.length = n := by simp [wide _ (List.getElem_mem inside)]
  simp only [remainder, List.getElem_zipWith, List.getElem_map, lessColumn]
  split
  · exact long
  · simp [long, length]

theorem solve_length (size : Nat) (rows : List (List (Option α))) (columns : List (Column α)) (rhs : List α)
    (height : rows.length = size) (factored : factor size rows = some columns) (length : rhs.length = size) :
    (solve columns rhs).length = size := by
  induction size generalizing rows columns rhs with
  | zero =>
      cases factored
      rfl
  | succ size ih =>
      match rows, rhs with
      | [] :: _, _ | (none :: _) :: _, _ => cases factored
      | (some pivot :: _) :: rows, b :: bs =>
          rw [factor] at factored
          by_cases positive : 0 < pivot
          · rw [if_pos positive] at factored
            obtain ⟨others, rest, rfl⟩ := Option.map_eq_some_iff.mp factored
            have fewer : rows.length = size := Nat.succ.inj height
            rw [solve, List.length_cons, ih _ others _ (by simp [remainder, fewer]) rest]
            simp only [lower, List.length_zipWith, List.length_map, fewer, Nat.succ.inj length, Nat.min_self]
          · simp [positive] at factored

end Cholesky

namespace Reflection

theorem solve_length (steps : List (Step α)) (b : List α) : (solve steps b).length = steps.length := by
  induction steps generalizing b with
  | nil => rfl
  | cons step steps ih => rw [solve, List.length_cons, ih, List.length_cons]

theorem normal_length (column : List (Option α)) : (mirrorOf column).1.normal.length = column.length := by
  cases column with
  | nil => rfl
  | cons first rest =>
      unfold mirrorOf
      dsimp only
      split <;> simp

theorem reflect_rows_shape (n : Nat) (mirror : Mirror α) (rows : List (List (Option α)))
    (tall : mirror.normal.length = rows.length) (wide : ∀ row ∈ rows, row.length = n) :
    (reflectRows mirror rows).length = rows.length ∧ ∀ row ∈ reflectRows mirror rows, row.length = n := by
  refine ⟨by simp [reflectRows, tall], fun row mem => ?_⟩
  obtain ⟨i, bound, rfl⟩ := List.mem_iff_getElem.mp mem
  simp only [reflectRows, List.length_zipWith] at bound
  have inside : i < rows.length := by omega
  have width := Places.head_length n i rows wide inside
  have long := wide _ (List.getElem_mem inside)
  simp only [reflectRows, List.getElem_zipWith, width]
  split
  · exact long
  · simp [long, Places.weighted_sum_length n mirror.normal rows wide]

theorem factor_length (size : Nat) (rows : List (List (Option α))) (height : rows.length = size) :
    (factor size rows).length = size := by
  induction size generalizing rows with
  | zero => cases rows <;> rfl
  | succ size ih =>
      match rows with
      | row :: rows =>
          rw [factor]
          dsimp only
          rw [List.length_cons, ih]
          have normal := normal_length ((row :: rows).map (·.headD none))
          simp only [List.length_map, List.length_cons] at normal height
          simp only [reflectRows, List.length_tail, List.length_zipWith, List.length_map, List.length_cons, normal]
          omega

end Reflection

namespace Method

theorem cholesky_fits : (cholesky : Method α).Fits := by
  intro matrix plan factors rhs square planned factored length
  cases planned
  refine Cholesky.solve_length matrix.cols matrix.openRows factors rhs ?_ ?_ length
  · simpa [SparseMatrix.openRows, SparseMatrix.height] using square
  · have size : matrix.pattern.length = matrix.cols := (matrix.pattern_length).trans square
    exact size ▸ factored

theorem qr_fits : (qr : Method α).Fits := by
  intro matrix plan factors rhs square planned factored _
  cases planned
  cases factored
  have size : matrix.pattern.length = matrix.cols := (matrix.pattern_length).trans square
  change (Reflection.solve (Reflection.factor matrix.pattern.length matrix.openRows) rhs).length = matrix.cols
  rw [Reflection.solve_length, size]
  exact Reflection.factor_length matrix.cols matrix.openRows (by simpa [SparseMatrix.openRows, SparseMatrix.height] using square)

end Method

namespace Solver

variable {method : Method α}

omit [Scalar α] in
def Planned (solver : Solver method) : Prop :=
  ∀ pattern plan, solver.plan = some (pattern, plan) → method.plan pattern = some plan

omit [Scalar α] in
theorem start_planned : (start : Solver method).Planned := fun _ _ impossible => by cases impossible

omit [Scalar α] in
theorem plan_anew_ok_iff (pattern : Pattern) (planning : Planning method) :
    method.planAnew pattern = .ok planning ↔ ∃ plan, method.plan pattern = some plan ∧ planning = .made plan := by
  unfold Method.planAnew
  cases method.plan pattern <;> simp [eq_comm]

omit [Scalar α] in
theorem plan_anew_error_iff (pattern : Pattern) (e : SolveError) :
    method.planAnew pattern = .error e ↔ method.plan pattern = none ∧ e = .factorization method.unplanned := by
  unfold Method.planAnew
  cases method.plan pattern <;> simp [eq_comm]

omit [Scalar α] in
theorem plan_for_cases (solver : Solver method) (pattern : Pattern) :
    (∃ plan, solver.plan = some (pattern, plan) ∧ solver.planFor pattern = .ok (.remembered plan)) ∨
      solver.plan.map Prod.fst ≠ some pattern ∧ solver.planFor pattern = method.planAnew pattern := by
  unfold planFor
  cases remembered : solver.plan with
  | none => exact .inr ⟨by simp, rfl⟩
  | some memory =>
      obtain ⟨known, plan⟩ := memory
      by_cases same : known = pattern
      · exact .inl ⟨plan, by rw [same], if_pos same⟩
      · exact .inr ⟨by simpa using same, if_neg same⟩

omit [Scalar α] in
theorem remember_plan (solver : Solver method) (pattern : Pattern) (planning : Planning method)
    (known : solver.planFor pattern = .ok planning) :
    solver.remember pattern planning = { solver with plan := some (pattern, planning.plan) } := by
  rcases solver.plan_for_cases pattern with ⟨plan, remembered, made⟩ | ⟨_, made⟩
  · cases known.symm.trans made
    obtain ⟨kept, last⟩ := solver
    cases remembered
    rfl
  · obtain ⟨plan, _, rfl⟩ := (plan_anew_ok_iff pattern planning).mp (made.symm.trans known)
    rfl

omit [Scalar α] in
theorem remember_last (solver : Solver method) (pattern : Pattern) (planning : Planning method) :
    (solver.remember pattern planning).last = solver.last := by
  cases planning <;> rfl

omit [Scalar α] in
theorem plan_for_some (solver : Solver method) (planned : solver.Planned) (pattern : Pattern) (plan : method.Plan)
    (known : method.plan pattern = some plan) : ∃ planning, solver.planFor pattern = .ok planning ∧ planning.plan = plan := by
  rcases solver.plan_for_cases pattern with ⟨other, remembered, made⟩ | ⟨_, made⟩
  · cases (planned pattern other remembered).symm.trans known
    exact ⟨_, made, rfl⟩
  · exact ⟨.made plan, made.trans ((plan_anew_ok_iff pattern _).mpr ⟨plan, known, rfl⟩), rfl⟩

omit [Scalar α] in
theorem plan_for_none (solver : Solver method) (planned : solver.Planned) (pattern : Pattern)
    (unknown : method.plan pattern = none) : solver.planFor pattern = .error (.factorization method.unplanned) := by
  rcases solver.plan_for_cases pattern with ⟨plan, remembered, _⟩ | ⟨_, made⟩
  · cases (planned pattern plan remembered).symm.trans unknown
  · exact made.trans ((plan_anew_error_iff pattern _).mpr ⟨unknown, rfl⟩)

theorem prepare_fits (solver : Solver method) (residual : Block α) (jacobian : SparseMatrix α) (damping : Option α)
    (fits : residual.height = jacobian.height ∧ residual.cols = 1) :
    solver.prepare residual jacobian damping = (solver.planFor (damped jacobian.gram damping).pattern).map
      (.mk jacobian.gram (jacobian.transposeMulVec residual.rows.flatten) (damped jacobian.gram damping)) := by
  rw [prepare, if_pos fits]
  dsimp only
  rw [to_factor_gram, Outcome.ok_bind]
  rfl

theorem solve_unplanned (solver : Solver method) (planned : solver.Planned) (residual : Block α)
    (jacobian : SparseMatrix α) (damping : Option α) (fits : residual.height = jacobian.height ∧ residual.cols = 1)
    (unknown : method.plan (damped jacobian.gram damping).pattern = none) :
    solver.solve residual jacobian damping = (.error (.factorization method.unplanned), solver) := by
  rw [solve, prepare_fits solver residual jacobian damping fits, plan_for_none solver planned _ unknown]
  rfl

theorem solve_of_plan (solver : Solver method) (planned : solver.Planned) (residual : Block α)
    (jacobian : SparseMatrix α) (damping : Option α) (fits : residual.height = jacobian.height ∧ residual.cols = 1)
    (plan : method.Plan) (known : method.plan (damped jacobian.gram damping).pattern = some plan) :
    solver.solve residual jacobian damping =
      match factorAndSolve plan (damped jacobian.gram damping)
          ((jacobian.transposeMulVec residual.rows.flatten).map (- ·)) with
      | none => (.error .singular, ⟨some ((damped jacobian.gram damping).pattern, plan), solver.last⟩)
      | some (factors, step) => (.ok step, ⟨some ((damped jacobian.gram damping).pattern, plan),
          some ⟨jacobian.gram, jacobian.transposeMulVec residual.rows.flatten, factors, none, none⟩⟩) := by
  obtain ⟨planning, found, rfl⟩ := plan_for_some solver planned _ plan known
  have prepared := prepare_fits solver residual jacobian damping fits
  have kept := remember_plan solver _ planning found
  cases answer : factorAndSolve planning.plan (damped jacobian.gram damping)
      ((jacobian.transposeMulVec residual.rows.flatten).map (- ·)) with
  | none => simp only [solve, prepared, found, Except.map, kept, answer]
  | some answered => simp only [solve, prepared, found, Except.map, kept, answer]

theorem solve_misfit (solver : Solver method) (residual : Block α) (jacobian : SparseMatrix α) (damping : Option α)
    (misfit : ¬ (residual.height = jacobian.height ∧ residual.cols = 1)) :
    solver.solve residual jacobian damping = (.error (.residualShape residual.shape jacobian.height), solver) := by
  rw [solve, prepare, if_neg misfit]

theorem solve_planned (solver : Solver method) (planned : solver.Planned) (residual : Block α)
    (jacobian : SparseMatrix α) (damping : Option α) : (solver.solve residual jacobian damping).2.Planned := by
  by_cases fits : residual.height = jacobian.height ∧ residual.cols = 1
  · cases known : method.plan (damped jacobian.gram damping).pattern with
    | none => exact (solve_unplanned solver planned residual jacobian damping fits known).symm ▸ planned
    | some plan =>
        rw [solve_of_plan solver planned residual jacobian damping fits plan known]
        split <;>
        · rintro pattern other remembered
          cases remembered
          exact known
  · rw [solve_misfit solver residual jacobian damping fits]
    exact planned

theorem with_covariance_plan (solver : Solver method) : solver.withCovariance.plan = solver.plan := by
  unfold withCovariance
  split
  · rfl
  · split <;> rfl

theorem with_standard_errors_plan (solver : Solver method) : solver.withStandardErrors.2.plan = solver.plan := by
  have kept := solver.with_covariance_plan
  unfold withStandardErrors
  dsimp only
  split
  · exact kept
  · split
    · exact kept
    · split <;> exact kept

theorem with_covariance_planned (solver : Solver method) (planned : solver.Planned) : solver.withCovariance.Planned := by
  intro pattern plan remembered
  exact planned pattern plan (solver.with_covariance_plan ▸ remembered)

theorem with_standard_errors_planned (solver : Solver method) (planned : solver.Planned) :
    solver.withStandardErrors.2.Planned := by
  intro pattern plan remembered
  exact planned pattern plan (solver.with_standard_errors_plan ▸ remembered)

inductive Reached : Solver method → Prop where
  | start : Reached start
  | solved (solver : Solver method) (residual : Block α) (jacobian : SparseMatrix α) (damping : Option α)
      (before : Reached solver) : Reached (solver.solve residual jacobian damping).2
  | covariance (solver : Solver method) (before : Reached solver) : Reached solver.withCovariance
  | standardErrors (solver : Solver method) (before : Reached solver) : Reached solver.withStandardErrors.2

theorem reached_planned (solver : Solver method) (reached : solver.Reached) : solver.Planned := by
  induction reached with
  | start => exact start_planned
  | solved solver residual jacobian damping before ih => exact solve_planned solver ih residual jacobian damping
  | covariance solver before ih => exact with_covariance_planned solver ih
  | standardErrors solver before ih => exact with_standard_errors_planned solver ih

theorem factor_and_solve_ok_iff (plan : method.Plan) (matrix : SparseMatrix α) (rhs step : List α)
    (factors : method.Factors) :
    factorAndSolve plan matrix rhs = some (factors, step) ↔
      method.factor plan matrix = some factors ∧ step = method.solve factors rhs ∧
        step.all Scalar.isFinite = true := by
  unfold factorAndSolve
  cases method.factor plan matrix with
  | none => simp
  | some found =>
      by_cases finite : (method.solve found rhs).all Scalar.isFinite = true
      · simp only [if_pos finite, Option.some.injEq, Prod.mk.injEq]
        constructor
        · rintro ⟨rfl, rfl⟩
          exact ⟨rfl, rfl, finite⟩
        · rintro ⟨rfl, rfl, _⟩
          exact ⟨rfl, rfl⟩
      · simp only [if_neg finite, reduceCtorEq, Option.some.injEq, false_iff, not_and]
        rintro rfl rfl
        exact finite

theorem solve_ok_iff (solver : Solver method) (planned : solver.Planned) (residual : Block α)
    (jacobian : SparseMatrix α) (damping : Option α) (step : List α) :
    (solver.solve residual jacobian damping).1 = .ok step ↔
      (residual.height = jacobian.height ∧ residual.cols = 1) ∧
      ∃ plan factors, method.plan (damped jacobian.gram damping).pattern = some plan ∧
        factorAndSolve plan (damped jacobian.gram damping)
          ((jacobian.transposeMulVec residual.rows.flatten).map (- ·)) = some (factors, step) := by
  by_cases fits : residual.height = jacobian.height ∧ residual.cols = 1
  · rw [and_iff_right fits]
    cases known : method.plan (damped jacobian.gram damping).pattern with
    | none => simp [solve_unplanned solver planned residual jacobian damping fits known]
    | some plan =>
        rw [solve_of_plan solver planned residual jacobian damping fits plan known]
        cases found : factorAndSolve plan (damped jacobian.gram damping)
            ((jacobian.transposeMulVec residual.rows.flatten).map (- ·)) with
        | none => simp [found]
        | some solution => simp [found, Prod.ext_iff]
  · simp [solve_misfit solver residual jacobian damping fits, fits]

theorem damped_square (jacobian : SparseMatrix α) (damping : Option α) :
    (damped jacobian.gram damping).height = jacobian.cols ∧ (damped jacobian.gram damping).cols = jacobian.cols := by
  cases damping with
  | none => exact ⟨jacobian.gram_height, rfl⟩
  | some damping => exact ⟨(jacobian.gram.add_diagonal_height damping).trans jacobian.gram_height, rfl⟩

theorem solve_length (fits : method.Fits) (solver : Solver method) (planned : solver.Planned) (residual : Block α)
    (jacobian : SparseMatrix α) (damping : Option α) (step : List α)
    (done : (solver.solve residual jacobian damping).1 = .ok step) :
    step.length = jacobian.cols ∧ step.all Scalar.isFinite = true := by
  obtain ⟨_, plan, factors, made, found⟩ := (solve_ok_iff solver planned residual jacobian damping step).mp done
  obtain ⟨factored, rfl, finite⟩ := (factor_and_solve_ok_iff _ _ _ _ _).mp found
  obtain ⟨height, cols⟩ := damped_square jacobian damping
  refine ⟨?_, finite⟩
  rw [fits _ plan factors _ (height.trans cols.symm) made factored, cols]
  rw [List.length_map, SparseMatrix.transpose_mul_vec_length, cols]

end Solver

end FactorGraph
