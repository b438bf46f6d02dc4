import FactorGraph.Proofs.Graph.Numbers
import FactorGraph.Proofs.Optimizer.Insertion
import FactorGraph.Proofs.Optimizer.Propagation

set_option autoImplicit false

namespace FactorGraph

open RealOrNaN

-- The graph linearizes at the estimate, and the system is put together from its linear factors.
def Graph.SystemAt {α : Type} [Scalar α] (graph : Graph α) (values : Values α) (system : LinearSystem α) : Prop :=
  ∃ linear, graph.linearize values = .ok linear ∧ linear.toSparse (.ofValues values) = .ok system

theorem Graph.system_at_unique {α : Type} [Scalar α] (graph : Graph α) (values : Values α) (system other : LinearSystem α)
    (first : graph.SystemAt values system) (second : graph.SystemAt values other) : other = system := by
  obtain ⟨linear, linearized, assembled⟩ := first
  obtain ⟨_, again, repeated⟩ := second
  cases linearized.symm.trans again
  cases assembled.symm.trans repeated
  rfl

namespace Optimizer

section Unasked

variable {α σ : Type} [Scalar α] (solver : LinearSolver α σ) (config : Config α) (graph : Graph α) (initial : Values α)

theorem run_without_covariances :
    Optimizer.run solver { config with covariances := false } graph initial = Optimizer.run solver config graph initial := by
  have alike : Alike (⟨graph, .ofValues initial, config⟩ : Problem α)
      ⟨graph, .ofValues initial, { config with covariances := false }⟩ := ⟨rfl, fun _ => rfl, rfl, rfl, rfl⟩
  have same (error : α) : runFrom solver { config with covariances := false } graph initial error =
      runFrom solver config graph initial error :=
    congrArg (Record.run initial error) (iterate_alike solver _ _ alike _ 0 (.start solver config initial error)
      (fun _ _ => rfl) fun _ _ _ => rfl)
  rw [run_eq, run_eq, funext same]
  rfl

theorem optimize_without_covariances (result : OptimizationResult α)
    (finished : optimize solver config graph initial = .ok result) :
    optimize solver { config with covariances := false } graph initial = .ok { result with covariances := none } := by
  obtain ⟨run, status, reached, ended, rfl⟩ := optimize_ok _ _ _ _ _ finished
  rw [optimize, run_without_covariances, reached, Outcome.ok_bind, ended]
  rfl

end Unasked

section Answered

variable (method : Method RealOrNaN) (graph : Graph RealOrNaN) (values : Values RealOrNaN)
  (system : LinearSystem RealOrNaN) (known : graph.SystemAt values system)

include known

theorem covariances_eq : covariances method.linearSolver graph (.ofValues values) values =
    ((Solver.start : Solver method).answer system.demand).mapError .linear >>= fun _ =>
      .ok (((Solver.start : Solver method).next (.solve system.demand)).withCovariance.covariance?.map
        (marginals · (.ofValues values))) := by
  obtain ⟨linear, linearized, assembled⟩ := known
  rw [covariances, linearized]
  simp only [Except.mapError, Outcome.ok_bind, assembled]
  rfl

theorem covariances_answered (exact : method.Exact system.demand) (step : List RealOrNaN)
    (answered : (Solver.start : Solver method).answer system.demand = .ok step) :
    ∃ C, system.demand.InvertedBy C ∧
      covariances method.linearSolver graph (.ofValues values) values = .ok (some (marginals C (.ofValues values))) := by
  obtain ⟨last, found, remembers⟩ := Solver.start.solve_ok_last Solver.start_planned system.demand step answered
  obtain ⟨filled, C, kept, cached, remembers⟩ := Solver.with_covariance_remembers _ last system.demand found remembers
  refine ⟨C, remembers.covariance C cached ▸ Solver.exact_inverts system.demand exact filled remembers, ?_⟩
  rw [covariances_eq method graph values system known, answered, Solver.covariance?, kept]
  simp [Except.mapError, cached]

end Answered

section Reported

variable {α : Type} [Scalar α] (method : Method α) (config : Config α) (graph : Graph α) (initial : Values α)
  (result : OptimizationResult α) (asked : config.covariances = true)
  (finished : optimize method.linearSolver config graph initial = .ok result)

include finished

theorem reported_layout : Layout.ofValues result.values = Layout.ofValues initial := by
  obtain ⟨run, status, reached, _, rfl⟩ := optimize_ok _ _ _ _ _ finished
  obtain ⟨visited, values, shape, _⟩ := run_visits config graph initial run reached _ (Nat.le_refl _)
  rw [values, Run.estimate_last] at shape
  exact Layout.of_values_of_shape _ _ shape

include asked

theorem reported_covariances : result.covariances =
    match covariances method.linearSolver graph (.ofValues result.values) result.values with
    | .ok blocks => blocks
    | .error _ => none := by
  rw [reported_layout method config graph initial result finished]
  obtain ⟨run, status, reached, _, rfl⟩ := optimize_ok _ _ _ _ _ finished
  obtain ⟨_, _, same, _⟩ := run_ok _ _ _ _ _ reached
  cases done : covariances method.linearSolver graph (.ofValues initial) run.values with
  | ok blocks => simp only [report, asked, if_true, same, done]
  | error cause => simp only [report, asked, if_true, same, done]

end Reported

section Main

variable (method : Method RealOrNaN) (graph : Graph RealOrNaN) (values : Values RealOrNaN)
  (inverts : ∀ system, graph.SystemAt values system → method.Inverts system.demand)

include inverts

theorem covariances_of_regular (system : LinearSystem RealOrNaN) (known : graph.SystemAt values system)
    (regular : system.Regular) : ∃ C, system.demand.InvertedBy C ∧
      covariances method.linearSolver graph (.ofValues values) values = .ok (some (marginals C (.ofValues values))) := by
  obtain ⟨linear, linearized, assembled⟩ := id known
  obtain ⟨height, _, length, _⟩ := linear.to_sparse_inside _ (Layout.of_values_inside values) system assembled
  have fits : system.demand.residual.height = system.demand.jacobian.height ∧ system.demand.residual.cols = 1 :=
    ⟨by simp [LinearSystem.demand, Block.height, Block.column, height, length], rfl⟩
  have sound := graph.to_sparse_sound values linear linearized _ system assembled
  obtain ⟨x, answered, _⟩ := Solver.answers_regular system.demand fits (inverts system known)
    (system.demand_regular regular) (system.gradient_whole regular.numeric sound)
  exact covariances_answered method graph values system known (inverts system known).exact _ answered

theorem regular_of_covariances (blocks : List (Key × Block RealOrNaN))
    (done : covariances method.linearSolver graph (.ofValues values) values = .ok (some blocks)) :
    ∃ system, graph.SystemAt values system ∧ system.Regular := by
  obtain ⟨linear, linearized, rest⟩ := (Outcome.bind_ok_iff _ _ _).mp done
  obtain ⟨system, assembled, _⟩ := (Outcome.bind_ok_iff _ _ _).mp rest
  rw [Outcome.map_error_ok_iff] at linearized assembled
  have known : graph.SystemAt values system := ⟨linear, linearized, assembled⟩
  rw [covariances_eq method graph values system known] at done
  obtain ⟨step, answered, _⟩ := (Outcome.bind_ok_iff _ _ _).mp done
  rw [Outcome.map_error_ok_iff] at answered
  obtain ⟨C, inverted, _⟩ := covariances_answered method graph values system known (inverts system known).exact step answered
  exact ⟨system, known, system.inverted_regular C inverted⟩

end Main

/-- The covariances of a result are the blocks of the inverse of `JᵀJ` at the reported estimate, one for each variable, and
there are none where `JᵀJ` has no inverse. All else is that of a run that is not asked for them. -/
theorem optimize_covariances (method : Method RealOrNaN) (config : Config RealOrNaN) (graph : Graph RealOrNaN)
    (initial : Values RealOrNaN) (result : OptimizationResult RealOrNaN) (asked : config.covariances = true)
    (finished : optimize method.linearSolver config graph initial = .ok result)
    (inverts : ∀ system, graph.SystemAt result.values system → method.Inverts system.demand) :
    (∀ system, graph.SystemAt result.values system → system.Regular → ∃ blocks, result.covariances = some blocks ∧
      blocks.map Prod.fst = result.values.keys ∧
      ∀ key block, (key, block) ∈ blocks → ∃ value span, result.values.get? key = some value ∧
        (Layout.ofValues result.values).span? key = some span ∧ span.dimension = value.dimension ∧
        system.Marginal span block) ∧
    ((∀ system, graph.SystemAt result.values system → ¬ system.Regular) → result.covariances = none) ∧
    optimize method.linearSolver { config with covariances := false } graph initial =
      .ok { result with covariances := none } := by
  have reported := reported_covariances method config graph initial result asked finished
  refine ⟨fun system known regular => ?_, fun singular => ?_,
    optimize_without_covariances _ config graph initial result finished⟩
  · obtain ⟨C, inverted, done⟩ := covariances_of_regular method graph result.values inverts system known regular
    obtain ⟨linear, _, assembled⟩ := known
    obtain ⟨_, total, _⟩ := linear.to_sparse_inside _ (Layout.of_values_inside result.values) system assembled
    obtain ⟨keys, each⟩ := system.marginals_inverse C inverted _ (Layout.of_values_inside result.values) total
    rw [done] at reported
    refine ⟨_, reported, keys.trans (Layout.keys_spans result.values), fun key block mem => ?_⟩
    obtain ⟨span, found, marginal⟩ := each key block mem
    obtain ⟨value, inside, dimension, _⟩ := Layout.span_of_values result.values key span found
    exact ⟨value, span, (SortedMap.get_eq_some_iff _ _ _).mpr inside, found, dimension, marginal⟩
  · by_contra some
    obtain ⟨blocks, there⟩ := Option.ne_none_iff_exists'.mp some
    rw [reported] at there
    split at there
    · rename_i found done
      subst there
      obtain ⟨system, known, regular⟩ := regular_of_covariances method graph result.values inverts blocks done
      exact singular system known regular
    · cases there

section Squared

variable (x : ℝ)

noncomputable def squareFactor : Factor RealOrNaN where
  dimension := 1
  evaluate values request := do
    let x ← Factor.variableAt (List RealOrNaN) values 0
    return Factor.answer request (x.map fun a => a * a) fun _ => [.column (x.map fun a => a + a)]

theorem square_dimension : (Noise.unit 1 : Noise RealOrNaN).dimension = squareFactor.dimension := rfl

noncomputable def squareGraph : Graph RealOrNaN :=
  [⟨[⟨'a', 1⟩], squareFactor, .unit 1, .equality, square_dimension, List.cons_ne_nil _ _⟩,
    ⟨[⟨'b', 1⟩], .prior [(0 : RealOrNaN), 0], .unit 2, .equality, rfl, List.cons_ne_nil _ _⟩]

noncomputable def squareAt : Values RealOrNaN :=
  (SortedMap.empty.insert ⟨'a', 1⟩ (.vector [number x])).insert ⟨'b', 1⟩ (.vector [0, 0])

noncomputable def squareSystem : LinearSystem RealOrNaN :=
  ⟨⟨3, [SparseMatrix.rowOfEntries [(0, number (x + x))], SparseMatrix.rowOfEntries [(1, 1), (2, 0)],
    SparseMatrix.rowOfEntries [(1, 0), (2, 1)]]⟩, [-number (x * x), -(0 - 0), -(0 - 0)]⟩

noncomputable def squareDemand (damping : Option ℝ) : Demand RealOrNaN :=
  { (squareSystem x).demand with damping := damping.map number }

noncomputable def squareConfig : Config RealOrNaN :=
  { Config.standard with maxIterations := 1, damping := number 1, covariances := true }

noncomputable def squareProblem : Problem RealOrNaN := ⟨squareGraph, .ofValues (squareAt 1), squareConfig⟩

noncomputable def squareBase : Base RealOrNaN :=
  ⟨squareAt 1, number 1, (squareSystem 1).jacobian, Block.column ((squareSystem 1).rhs.map (- ·))⟩

theorem square_system_at : squareGraph.SystemAt (squareAt x) (squareSystem x) := ⟨_, rfl, rfl⟩

theorem square_error : Graph.error squareGraph (squareAt x) = .ok (number (x * x * (x * x))) := by
  have unfolded : Graph.error squareGraph (squareAt x) =
    .ok (number (0 + x * x * (x * x) + (0 + (0 - 0) * (0 - 0) + (0 - 0) * (0 - 0)))) := rfl
  rw [unfolded]
  norm_num

theorem square_jacobian : ((squareSystem x).jacobian.map value).toMatrix 3 3 = Matrix.diagonal ![x + x, 1, 1] := by
  ext i j
  fin_cases i <;> fin_cases j <;> rfl

theorem square_normal (damping : Option ℝ) : ((squareDemand x damping).map value).normalMatrix 3 =
    Matrix.diagonal ![(x + x) * (x + x) + damping.getD 0, 1 + damping.getD 0, 1 + damping.getD 0] := by
  have same : (damping.map number).map value = damping := by cases damping <;> rfl
  change Matrix.transpose (((squareSystem x).jacobian.map value).toMatrix 3 3) *
    ((squareSystem x).jacobian.map value).toMatrix 3 3 + ((damping.map number).map value).getD 0 • 1 = _
  rw [same, square_jacobian, Matrix.diagonal_transpose, Matrix.diagonal_mul_diagonal, Matrix.smul_one_eq_diagonal,
    Matrix.diagonal_add]
  congr 1
  funext i
  fin_cases i <;> simp

theorem square_numeric (damping : Option ℝ) : (squareDemand x damping).Numeric := by
  constructor
  · intro row mem j _ a found
    have stored := (SortedMap.get_eq_some_iff _ _ _).mp found
    fin_cases mem <;> fin_cases stored <;> rfl
  · intro _ a found
    obtain ⟨lambda, _, rfl⟩ := Option.map_eq_some_iff.mp found
    rfl

theorem mirror_flat (a : ℝ) (rest : List (Option ℝ)) (large : 1 ≤ a) (zero : ∀ b ∈ Places.held rest, b = 0) :
    Reflection.mirrorOf (some a :: rest) = (⟨some 1 :: rest, 0⟩, a) ∧ Reflection.Precise (some a :: rest) := by
  -- Below its first entry the column is zero, and no reflection is made.
  have above : ¬ Scalar.abs a < Scalar.leastNormal := by
    rw [scalar_abs_eq, not_lt]
    exact least_normal_le_one.trans (large.trans (le_abs_self a))
  have flat : Block.norm (Places.held rest) < Scalar.leastNormal :=
    (Reflection.norm_of_zero _ zero).trans_lt least_normal_pos
  exact ⟨by simp [Reflection.mirrorOf, above, flat], fun small => absurd small above, fun _ => zero⟩

theorem precise_square (h g : ℝ) (large : 1 ≤ h) (other : 1 ≤ g) :
    Reflection.PreciseThroughout 3 [[some h, none, none], [none, some g, some 0], [none, some 0, some g]] := by
  obtain ⟨first, here⟩ := mirror_flat h [none, none] large (by simp [Places.held])
  obtain ⟨second, next⟩ := mirror_flat g [some 0] other (by simp [Places.held])
  have remains : g - 0 * 0 * (1 * 0 + (0 * g + 0)) = g := by ring
  obtain ⟨_, last⟩ := mirror_flat (g - 0 * 0 * (1 * 0 + (0 * g + 0))) [] (remains.symm ▸ other) (by simp [Places.held])
  refine ⟨here, ?_⟩
  simp only [List.map_cons, List.map_nil, List.headD_cons, List.tail_cons, first]
  change Reflection.PreciseThroughout 2 [[some g, some 0], [some 0, some g]]
  refine ⟨next, ?_⟩
  simp only [List.map_cons, List.map_nil, List.headD_cons, List.tail_cons, second]
  exact ⟨last, trivial⟩

theorem square_precise (apart : 1 ≤ (x + x) * (x + x)) (damping : Option ℝ) (raised : 0 ≤ damping.getD 0) :
    Reflection.PreciseThroughout 3 ((squareDemand x damping).map value).matrix.openRows := by
  cases damping with
  | none =>
      have places : ((squareDemand x none).map value).matrix.openRows =
          [[some ((x + x) * (x + x)), none, none], [none, some (1 * 1 + 0 * 0), some (1 * 0 + 0 * 1)],
            [none, some (0 * 1 + 1 * 0), some (0 * 0 + 1 * 1)]] := rfl
      have rest := precise_square _ 1 apart le_rfl
      rw [places]
      norm_num
      exact rest
  | some lambda =>
      have places : ((squareDemand x (some lambda)).map value).matrix.openRows =
          [[some ((x + x) * (x + x) + lambda), none, none],
            [none, some (1 * 1 + 0 * 0 + lambda), some (1 * 0 + 0 * 1)],
            [none, some (0 * 1 + 1 * 0), some (0 * 0 + 1 * 1 + lambda)]] := rfl
      rw [places]
      norm_num
      exact precise_square _ _ (le_add_of_le_of_nonneg apart raised) (le_add_of_nonneg_right raised)

theorem square_regular (apart : 1 ≤ (x + x) * (x + x)) (damping : Option ℝ) (raised : 0 ≤ damping.getD 0) :
    (squareDemand x damping).Regular := by
  refine ⟨square_numeric x damping, ?_⟩
  have normal := square_normal x damping
  change Matrix.det (((squareDemand x damping).map value).normalMatrix 3) ≠ 0
  rw [normal, Matrix.det_diagonal]
  refine Finset.prod_ne_zero_iff.mpr fun i _ => ?_
  fin_cases i
  · exact (add_pos_of_pos_of_nonneg (one_pos.trans_le apart) raised).ne'
  · exact (add_pos_of_pos_of_nonneg one_pos raised).ne'
  · exact (add_pos_of_pos_of_nonneg one_pos raised).ne'

theorem square_inverts (choice : SolverChoice) (apart : 1 ≤ (x + x) * (x + x)) (damping : Option ℝ)
    (raised : 0 ≤ damping.getD 0) : (choice.method : Method RealOrNaN).Inverts (squareDemand x damping) := by
  have same : ((squareDemand x damping).map value).damping = damping := by cases damping <;> rfl
  cases choice with
  | cholesky => exact Method.cholesky_inverts _ (by rwa [same])
  | qr => exact Method.qr_inverts _ fun _ => square_precise x apart damping raised

-- `JᵀJ` is four for the number, damping makes it five, and `Jᵀr` is two.
theorem square_answer (method : Method RealOrNaN) (inverts : method.Inverts (squareDemand 1 (some 1))) :
    (Solver.start : Solver method).answer (squareDemand 1 (some 1)) = .ok [number (-2 / 5), number 0, number 0] := by
  have regular := square_regular 1 (by norm_num) (some 1) (by norm_num)
  obtain ⟨step, answered, solved⟩ := Solver.answers_regular _ ⟨rfl, rfl⟩ inverts regular rfl
  have gradient : vector 3 ((squareDemand 1 (some 1)).gradient.map value) = ![2, 0, 0] := by
    have unfolded : (squareDemand 1 (some 1)).gradient =
      [number (0 + (1 + 1) * - -(1 * 1)), number (0 + 1 * - -(0 - 0) + 0 * - -(0 - 0)),
        number (0 + 0 * - -(0 - 0) + 1 * - -(0 - 0))] := rfl
    funext i
    rw [unfolded]
    fin_cases i <;> norm_num [vector, value]
  have normal := square_normal 1 (some 1)
  change Fin 3 → ℝ at step
  change Matrix.mulVec (((squareDemand 1 (some 1)).map value).normalMatrix 3) step =
    -vector 3 ((squareDemand 1 (some 1)).gradient.map value) at solved
  rw [normal, gradient] at solved
  have solution : step = ![-2 / 5, 0, 0] := by
    funext i
    have here := congrFun solved i
    rw [Matrix.mulVec_diagonal] at here
    fin_cases i <;> norm_num [Fin.ext_iff] at here ⊢ <;> linarith
  have entries : (List.ofFn ![(-2 / 5 : ℝ), 0, 0]).map number = [number (-2 / 5), number 0, number 0] := by simp
  exact answered.trans (congrArg Except.ok (solution ▸ entries))

theorem square_attempt (method : Method RealOrNaN) (inverts : method.Inverts (squareDemand 1 (some 1))) :
    ∃ trial next, attempt method.linearSolver squareProblem squareBase (number 1) .start = (.ok trial, next) ∧
      trial.values = squareAt (3 / 5) ∧ trial.error = number (81 / 625) := by
  have moved : (squareAt (3 / 5)) =
      (SortedMap.empty.insert ⟨'a', 1⟩ (.vector [number 1 + number (-2 / 5)])).insert ⟨'b', 1⟩
        (.vector [0 + number 0, 0 + number 0]) := by
    rw [number_add, zero_eq, number_add, squareAt, zero_eq]
    norm_num
  have lower : Graph.error squareGraph (squareAt (3 / 5)) = .ok (number (81 / 625)) := by
    rw [square_error]
    norm_num
  have answered := square_answer method inverts
  unfold Solver.answer at answered
  generalize answer : (Solver.start : Solver method).solve (squareDemand 1 (some 1)).residual
    (squareDemand 1 (some 1)).jacobian (squareDemand 1 (some 1)).damping = made at answered
  obtain ⟨outcome, next⟩ := made
  dsimp only at answered
  subst answered
  let step : List RealOrNaN := [number (-2 / 5), number 0, number 0]
  let predicted := (next.gradient?.map (predictedReduction step · (number 1))).getD 0
  let trial : Trial RealOrNaN := ⟨squareAt (3 / 5), number (81 / 625), Block.norm step,
    (next.gradient?.map Block.norm).getD 0, gainRatio (number 1) (number (81 / 625)) predicted⟩
  have evaluated : evaluateStep squareProblem squareBase (number 1) step next.gradient? = .ok trial :=
    (evaluate_step_ok_iff _ _ _ _ _ _).mpr ⟨⟨_, rfl, congrArg Except.ok moved.symm⟩, lower, rfl, rfl, rfl⟩
  have solved : method.linearSolver.solve .start squareBase.residual squareBase.jacobian (some (number 1)) =
    (.ok step, next) := answer
  refine ⟨trial, next, ?_, rfl, rfl⟩
  rw [attempt, solved]
  exact Prod.ext evaluated rfl

theorem square_optimize (method : Method RealOrNaN) (inverts : method.Inverts (squareDemand 1 (some 1))) :
    ∃ result, optimize method.linearSolver squareConfig squareGraph (squareAt 1) = .ok result ∧
      result.values = squareAt (3 / 5) ∧ result.statistics.accepted = 1 := by
  obtain ⟨trial, next, tried, values, error⟩ := square_attempt method inverts
  have tolerance : squareProblem.config.absoluteTolerance = number 1e-5 := rfl
  have high : ¬ number 1 ≤ squareProblem.config.absoluteTolerance := fun low =>
    absurd ((number_le _ _).mp (tolerance ▸ low)) (by norm_num)
  have higher : ¬ number (81 / 625) ≤ squareProblem.config.absoluteTolerance := fun low =>
    absurd ((number_le _ _).mp (tolerance ▸ low)) (by norm_num)
  have better : improves squareBase trial = true := by
    rw [improves, error, Bool.and_eq_true, decide_eq_true_eq]
    exact ⟨rfl, (number_lt _ 1).mpr (by norm_num)⟩
  have large : settled squareConfig (number 1) (number (81 / 625)) = false := by
    have fraction : (number 1 - number (81 / 625)) / number 1 = number (544 / 625) := by
      rw [number_sub, number_div _ _ one_ne_zero]
      norm_num
    have above : ¬ number (544 / 625) < number 1e-5 := fun below => absurd ((number_lt _ _).mp below) (by norm_num)
    rw [settled, fraction, Bool.and_eq_false_iff]
    exact .inr (decide_eq_false above)
  have led := boundary_accepted method.linearSolver squareProblem 0
    (.start method.linearSolver squareConfig (squareAt 1) (number 1)) squareBase trial next high rfl rfl tried better
    (error.symm ▸ large)
  have iterated := iterate_onward _ _ 0 0 _ _ _ led
  rw [iterate_spent, error, values, if_neg higher] at iterated
  have valid : squareConfig.validate = .ok () := by
    refine (Config.validate_ok_iff _).mpr ⟨by decide, ⟨?_, ?_⟩, ?_, ?_, ?_⟩
    · exact (number_le 0 1e-5).mpr (by norm_num)
    · exact (number_le 0 1e-5).mpr (by norm_num)
    · exact (number_lt 0 1e-12).mpr (by norm_num)
    · exact (number_le 1e-12 1).mpr (by norm_num)
    · exact (number_le 1 1e12).mpr (by norm_num)
  have start : firstError squareConfig squareGraph (squareAt 1) = .ok (number 1) := by
    rw [firstError, valid, square_error]
    norm_num
    rfl
  have made := congrArg (Record.run (squareAt 1) (number 1)) iterated
  change runFrom method.linearSolver squareConfig squareGraph (squareAt 1) (number 1) = _ at made
  rw [optimize_eq, start, Outcome.ok_bind, made]
  exact ⟨_, rfl, values, rfl⟩

theorem square_inverse : (squareSystem (3 / 5)).information⁻¹ = (Matrix.diagonal ![25 / 36, 1, 1] : Matrix (Fin 3) (Fin 3) ℝ) := by
  have normal := square_normal (3 / 5) none
  have information : (squareSystem (3 / 5)).information = (Matrix.diagonal ![36 / 25, 1, 1] : Matrix (Fin 3) (Fin 3) ℝ) := by
    rw [← LinearSystem.normal_matrix_eq]
    refine normal.trans (congrArg Matrix.diagonal ?_)
    norm_num
  have product : (Matrix.diagonal ![36 / 25, 1, 1] : Matrix (Fin 3) (Fin 3) ℝ) * Matrix.diagonal ![25 / 36, 1, 1] = 1 := by
    rw [Matrix.diagonal_mul_diagonal, ← Matrix.diagonal_one]
    congr 1
    funext i
    fin_cases i <;> norm_num
  rw [information]
  exact Matrix.inv_eq_right_inv product

end Squared

theorem optimize_covariances_after_step :
    let reported (method : Method RealOrNaN) : Prop := ∃ result first second,
      optimize method.linearSolver squareConfig squareGraph (squareAt 1) = .ok result ∧
        result.values = squareAt (3 / 5) ∧ result.statistics.accepted = 1 ∧
        result.covariances = some [(⟨'a', 1⟩, first), (⟨'b', 1⟩, second)] ∧
        (squareSystem (3 / 5)).Marginal ⟨0, 1⟩ first ∧ (first.map value).toMatrix 1 = Matrix.diagonal (fun _ => 25 / 36) ∧
        (squareSystem (3 / 5)).Marginal ⟨1, 2⟩ second ∧ (second.map value).toMatrix 2 = 1
    reported .cholesky ∧ reported .qr := by
  intro reported
  have each (choice : SolverChoice) : reported choice.method := by
    obtain ⟨result, finished, values, accepted⟩ := square_optimize choice.method
      (square_inverts 1 choice (by norm_num) (some 1) (by norm_num))
    obtain ⟨asked, _⟩ := optimize_covariances choice.method squareConfig squareGraph (squareAt 1) result rfl finished
      fun system there => by
        rw [values] at there
        rw [Graph.system_at_unique _ _ _ system (square_system_at _) there]
        exact square_inverts (3 / 5) choice (by norm_num) none le_rfl
    rw [values] at asked
    have regular : (squareSystem (3 / 5)).Regular := by
      have whole := square_regular (3 / 5) (by norm_num) none le_rfl
      exact ⟨whole.numeric, LinearSystem.normal_matrix_eq (squareSystem (3 / 5)) ▸ whole.nonsingular⟩
    obtain ⟨blocks, covariances, keys, marginal⟩ := asked _ (square_system_at _) regular
    change blocks.map Prod.fst = [⟨'a', 1⟩, ⟨'b', 1⟩] at keys
    obtain ⟨⟨_, first⟩, _, rfl, rfl, others⟩ := List.map_eq_cons_iff.mp keys
    obtain ⟨⟨_, second⟩, _, rfl, rfl, none⟩ := List.map_eq_cons_iff.mp others
    cases List.map_eq_nil_iff.mp none
    obtain ⟨_, span, _, found, _, here⟩ := marginal _ first List.mem_cons_self
    obtain ⟨_, other, _, located, _, there⟩ := marginal _ second (List.mem_cons_of_mem _ List.mem_cons_self)
    cases found
    cases located
    change (squareSystem (3 / 5)).Marginal ⟨0, 1⟩ first at here
    change (squareSystem (3 / 5)).Marginal ⟨1, 2⟩ second at there
    refine ⟨result, first, second, finished, values, accepted, covariances, here, ?_, there, ?_⟩
    · rw [here.inverse, square_inverse]
      ext i j
      fin_cases i
      fin_cases j
      rfl
    · rw [there.inverse, square_inverse]
      ext i j
      fin_cases i <;> fin_cases j <;> rfl
  exact ⟨each .cholesky, each .qr⟩

end Optimizer

end FactorGraph
