import Mathlib
import FactorGraph.Proofs.Exact
import FactorGraph.Proofs.Optimizer.History

set_option autoImplicit false

namespace FactorGraph

variable {α σ : Type}

namespace Damping

inductive Update (α : Type) where
  | accept (gain : α)
  | reject

variable [Scalar α]

def update (d : Damping α) : Update α → Damping α
  | .accept gain => d.accept gain
  | .reject => d.reject

def after (d : Damping α) (updates : List (Update α)) : Damping α := updates.foldl update d

theorem after_append (d : Damping α) (updates more : List (Update α)) :
    d.after (updates ++ more) = (d.after updates).after more := List.foldl_append

theorem after_take_succ (d : Damping α) (updates : List (Update α)) (i : Nat) (inside : i < updates.length) :
    d.after (updates.take (i + 1)) = (d.after (updates.take i)).update updates[i] := by
  rw [← List.take_append_getElem inside, after_append]
  rfl

end Damping

def updatesOf (verdict : Verdict α) : List (Attempt α) → List (Damping.Update α)
  | [] => []
  | [_] =>
      match verdict with
      | .accepted trial => [.accept trial.gain]
      | .exhausted => [.reject]
      | .fatal _ => []
  | _ :: next :: rest => .reject :: updatesOf verdict (next :: rest)

def Iteration.updates (iteration : Iteration α) : List (Damping.Update α) :=
  updatesOf iteration.verdict iteration.attempts

def Run.updates (run : Run α) : List (Damping.Update α) := run.iterations.flatMap (·.updates)

namespace Optimizer

variable [Scalar α]

structure Tracks (start : Damping α) (updates : List (Damping.Update α)) (attempts : List (Attempt α))
    (finish : Damping α) : Prop where
  finish : finish = start.after updates
  attempts : ∀ a ∈ attempts, ∃ i ≤ updates.length, a.damping = (start.after (updates.take i)).lambda

theorem tracks_nil (start : Damping α) : Tracks start [] [] start := ⟨rfl, by simp⟩

theorem tracks_append (start middle finish : Damping α) (updates more : List (Damping.Update α))
    (attempts others : List (Attempt α)) (first : Tracks start updates attempts middle)
    (second : Tracks middle more others finish) :
    Tracks start (updates ++ more) (attempts ++ others) finish := by
  obtain ⟨rfl, early⟩ := first
  obtain ⟨rfl, late⟩ := second
  refine ⟨(start.after_append updates more).symm, fun a mem => ?_⟩
  rcases List.mem_append.mp mem with here | there
  · obtain ⟨i, bound, same⟩ := early a here
    exact ⟨i, by simp; omega, by rw [List.take_append_of_le_length bound, same]⟩
  · obtain ⟨i, bound, same⟩ := late a there
    refine ⟨updates.length + i, by simp [bound], ?_⟩
    rw [List.take_length_add_append, Damping.after_append, same]

theorem tracks_one (start : Damping α) (outcome : Except (OptimizerError α) (Trial α))
    (updates : List (Damping.Update α)) :
    Tracks start updates [⟨start.lambda, outcome⟩] (start.after updates) :=
  ⟨rfl, fun a mem => ⟨0, Nat.zero_le _, by rw [List.mem_singleton.mp mem]; rfl⟩⟩

theorem tries_without_attempts (solver : LinearSolver α σ) (problem : Problem α) (base : Base α)
    (remaining : Nat) (damping : Damping α) (state last : σ) (iteration : Iteration α)
    (tries : Tries solver problem base remaining damping state iteration last)
    (none : iteration.attempts = []) : iteration.verdict = .exhausted := by
  cases tries with
  | spent => rfl
  | accepted | fatal | limit | again => cases none

theorem tries_tracks (solver : LinearSolver α σ) (problem : Problem α) (base : Base α)
    (remaining : Nat) (damping : Damping α) (state last : σ) (iteration : Iteration α)
    (tries : Tries solver problem base remaining damping state iteration last) :
    Tracks damping iteration.updates iteration.attempts iteration.damping := by
  induction tries with
  | spent damping state => exact tracks_nil damping
  | accepted remaining damping state next trial solved better => exact tracks_one damping _ [.accept trial.gain]
  | fatal remaining damping state next e failed beyond => exact tracks_one damping _ []
  | limit remaining damping state next outcome tried refused top => exact tracks_one damping _ [.reject]
  | again remaining damping state next last outcome rest tried refused room others ih =>
      have first := tracks_one damping outcome [.reject]
      suffices same : Iteration.updates ⟨⟨damping.lambda, outcome⟩ :: rest.attempts, rest.verdict, rest.damping⟩ =
          [.reject] ++ rest.updates by
        rw [same]
        exact tracks_append _ _ _ _ _ _ _ first ih
      cases held : rest.attempts with
      | nil =>
          have verdict := tries_without_attempts _ _ _ _ _ _ _ _ others held
          simp [Iteration.updates, updatesOf, held, verdict]
      | cons _ _ => simp [Iteration.updates, updatesOf, held]

theorem course_tracks (solver : LinearSolver α σ) (problem : Problem α) (remaining done : Nat)
    (state : State α σ) (iterations : List (Iteration α)) (damping : Damping α)
    (ending : Except (OptimizerError α) Status)
    (course : Course solver problem remaining done state iterations damping ending) :
    Tracks state.damping (iterations.flatMap (·.updates)) (iterations.flatMap (·.attempts)) damping := by
  induction course with
  | converged remaining done state low => exact tracks_nil state.damping
  | budget done state high => exact tracks_nil state.damping
  | aborted remaining done state high signal => exact tracks_nil state.damping
  | broken remaining done state e high undisturbed failed => exact tracks_nil state.damping
  | fatal remaining done state base iteration last e begins tries verdict =>
      simpa using tries_tracks _ _ _ _ _ _ _ _ tries
  | surrendered remaining done state base iteration last begins tries verdict =>
      simpa using tries_tracks _ _ _ _ _ _ _ _ tries
  | settled remaining done state base iteration last trial begins tries verdict small =>
      simpa using tries_tracks _ _ _ _ _ _ _ _ tries
  | onward remaining done state base iteration last trial rest damping ending begins tries verdict large
      others ih =>
      rw [List.flatMap_cons, List.flatMap_cons]
      exact tracks_append _ _ _ _ _ _ _ (tries_tracks _ _ _ _ _ _ _ _ tries) ih

theorem run_tracks (solver : LinearSolver α σ) (config : Config α) (graph : Graph α) (initial : Values α)
    (run : Run α) (reached : Optimizer.run solver config graph initial = .ok run) :
    config.validate = .ok () ∧ Tracks (.start config) run.updates run.attempts run.damping := by
  obtain ⟨valid, _, _, _, _, course⟩ := run_ok _ _ _ _ _ reached
  exact ⟨valid, course_tracks _ _ _ _ _ _ _ _ course⟩

end Optimizer

theorem Config.validate_bounds (config : Config ℝ) (valid : config.validate = .ok ()) :
    0 < config.dampingMin ∧ config.dampingMin ≤ config.damping ∧ config.damping ≤ config.dampingMax := by
  unfold Config.validate at valid
  split at valid
  · cases valid
  · split at valid
    · cases valid
    · split at valid
      · cases valid
      · rename_i inside
        exact not_not.mp inside

theorem scalar_min_eq (a b : ℝ) : Scalar.min a b = min a b := by
  unfold Scalar.min
  split
  · rename_i below
    exact (min_eq_left below).symm
  · rename_i above
    rw [if_pos (le_refl b)]
    exact (min_eq_right (le_of_not_ge above)).symm

namespace Damping

-- What every update keeps. The upper bound on the damping is not among it.
structure Kept (config : Config ℝ) (d : Damping ℝ) : Prop where
  least : d.min = config.dampingMin
  greatest : d.max = config.dampingMax
  above : config.dampingMin ≤ d.lambda
  growing : 2 ≤ d.nu

-- The factor by which an accepted step of the given gain multiplies the damping.
noncomputable def factor (gain : ℝ) : ℝ := Max.max (1 / 3.0) (1 - (2.0 * gain - 1) ^ 3)

theorem accept_lambda (d : Damping ℝ) (gain : ℝ) :
    (d.accept gain).lambda = Max.max (d.lambda * factor gain) d.min := by
  simp only [accept, scalar_max_eq, factor, pow_three']

theorem reject_lambda (d : Damping ℝ) : d.reject.lambda = Min.min (d.lambda * d.nu) d.max :=
  scalar_min_eq _ _

theorem factor_le_one (gain : ℝ) (high : 1 / 2 ≤ gain) : factor gain ≤ 1 := by
  have positive : 0 ≤ 2.0 * gain - 1 := by
    norm_num
    linarith
  have cube : 0 ≤ (2.0 * gain - 1) ^ 3 := pow_nonneg positive 3
  exact max_le (by norm_num) (by linarith)

theorem start_kept (config : Config ℝ) (valid : config.validate = .ok ()) : Kept config (start config) :=
  ⟨rfl, rfl, (config.validate_bounds valid).2.1, by norm_num [start]⟩

section Updates

variable (config : Config ℝ) (valid : config.validate = .ok ()) (d : Damping ℝ) (kept : Kept config d)

include kept

theorem lambda_pos (valid : config.validate = .ok ()) : 0 < d.lambda :=
  lt_of_lt_of_le (config.validate_bounds valid).1 kept.above

include valid

theorem lambda_le_raised : d.lambda ≤ d.lambda * d.nu :=
  le_mul_of_one_le_right (lambda_pos config d kept valid).le (by linarith [kept.growing])

theorem reject_keeps : Kept config d.reject := by
  obtain ⟨_, low, high⟩ := config.validate_bounds valid
  have raised := lambda_le_raised config valid d kept
  refine ⟨kept.least, kept.greatest, ?_, ?_⟩
  · rw [reject_lambda, kept.greatest]
    exact le_min (kept.above.trans raised) (low.trans high)
  · have doubled : d.reject.nu = d.nu * 2 := by norm_num [reject]
    rw [doubled]
    linarith [kept.growing]

omit valid in
theorem accept_keeps (gain : ℝ) : Kept config (d.accept gain) := by
  refine ⟨kept.least, kept.greatest, ?_, by norm_num [accept]⟩
  rw [accept_lambda, kept.least]
  exact le_max_right _ _

theorem update_keeps (u : Update ℝ) : Kept config (d.update u) := by
  cases u with
  | accept gain => exact accept_keeps config d kept gain
  | reject => exact reject_keeps config valid d kept

omit valid in
theorem reject_le_greatest : d.reject.lambda ≤ config.dampingMax := by
  rw [reject_lambda, kept.greatest]
  exact min_le_right _ _

theorem accept_le_greatest_iff (gain : ℝ) :
    (d.accept gain).lambda ≤ config.dampingMax ↔ d.lambda * factor gain ≤ config.dampingMax := by
  obtain ⟨_, low, high⟩ := config.validate_bounds valid
  rw [accept_lambda, kept.least, max_le_iff, and_iff_left (low.trans high)]

theorem lambda_le_reject_iff : d.lambda ≤ d.reject.lambda ↔ d.lambda ≤ config.dampingMax := by
  rw [reject_lambda, kept.greatest, le_min_iff, and_iff_right (lambda_le_raised config valid d kept)]

end Updates

section Runs

variable (config : Config ℝ) (valid : config.validate = .ok ()) (updates : List (Update ℝ))

include valid

theorem after_kept (d : Damping ℝ) (kept : Kept config d) : Kept config (d.after updates) := by
  induction updates generalizing d with
  | nil => exact kept
  | cons u rest ih => exact ih (d.update u) (update_keeps config valid d kept u)

theorem after_take_kept (i : ℕ) : Kept config ((start config).after (updates.take i)) :=
  after_kept config valid _ _ (start_kept config valid)

theorem in_range_of_accepts (i : ℕ) (bound : i ≤ updates.length)
    (accepts : ∀ (i : ℕ) (gain : ℝ), updates[i]? = some (.accept gain) →
      ((start config).after (updates.take i)).lambda ≤ config.dampingMax →
      ((start config).after (updates.take i)).lambda * factor gain ≤ config.dampingMax) :
    ((start config).after (updates.take i)).lambda ≤ config.dampingMax := by
  induction i with
  | zero => exact (config.validate_bounds valid).2.2
  | succ i ih =>
      have kept := after_take_kept config valid updates i
      have before := ih (Nat.le_of_succ_le bound)
      rw [after_take_succ _ _ _ bound]
      cases made : updates[i] with
      | accept gain =>
          exact (accept_le_greatest_iff config valid _ kept gain).mpr
            (accepts i gain (by rw [List.getElem?_eq_getElem bound, made]) before)
      | reject => exact reject_le_greatest config _ kept

end Runs

end Damping

namespace Optimizer

theorem run_damping_bounds (solver : LinearSolver ℝ σ) (config : Config ℝ) (graph : Graph ℝ)
    (initial : Values ℝ) (run : Run ℝ) (reached : Optimizer.run solver config graph initial = .ok run) :
    let damping (count : ℕ) := (Damping.start config).after (run.updates.take count)
    run.statistics.damping = (damping run.updates.length).lambda ∧
    (∀ a ∈ run.attempts, ∃ i ≤ run.updates.length, a.damping = (damping i).lambda) ∧
    (∀ i ≤ run.updates.length, config.dampingMin ≤ (damping i).lambda ∧
      ((damping i).lambda ≤ (damping i).reject.lambda ↔ (damping i).lambda ≤ config.dampingMax)) ∧
    (∀ i, run.updates[i]? = some .reject → (damping (i + 1)).lambda ≤ config.dampingMax) ∧
    ((∀ i ≤ run.updates.length, (damping i).lambda ≤ config.dampingMax) ↔
      ∀ i gain, run.updates[i]? = some (.accept gain) →
        (damping i).lambda * Damping.factor gain ≤ config.dampingMax) ∧
    ((∀ gain, .accept gain ∈ run.updates → 1 / 2 ≤ gain) →
      ∀ i ≤ run.updates.length, (damping i).lambda ≤ config.dampingMax) := by
  intro damping
  obtain ⟨valid, finish, attempts⟩ := run_tracks solver config graph initial run reached
  have kept (i : ℕ) : Damping.Kept config (damping i) := Damping.after_take_kept config valid run.updates i
  have step (i : ℕ) (u : Damping.Update ℝ) (made : run.updates[i]? = some u) :
      i + 1 ≤ run.updates.length ∧ damping (i + 1) = (damping i).update u := by
    obtain ⟨inside, rfl⟩ := List.getElem?_eq_some_iff.mp made
    exact ⟨inside, Damping.after_take_succ _ _ _ inside⟩
  refine ⟨?_, attempts, ?_, ?_, ⟨?_, ?_⟩, ?_⟩
  · simp [Run.statistics, finish, damping]
  · intro i _
    exact ⟨(kept i).above, Damping.lambda_le_reject_iff config valid _ (kept i)⟩
  · intro i made
    rw [(step i _ made).2]
    exact Damping.reject_le_greatest config _ (kept i)
  · intro below i gain made
    obtain ⟨bound, next⟩ := step i _ made
    have raised := below (i + 1) bound
    rw [next] at raised
    exact (Damping.accept_le_greatest_iff config valid _ (kept i) gain).mp raised
  · intro accepts i bound
    exact Damping.in_range_of_accepts config valid run.updates i bound fun i gain made _ => accepts i gain made
  · intro gains i bound
    refine Damping.in_range_of_accepts config valid run.updates i bound fun i gain made before => ?_
    have shrinks := Damping.factor_le_one gain (gains gain (List.mem_of_getElem? made))
    exact (mul_le_of_le_one_right (Damping.lambda_pos config _ (kept i) valid).le shrinks).trans before

noncomputable def halfwayProblem : Problem ℝ where
  graph := [⟨[⟨'v', 0⟩], Factor.prior [(0 : ℝ)], .unit 1, .equality, rfl, by simp⟩]
  layout := .ofValues (SortedMap.empty.insert ⟨'v', 0⟩ (.vector [(2.0 : ℝ)]))
  config := {
    (Config.standard : Config ℝ) with
      maxIterations := 1, absoluteTolerance := 0, damping := 1, dampingMin := 1, dampingMax := 1 }

noncomputable def oneNumberAt (x : ℝ) : Values ℝ := SortedMap.empty.insert ⟨'v', 0⟩ (.vector [x])

noncomputable def halfwayTrial : Trial ℝ := ⟨oneNumberAt (2.0 + -1), 1, Block.norm [-1], 0, 1⟩

noncomputable def halfwayIteration : Iteration ℝ :=
  ⟨[⟨1, .ok halfwayTrial⟩], .accepted halfwayTrial, (Damping.start halfwayProblem.config).accept 1⟩

theorem halfway_error (x : ℝ) : halfwayProblem.graph.error (oneNumberAt x) = .ok (x * x) := by
  have unfolded : halfwayProblem.graph.error (oneNumberAt x) = .ok (Scalar.total [Noise.squaredNorm [x - 0]]) := rfl
  rw [unfolded, total_eq_sum]
  simp [Noise.squaredNorm, Block.dot]

theorem halfway_attempt (base : Base ℝ) (values : base.values = oneNumberAt 2.0) (error : base.error = 4) :
    attempt (prepared [.ok [-1]]) halfwayProblem base 1 [.ok [-1]] = (.ok halfwayTrial, []) := by
  have evaluated : evaluateStep halfwayProblem base 1 [-1] none = .ok halfwayTrial := by
    rw [evaluate_step_ok_iff]
    refine ⟨⟨_, rfl, by rw [values]; rfl⟩, ?_, rfl, rfl, ?_⟩
    · rw [halfwayTrial, halfway_error]
      norm_num
    · rw [halfwayTrial, error]
      norm_num [gainRatio, scalar_abs_eq]
  exact Prod.ext evaluated rfl

theorem halfway_attempts (base : Base ℝ) (values : base.values = oneNumberAt 2.0) (error : base.error = 4) :
    attempts (prepared [.ok [-1]]) halfwayProblem base 11 (.start halfwayProblem.config) [.ok [-1]] =
      (halfwayIteration, []) := by
  have better : improves base halfwayTrial = true := by
    rw [improves, error]
    norm_num [halfwayTrial]
    rfl
  have start : (Damping.start halfwayProblem.config).lambda = 1 := rfl
  rw [attempts, start, halfway_attempt base values error]
  simp only [better, if_true]
  rfl

theorem halfway_iterates :
    iterate (prepared [.ok [-1]]) halfwayProblem 1 0
      (.start (prepared [.ok [-1]]) halfwayProblem.config (oneNumberAt 2.0) 4) =
        ([halfwayIteration], halfwayIteration.damping, .ok .maxIterations) := by
  obtain ⟨base, linear⟩ : ∃ base, linearize halfwayProblem (oneNumberAt 2.0) 4 = .ok base := ⟨_, rfl⟩
  obtain ⟨values, error, _⟩ := linearize_ok _ _ _ _ linear
  have tried := halfway_attempts base values error
  have answers : (prepared [.ok [-1]]).start = ([.ok [-1]] : List (Except SolveError (List ℝ))) := rfl
  have undisturbed : halfwayProblem.config.aborted 0 = false := rfl
  have retries : halfwayProblem.config.maxRetries + 1 = 11 := rfl
  have accepted : halfwayIteration.verdict = .accepted halfwayTrial := rfl
  have reached : halfwayTrial.error = 1 := rfl
  have high : ¬ (4 : ℝ) ≤ halfwayProblem.config.absoluteTolerance := by norm_num [halfwayProblem]
  have higher : ¬ (1 : ℝ) ≤ halfwayProblem.config.absoluteTolerance := by norm_num [halfwayProblem]
  have large : settled halfwayProblem.config 4 1 = false := by
    norm_num [settled, halfwayProblem, Config.standard]
  simp only [iterate, State.start, high, higher, if_false, linear, undisturbed, retries, answers, tried, accepted,
    reached, large, Bool.false_eq_true]

theorem halfway_run : Optimizer.run (prepared [.ok [-1]]) halfwayProblem.config halfwayProblem.graph (oneNumberAt 2.0) =
    .ok ⟨oneNumberAt 2.0, 4, [halfwayIteration], halfwayIteration.damping, .ok .maxIterations⟩ := by
  have valid : halfwayProblem.config.validate = .ok () := by
    norm_num [Config.validate, halfwayProblem, Config.standard]
  have first : halfwayProblem.graph.error (oneNumberAt 2.0) = .ok 4 := by
    rw [halfway_error]
    norm_num
  have occupied : (oneNumberAt 2.0).isEmpty = false := rfl
  have finite : Scalar.isFinite (4 : ℝ) = true := rfl
  have problem : (⟨halfwayProblem.graph, .ofValues (oneNumberAt 2.0), halfwayProblem.config⟩ : Problem ℝ) =
    halfwayProblem := rfl
  have once : halfwayProblem.config.maxIterations = 1 := rfl
  have iterated := halfway_iterates
  rw [State.start] at iterated
  simp only [Optimizer.run, valid, first, occupied, finite, problem, once, iterated, Except.mapError, Outcome.ok_bind,
    Bool.not_true, Bool.false_eq_true, if_false]
  rfl

theorem run_damping_bounds_halfway :
    ∃ run, Optimizer.run (prepared [.ok [-1]]) halfwayProblem.config halfwayProblem.graph (oneNumberAt 2.0) = .ok run ∧
      run.updates = [.accept 1] ∧ run.statistics.damping = 1 := by
  obtain ⟨final, _, least, _, _, greatest⟩ := run_damping_bounds _ _ _ _ _ halfway_run
  refine ⟨_, halfway_run, rfl, final.trans (le_antisymm (greatest ?_ 1 (Nat.le_refl 1)) (least 1 (Nat.le_refl 1)).1)⟩
  intro gain mem
  cases List.mem_singleton.mp mem
  change (1 : ℝ) / 2 ≤ 1
  norm_num

-- A camera of nine numbers that sees a point at its own origin halfway to where it was measured.
def overshootGraph : Graph Float :=
  [⟨[⟨'c', 0⟩, ⟨'p', 0⟩], Factor.snavelyProjection ⟨2.0, 0.0⟩, .unit 2, .equality, rfl, by simp⟩]

def overshootStart : Values Float :=
  (SortedMap.empty.insert ⟨'c', 0⟩ (.vector [0.0, 0.0, 0.0, 1.0, 0.0, -1.0, 1.0, 0.0, 0.0])).insert ⟨'p', 0⟩
    (.point3 ⟨0.0, 0.0, 0.0⟩)

def overshootConfig : Config Float :=
  { (Config.standard : Config Float) with maxIterations := 1, damping := 2.75, dampingMin := 1.0, dampingMax := 2.75 }

/-- An accepted step of positive gain raises the damping above its upper bound, and the rejection that
would follow lowers it again. -/
theorem damping_above_range_after_accept :
    ∃ run, Optimizer.run Method.cholesky.linearSolver overshootConfig overshootGraph overshootStart = .ok run ∧
      (run.accepted.all fun trial => decide (0 < trial.gain)) = true ∧
      overshootConfig.dampingMax < run.statistics.damping ∧
      run.damping.reject.lambda < run.damping.lambda := by
  obtain ⟨run, reached, seen⟩ := Outcome.passes_ok
    (fun run : Run Float => (run.accepted.all fun trial => decide (0 < trial.gain)) &&
      decide (overshootConfig.dampingMax < run.statistics.damping) &&
      decide (run.damping.reject.lambda < run.damping.lambda))
    (Optimizer.run Method.cholesky.linearSolver overshootConfig overshootGraph overshootStart) (by decide +kernel)
  simp only [Bool.and_eq_true, decide_eq_true_eq] at seen
  exact ⟨run, reached, seen.1.1, seen.1.2, seen.2⟩

end Optimizer

end FactorGraph
