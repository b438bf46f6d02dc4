import Mathlib
import FactorGraph.Proofs.Optimizer.Comparison
import FactorGraph.Proofs.Optimizer.Damping
import FactorGraph.Proofs.Optimizer.Status

set_option autoImplicit false

namespace FactorGraph

variable {α σ : Type}

def Run.dampings [Scalar α] (run : Run α) (config : Config α) : List (Damping α) :=
  .start config :: run.iterations.map (·.damping)

namespace Optimizer

section Tries

variable [Scalar α]

def Leaves (start : Damping α) (iteration : Iteration α) : Prop :=
  match iteration.verdict with
  | .accepted trial =>
      ∃ k, iteration.attempts.length = k + 1 ∧ iteration.damping = (Damping.reject^[k] start).accept trial.gain
  | .fatal _ => ∃ k, iteration.attempts.length = k + 1 ∧ iteration.damping = Damping.reject^[k] start
  | .exhausted => iteration.damping = Damping.reject^[iteration.attempts.length] start

variable (solver : LinearSolver α σ) (problem : Problem α) (base : Base α) (remaining : ℕ) (damping : Damping α)
  (state last : σ) (iteration : Iteration α)
  (tries : Tries solver problem base remaining damping state iteration last)

include tries

theorem tries_leaves : Leaves damping iteration := by
  induction tries with
  | spent => rfl
  | accepted => exact ⟨0, rfl, rfl⟩
  | fatal => exact ⟨0, rfl, rfl⟩
  | limit => rfl
  | again remaining damping state next last outcome rest tried refused room others ih =>
      unfold Leaves at ih ⊢
      dsimp only
      split at ih
      · obtain ⟨k, count, left⟩ := ih
        exact ⟨k + 1, congrArg (· + 1) count, left⟩
      · obtain ⟨k, count, left⟩ := ih
        exact ⟨k + 1, congrArg (· + 1) count, left⟩
      · exact ih

theorem tries_attempt_damping (k : ℕ) (a : Attempt α) (made : iteration.attempts[k]? = some a) :
    a.damping = (Damping.reject^[k] damping).lambda := by
  induction tries generalizing k with
  | spent => cases made
  | accepted | fatal | limit =>
      cases k with
      | zero =>
          cases made
          rfl
      | succ k => cases made
  | again remaining damping state next last outcome rest tried refused room others ih =>
      cases k with
      | zero =>
          cases made
          rfl
      | succ k => exact ih k made

theorem tries_room (k : ℕ) (some : 0 < k) (more : k < iteration.attempts.length) :
    (Damping.reject^[k] damping).atLimit = false := by
  induction tries generalizing k with
  | spent => exact absurd more (Nat.not_lt_zero k)
  | accepted | fatal | limit =>
      rw [List.length_singleton] at more
      omega
  | again remaining damping state next last outcome rest tried refused room others ih =>
      obtain ⟨k, rfl⟩ := Nat.exists_eq_add_of_lt some
      rw [Nat.zero_add] at more ⊢
      cases k with
      | zero => exact room
      | succ k => exact ih (k + 1) (Nat.succ_pos k) (Nat.lt_of_succ_lt_succ more)

end Tries

section Course

variable [Scalar α]

theorem course_iteration (solver : LinearSolver α σ) (problem : Problem α) (remaining done : ℕ) (state : State α σ)
    (iterations : List (Iteration α)) (damping : Damping α) (ending : Except (OptimizerError α) Status)
    (course : Course solver problem remaining done state iterations damping ending) (i : ℕ) (start : Damping α)
    (iteration : Iteration α) (starts : (state.damping :: iterations.map (·.damping))[i]? = some start)
    (here : iterations[i]? = some iteration) :
    (∃ base before after, Tries solver problem base (problem.config.maxRetries + 1) start before iteration after) ∧
      (iteration.accepted? = none → iterations.length = i + 1) := by
  induction course generalizing i with
  | converged | budget | aborted | broken => cases here
  | fatal remaining done state base only last e begins tries
  | surrendered remaining done state base only last begins tries
  | settled remaining done state base only last trial begins tries =>
      cases i with
      | zero =>
          cases starts
          cases here
          exact ⟨⟨base, _, _, tries⟩, fun _ => rfl⟩
      | succ i => cases here
  | onward remaining done state base first last trial rest damping ending begins tries verdict large others ih =>
      cases i with
      | zero =>
          cases starts
          cases here
          refine ⟨⟨base, _, _, tries⟩, fun none => ?_⟩
          rw [Iteration.accepted?, verdict] at none
          cases none
      | succ i =>
          obtain ⟨tries, last⟩ := ih i starts here
          exact ⟨tries, fun none => congrArg (· + 1) (last none)⟩

end Course

end Optimizer

namespace Damping

structure Fresh (config : Config ℝ) (d : Damping ℝ) : Prop extends Kept config d where
  two : d.nu = 2

theorem triangle_succ (k : ℕ) : (k + 1) * (k + 1 + 1) / 2 = k * (k + 1) / 2 + (k + 1) := by
  have twice : (k + 1) * (k + 1 + 1) = k * (k + 1) + 2 * (k + 1) := by ring
  rw [twice, Nat.add_mul_div_left _ _ two_pos]

theorem min_mul_min (a bound factor : ℝ) (nonneg : 0 ≤ bound) (grows : 1 ≤ factor) :
    Min.min (Min.min a bound * factor) bound = Min.min (a * factor) bound := by
  have raised : bound ≤ bound * factor := le_mul_of_one_le_right nonneg grows
  rw [min_mul_of_nonneg _ _ (zero_le_one.trans grows), min_assoc, min_eq_right raised]

theorem iterate_reject_max (d : Damping ℝ) (k : ℕ) : (reject^[k] d).max = d.max := by
  induction k generalizing d with
  | zero => rfl
  | succ k ih => exact ih d.reject

section Fresh

variable (config : Config ℝ) (valid : config.validate = .ok ()) (d : Damping ℝ) (fresh : Fresh config d)

include fresh

theorem iterate_reject_nu (k : ℕ) : (reject^[k] d).nu = 2 ^ (k + 1) := by
  induction k with
  | zero => rw [pow_one]; exact fresh.two
  | succ k ih =>
      have doubled : (reject^[k] d).reject.nu = (reject^[k] d).nu * 2 := by norm_num [reject]
      rw [Function.iterate_succ_apply', doubled, ih, ← pow_succ]

include valid

theorem iterate_reject_kept (k : ℕ) : Kept config (reject^[k] d) := by
  induction k with
  | zero => exact fresh.toKept
  | succ k ih =>
      rw [Function.iterate_succ_apply']
      exact reject_keeps config valid _ ih

-- An iteration may start above the bound. From its first rejection on the damping is below.
theorem iterate_reject_lambda (k : ℕ) (inside : d.lambda ≤ config.dampingMax ∨ 0 < k) :
    (reject^[k] d).lambda = Min.min (d.lambda * 2 ^ (k * (k + 1) / 2)) config.dampingMax := by
  obtain ⟨positive, low, high⟩ := config.validate_bounds valid
  have nonneg : 0 ≤ config.dampingMax := positive.le.trans (low.trans high)
  induction k with
  | zero =>
      have below : d.lambda ≤ config.dampingMax := inside.resolve_right (Nat.lt_irrefl 0)
      simpa using (min_eq_left below).symm
  | succ k ih =>
      have raised : d.lambda * 2 ^ (k * (k + 1) / 2) * 2 ^ (k + 1) = d.lambda * 2 ^ ((k + 1) * (k + 1 + 1) / 2) := by
        rw [triangle_succ, mul_assoc, ← pow_add]
      rw [Function.iterate_succ_apply', reject_lambda, iterate_reject_nu config d fresh, iterate_reject_max, fresh.greatest,
        ← raised]
      cases k with
      | zero => simp
      | succ k => rw [ih (.inr (Nat.succ_pos k)), min_mul_min _ _ _ nonneg (one_le_pow₀ one_le_two)]

theorem at_limit_iff (k : ℕ) (some : 0 < k) :
    (reject^[k] d).atLimit = true ↔ config.dampingMax ≤ d.lambda * 2 ^ (k * (k + 1) / 2) := by
  rw [atLimit, decide_eq_true_iff, iterate_reject_max, fresh.greatest,
    iterate_reject_lambda config valid d fresh k (.inr some), le_min_iff, and_iff_left le_rfl]

omit valid in
theorem limit_exists (valid : config.validate = .ok ()) :
    ∃ K, IsLeast {k : ℕ | 1 ≤ k ∧ config.dampingMax ≤ d.lambda * 2 ^ (k * (k + 1) / 2)} K := by
  classical
  have positive := lambda_pos config d fresh.toKept valid
  obtain ⟨n, large⟩ := pow_unbounded_of_one_lt (config.dampingMax / d.lambda) one_lt_two
  have long : n ≤ (n + 1) * (n + 1 + 1) / 2 := by
    rw [triangle_succ]
    omega
  have reached : config.dampingMax ≤ d.lambda * 2 ^ ((n + 1) * (n + 1 + 1) / 2) := by
    rw [div_lt_iff₀' positive] at large
    exact large.le.trans (mul_le_mul_of_nonneg_left (pow_le_pow_right₀ one_le_two long) positive.le)
  exact ⟨_, Nat.isLeast_find ⟨n + 1, Nat.succ_pos n, reached⟩⟩

end Fresh

theorem accept_fresh (config : Config ℝ) (d : Damping ℝ) (kept : Kept config d) (gain : ℝ) :
    Fresh config (d.accept gain) :=
  ⟨accept_keeps config d kept gain, by norm_num [accept]⟩

theorem accept_bounds (config : Config ℝ) (valid : config.validate = .ok ()) (d : Damping ℝ) (kept : Kept config d)
    (gain : ℝ) (positive : 0 < gain) : Max.max config.dampingMin (d.lambda / 3) ≤ (d.accept gain).lambda ∧
      (d.accept gain).lambda < 2 * d.lambda := by
  have least := lambda_pos config d kept valid
  have above := kept.above
  have cube : -1 < (2.0 * gain - 1) ^ 3 := by
    have odd : (-1 : ℝ) ^ 3 < (2.0 * gain - 1) ^ 3 := by
      refine Odd.strictMono_pow (by decide) ?_
      norm_num
      exact positive
    norm_num at odd ⊢
    exact odd
  have third : d.lambda / 3 ≤ d.lambda * factor gain := by
    rw [div_eq_mul_one_div]
    refine mul_le_mul_of_nonneg_left (le_trans ?_ (le_max_left _ _)) least.le
    norm_num
  have double : d.lambda * factor gain < 2 * d.lambda := by
    rw [mul_comm]
    refine mul_lt_mul_of_pos_right (max_lt ?_ ?_) least
    · norm_num
    · linarith
  rw [accept_lambda, kept.least]
  exact ⟨max_le (le_max_right _ _) (third.trans (le_max_left _ _)), max_lt double (by linarith)⟩

end Damping

namespace Optimizer

section Run

variable (solver : LinearSolver ℝ σ) (config : Config ℝ) (graph : Graph ℝ) (initial : Values ℝ) (run : Run ℝ)
  (reached : Optimizer.run solver config graph initial = .ok run)

include reached

theorem run_iteration (i : ℕ) (start : Damping ℝ) (iteration : Iteration ℝ)
    (starts : (run.dampings config)[i]? = some start) (here : run.iterations[i]? = some iteration) :
    (∃ base before after, Tries solver ⟨graph, .ofValues initial, config⟩ base (config.maxRetries + 1) start before
        iteration after) ∧ (iteration.accepted? = none → run.iterations.length = i + 1) := by
  obtain ⟨_, _, _, _, _, course⟩ := run_ok _ _ _ _ _ reached
  exact course_iteration _ _ _ _ _ _ _ _ course i start iteration starts here

theorem run_fresh (i : ℕ) (start : Damping ℝ) (starts : (run.dampings config)[i]? = some start)
    (more : i < run.iterations.length) : Damping.Fresh config start := by
  obtain ⟨valid, _⟩ := run_ok _ _ _ _ _ reached
  -- By induction on the number of the iteration: the one before it was not the last, so it accepted a step.
  induction i generalizing start with
  | zero =>
      cases starts
      exact ⟨Damping.start_kept config valid, by norm_num [Damping.start]⟩
  | succ i ih =>
      have inside : i < run.iterations.length := Nat.lt_of_succ_lt more
      obtain ⟨before, since⟩ : ∃ before, (run.dampings config)[i]? = some before :=
        ⟨_, List.getElem?_eq_getElem (by simp [Run.dampings]; omega)⟩
      have fresh := ih before since inside
      have here : run.iterations[i]? = some run.iterations[i] := List.getElem?_eq_getElem inside
      obtain ⟨⟨base, _, _, tries⟩, last⟩ := run_iteration solver config graph initial run reached i before _ since here
      rw [Run.dampings, List.getElem?_cons_succ, List.getElem?_map, here, Option.map_some] at starts
      cases starts
      have leaves := tries_leaves _ _ _ _ _ _ _ _ tries
      unfold Leaves at leaves
      split at leaves
      · obtain ⟨k, _, left⟩ := leaves
        rw [left]
        exact Damping.accept_fresh config _ (Damping.iterate_reject_kept config valid before fresh k) _
      · rename_i verdict
        exact absurd (last (by rw [Iteration.accepted?, verdict])) more.ne'
      · rename_i verdict
        exact absurd (last (by rw [Iteration.accepted?, verdict])) more.ne'

end Run

section Limit

variable (solver : LinearSolver ℝ σ) (problem : Problem ℝ) (base : Base ℝ) (remaining : ℕ) (damping : Damping ℝ)
  (state last : σ) (iteration : Iteration ℝ) (config : Config ℝ) (valid : config.validate = .ok ())
  (fresh : Damping.Fresh config damping) (K : ℕ)
  (least : IsLeast {k : ℕ | 1 ≤ k ∧ config.dampingMax ≤ damping.lambda * 2 ^ (k * (k + 1) / 2)} K)

include valid fresh least

theorem tries_limited (tries : Tries solver problem base remaining damping state iteration last) :
    iteration.attempts.length ≤ K := by
  by_contra more
  have room := tries_room _ _ _ _ _ _ _ _ tries K least.1.1 (not_le.mp more)
  rw [(Damping.at_limit_iff config valid damping fresh K least.1.1).mpr least.1.2] at room
  cases room

theorem tries_exhausted (tries : Tries solver problem base (remaining + 1) damping state iteration last)
    (verdict : iteration.verdict = .exhausted) : iteration.attempts.length = Min.min (remaining + 1) K := by
  refine le_antisymm (le_min (tries_count _ _ _ _ _ _ _ _ tries)
    (tries_limited solver problem base _ damping state last iteration config valid fresh K least tries)) ?_
  cases top : iteration.damping.atLimit with
  | false => exact (tries_spent _ _ _ _ _ _ _ _ tries verdict top).symm ▸ min_le_left _ _
  | true =>
      have some := List.length_pos_of_ne_nil (tries_attempted _ _ _ _ _ _ _ _ tries)
      have leaves := tries_leaves _ _ _ _ _ _ _ _ tries
      rw [Leaves, verdict] at leaves
      rw [leaves, Damping.at_limit_iff config valid damping fresh _ some] at top
      exact (min_le_right _ _).trans (least.2 ⟨some, top⟩)

end Limit

/-- An iteration starts with a factor of two. From its start the rejections alone determine the damping, in closed form, and
so the number of attempts after which it gives up. -/
theorem run_retries_bounded (solver : LinearSolver ℝ σ) (config : Config ℝ) (graph : Graph ℝ) (initial : Values ℝ)
    (run : Run ℝ) (reached : Optimizer.run solver config graph initial = .ok run) (i : ℕ) (start : Damping ℝ)
    (iteration : Iteration ℝ) (starts : (run.dampings config)[i]? = some start)
    (here : run.iterations[i]? = some iteration) :
    let rejected (k : ℕ) : Damping ℝ := Damping.reject^[k] start
    start.nu = 2 ∧
    (∀ k, (rejected k).nu = 2 ^ (k + 1) ∧ (start.lambda ≤ config.dampingMax ∨ 0 < k →
      (rejected k).lambda = min (start.lambda * 2 ^ (k * (k + 1) / 2)) config.dampingMax)) ∧
    (∀ k a, iteration.attempts[k]? = some a → a.damping = (rejected k).lambda) ∧ Leaves start iteration ∧
    (∃ K, IsLeast {k : ℕ | 1 ≤ k ∧ config.dampingMax ≤ start.lambda * 2 ^ (k * (k + 1) / 2)} K ∧
      iteration.attempts.length ≤ min (config.maxRetries + 1) K ∧
      (iteration.accepted? = none → run.iterations.length = i + 1) ∧
      (iteration.verdict = .exhausted → iteration.attempts.length = min (config.maxRetries + 1) K)) ∧
    ∀ trial, iteration.verdict = .accepted trial → ∃ k, iteration.attempts.length = k + 1 ∧
      iteration.damping.nu = 2 ∧ (0 < trial.gain →
        max config.dampingMin ((rejected k).lambda / 3) ≤ iteration.damping.lambda ∧
        iteration.damping.lambda < 2 * (rejected k).lambda) := by
  intro rejected
  obtain ⟨valid, _⟩ := run_ok _ _ _ _ _ reached
  obtain ⟨inside, _⟩ := List.getElem?_eq_some_iff.mp here
  have fresh := run_fresh solver config graph initial run reached i start starts inside
  obtain ⟨⟨base, before, after, tries⟩, last⟩ := run_iteration solver config graph initial run reached i start iteration
    starts here
  have leaves := tries_leaves _ _ _ _ _ _ _ _ tries
  obtain ⟨K, least⟩ := Damping.limit_exists config start fresh valid
  refine ⟨fresh.two, fun k => ⟨?_, ?_⟩, tries_attempt_damping _ _ _ _ _ _ _ _ tries, leaves,
    ⟨K, least, le_min ?_ ?_, last, ?_⟩, fun trial verdict => ?_⟩
  · exact Damping.iterate_reject_nu config start fresh k
  · exact Damping.iterate_reject_lambda config valid start fresh k
  · exact tries_count _ _ _ _ _ _ _ _ tries
  · exact tries_limited _ _ _ _ _ _ _ _ config valid fresh K least tries
  · exact tries_exhausted _ _ _ _ _ _ _ _ config valid fresh K least tries
  · rw [Leaves, verdict] at leaves
    obtain ⟨k, count, left⟩ := leaves
    have kept := Damping.iterate_reject_kept config valid start fresh k
    rw [left]
    exact ⟨k, count, (Damping.accept_fresh config _ kept _).two, Damping.accept_bounds config valid _ kept _⟩

-- Three doublings lead from a damping of one to its limit.
noncomputable def roomyProblem : Problem ℝ :=
  { halfwayProblem with config := { halfwayProblem.config with dampingMax := 8 } }

noncomputable def roomyStart : Damping ℝ := .start roomyProblem.config

theorem roomy_valid : roomyProblem.config.validate = .ok () := by
  norm_num [Config.validate, roomyProblem, halfwayProblem, Config.standard]

theorem roomy_fresh : Damping.Fresh roomyProblem.config roomyStart :=
  ⟨Damping.start_kept _ roomy_valid, by norm_num [roomyStart, Damping.start]⟩

theorem roomy_least :
    IsLeast {k : ℕ | 1 ≤ k ∧ roomyProblem.config.dampingMax ≤ roomyStart.lambda * 2 ^ (k * (k + 1) / 2)} 2 := by
  have bound : roomyProblem.config.dampingMax = 8 := rfl
  have first : roomyStart.lambda = 1 := rfl
  simp only [bound, first]
  constructor
  · norm_num
  · rintro k ⟨some, reached⟩
    by_contra small
    obtain rfl : k = 1 := by omega
    norm_num at reached

noncomputable def roomyIteration : Iteration ℝ where
  attempts := [⟨roomyStart.lambda, .error (.linear .singular)⟩, ⟨roomyStart.reject.lambda, .error (.linear .singular)⟩]
  verdict := .exhausted
  damping := roomyStart.reject.reject

theorem roomy_attempts (base : Base ℝ) :
    attempts (prepared []) roomyProblem base 11 roomyStart [] = (roomyIteration, []) := by
  have limit := Damping.at_limit_iff _ roomy_valid _ roomy_fresh
  have room : roomyStart.reject.atLimit = false := by
    refine Bool.eq_false_iff.mpr fun top => ?_
    have reached := (limit 1 one_pos).mp top
    norm_num [roomyStart, roomyProblem, Damping.start, halfwayProblem] at reached
  have top : roomyStart.reject.reject.atLimit = true := (limit 2 two_pos).mpr roomy_least.1.2
  have failed (damping : ℝ) : attempt (prepared []) roomyProblem base damping [] = (.error (.linear .singular), []) := rfl
  have recoverable : (OptimizerError.linear .singular : OptimizerError ℝ).recoverable = true := rfl
  have last : attempts (prepared []) roomyProblem base 10 roomyStart.reject [] =
      (⟨[⟨roomyStart.reject.lambda, .error (.linear .singular)⟩], .exhausted, roomyStart.reject.reject⟩, []) := by
    rw [attempts, failed]
    simp only [recoverable, top, if_true]
  rw [attempts, failed]
  simp only [recoverable, room, last, if_true, Bool.false_eq_true, if_false]
  rfl

theorem roomy_run : ∃ run, Optimizer.run (prepared []) roomyProblem.config roomyProblem.graph (oneNumberAt 2.0) = .ok run ∧
    run.iterations = [roomyIteration] := by
  have first : firstError roomyProblem.config roomyProblem.graph (oneNumberAt 2.0) = .ok 4 := by
    have error : roomyProblem.graph.error (oneNumberAt 2.0) = .ok 4 := by
      refine (halfway_error 2.0).trans ?_
      norm_num
    rw [firstError, roomy_valid, error]
    rfl
  have led : boundary (prepared []) roomyProblem 0 (.start (prepared []) roomyProblem.config (oneNumberAt 2.0) 4) =
      .inl ([roomyIteration], roomyIteration.damping, surrender roomyIteration) := by
    obtain ⟨base, linear⟩ : ∃ base, linearize roomyProblem (oneNumberAt 2.0) 4 = .ok base := ⟨_, rfl⟩
    have high : ¬ (4 : ℝ) ≤ roomyProblem.config.absoluteTolerance := by norm_num [roomyProblem, halfwayProblem]
    have undisturbed : roomyProblem.config.aborted 0 = false := rfl
    have retries : roomyProblem.config.maxRetries + 1 = 11 := rfl
    have answers : (prepared []).start = ([] : List (Except SolveError (List ℝ))) := rfl
    have made := roomy_attempts base
    rw [roomyStart] at made
    simp only [boundary, State.start, high, if_false, undisturbed, Bool.false_eq_true, linear, retries, answers, made]
    rfl
  refine ⟨runFrom (prepared []) roomyProblem.config roomyProblem.graph (oneNumberAt 2.0) 4, ?_, ?_⟩
  · rw [run_eq, first]
    rfl
  · exact congrArg Prod.fst (iterate_ended (prepared []) roomyProblem 0 0 _ _ led)

theorem run_retries_bounded_roomy :
    (∃ run, Optimizer.run (prepared []) roomyProblem.config roomyProblem.graph (oneNumberAt 2.0) = .ok run ∧
      ∃ iteration, run.iterations = [iteration] ∧ iteration.attempts.length = min (roomyProblem.config.maxRetries + 1) 2 ∧
        iteration.attempts.map (·.damping) = [1, 2] ∧ iteration.damping.lambda = 8 ∧ iteration.damping.nu = 8) ∧
    ∃ run, Optimizer.run (prepared [.ok [-1]]) halfwayProblem.config halfwayProblem.graph (oneNumberAt 2.0) = .ok run ∧
      ∃ iteration, run.iterations = [iteration] ∧ iteration.damping.nu = 2 ∧ iteration.damping.lambda < 2 := by
  constructor
  · obtain ⟨run, reached, iterations⟩ := roomy_run
    obtain ⟨_, closed, made, leaves, ⟨K, least, _, _, count⟩, _⟩ :=
      run_retries_bounded _ _ _ _ run reached 0 roomyStart roomyIteration rfl (by rw [iterations]; rfl)
    obtain rfl : K = 2 := least.unique roomy_least
    have inside : roomyStart.lambda ≤ roomyProblem.config.dampingMax := (Config.validate_bounds _ roomy_valid).2.2
    have bound : roomyProblem.config.dampingMax = 8 := rfl
    have first : roomyStart.lambda = 1 := rfl
    have second : roomyStart.reject.lambda = 2 := by
      refine ((closed 1).2 (.inl inside)).trans ?_
      norm_num [bound, first]
    have third : roomyIteration.damping.lambda = 8 := by
      refine ((closed 2).2 (.inl inside)).trans ?_
      norm_num [bound, first]
    have factor : roomyIteration.damping.nu = 8 := by
      refine (closed 2).1.trans ?_
      norm_num
    refine ⟨run, reached, roomyIteration, iterations, count rfl, ?_, third, factor⟩
    simp only [roomyIteration, List.map_cons, List.map_nil, first, second]
  · obtain ⟨_, _, _, _, _, accepted⟩ :=
      run_retries_bounded _ _ _ _ _ halfway_run 0 (.start halfwayProblem.config) halfwayIteration rfl rfl
    obtain ⟨k, count, two, bounds⟩ := accepted halfwayTrial rfl
    obtain rfl : k = 0 := (Nat.succ.inj count).symm
    have raised := (bounds (by norm_num [halfwayTrial])).2
    have first : (Damping.start halfwayProblem.config).lambda = 1 := rfl
    exact ⟨_, halfway_run, halfwayIteration, rfl, two, raised.trans_eq ((congrArg (2 * ·) first).trans (mul_one 2))⟩

end Optimizer

end FactorGraph
