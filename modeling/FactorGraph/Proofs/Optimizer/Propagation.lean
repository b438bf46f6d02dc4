import FactorGraph.Proofs.Graph.Shape
import FactorGraph.Proofs.Lie.Propagation
import FactorGraph.Proofs.Optimizer.Comparison
import FactorGraph.Proofs.Optimizer.Status

set_option autoImplicit false

namespace FactorGraph

section Components

variable {α : Type}

def Camera.components (c : Camera α) : List α := c.pose.components ++ c.calibration.toList

-- Everything that is stored of a value, also what no step moves.
def Value.components : Value α → List α
  | .pose2 p => p.components
  | .pose3 p => p.components
  | .point3 p => p.toList
  | .vector v => v
  | .calibration c => c.toList
  | .camera c => c.components

end Components

namespace RealOrNaN

section Retraction

variable (delta : List RealOrNaN)

theorem point_keeps_numbers (x y : Vec3 RealOrNaN) (moved : Manifold.retract x delta = .ok y) :
    Whole y.toList ↔ Whole x.toList := by
  obtain ⟨_, checked, moved⟩ := (Outcome.bind_ok_iff _ _ _).mp moved
  obtain ⟨length, finite⟩ := (check_tangent_ok_iff delta 3).mp checked
  obtain ⟨a, b, c, rfl⟩ := List.length_eq_three.mp length
  cases moved
  have whole : Whole (⟨a, b, c⟩ : Vec3 RealOrNaN).toList := finite
  rw [whole_add, and_iff_left whole]

theorem whole_zip_add (x : List RealOrNaN) (length : delta.length = x.length) (whole : Whole delta) :
    Whole (List.zipWith (· + ·) x delta) ↔ Whole x := by
  induction x generalizing delta with
  | nil => simp [whole_nil]
  | cons a x ih =>
      cases delta with
      | nil => cases length
      | cons d delta =>
          obtain ⟨finite, rest⟩ := (whole_cons _ _).mp whole
          rw [List.zipWith_cons_cons, whole_cons, whole_cons, ih delta (Nat.succ.inj length) rest, finite_add, finite,
            Bool.and_true]

theorem vector_keeps_numbers (x y : List RealOrNaN) (moved : Manifold.retract x delta = .ok y) : Whole y ↔ Whole x := by
  obtain ⟨_, checked, moved⟩ := (Outcome.bind_ok_iff _ _ _).mp moved
  obtain ⟨length, finite⟩ := (check_tangent_ok_iff delta x.length).mp checked
  cases moved
  exact whole_zip_add delta x length finite

theorem pose2_keeps_numbers (x y : Pose2 RealOrNaN) (moved : Manifold.retract x delta = .ok y) :
    Whole y.components ↔ Whole x.components := by
  obtain ⟨t, tangent, moved⟩ := (Outcome.bind_ok_iff _ _ _).mp moved
  obtain ⟨_, checked, read⟩ := (Outcome.bind_ok_iff _ _ _).mp tangent
  obtain ⟨length, finite⟩ := (check_tangent_ok_iff delta 3).mp checked
  obtain ⟨a, b, c, rfl⟩ := List.length_eq_three.mp length
  cases read
  cases moved
  have whole := whole_pose2_exp ⟨a, b, c⟩ finite
  exact (whole_pose2_mul _ _).trans (and_iff_left whole)

theorem pose3_keeps_numbers (x y : Pose3 RealOrNaN) (moved : Manifold.retract x delta = .ok y) :
    Whole y.components ↔ Whole x.components := by
  obtain ⟨t, tangent, moved⟩ := (Outcome.bind_ok_iff _ _ _).mp moved
  obtain ⟨_, checked, read⟩ := (Outcome.bind_ok_iff _ _ _).mp tangent
  obtain ⟨length, finite⟩ := (check_tangent_ok_iff delta 6).mp checked
  match delta, length with
  | [a, b, c, d, e, f], _ =>
      cases read
      cases moved
      have halves : Whole ([a, b, c] ++ [d, e, f]) := finite
      obtain ⟨linear, angular⟩ := (whole_append _ _).mp halves
      have whole := whole_pose3_exp ⟨⟨a, b, c⟩, ⟨d, e, f⟩⟩ linear angular
      exact (whole_pose3_mul _ _).trans (and_iff_left whole)

theorem calibration_keeps_numbers (x y : Calibration RealOrNaN) (moved : Manifold.retract x delta = .ok y) :
    Whole y.toList ↔ Whole x.toList := by
  obtain ⟨p, ground, moved⟩ := (Outcome.bind_ok_iff _ _ _).mp moved
  cases moved
  have kept := point_keeps_numbers delta x.parameters p ground
  have parts (c : Calibration RealOrNaN) : Whole c.toList ↔ Whole c.parameters.toList ∧ Whole [c.u0, c.v0] :=
    whole_append [_, _, _] _
  rw [parts, parts x, ← kept]
  rfl

theorem camera_keeps_numbers (x y : Camera RealOrNaN) (moved : Manifold.retract x delta = .ok y) :
    Whole y.components ↔ Whole x.components := by
  obtain ⟨_, _, moved⟩ := (Outcome.bind_ok_iff _ _ _).mp moved
  obtain ⟨pose, turned, moved⟩ := (Outcome.bind_ok_iff _ _ _).mp moved
  obtain ⟨lens, ground, moved⟩ := (Outcome.bind_ok_iff _ _ _).mp moved
  cases moved
  rw [Camera.components, Camera.components, whole_append, whole_append, pose3_keeps_numbers _ _ _ turned,
    calibration_keeps_numbers _ _ _ ground]

theorem wrapped_keeps_numbers {M : Type} [Manifold RealOrNaN M] (wrap : M → Value RealOrNaN)
    (parts : M → List RealOrNaN) (stored : ∀ x, (wrap x).components = parts x) (x : M)
    (keeps : ∀ y, Manifold.retract x delta = .ok y → (Whole (parts y) ↔ Whole (parts x))) (moved : Value RealOrNaN)
    (done : wrap <$> Manifold.retract x delta = .ok moved) : Whole moved.components ↔ Whole (wrap x).components := by
  obtain ⟨y, here, rfl⟩ := (Outcome.map_ok_iff _ _ _).mp done
  rw [stored, stored]
  exact keeps y here

theorem value_keeps_numbers (value moved : Value RealOrNaN) (done : value.retract delta = .ok moved) :
    Whole moved.components ↔ Whole value.components := by
  cases value with
  | pose2 x =>
      exact wrapped_keeps_numbers delta .pose2 _ (fun _ => rfl) x (pose2_keeps_numbers delta x) moved done
  | pose3 x =>
      exact wrapped_keeps_numbers delta .pose3 _ (fun _ => rfl) x (pose3_keeps_numbers delta x) moved done
  | point3 x =>
      exact wrapped_keeps_numbers delta .point3 _ (fun _ => rfl) x (point_keeps_numbers delta x) moved done
  | vector x =>
      exact wrapped_keeps_numbers delta .vector _ (fun _ => rfl) x (vector_keeps_numbers delta x) moved done
  | calibration x =>
      exact wrapped_keeps_numbers delta .calibration _ (fun _ => rfl) x (calibration_keeps_numbers delta x) moved done
  | camera x =>
      exact wrapped_keeps_numbers delta .camera _ (fun _ => rfl) x (camera_keeps_numbers delta x) moved done

end Retraction

noncomputable def numeric (values : Values RealOrNaN) : KeyMap Bool :=
  values.map fun _ value => value.components.all Scalar.isFinite

theorem move_entry_keeps_numbers (updates : Updates RealOrNaN) (key : Key) (value moved : Value RealOrNaN)
    (done : Values.moveEntry updates key value = .ok moved) : Whole moved.components ↔ Whole value.components := by
  unfold Values.moveEntry at done
  split at done
  · cases done
    exact Iff.rfl
  · rw [Outcome.map_error_ok_iff] at done
    exact value_keeps_numbers _ value moved done

theorem retract_keeps_numbers (values moved : Values RealOrNaN) (updates : Updates RealOrNaN)
    (done : values.retract updates = .ok moved) : numeric moved = numeric values := by
  obtain ⟨_, each⟩ := (Values.retract_ok_iff values moved updates).mp done
  refine SortedMap.ext_entries _ _ ?_
  simp only [numeric, SortedMap.map]
  generalize values.entries = es, moved.entries = ds at each ⊢
  induction each with
  | nil => rfl
  | cons here others ih =>
      obtain ⟨sameKey, moves⟩ := here
      have kept := Bool.eq_iff_iff.mpr (move_entry_keeps_numbers updates _ _ _ moves)
      rw [List.map_cons, List.map_cons, ih, sameKey, kept]

theorem descent_keeps_numbers (graph : Graph RealOrNaN) (values : Values RealOrNaN) (error : RealOrNaN)
    (trials : List (Trial RealOrNaN)) (descent : Optimizer.Descent graph values error trials) :
    ∀ trial ∈ trials, numeric trial.values = numeric values := by
  induction descent with
  | rest => simp
  | step values error trial others moved evaluated finite lower further ih =>
      obtain ⟨updates, done⟩ := moved
      have here := retract_keeps_numbers values trial.values updates done
      exact List.forall_mem_cons.mpr ⟨here, fun other mem => (ih other mem).trans here⟩

theorem run_keeps_numbers {σ : Type} (solver : LinearSolver RealOrNaN σ) (config : Config RealOrNaN)
    (graph : Graph RealOrNaN) (initial : Values RealOrNaN) (run : Run RealOrNaN)
    (reached : Optimizer.run solver config graph initial = .ok run) : numeric run.values = numeric initial := by
  obtain ⟨_, _, rfl, _, _, course⟩ := Optimizer.run_ok _ _ _ _ _ reached
  have kept := descent_keeps_numbers _ _ _ _ (Optimizer.course_descends _ _ _ _ _ _ _ _ course)
  rw [Run.values]
  cases last : run.accepted.getLast? with
  | none => rfl
  | some trial => exact kept trial (List.mem_of_getLast? last)

theorem get_numeric (values : Values RealOrNaN) (key : Key) :
    (numeric values).get? key = (values.get? key).map fun value => value.components.all Scalar.isFinite :=
  SortedMap.get_map _ values key

end RealOrNaN

namespace Optimizer

open RealOrNaN

theorem standard_valid : (Config.standard : Config RealOrNaN).validate = .ok () := by
  refine (Config.validate_ok_iff _).mpr ⟨by decide, ⟨?_, ?_⟩, ?_, ?_, ?_⟩
  · exact (number_le 0 1e-5).mpr (by norm_num)
  · exact (number_le 0 1e-5).mpr (by norm_num)
  · exact (number_lt 0 1e-12).mpr (by norm_num)
  · exact (number_le 1e-12 1e-4).mpr (by norm_num)
  · exact (number_le 1e-4 1e12).mpr (by norm_num)

theorem standard_tolerance : number 0 ≤ (Config.standard : Config RealOrNaN).absoluteTolerance :=
  (number_le 0 1e-5).mpr (by norm_num)

noncomputable def zeroGraph : Graph RealOrNaN :=
  [⟨[⟨'a', 0⟩], Factor.prior [(0 : RealOrNaN)], .unit 1, .equality, rfl, List.cons_ne_nil _ _⟩]

def numbersAt (x y : RealOrNaN) : Values RealOrNaN :=
  (SortedMap.empty.insert ⟨'a', 0⟩ (.vector [x])).insert ⟨'b', 0⟩ (.vector [y])

theorem zero_error (x : ℝ) (y : RealOrNaN) : Graph.error zeroGraph (numbersAt (number x) y) = .ok (number (x * x)) := by
  have unfolded : Graph.error zeroGraph (numbersAt (number x) y) = .ok (number (0 + (x - 0) * (x - 0))) := rfl
  rw [unfolded]
  simp

noncomputable def zeroTrial (y : RealOrNaN) : Trial RealOrNaN :=
  ⟨numbersAt (number (1 + -1)) (y + 0), number 0, Block.norm [-1, 0], 0, gainRatio (number 1) (number 0) 0⟩

noncomputable abbrev zeroProblem (y : RealOrNaN) : Problem RealOrNaN :=
  ⟨zeroGraph, .ofValues (numbersAt (number 1) y), .standard⟩

theorem zero_attempt (y lambda : RealOrNaN) (base : Base RealOrNaN) (values : base.values = numbersAt (number 1) y)
    (error : base.error = number 1) :
    attempt (prepared [.ok [-1, 0]]) (zeroProblem y) base lambda [.ok [-1, 0]] = (.ok (zeroTrial y), []) := by
  refine Prod.ext ((evaluate_step_ok_iff _ _ _ _ _ _).mpr ⟨⟨_, rfl, ?_⟩, ?_, rfl, rfl, ?_⟩) rfl
  · rw [values]
    rfl
  · rw [zeroTrial, zero_error]
    norm_num
  · rw [error]
    rfl

noncomputable def zeroIteration (y : RealOrNaN) : Iteration RealOrNaN :=
  let damping := Damping.start (Config.standard : Config RealOrNaN)
  ⟨[⟨damping.lambda, .ok (zeroTrial y)⟩], .accepted (zeroTrial y), damping.accept (zeroTrial y).gain⟩

theorem zero_boundary (y : RealOrNaN) :
    boundary (prepared [.ok [-1, 0]]) (zeroProblem y) 0
        (.start (prepared [.ok [-1, 0]]) .standard (numbersAt (number 1) y) (number 1)) =
      .inr (zeroIteration y, ⟨(zeroTrial y).values, number 0, (zeroIteration y).damping, []⟩) := by
  obtain ⟨base, linear⟩ : ∃ base, linearize (zeroProblem y) (numbersAt (number 1) y) (number 1) = .ok base := ⟨_, rfl⟩
  obtain ⟨values, error, _⟩ := linearize_ok _ _ _ _ linear
  have tolerance : (Config.standard : Config RealOrNaN).absoluteTolerance = number 1e-5 := rfl
  have high : ¬ number 1 ≤ number 1e-5 := fun low => absurd ((number_le _ _).mp low) (by norm_num)
  have low : settled (Config.standard : Config RealOrNaN) (number 1) (number 0) = false := by
    have below : ¬ number 1e-5 < number 0 := fun above => absurd ((number_lt _ _).mp above) (by norm_num)
    rw [settled, tolerance, decide_eq_false below, Bool.false_and]
  have better : improves base (zeroTrial y) = true := by
    rw [improves, error, Bool.and_eq_true, decide_eq_true_eq]
    exact ⟨rfl, (number_lt 0 1).mpr one_pos⟩
  exact boundary_accepted (prepared [.ok [-1, 0]]) (zeroProblem y) 0 _ base (zeroTrial y) [] high rfl linear
    (zero_attempt y _ base values error) better low

noncomputable def zeroRun (y : RealOrNaN) : Run RealOrNaN :=
  ⟨numbersAt (number 1) y, number 1, [zeroIteration y], (zeroIteration y).damping, .ok .converged⟩

theorem zero_optimize (y : RealOrNaN) :
    optimize (prepared [.ok [-1, 0]]) .standard zeroGraph (numbersAt (number 1) y) =
      .ok (report (prepared [.ok [-1, 0]]) .standard zeroGraph (zeroRun y) .converged) := by
  have start : firstError .standard zeroGraph (numbersAt (number 1) y) = .ok (number 1) := by
    rw [firstError, standard_valid, zero_error, mul_one]
    rfl
  have low := standard_tolerance
  have iterated := iterate_onward _ _ 49 0 _ _ _ (zero_boundary y)
  rw [iterate_low _ (zeroProblem y) 49 1 ⟨(zeroTrial y).values, number 0, (zeroIteration y).damping, []⟩ low] at iterated
  have made : runFrom (prepared [.ok [-1, 0]]) .standard zeroGraph (numbersAt (number 1) y) (number 1) = zeroRun y :=
    congrArg (Record.run (numbersAt (number 1) y) (number 1)) iterated
  rw [optimize_eq, start, Outcome.ok_bind, made]
  rfl

/-- Whatever the linear solver answers, a run neither brings anything that is not a number into an estimate nor takes
it out: the value of a variable is reported with such a component exactly if it was given with one. -/
theorem optimize_keeps_numbers {σ : Type} (solver : LinearSolver RealOrNaN σ) (config : Config RealOrNaN)
    (graph : Graph RealOrNaN) (initial : Values RealOrNaN) (result : OptimizationResult RealOrNaN)
    (finished : optimize solver config graph initial = .ok result) :
    result.values.keys = initial.keys ∧
    (∀ key value reported, initial.get? key = some value → result.values.get? key = some reported →
      (nan ∈ reported.components ↔ nan ∈ value.components)) ∧
    ((∀ key value, initial.get? key = some value → nan ∉ value.components) →
      ∀ key reported, result.values.get? key = some reported → nan ∉ reported.components) := by
  obtain ⟨run, status, reached, _, rfl⟩ := optimize_ok _ _ _ _ _ finished
  have same : numeric run.values = numeric initial := run_keeps_numbers solver config graph initial run reached
  have keys : run.values.keys = initial.keys := by
    rw [← SortedMap.keys_map (fun _ value => value.components.all Scalar.isFinite) run.values,
      ← SortedMap.keys_map (fun _ value => value.components.all Scalar.isFinite) initial]
    exact congrArg SortedMap.keys same
  have kept : ∀ key value reported, initial.get? key = some value → run.values.get? key = some reported →
      (nan ∈ reported.components ↔ nan ∈ value.components) := by
    intro key value reported here there
    have known := congrArg (fun m => SortedMap.get? m key) same
    simp only [get_numeric, here, there, Option.map_some, Option.some.injEq] at known
    rw [← not_iff_not, ← whole_iff, ← whole_iff, Whole, Whole, known]
  refine ⟨keys, kept, fun numbers key reported there => ?_⟩
  have mem : key ∈ initial.keys := by
    rw [← keys, ← SortedMap.contains_iff_mem_keys]
    exact Option.isSome_iff_exists.mpr ⟨reported, there⟩
  obtain ⟨value, here⟩ := Option.isSome_iff_exists.mp ((SortedMap.contains_iff_mem_keys initial key).mpr mem)
  exact fun missing => numbers key value here ((kept key value reported here there).mp missing)

theorem optimize_keeps_numbers_zero : ∃ result,
    optimize (prepared [.ok [-1, 0]]) .standard zeroGraph (numbersAt (number 1) (number 2)) = .ok result ∧
      result.iterations = 1 ∧ ∀ key reported, result.values.get? key = some reported → nan ∉ reported.components := by
  obtain ⟨_, _, kept⟩ := optimize_keeps_numbers _ _ _ _ _ (zero_optimize (number 2))
  refine ⟨_, zero_optimize (number 2), rfl, kept fun key value here => ?_⟩
  have mem : (key, value) ∈ [((⟨'a', 0⟩ : Key), Value.vector [number 1]), (⟨'b', 0⟩, .vector [number 2])] :=
    (SortedMap.get_eq_some_iff _ _ _).mp here
  simp only [List.mem_cons, List.not_mem_nil, or_false, Prod.mk.injEq] at mem
  rcases mem with ⟨_, rfl⟩ | ⟨_, rfl⟩ <;> simp [Value.components]

theorem optimize_returns_nan : ∃ result reported,
    optimize (prepared [.ok [-1, 0]]) .standard zeroGraph (numbersAt (number 1) nan) = .ok result ∧
      result.values.get? ⟨'b', 0⟩ = some reported ∧ nan ∈ reported.components :=
  ⟨_, .vector [nan + 0], zero_optimize nan, rfl, List.mem_singleton.mpr rfl⟩

example :
    Outcome.passes (fun result : OptimizationResult Float => decide (0 < result.iterations) &&
        !result.values.values.all fun value => value.components.all Scalar.isFinite)
      (optimize Method.cholesky.linearSolver .standard halfGraph (halfStart.insert ⟨'y', 0⟩ (.vector [0.0 / 0.0]))) =
        true := by
  decide +kernel

end Optimizer

end FactorGraph
