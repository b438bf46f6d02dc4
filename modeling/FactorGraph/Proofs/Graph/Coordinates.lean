import Mathlib
import FactorGraph.Proofs.Camera.RoundTrip
import FactorGraph.Proofs.Graph.Shape
import FactorGraph.Proofs.Lie.Pose2RoundTrip

set_option autoImplicit false

namespace FactorGraph

section Still

theorem Vec3.local_self (x : Vec3 ℝ) : Manifold.localCoordinates x x = .ok (List.replicate 3 0) := by
  change Except.ok (x - x).toList = _
  simp [Vec3.sub_def, Vec3.toList]

theorem list_local_self (x : List ℝ) : Manifold.localCoordinates x x = .ok (List.replicate x.length 0) := by
  change (checkLengths x x >>= fun _ => .ok (List.zipWith (· - ·) x x)) = _
  rw [checkLengths, if_pos rfl]
  simp

theorem Pose2.local_self (x : Pose2 ℝ) (unit : x.Unit) : Manifold.localCoordinates x x = .ok (List.replicate 3 0) := by
  have pi := Real.pi_pos
  have still : log (1 : Pose2 ℝ) = ⟨0, 0, 0⟩ := by
    rw [← exp_zero]
    exact log_exp ⟨0, 0, 0⟩ (neg_lt_zero.mpr pi) pi.le
  rw [local_coordinates_eq, inv_mul_self x unit, still]
  rfl

theorem Pose3.local_self (x : Pose3 ℝ) (unit : x.Unit) : Manifold.localCoordinates x x = .ok (List.replicate 6 0) := by
  change Except.ok (log (x⁻¹ * x)).toList = _
  rw [inv_mul_self x unit, log_one]
  rfl

theorem Camera.local_self (x : Camera ℝ) (unit : x.pose.Unit) :
    Manifold.localCoordinates x x = .ok (List.replicate 9 0) :=
  Camera.local_coordinates_ok x x _ _ (Pose3.local_self _ unit) (Vec3.local_self _)

end Still

section Back

theorem Vec3.local_coordinates_retract (x d : Vec3 ℝ) :
    (Manifold.retract x d.toList >>= Manifold.localCoordinates x) = .ok d.toList := by
  change Except.ok (x + d - x).toList = _
  simp [Vec3.add_def, Vec3.sub_def, Vec3.toList]

theorem list_local_coordinates_retract (x d : List ℝ) (length : d.length = x.length) :
    (Manifold.retract x d >>= Manifold.localCoordinates x) = .ok d := by
  have checked := (check_tangent_ok_iff d x.length).mpr ⟨length, all_finite d⟩
  have moved : Manifold.retract x d = .ok (List.zipWith (· + ·) x d) := by simp [Manifold.retract, checked]
  have same : (List.zipWith (· + ·) x d).length = x.length := by simp [length]
  rw [moved, Outcome.ok_bind]
  change (checkLengths x _ >>= fun _ => .ok _) = _
  rw [checkLengths, if_pos same, Outcome.ok_bind, Except.ok.injEq]
  refine List.ext_getElem (by simp [length]) fun i inside _ => ?_
  simp

theorem Pose2.local_coordinates_retract (x : Pose2 ℝ) (t : Twist2 ℝ) (unit : x.Unit) (low : -Real.pi < t.theta)
    (high : t.theta ≤ Real.pi) : (Manifold.retract x t.toList >>= Manifold.localCoordinates x) = .ok t.toList := by
  rw [retract_eq, Outcome.ok_bind, local_coordinates_eq, laws.inv_mul_mul x _ unit (unit_exp t), log_exp t low high]

theorem Calibration.local_coordinates_retract (x : Calibration ℝ) (d : Vec3 ℝ) :
    (Manifold.retract x d.toList >>= Manifold.localCoordinates x) = .ok d.toList :=
  Vec3.local_coordinates_retract x.parameters d

theorem Camera.local_coordinates_retract (x : Camera ℝ) (t : Twist3 ℝ) (d : Vec3 ℝ) (unit : x.pose.Unit)
    (closed : Rotation.ClosedForm t.theta.norm) :
    (Manifold.retract x (t.toList ++ d.toList) >>= Manifold.localCoordinates x) = .ok (t.toList ++ d.toList) := by
  rw [retract_eq, Outcome.ok_bind]
  exact Camera.local_coordinates_ok x _ _ _ (Pose3.local_coordinates_retract x.pose t unit closed)
    (Calibration.local_coordinates_retract x.calibration d)

end Back

namespace Value

def Unit : Value ℝ → Prop
  | pose2 x => x.Unit
  | pose3 x => x.Unit
  | camera x => x.pose.Unit
  | _ => True

def Returns : Value ℝ → List ℝ → Prop
  | pose2 _, [_, _, theta] => -Real.pi < theta ∧ theta ≤ Real.pi
  | pose3 _, [_, _, _, a, b, c] => Rotation.ClosedForm (⟨a, b, c⟩ : Vec3 ℝ).norm
  | camera _, [_, _, _, a, b, c, _, _, _] => Rotation.ClosedForm (⟨a, b, c⟩ : Vec3 ℝ).norm
  | _, _ => True

theorem local_self (value : Value ℝ) (unit : value.Unit) :
    value.localCoordinates? value = some (.ok (List.replicate value.dimension 0)) := by
  cases value with
  | pose2 x => exact congrArg some (x.local_self unit)
  | pose3 x => exact congrArg some (x.local_self unit)
  | point3 x => exact congrArg some x.local_self
  | vector x => exact congrArg some (list_local_self x)
  | calibration x => exact congrArg some x.parameters.local_self
  | camera x => exact congrArg some (x.local_self unit)

section Wrapped

variable {M : Type} [Manifold ℝ M] (wrap : M → Value ℝ) (x : M) (delta : List ℝ)

theorem wrapped_returns (read : ∀ y, (wrap x).localCoordinates? (wrap y) = some (Manifold.localCoordinates x y))
    (back : (Manifold.retract x delta >>= Manifold.localCoordinates x) = .ok delta) (moved : Value ℝ)
    (done : wrap <$> Manifold.retract x delta = .ok moved) : (wrap x).localCoordinates? moved = some (.ok delta) := by
  obtain ⟨y, reached, rfl⟩ := (Outcome.map_ok_iff _ _ _).mp done
  rw [reached, Outcome.ok_bind] at back
  rw [read, back]

end Wrapped

theorem local_coordinates_retract (value moved : Value ℝ) (delta : List ℝ) (unit : value.Unit)
    (length : delta.length = value.dimension) (returns : value.Returns delta) (done : value.retract delta = .ok moved) :
    value.localCoordinates? moved = some (.ok delta) := by
  cases value with
  | pose2 x =>
      match delta, length with
      | [a, b, theta], _ =>
          exact wrapped_returns pose2 x _ (fun _ => rfl)
            (x.local_coordinates_retract ⟨a, b, theta⟩ unit returns.1 returns.2) moved done
  | pose3 x =>
      match delta, length with
      | [a, b, c, d, e, f], _ =>
          exact wrapped_returns pose3 x _ (fun _ => rfl)
            (x.local_coordinates_retract ⟨⟨a, b, c⟩, ⟨d, e, f⟩⟩ unit returns) moved done
  | point3 x =>
      match delta, length with
      | [a, b, c], _ =>
          exact wrapped_returns point3 x _ (fun _ => rfl) (x.local_coordinates_retract ⟨a, b, c⟩) moved done
  | vector x => exact wrapped_returns vector x delta (fun _ => rfl) (list_local_coordinates_retract x delta length) moved done
  | calibration x =>
      match delta, length with
      | [a, b, c], _ =>
          exact wrapped_returns calibration x _ (fun _ => rfl) (x.local_coordinates_retract ⟨a, b, c⟩) moved done
  | camera x =>
      match delta, length with
      | [a, b, c, d, e, f, g, h, i], _ =>
          exact wrapped_returns camera x _ (fun _ => rfl)
            (x.local_coordinates_retract ⟨⟨a, b, c⟩, ⟨d, e, f⟩⟩ ⟨g, h, i⟩ unit returns) moved done

variable {α : Type} [Scalar α]

structure Comparable (a b : Value α) : Prop where
  type : a.type = b.type
  length : ∀ u v, a = .vector u → b = .vector v → u.length = v.length

theorem list_coordinates_ok_iff (x y d : List α) :
    Manifold.localCoordinates x y = .ok d ↔ x.length = y.length ∧ d = List.zipWith (· - ·) y x := by
  change (checkLengths x y >>= fun _ => .ok (List.zipWith (· - ·) y x)) = .ok d ↔ _
  rw [checkLengths]
  by_cases same : y.length = x.length
  · simp [same, eq_comm]
  · simp [same, Ne.symm same]

theorem coordinates_of_comparable (a b : Value α) (comparable : a.Comparable b) :
    ∃ d, a.localCoordinates? b = some (.ok d) ∧ d.length = a.dimension := by
  obtain ⟨type, length⟩ := comparable
  cases a <;> cases b <;> try cases type
  case pose2 => exact ⟨_, rfl, rfl⟩
  case pose3 => exact ⟨_, rfl, rfl⟩
  case point3 => exact ⟨_, rfl, rfl⟩
  case calibration => exact ⟨_, rfl, rfl⟩
  case camera => exact ⟨_, rfl, rfl⟩
  case vector x y =>
    have same := length x y rfl rfl
    refine ⟨_, congrArg some ((list_coordinates_ok_iff x y _).mpr ⟨same, rfl⟩), ?_⟩
    change _ = x.length
    simp [same]

theorem comparable_of_coordinates (a b : Value α) (d : List α) (done : a.localCoordinates? b = some (.ok d)) :
    a.Comparable b := by
  constructor
  · cases a <;> cases b <;> try cases done
    all_goals rfl
  · rintro x y rfl rfl
    exact ((list_coordinates_ok_iff x y d).mp (Option.some.inj done)).1

end Value

structure Updates.Suits {α : Type} [Scalar α] (updates : Updates α) (values : Values α) : Prop where
  known : ∀ key ∈ updates.keys, key ∈ values.keys
  length : ∀ key value delta, values.get? key = some value → updates.get? key = some delta →
    delta.length = value.dimension

namespace Values

section Existence

variable {α : Type} [Scalar α] (a b : Values α)

structure Comparable : Prop where
  keys : b.keys = a.keys
  each : ∀ key x y, a.get? key = some x → b.get? key = some y → x.Comparable y

def filled (values : Values α) (updates : Updates α) : Updates α :=
  values.map fun key value => (updates.get? key).getD (List.replicate value.dimension 0)

def coordinate (key : Key) (value : Value α) : Except (GraphError α) (List α) :=
  b.find key >>= between key value

theorem coordinate_ok_iff (key : Key) (value : Value α) (d : List α) :
    b.coordinate key value = .ok d ↔
      ∃ target, b.get? key = some target ∧ value.localCoordinates? target = some (.ok d) := by
  rw [coordinate, find]
  cases found : b.get? key with
  | none => simp
  | some target =>
      rw [Outcome.ok_bind, between]
      cases read : value.localCoordinates? target with
      | none => simp [read]
      | some outcome => simp [read]

theorem local_coordinates_ok_iff (d : Updates α) :
    a.localCoordinates b = .ok d ↔ (∀ key ∈ b.keys, key ∈ a.keys) ∧ a.traverse b.coordinate = .ok d := by
  rw [localCoordinates, ← SortedMap.first_missing_none_iff]
  cases b.keys.find? (!a.contains ·) with
  | some key => simp
  | none =>
      simp only [true_and]
      rfl

theorem comparable_of_coordinates (d : Updates α) (done : a.localCoordinates b = .ok d) : a.Comparable b := by
  obtain ⟨known, traversed⟩ := (local_coordinates_ok_iff a b d).mp done
  have read (key : Key) (value : Value α) (found : a.get? key = some value) :
      ∃ target w, b.get? key = some target ∧ value.localCoordinates? target = some (.ok w) := by
    obtain ⟨w, _, made⟩ := SortedMap.traverse_get a _ d traversed key value found
    obtain ⟨target, there, coordinates⟩ := (coordinate_ok_iff b key value w).mp made
    exact ⟨target, w, there, coordinates⟩
  constructor
  · refine SortedMap.sorted_eq_of_mem b.keys a.keys b.sorted a.sorted fun key => ⟨known key, fun mem => ?_⟩
    obtain ⟨value, found⟩ := (SortedMap.mem_keys_iff_get a key).mp mem
    obtain ⟨target, _, there, _⟩ := read key value found
    exact (SortedMap.mem_keys_iff_get b key).mpr ⟨target, there⟩
  · intro key x y first second
    obtain ⟨target, w, there, coordinates⟩ := read key x first
    obtain rfl := Option.some.inj (there.symm.trans second)
    exact Value.comparable_of_coordinates x target w coordinates

theorem coordinates_of_comparable (comparable : a.Comparable b) : ∃ d, a.localCoordinates b = .ok d := by
  have known : ∀ key ∈ b.keys, key ∈ a.keys := fun key mem => comparable.keys ▸ mem
  have read (entry : Key × Value α) (mem : entry ∈ a.entries) : ∃ w, b.coordinate entry.1 entry.2 = .ok w := by
    have found := (SortedMap.get_eq_some_iff a entry.1 entry.2).mpr mem
    have named : entry.1 ∈ b.keys := comparable.keys ▸ (SortedMap.mem_keys_iff_get a entry.1).mpr ⟨entry.2, found⟩
    obtain ⟨target, there⟩ := (SortedMap.mem_keys_iff_get b entry.1).mp named
    obtain ⟨w, coordinates, _⟩ := Value.coordinates_of_comparable _ _ (comparable.each _ _ _ found there)
    exact ⟨w, (coordinate_ok_iff b _ _ w).mpr ⟨target, there, coordinates⟩⟩
  obtain ⟨d, traversed⟩ := SortedMap.traverse_succeeds b.coordinate a read
  exact ⟨d, (local_coordinates_ok_iff a b d).mpr ⟨known, traversed⟩⟩

theorem coordinates_suit (d : Updates α) (done : a.localCoordinates b = .ok d) : d.keys = a.keys ∧ d.Suits a := by
  obtain ⟨_, traversed⟩ := (local_coordinates_ok_iff a b d).mp done
  have keys : d.keys = a.keys := SortedMap.keys_traverse _ a traversed
  refine ⟨keys, fun key mem => keys ▸ mem, fun key value delta found named => ?_⟩
  obtain ⟨w, there, made⟩ := SortedMap.traverse_get a _ d traversed key value found
  obtain rfl := Option.some.inj (there.symm.trans named)
  obtain ⟨target, _, coordinates⟩ := (coordinate_ok_iff b key value w).mp made
  obtain ⟨_, agree, length⟩ :=
    Value.coordinates_of_comparable value target (Value.comparable_of_coordinates value target w coordinates)
  obtain rfl := Except.ok.inj (Option.some.inj (agree.symm.trans coordinates))
  exact length

end Existence

section Return

variable (values : Values ℝ) (updates : Updates ℝ)

theorem entry_returns (key : Key) (value moved : Value ℝ) (unit : value.Unit)
    (fits : ∀ delta, updates.get? key = some delta → delta.length = value.dimension ∧ value.Returns delta)
    (done : moveEntry updates key value = .ok moved) :
    value.localCoordinates? moved = some (.ok ((updates.get? key).getD (List.replicate value.dimension 0))) := by
  unfold moveEntry at done
  cases named : updates.get? key with
  | none =>
      rw [named] at done
      cases done
      exact value.local_self unit
  | some delta =>
      rw [named] at done
      obtain ⟨length, returns⟩ := fits delta named
      exact value.local_coordinates_retract moved delta unit length returns ((Outcome.map_error_ok_iff _ _ _).mp done)

theorem coordinates_of_moved (suits : updates.Suits values)
    (unit : ∀ key value, values.get? key = some value → value.Unit)
    (returns : ∀ key value delta, values.get? key = some value → updates.get? key = some delta → value.Returns delta) :
    ∃ moved, values.retract updates = .ok moved ∧ values.localCoordinates moved = .ok (values.filled updates) := by
  obtain ⟨moved, done⟩ := retract_succeeds values updates suits.known fun key value delta mem named =>
    ⟨suits.length key value delta ((SortedMap.get_eq_some_iff values key value).mpr mem) named, all_finite delta⟩
  have traversed : values.traverse (moveEntry updates) = .ok moved :=
    (SortedMap.traverse_ok_iff _ values moved).mpr ((retract_ok_iff values moved updates).mp done).2
  have keys : moved.keys = values.keys := SortedMap.keys_traverse _ values traversed
  refine ⟨moved, done, (local_coordinates_ok_iff values moved _).mpr ⟨fun key mem => keys ▸ mem, ?_⟩⟩
  refine SortedMap.traverse_eq_map _ _ _ fun key value found => ?_
  obtain ⟨target, there, made⟩ := SortedMap.traverse_get values _ moved traversed key value found
  refine (coordinate_ok_iff moved key value _).mpr ⟨target, there, ?_⟩
  exact entry_returns updates key value target (unit key value found)
    (fun delta named => ⟨suits.length key value delta found named, returns key value delta found named⟩) made

end Return

theorem coordinates_return :
    (∀ (values : Values ℝ) (updates : Updates ℝ), updates.Suits values →
      (∀ key value, values.get? key = some value → value.Unit) →
      (∀ key value delta, values.get? key = some value → updates.get? key = some delta → value.Returns delta) →
      ∃ moved, values.retract updates = .ok moved ∧ values.localCoordinates moved = .ok (values.filled updates)) ∧
    ∀ {α : Type} [Scalar α] (a b : Values α), ((∃ d, a.localCoordinates b = .ok d) ↔ a.Comparable b) ∧
      ∀ d, a.localCoordinates b = .ok d → d.keys = a.keys ∧ d.Suits a := by
  refine ⟨coordinates_of_moved, fun a b => ⟨⟨?_, coordinates_of_comparable a b⟩, coordinates_suit a b⟩⟩
  rintro ⟨d, done⟩
  exact comparable_of_coordinates a b d done

noncomputable def assorted : Values ℝ :=
  ⟨[(⟨'a', 0⟩, .pose2 ⟨⟨1, -1⟩, ⟨-1, 0⟩⟩), (⟨'c', 0⟩, .camera ⟨1, .plain⟩),
    (⟨'p', 0⟩, .pose3 ⟨⟨⟨0, 0, 1, 0⟩⟩, ⟨1, 0, -1⟩⟩), (⟨'v', 0⟩, .vector [1, -1])], by decide⟩

noncomputable def posesOnly : Updates ℝ :=
  ⟨[(⟨'a', 0⟩, [1, -1, Real.pi]), (⟨'p', 0⟩, [1, 0, -1, 0, -1, 0])], by decide⟩

theorem coordinates_return_partly :
    (∃ moved, assorted.retract posesOnly = .ok moved ∧ (assorted.localCoordinates moved).map (·.entries) =
      .ok [(⟨'a', 0⟩, [1, -1, Real.pi]), (⟨'c', 0⟩, [0, 0, 0, 0, 0, 0, 0, 0, 0]), (⟨'p', 0⟩, [1, 0, -1, 0, -1, 0]),
        (⟨'v', 0⟩, [0, 0])]) ∧
    ¬ ∃ d, assorted.localCoordinates (assorted.insert ⟨'v', 0⟩ (.vector [1])) = .ok d := by
  have pi := Real.pi_gt_three
  have one : (⟨0, -1, 0⟩ : Vec3 ℝ).norm = 1 := by
    change Real.sqrt (0 * 0 + -1 * -1 + 0 * 0) = 1
    norm_num
  have unit : ∀ key value, assorted.get? key = some value → value.Unit := by
    refine SortedMap.forall_get assorted (fun _ value => value.Unit) ?_
    simp only [assorted, List.forall_mem_cons]
    refine ⟨?_, Pose3.unit_one, ?_, trivial, by simp⟩
    · change (-1 : ℝ) * -1 + 0 * 0 = 1
      norm_num
    · change (0 : ℝ) * 0 + 0 * 0 + 1 * 1 + 0 * 0 = 1
      norm_num
  have lengths : ∀ key value, assorted.get? key = some value → ∀ delta, posesOnly.get? key = some delta →
      delta.length = value.dimension ∧ value.Returns delta := by
    refine SortedMap.forall_get assorted (fun key value => ∀ delta, posesOnly.get? key = some delta →
      delta.length = value.dimension ∧ value.Returns delta) ?_
    simp only [assorted, List.forall_mem_cons]
    refine ⟨?_, fun _ named => (by cases named), ?_, fun _ named => (by cases named), by simp⟩
    · rintro _ ⟨⟩
      exact ⟨rfl, by linarith, le_rfl⟩
    · rintro _ ⟨⟩
      refine ⟨rfl, ?_⟩
      change Rotation.ClosedForm (⟨0, -1, 0⟩ : Vec3 ℝ).norm
      rw [one]
      exact ⟨.inr (by norm_num), by linarith⟩
  have suits : posesOnly.Suits assorted :=
    ⟨by decide, fun key value delta found named => (lengths key value found delta named).1⟩
  obtain ⟨returned, exist⟩ := coordinates_return
  constructor
  · obtain ⟨moved, done, back⟩ := returned assorted posesOnly suits unit fun key value delta found named =>
      (lengths key value found delta named).2
    exact ⟨moved, done, by rw [back]; rfl⟩
  · rw [(exist assorted _).1]
    rintro ⟨_, each⟩
    have two := (each ⟨'v', 0⟩ (.vector [1, -1]) (.vector [1]) rfl rfl).length _ _ rfl rfl
    cases two

end Values

end FactorGraph
