import FactorGraph.Graph.Layout
import FactorGraph.Proofs.Entries

set_option autoImplicit false

namespace FactorGraph

variable {α : Type} [Scalar α]

theorem check_tangent_ok_iff (delta : List α) (expected : Nat) :
    checkTangent delta expected = .ok () ↔ delta.length = expected ∧ delta.all Scalar.isFinite = true := by
  unfold checkTangent
  by_cases length : delta.length = expected
  · by_cases finite : delta.all Scalar.isFinite = true <;> simp [length, finite]
  · simp [length]

section Retraction

variable {M : Type} [Manifold α M]

structure MovesFreely (x : M) : Prop where
  succeeds : ∀ delta : List α, delta.length = Manifold.dimension x → delta.all Scalar.isFinite = true →
    ∃ y, Manifold.retract x delta = .ok y
  keeps : ∀ (delta : List α) (y : M), Manifold.retract x delta = .ok y →
    Manifold.dimension y = Manifold.dimension x

end Retraction

theorem point_moves_freely (x : Vec3 α) : MovesFreely x where
  succeeds delta length finite := by
    have checked := (check_tangent_ok_iff delta 3).mpr ⟨length, finite⟩
    obtain ⟨a, b, c, rfl⟩ := List.length_eq_three.mp length
    exact ⟨x + ⟨a, b, c⟩, by simp [Manifold.retract, checked, Vec3.ofList?]⟩
  keeps _ _ _ := rfl

theorem vector_moves_freely (x : List α) : MovesFreely x where
  succeeds delta length finite := by
    have checked := (check_tangent_ok_iff delta x.length).mpr ⟨length, finite⟩
    exact ⟨List.zipWith (· + ·) x delta, by simp [Manifold.retract, checked]⟩
  keeps delta y moved := by
    obtain ⟨_, checked, rest⟩ := (Outcome.bind_ok_iff _ _ _).mp moved
    have length := ((check_tangent_ok_iff delta x.length).mp checked).1
    cases rest
    change (List.zipWith (· + ·) x delta).length = x.length
    simp [length]

theorem group_moves_freely (G : Type) {T J : Type} [LieGroup α G T J] (x : G)
    (readable : ∀ delta : List α, delta.length = LieGroup.dimension G →
      ∃ t, LieGroup.ofCoordinates? (G := G) delta = some t) : MovesFreely x where
  succeeds delta length finite := by
    have checked := (check_tangent_ok_iff delta (LieGroup.dimension G)).mpr ⟨length, finite⟩
    obtain ⟨t, read⟩ := readable delta length
    exact ⟨LieGroup.rightPlus x t, by simp [Manifold.retract, LieGroup.tangent, checked, read]⟩
  keeps _ _ _ := rfl

theorem pose2_moves_freely (x : Pose2 α) : MovesFreely x :=
  group_moves_freely (Pose2 α) x fun delta length => by
    obtain ⟨a, b, c, rfl⟩ := List.length_eq_three.mp length
    exact ⟨_, rfl⟩

theorem pose3_moves_freely (x : Pose3 α) : MovesFreely x :=
  group_moves_freely (Pose3 α) x fun delta length => by
    match delta, length with
    | [a, b, c, d, e, f], _ => exact ⟨_, rfl⟩

theorem calibration_moves_freely (x : Calibration α) : MovesFreely x where
  succeeds delta length finite := by
    obtain ⟨p, moved⟩ := (point_moves_freely x.parameters).succeeds delta length finite
    exact ⟨x.withParameters p, by simp only [Manifold.retract] at moved ⊢; simp [moved]⟩
  keeps _ _ _ := rfl

theorem camera_moves_freely (x : Camera α) : MovesFreely x where
  succeeds delta length finite := by
    have nine : delta.length = 9 := length
    have checked := (check_tangent_ok_iff delta 9).mpr ⟨nine, finite⟩
    rw [List.all_eq_true] at finite
    obtain ⟨pose, turned⟩ := (pose3_moves_freely x.pose).succeeds (delta.take 6)
      (by change (delta.take 6).length = 6; simp [nine])
      (List.all_eq_true.mpr fun a mem => finite a (List.mem_of_mem_take mem))
    obtain ⟨lens, ground⟩ := (calibration_moves_freely x.calibration).succeeds (delta.drop 6)
      (by change (delta.drop 6).length = 3; simp [nine])
      (List.all_eq_true.mpr fun a mem => finite a (List.mem_of_mem_drop mem))
    refine ⟨⟨pose, lens⟩, ?_⟩
    change (checkTangent delta 9 >>= fun _ => Manifold.retract x.pose (delta.take 6) >>= fun pose =>
      Manifold.retract x.calibration (delta.drop 6) >>= fun lens => pure (⟨pose, lens⟩ : Camera α)) = _
    simp [checked, turned, ground]
  keeps _ _ _ := rfl

theorem wrapped_succeeds {M : Type} [Manifold α M] (wrap : M → Value α) (x : M) (free : MovesFreely x)
    (delta : List α) (length : delta.length = Manifold.dimension x)
    (finite : delta.all Scalar.isFinite = true) : ∃ moved, wrap <$> Manifold.retract x delta = .ok moved := by
  obtain ⟨y, moved⟩ := free.succeeds delta length finite
  exact ⟨wrap y, (Outcome.map_ok_iff _ _ _).mpr ⟨y, moved, rfl⟩⟩

theorem wrapped_keeps {M : Type} [Manifold α M] (wrap : M → Value α) (x : M) (free : MovesFreely x)
    (delta : List α) (value : Value α) (moved : wrap <$> Manifold.retract x delta = .ok value) :
    ∃ y, value = wrap y ∧ Manifold.dimension y = Manifold.dimension x := by
  obtain ⟨y, moved, same⟩ := (Outcome.map_ok_iff _ _ _).mp moved
  exact ⟨y, same.symm, free.keeps delta y moved⟩

namespace Value

theorem retract_succeeds (value : Value α) (delta : List α) (length : delta.length = value.dimension)
    (finite : delta.all Scalar.isFinite = true) : ∃ moved, value.retract delta = .ok moved := by
  cases value with
  | pose2 x => exact wrapped_succeeds pose2 x (pose2_moves_freely x) delta length finite
  | pose3 x => exact wrapped_succeeds pose3 x (pose3_moves_freely x) delta length finite
  | point3 x => exact wrapped_succeeds point3 x (point_moves_freely x) delta length finite
  | vector x => exact wrapped_succeeds vector x (vector_moves_freely x) delta length finite
  | calibration x => exact wrapped_succeeds calibration x (calibration_moves_freely x) delta length finite
  | camera x => exact wrapped_succeeds camera x (camera_moves_freely x) delta length finite

theorem retract_keeps (value moved : Value α) (delta : List α) (done : value.retract delta = .ok moved) :
    moved.type = value.type ∧ moved.dimension = value.dimension := by
  cases value with
  | pose2 x =>
      obtain ⟨y, rfl, same⟩ := wrapped_keeps pose2 x (pose2_moves_freely x) delta moved done
      exact ⟨rfl, same⟩
  | pose3 x =>
      obtain ⟨y, rfl, same⟩ := wrapped_keeps pose3 x (pose3_moves_freely x) delta moved done
      exact ⟨rfl, same⟩
  | point3 x =>
      obtain ⟨y, rfl, same⟩ := wrapped_keeps point3 x (point_moves_freely x) delta moved done
      exact ⟨rfl, same⟩
  | vector x =>
      obtain ⟨y, rfl, same⟩ := wrapped_keeps vector x (vector_moves_freely x) delta moved done
      exact ⟨rfl, same⟩
  | calibration x =>
      obtain ⟨y, rfl, same⟩ := wrapped_keeps calibration x (calibration_moves_freely x) delta moved done
      exact ⟨rfl, same⟩
  | camera x =>
      obtain ⟨y, rfl, same⟩ := wrapped_keeps camera x (camera_moves_freely x) delta moved done
      exact ⟨rfl, same⟩

end Value

namespace Values

def shape (values : Values α) : List (Key × VariableType × Nat) :=
  values.entries.map fun e => (e.1, e.2.type, e.2.dimension)

def moveEntry (updates : Updates α) (key : Key) (value : Value α) : Except (GraphError α) (Value α) :=
  match updates.get? key with
  | none => .ok value
  | some delta => (value.retract delta).mapError .manifold

theorem retract_ok_iff (values moved : Values α) (updates : Updates α) :
    values.retract updates = .ok moved ↔ (∀ key ∈ updates.keys, key ∈ values.keys) ∧
      List.Forall₂ (fun e d => d.1 = e.1 ∧ moveEntry updates e.1 e.2 = .ok d.2) values.entries moved.entries := by
  rw [retract, ← SortedMap.first_missing_none_iff, ← SortedMap.traverse_ok_iff]
  cases updates.keys.find? (!values.contains ·) with
  | some key => simp
  | none => simp only [true_and]; rfl

theorem move_entry_keeps (updates : Updates α) (key : Key) (value moved : Value α)
    (done : moveEntry updates key value = .ok moved) :
    moved.type = value.type ∧ moved.dimension = value.dimension := by
  unfold moveEntry at done
  split at done
  · cases done
    exact ⟨rfl, rfl⟩
  · rw [Outcome.map_error_ok_iff] at done
    exact value.retract_keeps moved _ done

theorem retract_shape (values moved : Values α) (updates : Updates α)
    (done : values.retract updates = .ok moved) : moved.shape = values.shape := by
  obtain ⟨_, each⟩ := (retract_ok_iff values moved updates).mp done
  unfold shape
  generalize values.entries = es, moved.entries = ds at each ⊢
  induction each with
  | nil => rfl
  | cons here others ih =>
      obtain ⟨sameKey, moves⟩ := here
      obtain ⟨sameType, sameDimension⟩ := move_entry_keeps updates _ _ _ moves
      rw [List.map_cons, List.map_cons, ih, sameKey, sameType, sameDimension]

theorem retract_succeeds (values : Values α) (updates : Updates α)
    (known : ∀ key ∈ updates.keys, key ∈ values.keys)
    (fits : ∀ key value delta, (key, value) ∈ values.entries → updates.get? key = some delta →
      delta.length = value.dimension ∧ delta.all Scalar.isFinite = true) :
    ∃ moved, values.retract updates = .ok moved := by
  rw [← SortedMap.first_missing_none_iff] at known
  rw [retract, known]
  apply SortedMap.traverse_succeeds
  intro entry mem
  cases named : updates.get? entry.1 with
  | none => exact ⟨entry.2, rfl⟩
  | some delta =>
      obtain ⟨length, finite⟩ := fits entry.1 entry.2 delta mem named
      obtain ⟨moved, done⟩ := entry.2.retract_succeeds delta length finite
      exact ⟨moved, by simp [done, Except.mapError]⟩

theorem keys_of_shape (a b : Values α) (same : a.shape = b.shape) : a.keys = b.keys := by
  have keys := congrArg (List.map Prod.fst) same
  rw [shape, shape, List.map_map, List.map_map] at keys
  exact keys

end Values

omit [Scalar α] in
theorem Block.column_flatten (entries : List α) : (column entries).rows.flatten = entries := by
  simp [column, ← List.flatMap_def]

namespace Layout

theorem place_of_shape (offset : Nat) (es fs : List (Key × Value α))
    (same : es.map (fun e => (e.1, e.2.type, e.2.dimension)) = fs.map fun e => (e.1, e.2.type, e.2.dimension)) :
    place offset es = place offset fs := by
  induction es generalizing fs offset with
  | nil =>
      cases fs with
      | nil => rfl
      | cons f rest => cases same
  | cons e rest ih =>
      cases fs with
      | nil => cases same
      | cons f others =>
          simp only [List.map_cons, List.cons.injEq, Prod.mk.injEq] at same
          obtain ⟨⟨sameKey, _, sameDimension⟩, tail⟩ := same
          rw [place, place, sameKey, sameDimension, ih _ _ tail]

theorem dimension_eq (values : Values α) : values.dimension = (values.shape.map (·.2.2)).sum := by
  simp only [Values.dimension, SortedMap.values, Values.shape, List.map_map]
  induction values.entries with
  | nil => rfl
  | cons e rest ih => simp [ih]

theorem of_values_of_shape (a b : Values α) (same : a.shape = b.shape) : ofValues a = ofValues b := by
  simp only [ofValues, dimension_eq, same, mk.injEq, and_true]
  exact SortedMap.ext_entries _ _ (place_of_shape 0 _ _ same)

theorem span_inside (offset : Nat) (es : List (Key × Value α)) (key : Key) (span : Span)
    (mem : (key, span) ∈ place offset es) :
    ∃ value, (key, value) ∈ es ∧ span.dimension = value.dimension ∧ offset ≤ span.offset ∧
      span.offset + span.dimension ≤ offset + (es.map (·.2.dimension)).sum := by
  induction es generalizing offset with
  | nil => cases mem
  | cons e rest ih =>
      obtain ⟨k, v⟩ := e
      rcases List.mem_cons.mp mem with here | later
      · cases here
        exact ⟨v, by simp, rfl, Nat.le_refl _, by simp⟩
      · obtain ⟨value, inside, same, low, high⟩ := ih _ later
        refine ⟨value, by simp [inside], same, by omega, ?_⟩
        simp only [List.map_cons, List.sum_cons]
        omega

theorem span_of_values (values : Values α) (key : Key) (span : Span)
    (found : (ofValues values).span? key = some span) :
    ∃ value, (key, value) ∈ values.entries ∧ span.dimension = value.dimension ∧
      span.offset + span.dimension ≤ (ofValues values).total := by
  obtain ⟨value, inside, same, _, high⟩ :=
    span_inside 0 values.entries key span ((SortedMap.get_eq_some_iff _ _ _).mp found)
  refine ⟨value, inside, same, ?_⟩
  simpa [ofValues, dimension_eq, Values.shape, Function.comp_def] using high

theorem keys_spans (values : Values α) : (ofValues values).spans.keys = values.keys :=
  keys_place 0 values.entries

def part (step : List α) (span : Span) : List α := (step.drop span.offset).take span.dimension

omit [Scalar α] in
theorem split_column (layout : Layout) (step : List α) (length : step.length = layout.total) :
    layout.split (Block.column step) = .ok (layout.spans.map fun _ span => part step span) := by
  have height : (Block.column step).height = layout.total := by simp [Block.height, Block.column, length]
  rw [split, if_pos ⟨height, rfl⟩, Block.column_flatten]
  rfl

theorem part_length (values : Values α) (step : List α) (length : step.length = (ofValues values).total)
    (key : Key) (span : Span) (found : (ofValues values).span? key = some span) :
    (part step span).length = span.dimension := by
  obtain ⟨_, _, _, high⟩ := span_of_values values key span found
  simp only [part, List.length_take, List.length_drop]
  omega

theorem retract_split (values : Values α) (step : List α) (length : step.length = (ofValues values).total)
    (finite : step.all Scalar.isFinite = true) :
    ∃ updates moved, (ofValues values).split (Block.column step) = .ok updates ∧
      values.retract updates = .ok moved := by
  have cut := split_column (ofValues values) step length
  suffices moves : ∃ moved, values.retract ((ofValues values).spans.map fun _ span => part step span) = .ok moved by
    obtain ⟨moved, done⟩ := moves
    exact ⟨_, moved, cut, done⟩
  apply Values.retract_succeeds
  · intro key mem
    rwa [SortedMap.keys_map, keys_spans] at mem
  · intro key value delta mem named
    -- The part is as long as the span, and the span as its variable has dimensions.
    rw [SortedMap.get_map, Option.map_eq_some_iff] at named
    obtain ⟨span, found, rfl⟩ := named
    obtain ⟨other, inside, same, _⟩ := span_of_values values key span found
    have unique : some value = some other := by
      rw [← (SortedMap.get_eq_some_iff values key value).mpr mem, (SortedMap.get_eq_some_iff values key other).mpr inside]
    cases unique
    refine ⟨(part_length values step length key span found).trans same, ?_⟩
    rw [List.all_eq_true] at finite ⊢
    exact fun a member => finite a (List.mem_of_mem_drop (List.mem_of_mem_take member))

end Layout

end FactorGraph
