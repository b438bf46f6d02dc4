import FactorGraph.Proofs.Graph.Shape

set_option autoImplicit false

namespace FactorGraph

variable {α : Type} [Scalar α]

inductive Value.Rejects (value : Value α) (delta : List α) : ManifoldError → Prop where
  | length (differs : delta.length ≠ value.dimension) :
      Rejects value delta (.tangentDimension value.dimension delta.length)
  | entry (fits : delta.length = value.dimension) (a : α) (mem : a ∈ delta) (infinite : Scalar.isFinite a = false) :
      Rejects value delta .notFinite

theorem check_tangent_error_iff (value : Value α) (delta : List α) (e : ManifoldError) :
    checkTangent delta value.dimension = .error e ↔ value.Rejects delta e := by
  unfold checkTangent
  by_cases differs : delta.length ≠ value.dimension
  · rw [if_pos differs, Except.error.injEq]
    constructor
    · rintro rfl
      exact .length differs
    · rintro (_ | ⟨fits, _⟩)
      · rfl
      · exact absurd fits differs
  · rw [if_neg differs]
    by_cases finite : delta.all Scalar.isFinite = true
    · rw [if_pos finite]
      constructor
      · intro impossible
        cases impossible
      · rintro (other | ⟨_, a, mem, infinite⟩)
        · exact absurd other differs
        · rw [List.all_eq_true.mp finite a mem] at infinite
          cases infinite
    · rw [if_neg finite, Except.error.injEq]
      constructor
      · rintro rfl
        simp only [List.all_eq_true, not_forall, Bool.not_eq_true] at finite
        obtain ⟨a, mem, infinite⟩ := finite
        exact .entry (not_not.mp differs) a mem infinite
      · rintro (other | _)
        · exact absurd other differs
        · rfl

namespace Value

theorem retract_unchecked (value : Value α) (delta : List α) (e : ManifoldError)
    (failed : checkTangent delta value.dimension = .error e) : value.retract delta = .error e := by
  cases value with
  | pose2 x =>
      have three : checkTangent delta (LieGroup.dimension (Pose2 α)) = .error e := failed
      simp [retract, Manifold.retract, LieGroup.tangent, three]
  | pose3 x =>
      have six : checkTangent delta (LieGroup.dimension (Pose3 α)) = .error e := failed
      simp [retract, Manifold.retract, LieGroup.tangent, six]
  | point3 x =>
      have three : checkTangent delta 3 = .error e := failed
      simp [retract, Manifold.retract, three]
  | vector x =>
      have all : checkTangent delta x.length = .error e := failed
      simp [retract, Manifold.retract, all]
  | calibration x =>
      have three : checkTangent delta 3 = .error e := failed
      simp [retract, Manifold.retract, three]
  | camera x =>
      have nine : checkTangent delta 9 = .error e := failed
      simp [retract, Manifold.retract, nine]

theorem retract_error_iff (value : Value α) (delta : List α) (e : ManifoldError) :
    value.retract delta = .error e ↔ value.Rejects delta e := by
  rw [← check_tangent_error_iff]
  refine ⟨fun failed => ?_, value.retract_unchecked delta e⟩
  cases checked : checkTangent delta value.dimension with
  | error d =>
      rw [value.retract_unchecked delta d checked, Except.error.injEq] at failed
      rw [failed]
  | ok _ =>
      obtain ⟨length, finite⟩ := (check_tangent_ok_iff delta value.dimension).mp checked
      obtain ⟨moved, done⟩ := value.retract_succeeds delta length finite
      rw [done] at failed
      cases failed

end Value

namespace Values

variable (values moved : Values α) (updates : Updates α)

-- The first fault of an update. A key without a value comes before a vector that does not fit, whatever the keys.
inductive FirstFault : GraphError α → Prop where
  | missing (key : Key) (named : key ∈ updates.keys) (absent : key ∉ values.keys)
      (first : ∀ other ∈ updates.keys, other < key → other ∈ values.keys) : FirstFault (.missingKey key)
  | rejected (known : ∀ key ∈ updates.keys, key ∈ values.keys) (key : Key) (value : Value α) (delta : List α)
      (held : values.get? key = some value) (named : updates.get? key = some delta) (fault : ManifoldError)
      (rejects : value.Rejects delta fault)
      (first : ∀ other < key, ∀ v d, values.get? other = some v → updates.get? other = some d → ∀ e, ¬ v.Rejects d e) :
      FirstFault (.manifold fault)

structure Moved : Prop where
  keys : moved.keys = values.keys
  each : ∀ key value, values.get? key = some value → ∃ target, moved.get? key = some target ∧
    target.type = value.type ∧ target.dimension = value.dimension ∧ (key ∉ updates.keys → target = value) ∧
      ∀ delta, updates.get? key = some delta → value.retract delta = .ok target

theorem move_entry_error_iff (key : Key) (value : Value α) (e : GraphError α) :
    moveEntry updates key value = .error e ↔
      ∃ delta fault, updates.get? key = some delta ∧ value.Rejects delta fault ∧ e = .manifold fault := by
  unfold moveEntry
  cases updates.get? key with
  | none => simp
  | some delta =>
      simp only [Outcome.map_error_error_iff, Value.retract_error_iff, Option.some.injEq, exists_and_left, exists_eq_left',
        @eq_comm _ e]

theorem move_entry_ok_iff (key : Key) (value target : Value α) : moveEntry updates key value = .ok target ↔
    (key ∉ updates.keys → target = value) ∧ ∀ delta, updates.get? key = some delta → value.retract delta = .ok target := by
  rw [moveEntry, ← SortedMap.get_eq_none_iff]
  cases updates.get? key with
  | none => simp [eq_comm]
  | some delta => simp

theorem retract_error_traverse (e : GraphError α) (known : ∀ key ∈ updates.keys, key ∈ values.keys) :
    values.retract updates = .error e ↔ values.traverse (moveEntry updates) = .error e := by
  rw [retract, (SortedMap.first_missing_none_iff values updates.keys).mpr known]
  rfl

theorem retract_error_iff (e : GraphError α) : values.retract updates = .error e ↔ FirstFault values updates e := by
  cases missing : updates.keys.find? (!values.contains ·) with
  | some key =>
      obtain ⟨⟨named, absent⟩, first⟩ := (SortedMap.first_missing_some_iff values _ updates.sorted key).mp missing
      simp only [retract, missing, Except.error.injEq]
      constructor
      · rintro rfl
        exact .missing key named absent first
      · intro fault
        cases fault with
        | missing other named' absent' first' =>
            have also := (SortedMap.first_missing_some_iff values _ updates.sorted other).mpr ⟨⟨named', absent'⟩, first'⟩
            exact congrArg GraphError.missingKey (Option.some.inj (missing.symm.trans also))
        | rejected known => exact absurd (known key named) absent
  | none =>
      have known := (SortedMap.first_missing_none_iff values updates.keys).mp missing
      rw [retract_error_traverse values updates e known, SortedMap.traverse_error_iff]
      -- Whatever comes before the failing key fits its update, if it has one.
      have fits (key : Key) (value : Value α) :
          (∃ w, moveEntry updates key value = .ok w) ↔ ∀ d, updates.get? key = some d → ∀ f, ¬ value.Rejects d f := by
        have failures := move_entry_error_iff updates key value
        cases made : moveEntry updates key value with
        | ok w =>
            simp only [made, reduceCtorEq, false_iff, not_exists, not_and] at failures
            simpa using fun d named f rejects => failures _ d f named rejects rfl
        | error cause =>
            obtain ⟨delta, fault, named, rejects, _⟩ := (failures cause).mp made
            simpa using ⟨delta, named, fault, rejects⟩
      simp only [fits, move_entry_error_iff]
      constructor
      · rintro ⟨key, value, held, ⟨delta, fault, named, rejects, rfl⟩, first⟩
        exact .rejected known key value delta held named fault rejects fun other less v d found => first other less v found d
      · intro fault
        cases fault with
        | missing key named absent => exact absurd (known key named) absent
        | rejected _ key value delta held named fault rejects first =>
            exact ⟨key, value, held, ⟨delta, fault, named, rejects, rfl⟩,
              fun other less v found d => first other less v d found⟩

theorem retract_ok_iff_get : values.retract updates = .ok moved ↔ (∀ key ∈ updates.keys, key ∈ values.keys) ∧
    moved.keys = values.keys ∧ ∀ key value, values.get? key = some value →
      ∃ target, moved.get? key = some target ∧ moveEntry updates key value = .ok target := by
  rw [retract_ok_iff, ← SortedMap.traverse_ok_iff, SortedMap.traverse_ok_iff_get]

theorem retract_ok_iff_moved : values.retract updates = .ok moved ↔
    (∀ key ∈ updates.keys, key ∈ values.keys) ∧ Moved values moved updates := by
  rw [retract_ok_iff_get]
  refine and_congr_right fun _ => ⟨fun ⟨keys, each⟩ => ⟨keys, fun key value held => ?_⟩, fun ⟨keys, each⟩ =>
    ⟨keys, fun key value held => ?_⟩⟩
  · obtain ⟨target, found, made⟩ := each key value held
    obtain ⟨type, dimension⟩ := move_entry_keeps updates key value target made
    exact ⟨target, found, type, dimension, (move_entry_ok_iff updates key value target).mp made⟩
  · obtain ⟨target, found, _, _, moves⟩ := each key value held
    exact ⟨target, found, (move_entry_ok_iff updates key value target).mpr moves⟩

section Twice

variable (first second : Updates α)

theorem retract_twice_ok_iff : (values.retract first >>= fun middle => middle.retract second) = .ok moved ↔
    ((∀ key ∈ first.keys, key ∈ values.keys) ∧ ∀ key ∈ second.keys, key ∈ values.keys) ∧ moved.keys = values.keys ∧
      ∀ key value, values.get? key = some value → ∃ target, moved.get? key = some target ∧
        (moveEntry first key value >>= moveEntry second key) = .ok target := by
  rw [Outcome.bind_ok_iff]
  constructor
  · rintro ⟨middle, before, after⟩
    obtain ⟨known, keys, each⟩ := (retract_ok_iff_get values middle first).mp before
    obtain ⟨known', keys', each'⟩ := (retract_ok_iff_get middle moved second).mp after
    refine ⟨⟨known, keys ▸ known'⟩, keys'.trans keys, fun key value held => ?_⟩
    obtain ⟨between, found, made⟩ := each key value held
    obtain ⟨target, there, done⟩ := each' key between found
    exact ⟨target, there, by rw [made, Outcome.ok_bind, done]⟩
  · rintro ⟨⟨known, known'⟩, keys, each⟩
    obtain ⟨middle, traversed⟩ := SortedMap.traverse_succeeds (moveEntry first) values fun entry mem => by
      obtain ⟨_, _, done⟩ := each entry.1 entry.2 ((SortedMap.get_eq_some_iff values entry.1 entry.2).mpr mem)
      obtain ⟨between, made, _⟩ := (Outcome.bind_ok_iff _ _ _).mp done
      exact ⟨between, made⟩
    obtain ⟨same, halfway⟩ := (SortedMap.traverse_ok_iff_get _ values middle).mp traversed
    refine ⟨middle, (retract_ok_iff_get values middle first).mpr ⟨known, same, halfway⟩,
      (retract_ok_iff_get middle moved second).mpr ⟨same ▸ known', keys.trans same.symm, fun key between found => ?_⟩⟩
    have held : key ∈ values.keys := same ▸ (SortedMap.mem_keys_iff_get middle key).mpr ⟨between, found⟩
    obtain ⟨value, held⟩ := (SortedMap.mem_keys_iff_get values key).mp held
    obtain ⟨target, there, done⟩ := each key value held
    obtain ⟨between', found', made⟩ := halfway key value held
    obtain rfl := Option.some.inj (found.symm.trans found')
    rw [made, Outcome.ok_bind] at done
    exact ⟨target, there, done⟩

end Twice

end Values

namespace Updates

def union (first second : Updates α) : Updates α := .ofList (first.entries ++ second.entries)

variable (first second : Updates α)

omit [Scalar α] in
theorem mem_keys_union (key : Key) : key ∈ (first.union second).keys ↔ key ∈ first.keys ∨ key ∈ second.keys := by
  rw [union, SortedMap.mem_keys_of_list, List.map_append, List.mem_append]
  rfl

variable (disjoint : ∀ key ∈ first.keys, key ∉ second.keys)

include disjoint

omit [Scalar α] in
theorem get_union_of_mem (key : Key) (delta : List α)
    (named : first.get? key = some delta ∨ second.get? key = some delta) : (first.union second).get? key = some delta := by
  simp only [SortedMap.get_eq_some_iff] at named
  refine SortedMap.get_of_list _ ?_ key delta (List.mem_append.mpr named)
  rw [List.map_append, List.nodup_append]
  exact ⟨first.distinct_keys, second.distinct_keys, fun a here b there same => disjoint a here (same ▸ there)⟩

omit [Scalar α] in
theorem get_union_eq_some_iff (key : Key) (delta : List α) : (first.union second).get? key = some delta ↔
    first.get? key = some delta ∨ second.get? key = some delta := by
  refine ⟨fun found => ?_, get_union_of_mem first second disjoint key delta⟩
  have among := (SortedMap.mem_keys_iff_get _ key).mpr ⟨delta, found⟩
  rw [mem_keys_union, SortedMap.mem_keys_iff_get, SortedMap.mem_keys_iff_get] at among
  rcases among with ⟨other, here⟩ | ⟨other, there⟩
  · rw [get_union_of_mem first second disjoint key other (.inl here)] at found
    exact .inl (here.trans found)
  · rw [get_union_of_mem first second disjoint key other (.inr there)] at found
    exact .inr (there.trans found)

omit [Scalar α] in
theorem union_comm : first.union second = second.union first := by
  have flipped : ∀ key ∈ second.keys, key ∉ first.keys := fun key late early => disjoint key early late
  refine SortedMap.ext_get _ _ fun key => Option.ext fun delta => ?_
  rw [get_union_eq_some_iff first second disjoint, get_union_eq_some_iff second first flipped, or_comm]

theorem move_entry_union (key : Key) (value : Value α) :
    (Values.moveEntry first key value >>= Values.moveEntry second key) = Values.moveEntry (first.union second) key value := by
  unfold Values.moveEntry
  cases here : first.get? key with
  | some delta =>
      have absent : second.get? key = none :=
        (SortedMap.get_eq_none_iff second key).mpr (disjoint key ((SortedMap.mem_keys_iff_get first key).mpr ⟨delta, here⟩))
      rw [get_union_of_mem first second disjoint key delta (.inl here)]
      simp only [absent]
      exact bind_pure _
  | none =>
      cases there : second.get? key with
      | some delta => simp [get_union_of_mem first second disjoint key delta (.inr there)]
      | none =>
          rw [SortedMap.get_eq_none_iff] at here there
          have absent : (first.union second).get? key = none := by
            rw [SortedMap.get_eq_none_iff, mem_keys_union]
            exact not_or.mpr ⟨here, there⟩
          rw [absent, Outcome.ok_bind]

end Updates

namespace Values

theorem retract_twice_iff_union (values moved : Values α) (first second : Updates α)
    (disjoint : ∀ key ∈ first.keys, key ∉ second.keys) :
    (values.retract first >>= fun middle => middle.retract second) = .ok moved ↔
      values.retract (first.union second) = .ok moved := by
  rw [retract_twice_ok_iff, retract_ok_iff_get]
  simp only [first.move_entry_union second disjoint, first.mem_keys_union, or_imp, forall_and]

/-- A failed move has one cause; a successful one moves each variable by its own update. Updates of different variables make
one estimate in either order, and together. -/
theorem retract_moves_each_alone (values : Values α) :
    (∀ (updates : Updates α) (e : GraphError α), values.retract updates = .error e ↔ FirstFault values updates e) ∧
    (∀ (updates : Updates α) (moved : Values α), values.retract updates = .ok moved ↔
      (∀ key ∈ updates.keys, key ∈ values.keys) ∧ Moved values moved updates) ∧
    ∀ first second : Updates α, (∀ key ∈ first.keys, key ∉ second.keys) → ∀ moved : Values α,
      ((values.retract first >>= fun middle => middle.retract second) = .ok moved ↔
        values.retract (first.union second) = .ok moved) ∧
      ((values.retract second >>= fun middle => middle.retract first) = .ok moved ↔
        values.retract (first.union second) = .ok moved) := by
  refine ⟨retract_error_iff values, fun updates moved => retract_ok_iff_moved values moved updates, ?_⟩
  intro first second disjoint moved
  have flipped : ∀ key ∈ second.keys, key ∉ first.keys := fun key late early => disjoint key early late
  have onceMore := retract_twice_iff_union values moved second first flipped
  rw [← first.union_comm second disjoint] at onceMore
  exact ⟨retract_twice_iff_union values moved first second disjoint, onceMore⟩

def pointAndNumbers : Values Float :=
  ⟨[(⟨'l', 0⟩, .point3 ⟨1.0, 2.0, 3.0⟩), (⟨'v', 0⟩, .vector [1.0, 2.0])], by decide⟩

def pointOnly : Updates Float := ⟨[(⟨'l', 0⟩, [1.0, 0.0, -1.0])], by decide⟩

def numbersOnly : Updates Float := ⟨[(⟨'v', 0⟩, [0.5, 0.5])], by decide⟩

def misfits : Updates Float := ⟨[(⟨'l', 0⟩, [1.0, 0.0 / 0.0, 0.0]), (⟨'v', 0⟩, [1.0, 1.0, 1.0])], by decide⟩

theorem retract_moves_each_alone_disjoint :
    (∀ key ∈ pointOnly.keys, key ∉ numbersOnly.keys) ∧
    (∃ moved, pointAndNumbers.retract (pointOnly.union numbersOnly) = .ok moved ∧
      (pointAndNumbers.retract pointOnly >>= fun middle => middle.retract numbersOnly) = .ok moved ∧
      (pointAndNumbers.retract numbersOnly >>= fun middle => middle.retract pointOnly) = .ok moved) ∧
    pointAndNumbers.retract misfits = .error (.manifold .notFinite) ∧
    pointAndNumbers.retract (misfits.insert ⟨'z', 0⟩ []) = .error (.missingKey ⟨'z', 0⟩) := by
  have disjoint : ∀ key ∈ pointOnly.keys, key ∉ numbersOnly.keys := by decide
  obtain ⟨fails, _, together⟩ := retract_moves_each_alone pointAndNumbers
  obtain ⟨moved, done, _⟩ := Outcome.passes_ok (fun _ : Values Float => true)
    (pointAndNumbers.retract (pointOnly.union numbersOnly)) (by decide +kernel)
  obtain ⟨once, twice⟩ := together pointOnly numbersOnly disjoint moved
  refine ⟨disjoint, ⟨moved, done, once.mpr done, twice.mpr done⟩, (fails _ _).mpr ?_, (fails _ _).mpr ?_⟩
  · refine .rejected (by decide) ⟨'l', 0⟩ _ _ rfl rfl _ (.entry rfl (0.0 / 0.0) (by simp) (by decide +kernel)) ?_
    intro other less v d held
    have among : other ∈ pointAndNumbers.keys := (SortedMap.mem_keys_iff_get _ _).mpr ⟨v, held⟩
    rcases List.mem_cons.mp among with rfl | later
    · exact absurd less (by decide)
    · cases List.mem_singleton.mp later
      exact absurd less (by decide)
  · exact .missing _ (by decide) (by decide) (by decide)

end Values

end FactorGraph
