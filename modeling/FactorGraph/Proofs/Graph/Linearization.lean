import FactorGraph.Graph.Nonlinear
import FactorGraph.Proofs.Graph.Stacking

set_option autoImplicit false

namespace FactorGraph

variable {α : Type} [Scalar α]

namespace Noise

theorem whiten_length (noise : Noise α) (residual : List α) (length : residual.length = noise.dimension) :
    (noise.whiten residual).length = noise.dimension := by
  cases noise with
  | unit n => exact length
  | isotropic n sigma => simpa [whiten] using length
  | diagonal sigmas =>
      simp only [dimension] at length
      simp [whiten, dimension, length]

theorem whiten_block_shape (noise : Noise α) (block : Block α) :
    (noise.whitenBlock block).shape = block.shape := by
  cases noise <;> simp [whitenBlock, Block.mapRows, Block.shape, Block.height]

end Noise

namespace NonlinearFactor

omit [Scalar α] in
theorem gather_ok_iff (f : NonlinearFactor α) (values : Values α) (arguments : List (Value α)) :
    f.gather values = .ok arguments ↔
      List.Forall₂ (fun key value => values.get? key = some value) f.keys arguments := by
  rw [gather, Outcome.map_all_ok_iff]
  have same (key : Key) (value : Value α) : values.find key = .ok value ↔ values.get? key = some value := by
    unfold Values.find
    cases values.get? key <;> simp
  simp only [same]

omit [Scalar α] in
theorem gather_succeeds (f : NonlinearFactor α) (values : Values α)
    (known : ∀ key ∈ f.keys, key ∈ values.keys) : ∃ arguments, f.gather values = .ok arguments := by
  apply Outcome.map_all_succeeds
  intro key mem
  have present := (values.contains_iff_mem_keys key).mpr (known key mem)
  obtain ⟨value, found⟩ := Option.isSome_iff_exists.mp present
  exact ⟨value, by simp only [Values.find, found]⟩

theorem check_residual_length (f : NonlinearFactor α) (residual : List α)
    (checked : f.checkResidual residual = .ok ()) : residual.length = f.dimension := by
  unfold checkResidual at checked
  by_cases length : residual.length = f.dimension
  · exact length
  · simp [length] at checked

theorem check_blocks_shape (height : Nat) (entries : List (Key × Value α × Block α))
    (checked : checkBlocks height entries = .ok ()) :
    ∀ entry ∈ entries, entry.2.2.shape = (height, entry.2.1.dimension) := by
  induction entries with
  | nil => simp
  | cons entry rest ih =>
      obtain ⟨key, value, block⟩ := entry
      by_cases shape : block.shape = (height, value.dimension)
      · cases finite : block.isFinite with
        | false => simp [checkBlocks, shape, finite] at checked
        | true =>
            simp only [checkBlocks, shape, finite, ne_eq, not_true_eq_false, if_false, if_true] at checked
            intro other mem
            rcases List.mem_cons.mp mem with rfl | later
            · exact shape
            · exact ih checked other later
      · simp [checkBlocks, shape] at checked

structure Linearized (f : NonlinearFactor α) (values : Values α) (arguments : List (Value α))
    (evaluation : Evaluation α) (blocks : List (Block α)) (linear : LinearFactor α) : Prop where
  gathered : f.gather values = .ok arguments
  evaluated : f.evaluate arguments .derivatives = .ok evaluation
  residual : f.checkResidual evaluation.residual = .ok ()
  derivatives : evaluation.jacobians = some blocks
  jacobians : f.checkJacobians arguments blocks = .ok ()
  result : linear = ⟨f.keys, blocks.map (f.noise.whitenBlock ·),
    (f.noise.whiten evaluation.residual).map (- ·), f.kind⟩

theorem linearize_ok (f : NonlinearFactor α) (values : Values α) (linear : LinearFactor α)
    (done : f.linearize values = .ok linear) :
    ∃ arguments evaluation blocks, Linearized f values arguments evaluation blocks linear := by
  obtain ⟨arguments, gathered, done⟩ := (Outcome.bind_ok_iff _ _ _).mp done
  obtain ⟨evaluation, evaluated, done⟩ := (Outcome.bind_ok_iff _ _ _).mp done
  obtain ⟨_, residual, done⟩ := (Outcome.bind_ok_iff _ _ _).mp done
  cases derivatives : evaluation.jacobians with
  | none => simp [derivatives] at done
  | some blocks =>
      simp only [derivatives] at done
      obtain ⟨_, jacobians, done⟩ := (Outcome.bind_ok_iff _ _ _).mp done
      cases done
      exact ⟨arguments, evaluation, blocks, gathered, evaluated, residual, derivatives, jacobians, rfl⟩

theorem pair_up (f : NonlinearFactor α) (values : Values α) (keys : List Key) (arguments : List (Value α))
    (blocks : List (Block α))
    (gathered : List.Forall₂ (fun key value => values.get? key = some value) keys arguments)
    (count : blocks.length = arguments.length)
    (shapes : ∀ entry ∈ keys.zip (arguments.zip blocks), entry.2.2.shape = (f.dimension, entry.2.1.dimension)) :
    List.Forall₂ (fun key block => ∃ value, values.get? key = some value ∧
      (f.noise.whitenBlock block).shape = (f.dimension, value.dimension)) keys blocks := by
  -- Keys, arguments and blocks run in step, so the check of the blocks meets each key with its own block.
  induction gathered generalizing blocks with
  | nil =>
      rw [List.eq_nil_of_length_eq_zero count]
      exact .nil
  | cons found others ih =>
      cases blocks with
      | nil => cases count
      | cons block rest =>
          refine .cons ⟨_, found, ?_⟩ (ih rest (Nat.succ.inj count) fun entry mem => shapes entry (by simp [mem]))
          rw [Noise.whiten_block_shape]
          exact shapes (_, _, block) List.mem_cons_self

theorem linearize_fits (f : NonlinearFactor α) (values : Values α) (linear : LinearFactor α)
    (done : f.linearize values = .ok linear) :
    linear.keys = f.keys ∧ linear.kind = f.kind ∧ linear.rows = f.dimension ∧
      List.Forall₂ (fun key block => ∃ value, values.get? key = some value ∧
        block.shape = (f.dimension, value.dimension)) linear.keys linear.jacobians := by
  obtain ⟨arguments, evaluation, blocks, gathered, _, residual, _, jacobians, rfl⟩ := linearize_ok f values linear done
  refine ⟨rfl, rfl, ?_, ?_⟩
  · have length := check_residual_length f _ residual
    have whitened := f.noise.whiten_length evaluation.residual (length.trans f.noise_dimension.symm)
    rw [LinearFactor.rows, List.length_map, whitened]
    exact f.noise_dimension
  · rw [List.forall₂_map_right_iff]
    unfold checkJacobians at jacobians
    by_cases count : blocks.length = arguments.length
    · rw [if_pos count] at jacobians
      exact pair_up f values f.keys arguments blocks ((gather_ok_iff f values arguments).mp gathered) count
        (check_blocks_shape f.dimension _ jacobians)
    · simp [count] at jacobians

theorem linearize_knows (f : NonlinearFactor α) (values : Values α) (linear : LinearFactor α)
    (done : f.linearize values = .ok linear) : ∀ key ∈ f.keys, key ∈ values.keys := by
  obtain ⟨same, _, _, fits⟩ := linearize_fits f values linear done
  rw [same] at fits
  intro key mem
  obtain ⟨position, bound, rfl⟩ := List.mem_iff_getElem.mp mem
  obtain ⟨value, found, _⟩ := fits.get bound (fits.length_eq ▸ bound)
  exact (values.contains_iff_mem_keys _).mp (Option.isSome_iff_exists.mpr ⟨value, found⟩)

end NonlinearFactor

namespace Layout

theorem span_of_member (values : Values α) (key : Key) (value : Value α) (found : values.get? key = some value) :
    ∃ span, (ofValues values).span? key = some span ∧ span.dimension = value.dimension := by
  have present : key ∈ (ofValues values).spans.keys := by
    rw [keys_spans]
    exact (values.contains_iff_mem_keys key).mp (Option.isSome_iff_exists.mpr ⟨value, found⟩)
  obtain ⟨span, there⟩ := Option.isSome_iff_exists.mp ((SortedMap.contains_iff_mem_keys _ key).mpr present)
  obtain ⟨other, inside, same, _⟩ := span_of_values values key span there
  rw [(SortedMap.get_eq_some_iff values key other).mpr inside] at found
  cases found
  exact ⟨span, there, same⟩

end Layout

namespace LinearFactor

omit [Scalar α] in
theorem placed_succeeds (layout : Layout) (height : Nat) (entries : List (Key × Block α))
    (fits : ∀ entry ∈ entries, ∃ span, layout.span? entry.1 = some span ∧
      entry.2.shape = (height, span.dimension)) : ∃ blocks, placed layout height entries = .ok blocks := by
  induction entries with
  | nil => exact ⟨[], rfl⟩
  | cons entry rest ih =>
      obtain ⟨key, block⟩ := entry
      obtain ⟨span, found, shape⟩ := fits (key, block) (by simp)
      obtain ⟨blocks, others⟩ := ih fun other mem => fits other (by simp [mem])
      simp only at found shape
      exact ⟨(span.offset, block) :: blocks, by simp only [placed, found, shape, if_true, others]; rfl⟩

end LinearFactor

namespace Graph

theorem to_sparse_succeeds (graph : Graph α) (values : Values α) (linear : LinearGraph α)
    (done : Graph.linearize graph values = .ok linear) :
    ∃ system, LinearGraph.toSparse linear (.ofValues values) = .ok system := by
  suffices assembled : ∃ rows,
      (LinearGraph.equalities linear).mapM (LinearFactor.sparseRows (.ofValues values)) = .ok rows by
    obtain ⟨rows, each⟩ := assembled
    exact ⟨_, linear.to_sparse_of_rows _ (Layout.of_values_inside values) rows ((Outcome.map_all_ok_iff _ _ _).mp each)⟩
  apply Outcome.map_all_succeeds
  intro factor mem
  obtain ⟨f, _, linearized⟩ := Outcome.map_all_outputs _ _ _ done factor (List.mem_of_mem_filter mem)
  obtain ⟨_, _, height, fits⟩ := NonlinearFactor.linearize_fits f values factor linearized
  obtain ⟨blocks, placed⟩ := LinearFactor.placed_succeeds (.ofValues values) factor.rows
    (factor.keys.zip factor.jacobians) fun entry inside => by
      obtain ⟨value, found, shape⟩ := List.forall₂_zip fits inside
      obtain ⟨span, there, same⟩ := Layout.span_of_member values entry.1 value found
      exact ⟨span, there, by rw [shape, height, same]⟩
  exact ⟨_, by rw [LinearFactor.sparseRows, placed]; rfl⟩

def Closed (graph : Graph α) (values : Values α) : Prop := ∀ f ∈ graph, ∀ key ∈ f.keys, key ∈ values.keys

theorem linearize_closed (graph : Graph α) (values : Values α) (linear : LinearGraph α)
    (done : Graph.linearize graph values = .ok linear) : Closed graph values := by
  intro f mem
  obtain ⟨factor, _, linearized⟩ := Outcome.map_all_inputs _ _ _ done f mem
  exact NonlinearFactor.linearize_knows f values factor linearized

end Graph

namespace NonlinearFactor

theorem check_residual_not_missing (f : NonlinearFactor α) (residual : List α) (key : Key) :
    f.checkResidual residual ≠ .error (.missingKey key) := by
  intro checked
  unfold checkResidual at checked
  split at checked
  · cases checked
  · split at checked <;> cases checked

theorem residual_not_missing (f : NonlinearFactor α) (values : Values α)
    (known : ∀ key ∈ f.keys, key ∈ values.keys) (key : Key) : f.residual values ≠ .error (.missingKey key) := by
  obtain ⟨arguments, gathered⟩ := f.gather_succeeds values known
  rw [residual, gathered, Outcome.ok_bind]
  intro failed
  rcases (Outcome.bind_error_iff _ _ _).mp failed with evaluated | ⟨evaluation, _, checked⟩
  · obtain ⟨_, _, impossible⟩ := (Outcome.map_error_error_iff _ _ _).mp evaluated
    cases impossible
  · rcases (Outcome.bind_error_iff _ _ _).mp checked with checked | ⟨_, _, impossible⟩
    · exact f.check_residual_not_missing _ key checked
    · cases impossible

theorem error_not_missing (f : NonlinearFactor α) (values : Values α)
    (known : ∀ key ∈ f.keys, key ∈ values.keys) (key : Key) : f.error values ≠ .error (.missingKey key) := by
  intro failed
  rcases (Outcome.bind_error_iff _ _ _).mp failed with whitened | ⟨_, _, impossible⟩
  · rcases (Outcome.bind_error_iff _ _ _).mp whitened with residual | ⟨_, _, impossible⟩
    · exact f.residual_not_missing values known key residual
    · cases impossible
  · cases impossible

theorem check_blocks_not_missing (height : Nat) (entries : List (Key × Value α × Block α)) (key : Key) :
    checkBlocks height entries ≠ .error (.missingKey key) := by
  induction entries with
  | nil => exact fun impossible => by cases impossible
  | cons entry rest ih =>
      obtain ⟨k, value, block⟩ := entry
      by_cases shape : block.shape = (height, value.dimension)
      · cases finite : block.isFinite <;> simp [checkBlocks, shape, finite, ih]
      · simp [checkBlocks, shape]

theorem linearize_not_missing (f : NonlinearFactor α) (values : Values α)
    (known : ∀ key ∈ f.keys, key ∈ values.keys) (key : Key) : f.linearize values ≠ .error (.missingKey key) := by
  obtain ⟨arguments, gathered⟩ := f.gather_succeeds values known
  rw [linearize, gathered, Outcome.ok_bind]
  intro failed
  -- Only gathering the arguments looks keys up; the other stages fail for reasons of their own.
  rcases (Outcome.bind_error_iff _ _ _).mp failed with evaluated | ⟨evaluation, _, failed⟩
  · obtain ⟨_, _, impossible⟩ := (Outcome.map_error_error_iff _ _ _).mp evaluated
    cases impossible
  · rcases (Outcome.bind_error_iff _ _ _).mp failed with checked | ⟨_, _, failed⟩
    · exact f.check_residual_not_missing _ key checked
    · cases derivatives : evaluation.jacobians with
      | none => simp [derivatives] at failed
      | some blocks =>
          simp only [derivatives] at failed
          rcases (Outcome.bind_error_iff _ _ _).mp failed with checked | ⟨_, _, impossible⟩
          · unfold checkJacobians at checked
            split at checked
            · exact check_blocks_not_missing _ _ _ checked
            · cases checked
          · cases impossible

end NonlinearFactor

namespace Graph

theorem error_not_missing (graph : Graph α) (values : Values α) (closed : Closed graph values) (key : Key) :
    Graph.error graph values ≠ .error (.missingKey key) := by
  intro failed
  rcases (Outcome.bind_error_iff _ _ _).mp failed with failed | ⟨_, _, impossible⟩
  · obtain ⟨f, mem, cause⟩ := Outcome.map_all_error _ _ _ failed
    exact f.error_not_missing values (closed f (List.mem_of_mem_filter mem)) key cause
  · cases impossible

theorem linearize_not_missing (graph : Graph α) (values : Values α) (closed : Closed graph values) (key : Key) :
    Graph.linearize graph values ≠ .error (.missingKey key) := by
  intro failed
  obtain ⟨f, mem, cause⟩ := Outcome.map_all_error _ _ _ failed
  exact f.linearize_not_missing values (closed f mem) key cause

end Graph

end FactorGraph
