import Mathlib
import FactorGraph.Proofs.Graph.Stacking
import FactorGraph.Proofs.Linear.Dense

set_option autoImplicit false

open Matrix

namespace FactorGraph

open SparseMatrix

noncomputable def misfit (rows : List (SortedMap Nat ℝ)) (rhs x : List ℝ) : List ℝ :=
  List.zipWith (fun row b => rowDot row x - b) rows rhs

namespace LinearFactor

theorem sum_placed_row (offset : ℕ) (row x : List ℝ) (inside : offset + row.length ≤ x.length) :
    ((row.mapIdx fun j a => (offset + j, a)).map fun e => e.2 * x[e.1]?.getD 0).sum =
      Block.dot row ((x.drop offset).take row.length) := by
  rw [dot_eq_sum]
  congr 1
  apply List.ext_getElem
  · simp only [List.length_map, List.length_mapIdx, List.length_zipWith, List.length_take, List.length_drop]
    omega
  · intro j bound _
    simp only [List.length_map, List.length_mapIdx] at bound
    have present : offset + j < x.length := by omega
    simp [present]

theorem row_dot_placed (offset : ℕ) (block : Block ℝ) (blocks : List (ℕ × Block ℝ)) (x : List ℝ)
    (inside : offset + block.cols ≤ x.length) (i : ℕ) (bound : i < block.rows.length) :
    rowDot (rowOfEntries (entriesOfRow ((offset, block) :: blocks) i)) x =
      Block.dot block.rows[i] ((x.drop offset).take block.cols) +
        rowDot (rowOfEntries (entriesOfRow blocks i)) x := by
  have width : block.rows[i].length = block.cols := block.length_of_mem _ (List.getElem_mem bound)
  have entries : entriesOfRow ((offset, block) :: blocks) i =
      (block.rows[i].mapIdx fun j a => (offset + j, a)) ++ entriesOfRow blocks i := by
    simp [entriesOfRow, bound]
  rw [row_dot_row_of_entries, row_dot_row_of_entries, entries, List.map_append, List.sum_append,
    sum_placed_row offset _ x (width ▸ inside), width]

theorem moved_placed (layout : Layout) (fits : layout.Inside) (x : List ℝ) (total : x.length = layout.total)
    (height : ℕ) (entries : List (Key × Block ℝ)) (blocks : List (ℕ × Block ℝ)) (residual : List ℝ)
    (length : residual.length = height) (laid : placed layout height entries = .ok blocks) :
    moved (layout.spans.map fun _ span => Layout.part x span) entries residual =
      .ok (List.zipWith (· + ·) residual
        ((List.range height).map fun i => rowDot (rowOfEntries (entriesOfRow blocks i)) x)) := by
  -- By induction on the blocks, while the residual grows: each block adds its row before the later ones are met.
  induction entries generalizing blocks residual with
  | nil =>
      cases laid
      rw [moved]
      congr 1
      apply List.ext_getElem (by simp [length])
      intro i _ _
      simp [row_dot_row_of_entries, entriesOfRow]
  | cons entry rest ih =>
      obtain ⟨key, block⟩ := entry
      rw [placed] at laid
      cases found : layout.span? key with
      | none => simp [found] at laid
      | some span =>
          simp only [found] at laid
          split at laid
          · rename_i shape
            obtain ⟨others, tail, same⟩ := (Outcome.bind_ok_iff _ _ _).mp laid
            cases same
            obtain ⟨tall, wide⟩ := Prod.mk.inj shape
            have inside := fits key span found
            have part : (Layout.part x span).length = block.cols := by
              simp only [Layout.part, List.length_take, List.length_drop]
              omega
            have named : (layout.spans.map fun _ span => Layout.part x span).get? key = some (Layout.part x span) := by
              rw [SortedMap.get_map, Option.map_eq_some_iff]
              exact ⟨span, found, rfl⟩
            simp only [moved, named, if_pos part]
            rw [ih others _ (by simp [Block.mulVec, length, ← tall, Block.height]) tail]
            congr 1
            apply List.ext_getElem (by simp [Block.mulVec, length, ← tall, Block.height])
            intro i _ bound
            have low : i < block.rows.length := by
              simp only [List.length_zipWith, List.length_map, List.length_range, ← tall, Block.height] at bound
              omega
            simp only [List.getElem_zipWith, List.getElem_map, List.getElem_range, Block.mulVec]
            rw [row_dot_placed span.offset block others x (by omega) i low, ← add_assoc]
            simp only [Layout.part, wide]
          · cases laid

theorem error_eq_misfit (layout : Layout) (fits : layout.Inside) (x : List ℝ) (total : x.length = layout.total)
    (factor : LinearFactor ℝ) (rows : List (SortedMap Nat ℝ)) (assembled : factor.sparseRows layout = .ok rows) :
    rows.length = factor.rhs.length ∧
      factor.error (layout.spans.map fun _ span => Layout.part x span) =
        .ok (Block.dot (misfit rows factor.rhs x) (misfit rows factor.rhs x)) := by
  obtain ⟨blocks, laid, same⟩ := (Outcome.bind_ok_iff _ _ _).mp assembled
  cases same
  refine ⟨by simp [LinearFactor.rows], ?_⟩
  have shifted := moved_placed layout fits x total factor.rows (factor.keys.zip factor.jacobians) blocks
    (factor.rhs.map (- ·)) (by simp [LinearFactor.rows]) laid
  rw [error, shifted, Outcome.ok_bind, Outcome.return_ok]
  suffices same : List.zipWith (· + ·) (factor.rhs.map (- ·))
      ((List.range factor.rows).map fun i => rowDot (rowOfEntries (entriesOfRow blocks i)) x) =
      misfit ((List.range factor.rows).map fun i => rowOfEntries (entriesOfRow blocks i)) factor.rhs x by
    rw [same]
  apply List.ext_getElem (by simp [misfit, LinearFactor.rows])
  intro i _ _
  simp [misfit, neg_add_eq_sub]

end LinearFactor

namespace LinearGraph

theorem misfit_append (rows others : List (SortedMap Nat ℝ)) (rhs more x : List ℝ)
    (length : rows.length = rhs.length) :
    Block.dot (misfit (rows ++ others) (rhs ++ more) x) (misfit (rows ++ others) (rhs ++ more) x) =
      Block.dot (misfit rows rhs x) (misfit rows rhs x) + Block.dot (misfit others more x) (misfit others more x) := by
  rw [misfit, List.zipWith_append length, dot_eq_sum, List.zipWith_append rfl, List.sum_append, ← dot_eq_sum,
    ← dot_eq_sum]
  rfl

theorem errors_eq_misfit (layout : Layout) (fits : layout.Inside) (x : List ℝ) (total : x.length = layout.total)
    (factors : List (LinearFactor ℝ)) (rows : List (List (SortedMap Nat ℝ)))
    (assembled : List.Forall₂ (fun f r => LinearFactor.sparseRows layout f = .ok r) factors rows) :
    rows.flatten.length = (factors.flatMap (·.rhs)).length ∧
      ∃ errors, factors.mapM (·.error (layout.spans.map fun _ span => Layout.part x span)) = .ok errors ∧
        errors.sum = Block.dot (misfit rows.flatten (factors.flatMap (·.rhs)) x)
          (misfit rows.flatten (factors.flatMap (·.rhs)) x) := by
  induction assembled with
  | nil => exact ⟨rfl, [], rfl, by simp [misfit, Block.dot]⟩
  | @cons factor first _ _ here others ih =>
      obtain ⟨height, evaluated⟩ := LinearFactor.error_eq_misfit layout fits x total _ _ here
      obtain ⟨heights, errors, rest, sum⟩ := ih
      refine ⟨by simp [height, ← heights],
        Block.dot (misfit first factor.rhs x) (misfit first factor.rhs x) :: errors, ?_, ?_⟩
      · rw [List.mapM_cons, evaluated, Outcome.ok_bind, rest]
        rfl
      · rw [List.sum_cons, sum, List.flatten_cons, List.flatMap_cons, misfit_append _ _ _ _ _ height]

variable {α : Type} [Scalar α]

-- The error after the step that is cut from a column.
def errorAt (graph : LinearGraph α) (layout : Layout) (x : List α) : Except (GraphError α) α := do
  let updates ← layout.split (Block.column x)
  error graph updates

theorem vector_misfit (n : ℕ) (jacobian : SparseMatrix ℝ) (rhs x : List ℝ) (height : jacobian.rows.length = rhs.length)
    (length : x.length = n) :
    vector rhs.length (misfit jacobian.rows rhs x) =
      jacobian.toMatrix rhs.length n *ᵥ vector n x - vector rhs.length rhs := by
  rw [← to_matrix_mul_vec _ n jacobian x length]
  funext i
  have row : i.val < jacobian.rows.length := by rw [height]; exact i.isLt
  simp [vector, misfit, SparseMatrix.mulVec, row]

theorem error_at_eq_quadratic (graph : LinearGraph ℝ) (values : Values ℝ) (system : LinearSystem ℝ)
    (assembled : graph.toSparse (.ofValues values) = .ok system) (x : List ℝ)
    (length : x.length = (Layout.ofValues values).total) :
    let J := system.jacobian.toMatrix system.rhs.length (Layout.ofValues values).total
    let b := vector system.rhs.length system.rhs
    system.jacobian.height = system.rhs.length ∧ system.jacobian.cols = (Layout.ofValues values).total ∧
      errorAt graph (.ofValues values) x = .ok ((J *ᵥ vector _ x - b) ⬝ᵥ (J *ᵥ vector _ x - b)) := by
  intro J b
  obtain ⟨rows, each, rfl⟩ := to_sparse_rows_of_ok graph (.ofValues values) system assembled
  obtain ⟨height, errors, evaluated, sum⟩ := errors_eq_misfit (.ofValues values) (Layout.of_values_inside values)
    x length (equalities graph) rows each
  refine ⟨height, rfl, ?_⟩
  rw [← vector_misfit _ _ _ _ height length, ← dot_eq_dot_product _ _ _ (by simp [misfit]), errorAt,
    Layout.split_column _ _ length, Outcome.ok_bind, error, evaluated, Outcome.ok_bind, Outcome.return_ok,
    total_eq_sum, sum]

theorem error_at_eq_squared_norm (graph : LinearGraph ℝ) (values : Values ℝ) (system : LinearSystem ℝ)
    (assembled : graph.toSparse (.ofValues values) = .ok system)
    (x : Fin (Layout.ofValues values).total → ℝ) :
    let J := system.jacobian.toMatrix system.rhs.length (Layout.ofValues values).total
    let b := vector system.rhs.length system.rhs
    system.jacobian.height = system.rhs.length ∧ system.jacobian.cols = (Layout.ofValues values).total ∧
      errorAt graph (.ofValues values) (List.ofFn x) = .ok ((J *ᵥ x - b) ⬝ᵥ (J *ᵥ x - b)) := by
  have quadratic := error_at_eq_quadratic graph values system assembled (List.ofFn x) List.length_ofFn
  rwa [vector_of_fn] at quadratic

noncomputable def namedTwice : LinearGraph ℝ :=
  [⟨[⟨'x', 0⟩], [Block.column [7]], [5], .inequality ⟨'u', 0⟩⟩,
   ⟨[⟨'x', 0⟩, ⟨'x', 0⟩], [Block.column [2], Block.column [3]], [1], .equality⟩]

noncomputable def oneNumber : Values ℝ := SortedMap.empty.insert ⟨'x', 0⟩ (.vector [0])

-- The two blocks add up in the only row: (2 + 3) · 1 - 1 is four.
theorem error_at_eq_squared_norm_named_twice :
    ∃ system, toSparse namedTwice (.ofValues oneNumber) = .ok system ∧ system.jacobian.height = 1 ∧
      errorAt namedTwice (.ofValues oneNumber) [1] = .ok 16 := by
  have assembled : toSparse namedTwice (.ofValues oneNumber) =
      .ok ⟨⟨1, [rowOfEntries [(0, 2), (0, 3)]]⟩, [1]⟩ := rfl
  obtain ⟨height, _, evaluated⟩ := error_at_eq_squared_norm _ _ _ assembled ![1]
  refine ⟨_, assembled, height, evaluated.trans (congrArg Except.ok ?_)⟩
  change (∑ i : Fin 1, ((∑ j : Fin 1, entry _ j * _) - _) * ((∑ j : Fin 1, entry _ j * _) - _)) = (16 : ℝ)
  norm_num [entry_row_of_entries, vector]

end LinearGraph

end FactorGraph
