import FactorGraph.Proofs.Graph.Assembly
import FactorGraph.Proofs.Graph.Linearization
import FactorGraph.Proofs.Linear.Pattern

set_option autoImplicit false

namespace FactorGraph

variable {α : Type} [Scalar α]

namespace LinearFactor

omit [Scalar α] in
theorem columns_of_row (total : Nat) (blocks : List (Nat × Block α)) (i : Nat)
    (inside : ∀ place ∈ blocks, place.1 + place.2.cols ≤ total) :
    ∀ column ∈ (entriesOfRow blocks i).map Prod.fst, column < total := by
  intro column written
  obtain ⟨entry, mem, rfl⟩ := List.mem_map.mp written
  obtain ⟨⟨offset, block⟩, among, mem⟩ := List.mem_flatMap.mp mem
  obtain ⟨j, bound, rfl⟩ := List.mem_mapIdx.mp mem
  have width : j < block.cols := by
    cases row : block.rows[i]? with
    | none => simp [row] at bound
    | some entries =>
        simp only [row, Option.getD_some] at bound
        exact (block.length_of_mem entries (List.mem_of_getElem? row)) ▸ bound
  have := inside (offset, block) among
  simp only at this ⊢
  omega

theorem sparse_rows_inside (layout : Layout) (fits : layout.Inside) (factor : LinearFactor α)
    (rows : List (SortedMap Nat α)) (assembled : factor.sparseRows layout = .ok rows) :
    rows.length = factor.rows ∧ ∀ row ∈ rows, ∀ column ∈ row.keys, column < layout.total := by
  obtain ⟨blocks, laid, same⟩ := (Outcome.bind_ok_iff _ _ _).mp assembled
  cases same
  refine ⟨by simp, fun row mem column stored => ?_⟩
  obtain ⟨i, _, rfl⟩ := List.mem_map.mp mem
  have inside := placed_inside layout fits factor.rows _ blocks laid
  exact columns_of_row layout.total blocks i inside column ((SparseMatrix.mem_keys_row_of_entries _ column).mp stored)

end LinearFactor

namespace LinearGraph

theorem to_sparse_inside (graph : LinearGraph α) (layout : Layout) (fits : layout.Inside) (system : LinearSystem α)
    (assembled : graph.toSparse layout = .ok system) :
    system.jacobian.height = (graph.equalities.map (·.rows)).sum ∧ system.jacobian.cols = layout.total ∧
      system.rhs.length = (graph.equalities.map (·.rows)).sum ∧
      ∀ row ∈ system.jacobian.rows, ∀ column ∈ row.keys, column < layout.total := by
  obtain ⟨rows, each, rfl⟩ := graph.to_sparse_rows_of_ok layout system assembled
  have each := (Outcome.map_all_ok_iff _ _ _).mpr each
  have lengths : rows.map List.length = graph.equalities.map (·.rows) :=
    Outcome.map_all_measure _ _ _ _ _ each fun factor list made =>
      (LinearFactor.sparse_rows_inside layout fits factor list made).1
  refine ⟨by rw [SparseMatrix.height, List.length_flatten, lengths], rfl, List.length_flatMap, fun row mem => ?_⟩
  obtain ⟨list, among, mem⟩ := List.mem_flatten.mp mem
  obtain ⟨factor, _, made⟩ := Outcome.map_all_outputs _ _ _ each list among
  exact (LinearFactor.sparse_rows_inside layout fits factor list made).2 row mem

end LinearGraph

namespace NonlinearFactor

-- What a linear factor has from the factor that it stems from, and that the noise fits all that it whitens.
structure Represents (f : NonlinearFactor α) (values : Values α) (linear : LinearFactor α) : Prop where
  keys : linear.keys = f.keys
  kind : linear.kind = f.kind
  rhs : linear.rhs.length = f.dimension
  blocks : List.Forall₂ (fun key block => ∃ value, values.get? key = some value ∧
    block.shape = (f.dimension, value.dimension)) f.keys linear.jacobians
  whitened : ∃ arguments evaluation blocks, f.gather values = .ok arguments ∧
    f.evaluate arguments .derivatives = .ok evaluation ∧ evaluation.jacobians = some blocks ∧
    evaluation.residual.length = f.noise.dimension ∧ ∀ block ∈ blocks, block.height = f.noise.dimension

theorem linearize_represents (f : NonlinearFactor α) (values : Values α) (linear : LinearFactor α)
    (done : f.linearize values = .ok linear) : f.Represents values linear := by
  obtain ⟨keys, kind, rows, fits⟩ := linearize_fits f values linear done
  obtain ⟨arguments, evaluation, blocks, made⟩ := linearize_ok f values linear done
  refine ⟨keys, kind, rows, keys ▸ fits, arguments, evaluation, blocks, made.gathered, made.evaluated,
    made.derivatives, (check_residual_length f _ made.residual).trans f.noise_dimension.symm, fun block mem => ?_⟩
  have whitened : f.noise.whitenBlock block ∈ linear.jacobians := by
    rw [made.result]
    exact List.mem_map_of_mem mem
  obtain ⟨i, bound, same⟩ := List.mem_iff_getElem.mp whitened
  obtain ⟨_, _, shape⟩ := fits.get (fits.length_eq ▸ bound) bound
  rw [List.get_eq_getElem, same, Noise.whiten_block_shape] at shape
  exact (congrArg Prod.fst shape).trans f.noise_dimension.symm

theorem residual_checked (f : NonlinearFactor α) (values : Values α) (residual : List α)
    (done : f.residual values = .ok residual) : f.checkResidual residual = .ok () := by
  obtain ⟨_, _, done⟩ := (Outcome.bind_ok_iff _ _ _).mp done
  obtain ⟨evaluation, _, done⟩ := (Outcome.bind_ok_iff _ _ _).mp done
  obtain ⟨_, checked, done⟩ := (Outcome.bind_ok_iff _ _ _).mp done
  cases done
  exact checked

theorem residual_length (f : NonlinearFactor α) (values : Values α) (residual : List α)
    (done : f.residual values = .ok residual) : residual.length = f.noise.dimension :=
  (check_residual_length f _ (f.residual_checked values residual done)).trans f.noise_dimension.symm

theorem check_residual_finite (f : NonlinearFactor α) (residual : List α)
    (checked : f.checkResidual residual = .ok ()) : residual.all Scalar.isFinite = true := by
  rw [checkResidual, if_neg (not_not.mpr (check_residual_length f _ checked))] at checked
  by_cases finite : residual.all Scalar.isFinite = true
  · exact finite
  · rw [if_neg finite] at checked
    cases checked

end NonlinearFactor

namespace Graph

theorem equalities_linearized (graph : Graph α) (values : Values α) (linear : LinearGraph α)
    (done : graph.linearize values = .ok linear) :
    List.Forall₂ (fun f l => f.linearize values = .ok l) graph.equalities linear.equalities := by
  induction (Outcome.map_all_ok_iff _ _ _).mp done with
  | nil => exact .nil
  | @cons f l graph linear here others ih =>
      have rest := ih ((Outcome.map_all_ok_iff _ _ _).mpr others)
      have kind := (NonlinearFactor.linearize_represents f values l here).kind
      cases equality : f.kind with
      | equality =>
          simpa [equalities, LinearGraph.equalities, NonlinearFactor.isInequality, kind, equality,
            FactorKind.dual?] using And.intro here rest
      | inequality dual =>
          simpa [equalities, LinearGraph.equalities, NonlinearFactor.isInequality, kind, equality,
            FactorKind.dual?] using rest

/-- Where a graph linearizes, with factors that answer what they like, its linear factors represent its factors one by
one, and they can be put together to a sparse system whose entries are all inside. -/
theorem linearize_assembles (graph : Graph α) (values : Values α) (linear : LinearGraph α)
    (done : graph.linearize values = .ok linear) :
    List.Forall₂ (fun f l => f.Represents values l) graph linear ∧
    (∃ system, linear.toSparse (.ofValues values) = .ok system ∧
      system.jacobian.height = (graph.equalities.map (·.dimension)).sum ∧
      system.rhs.length = (graph.equalities.map (·.dimension)).sum ∧
      system.jacobian.cols = values.dimension ∧
      ∀ row ∈ system.jacobian.rows, ∀ column ∈ row.keys, column < values.dimension) ∧
    ∀ f ∈ graph, ∀ residual, f.residual values = .ok residual → residual.length = f.noise.dimension := by
  have each := (Outcome.map_all_ok_iff _ _ _).mp done
  obtain ⟨system, assembled⟩ := to_sparse_succeeds graph values linear done
  obtain ⟨height, cols, length, inside⟩ := linear.to_sparse_inside _ (Layout.of_values_inside values) system assembled
  have rows : linear.equalities.map (·.rows) = graph.equalities.map (·.dimension) :=
    Outcome.map_all_measure _ _ _ _ _
      ((Outcome.map_all_ok_iff _ _ _).mpr (equalities_linearized graph values linear done))
      fun f l here => (f.linearize_represents values l here).rhs
  rw [rows] at height length
  exact ⟨each.imp fun f l here => f.linearize_represents values l here,
    ⟨system, assembled, height, length, cols, inside⟩, fun f _ => f.residual_length values⟩

-- Factors that answer the same wherever they are evaluated, the second on a variable that it names twice and on one
-- without dimensions.
def fixedAnswers : Graph Float :=
  [⟨[⟨'p', 0⟩], ⟨1, fun _ _ => .ok ⟨[0.5], some [.row [1.0, 2.0]]⟩⟩,
    .diagonal [2.0], .inequality ⟨'d', 0⟩, rfl, by simp⟩,
   ⟨[⟨'p', 0⟩, ⟨'e', 0⟩, ⟨'p', 0⟩], ⟨2, fun _ _ => .ok ⟨[1.0, -1.0], some [.identity 2, .zero 2 0, .identity 2]⟩⟩,
    .diagonal [2.0, 4.0], .equality, rfl, by simp⟩]

def emptyBeside : Values Float :=
  (SortedMap.empty.insert ⟨'p', 0⟩ (.vector [3.0, 4.0])).insert ⟨'e', 0⟩ (.vector [])

theorem linearize_assembles_fixed_answers :
    ∃ linear system, Graph.linearize fixedAnswers emptyBeside = .ok linear ∧ linear.length = 2 ∧
      linear.toSparse (.ofValues emptyBeside) = .ok system ∧ system.jacobian.height = 2 ∧ system.jacobian.cols = 2 := by
  obtain ⟨linear, done, _⟩ := Outcome.passes_ok (fun _ => true) (Graph.linearize fixedAnswers emptyBeside)
    (by decide +kernel)
  obtain ⟨represented, ⟨system, assembled, height, _, cols, _⟩, _⟩ :=
    linearize_assembles fixedAnswers emptyBeside linear done
  exact ⟨linear, system, done, represented.length_eq.symm, assembled, height, cols⟩

end Graph

end FactorGraph
