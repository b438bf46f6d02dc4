import Mathlib
import FactorGraph.Graph.Marginals
import FactorGraph.Proofs.Graph.Assembly
import FactorGraph.Proofs.Lie.Propagation
import FactorGraph.Proofs.Linear.Covariance

set_option autoImplicit false

open Matrix

namespace FactorGraph

open RealOrNaN

def Span.columns (span : Span) (n : ℕ) (inside : span.offset + span.dimension ≤ n) : Fin span.dimension → Fin n :=
  fun i => ⟨span.offset + i, (Nat.add_lt_add_left i.isLt _).trans_le inside⟩

theorem Span.columns_injective (span : Span) (n : ℕ) (inside : span.offset + span.dimension ≤ n) :
    Function.Injective (span.columns n inside) := by
  intro i j same
  exact Fin.ext (Nat.add_left_cancel (congrArg Fin.val same))

namespace LinearSystem

def demand {α : Type} [Scalar α] (system : LinearSystem α) : Demand α :=
  ⟨Block.column (system.rhs.map (- ·)), system.jacobian, none⟩

variable (system : LinearSystem RealOrNaN)

def information : Matrix (Fin system.jacobian.cols) (Fin system.jacobian.cols) ℝ :=
  let J := (system.jacobian.map value).toMatrix (system.jacobian.map value).height system.jacobian.cols
  Jᵀ * J

-- The Jacobian consists of numbers, and its columns are independent.
structure Regular : Prop where
  numeric : system.demand.Numeric
  nonsingular : system.information.det ≠ 0

theorem normal_matrix_eq : (system.demand.map value).normalMatrix system.jacobian.cols = system.information := by
  change system.information + (0 : ℝ) • 1 = system.information
  rw [zero_smul, add_zero]

theorem information_pos_def (nonsingular : system.information.det ≠ 0) : system.information.PosDef :=
  (gram_pos_semidef _ _ _).posDef_iff_det_ne_zero.mpr nonsingular

-- The block is, in numbers, the part of the inverse of `JᵀJ` at the columns of a variable.
structure Marginal (span : Span) (block : Block RealOrNaN) : Prop where
  inside : span.offset + span.dimension ≤ system.jacobian.cols
  shape : block.shape = (span.dimension, span.dimension)
  finite : block.isFinite = true
  inverse : (block.map value).toMatrix span.dimension =
    system.information⁻¹.submatrix (span.columns _ inside) (span.columns _ inside)
  positive : ((block.map value).toMatrix span.dimension).PosDef

end LinearSystem

theorem RealOrNaN.numbers_of_whole (v : List RealOrNaN) (whole : Whole v) : (v.map value).map number = v := by
  rw [List.map_map]
  exact (List.map_congr_left fun a mem => number_value a (List.all_eq_true.mp whole a mem)).trans v.map_id

theorem RealOrNaN.whole_of_numbers {v : List RealOrNaN} {x : List ℝ} (same : v = x.map number) : Whole v := by
  simp [same, Whole, Scalar.isFinite]

-- The matrix to be factored consists of numbers, and has an inverse.
structure Demand.Regular (demand : Demand RealOrNaN) : Prop where
  numeric : demand.Numeric
  nonsingular : ((demand.map value).normalMatrix demand.jacobian.cols).det ≠ 0

-- A regular matrix is factored, and its factors solve with numbers; what is solved with numbers is solved exactly.
structure Method.Inverts (method : Method RealOrNaN) (demand : Demand RealOrNaN) : Prop where
  solves : demand.Regular → ∃ plan factors, method.plan demand.matrix.pattern = some plan ∧
    method.factor plan demand.matrix = some factors ∧
    ∀ rhs : List ℝ, rhs.length = demand.jacobian.cols → Whole (method.solve factors (rhs.map number))
  exact : method.Exact demand

section Solvers

variable (demand : Demand RealOrNaN)

theorem Solver.answers_regular (fits : demand.residual.height = demand.jacobian.height ∧ demand.residual.cols = 1)
    {method : Method RealOrNaN} (inverts : method.Inverts demand) (regular : demand.Regular)
    (whole : Whole demand.gradient) : ∃ x : Fin demand.jacobian.cols → ℝ,
      (Solver.start : Solver method).answer demand = .ok ((List.ofFn x).map number) ∧
        (demand.map value).normalMatrix demand.jacobian.cols *ᵥ x =
          -vector demand.jacobian.cols (demand.gradient.map value) := by
  obtain ⟨plan, factors, planned, factored, solves⟩ := inverts.solves regular
  have negated : demand.gradient.map (- ·) = ((demand.gradient.map value).map (- ·)).map number := by
    conv_lhs => rw [← numbers_of_whole _ whole]
    simp only [List.map_map]
    rfl
  have length : ((demand.gradient.map value).map (- ·)).length = demand.jacobian.cols := by
    rw [List.length_map, List.length_map]
    exact SparseMatrix.transpose_mul_vec_length _ _
  have finite := solves _ length
  rw [← negated] at finite
  obtain ⟨x, solution, exact⟩ := (inverts.exact plan factors planned factored finite).solves _ length
  rw [← negated] at solution
  refine ⟨x, (Solver.start.answer_ok_iff Solver.start_planned demand _).mpr
    ⟨fits, plan, factors, planned, factored, solution.symm, solution ▸ finite⟩, exact.trans (vector_neg _ _)⟩

theorem Method.cholesky_inverts (raised : 0 ≤ (demand.map value).damping.getD 0) : Method.cholesky.Inverts demand := by
  refine ⟨fun regular => ?_, Method.cholesky_exact demand⟩
  have semidefinite : ((demand.map value).normalMatrix demand.jacobian.cols).PosSemidef :=
    (gram_pos_semidef _ _ _).add (PosSemidef.one.smul raised)
  have positive := semidefinite.posDef_iff_det_ne_zero.mpr regular.nonsingular
  rw [← (demand.map value).to_matrix_places demand.jacobian.cols rfl] at positive
  obtain ⟨columns, factored⟩ := Cholesky.factor_of_pos_def _ (demand.map value).open_rows_square positive
  refine ⟨_, columns.map (Cholesky.Column.map number), rfl, ?_, fun rhs _ => ?_⟩
  · change Cholesky.factor demand.matrix.pattern.length demand.matrix.openRows = _
    rw [demand.pattern_size, demand.open_rows_value regular.numeric, Cholesky.factor_numbers]
    exact congrArg _ factored
  · have roots : ∀ column ∈ columns, column.root ≠ 0 := fun column mem =>
      (Cholesky.root_pos _ _ columns factored column mem).ne'
    exact whole_of_numbers (Cholesky.solve_numbers columns roots rhs)

theorem Method.qr_inverts (precise : demand.Numeric →
    Reflection.PreciseThroughout demand.jacobian.cols (demand.map value).matrix.openRows) : Method.qr.Inverts demand := by
  refine ⟨fun regular => ?_, Method.qr_exact demand precise⟩
  have nonsingular := regular.nonsingular
  rw [← (demand.map value).to_matrix_places demand.jacobian.cols rfl] at nonsingular
  have apart := Reflection.diagonal_ne_zero _ _ (demand.map value).open_rows_square
    (fun x => eq_zero_of_mulVec_eq_zero nonsingular) (precise regular.numeric)
  refine ⟨_, _, rfl, ?_, fun rhs _ => whole_of_numbers (Reflection.solve_numbers _ apart rhs)⟩
  change some (Reflection.factor demand.matrix.pattern.length demand.matrix.openRows) = _
  rw [demand.pattern_size, demand.open_rows_value regular.numeric, Reflection.factor_numbers]
  rfl

end Solvers

theorem LinearSystem.demand_regular (system : LinearSystem RealOrNaN) (regular : system.Regular) :
    system.demand.Regular :=
  ⟨regular.numeric, system.normal_matrix_eq.symm ▸ regular.nonsingular⟩

section Blocks

theorem Block.principal_part (n : ℕ) (b : Block RealOrNaN) (shape : b.shape = (n, n)) (span : Span)
    (inside : span.offset + span.dimension ≤ n) :
    ∃ part, b.principal span.offset span.dimension = some part ∧ part.shape = (span.dimension, span.dimension) ∧
      (b.isFinite = true → part.isFinite = true) ∧
      (part.map value).toMatrix span.dimension =
        ((b.map value).toMatrix n).submatrix (span.columns n inside) (span.columns n inside) := by
  obtain ⟨height, cols⟩ := Prod.mk.inj shape
  have fits : span.offset + span.dimension ≤ b.cols ∧ span.offset + span.dimension ≤ b.height :=
    ⟨cols ▸ inside, height ▸ inside⟩
  refine ⟨_, dif_pos fits, ?_, fun finite => ?_, ?_⟩
  · have tall : span.dimension ≤ b.rows.length - span.offset := Nat.le_sub_of_add_le' fits.2
    simp [Block.shape, Block.height, tall]
  · rw [Block.isFinite, List.all_eq_true] at finite ⊢
    intro row mem
    obtain ⟨whole, member, rfl⟩ := List.mem_map.mp mem
    have entries := List.all_eq_true.mp (finite whole (List.mem_of_mem_drop (List.mem_of_mem_take member)))
    exact List.all_eq_true.mpr fun a among => entries a (List.mem_of_mem_drop (List.mem_of_mem_take among))
  · ext i j
    have row : span.offset + i.val < b.rows.length := (Nat.add_lt_add_left i.isLt _).trans_le fits.2
    simp [Block.toMatrix, Block.map, vector, Span.columns, row]

theorem keys_filter_map {κ ν μ : Type} (f : κ × ν → Option (κ × μ)) (es : List (κ × ν))
    (each : ∀ e ∈ es, ∃ made, f e = some (e.1, made)) : (es.filterMap f).map Prod.fst = es.map Prod.fst := by
  induction es with
  | nil => rfl
  | cons e rest ih =>
      obtain ⟨⟨made, here⟩, others⟩ := List.forall_mem_cons.mp each
      rw [List.filterMap_cons_some here, List.map_cons, List.map_cons, ih others]

end Blocks

namespace LinearSystem

variable (system : LinearSystem RealOrNaN) (C : Block RealOrNaN) (inverted : system.demand.InvertedBy C)

include inverted

theorem inverse_eq : (C.map value).toMatrix system.jacobian.cols = system.information⁻¹ := by
  have product : (C.map value).toMatrix system.jacobian.cols * system.information = 1 := by
    rw [← system.normal_matrix_eq]
    exact inverted.right
  exact (inv_eq_left_inv product).symm

theorem inverted_regular : system.Regular := by
  refine ⟨inverted.numeric, ?_⟩
  have product : system.information * (C.map value).toMatrix system.jacobian.cols = 1 := by
    rw [← system.normal_matrix_eq]
    exact inverted.left
  exact det_ne_zero_of_right_inverse product

theorem principal_marginal (span : Span) (inside : span.offset + span.dimension ≤ system.jacobian.cols) :
    ∃ part, C.principal span.offset span.dimension = some part ∧ system.Marginal span part := by
  have square : C.shape = (system.jacobian.cols, system.jacobian.cols) := inverted.shape
  obtain ⟨part, cut, shape, finite, entries⟩ := C.principal_part _ square span inside
  rw [inverse_eq system C inverted] at entries
  refine ⟨part, cut, inside, shape, finite inverted.finite, entries, ?_⟩
  have whole := system.information_pos_def (inverted_regular system C inverted).nonsingular
  exact entries ▸ whole.inv.submatrix (span.columns_injective _ inside)

theorem marginals_inverse (layout : Layout) (fits : layout.Inside) (total : system.jacobian.cols = layout.total) :
    (marginals C layout).map Prod.fst = layout.spans.keys ∧
      ∀ key block, (key, block) ∈ marginals C layout →
        ∃ span, layout.span? key = some span ∧ system.Marginal span block := by
  have each (key : Key) (span : Span) (mem : (key, span) ∈ layout.spans.entries) : layout.span? key = some span ∧
      ∃ part, C.principal span.offset span.dimension = some part ∧ system.Marginal span part := by
    have found := (SortedMap.get_eq_some_iff layout.spans key span).mpr mem
    exact ⟨found, principal_marginal system C inverted span (total ▸ fits key span found)⟩
  constructor
  · refine keys_filter_map _ _ fun (key, span) mem => ?_
    obtain ⟨_, part, cut, _⟩ := each key span mem
    exact ⟨part, congrArg (Option.map (key, ·)) cut⟩
  · intro key block mem
    obtain ⟨⟨key, span⟩, among, made⟩ := List.mem_filterMap.mp mem
    obtain ⟨found, part, cut, marginal⟩ := each key span among
    cases (congrArg (Option.map (key, ·)) cut).symm.trans made
    exact ⟨span, found, marginal⟩

end LinearSystem

end FactorGraph
