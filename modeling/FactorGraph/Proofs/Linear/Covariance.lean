import FactorGraph.Proofs.Linear.Damping
import FactorGraph.Proofs.Linear.Finite
import FactorGraph.Proofs.Linear.Numbers
import FactorGraph.Proofs.Linear.Stored

set_option autoImplicit false

open Matrix

namespace FactorGraph

open RealOrNaN

section Map

variable {α β : Type} (f : α → β)

def Block.map (b : Block α) : Block β where
  cols := b.cols
  rows := b.rows.map (List.map f)
  length_of_mem row mem := by
    obtain ⟨whole, inside, rfl⟩ := List.mem_map.mp mem
    simp [b.length_of_mem whole inside]

omit f in
theorem Block.ext_rows (a b : Block α) (cols : a.cols = b.cols) (rows : a.rows = b.rows) : a = b := by
  cases a
  cases b
  cases cols
  cases rows
  rfl

def SparseMatrix.map (m : SparseMatrix α) : SparseMatrix β := ⟨m.cols, m.rows.map (SortedMap.map fun _ => f)⟩

def Demand.map (demand : Demand α) : Demand β :=
  ⟨demand.residual.map f, demand.jacobian.map f, demand.damping.map f⟩

end Map

def RealOrNaN.value : RealOrNaN → ℝ
  | number x => x
  | nan => 0

theorem RealOrNaN.number_value (a : RealOrNaN) (finite : Scalar.isFinite a = true) : number a.value = a := by
  obtain ⟨x, rfl⟩ := (finite_iff a).mp finite
  rfl

namespace SparseMatrix

theorem foldl_added_nan (values : List RealOrNaN) (sum : Option RealOrNaN) (spoilt : nan ∈ values ∨ sum = some nan) :
    values.foldl added sum = some nan := by
  induction values generalizing sum with
  | nil => exact spoilt.resolve_left (by simp)
  | cons a rest ih =>
      rw [List.foldl_cons]
      apply ih
      rcases spoilt with mem | rfl
      · rcases List.mem_cons.mp mem with rfl | later
        · exact .inr (by cases sum <;> simp [added])
        · exact .inl later
      · exact .inr (by simp [added])

theorem foldl_added_number (values : List ℝ) (sum : Option ℝ) :
    (values.map number).foldl added (sum.map number) = (values.foldl added sum).map number := by
  induction values generalizing sum with
  | nil => rfl
  | cons a rest ih =>
      have step : added (sum.map number) (number a) = (added sum a).map number := by cases sum <;> rfl
      rw [List.map_cons, List.foldl_cons, List.foldl_cons, step, ih]

end SparseMatrix

open SparseMatrix

namespace Demand

variable (demand : Demand RealOrNaN)

structure Numeric : Prop where
  jacobian : ∀ row ∈ demand.jacobian.rows, ∀ j < demand.jacobian.cols, ∀ a, row.get? j = some a →
    Scalar.isFinite a = true
  damping : 0 < demand.jacobian.cols → ∀ a, demand.damping = some a → Scalar.isFinite a = true

theorem summand_of_nan (i : Nat) (inside : i < demand.jacobian.cols) (spoilt : nan ∈ demand.summands i i) :
    NanAt i i demand.matrix.openRows := by
  have place := demand.place_matrix i i inside
  rw [foldl_added_nan _ none (.inl spoilt)] at place
  rw [demand.open_rows_matrix]
  exact ⟨_, by rw [List.getElem?_map, List.getElem?_range inside]; rfl, by simp [inside, place]⟩

theorem numeric_of_diagonal (sound : ∀ i, ¬ NanAt i i demand.matrix.openRows) : demand.Numeric := by
  constructor
  · intro row mem j inside a found
    cases a with
    | number x => rfl
    | nan =>
        refine absurd (demand.summand_of_nan j inside (List.mem_append_left _ ?_)) (sound j)
        exact List.mem_flatMap.mpr ⟨row, mem, by simp [productAt, found]⟩
  · intro positive a found
    cases a with
    | number x => rfl
    | nan =>
        refine absurd (demand.summand_of_nan 0 positive (List.mem_append_right _ ?_)) (sound 0)
        simp [found]

theorem summands_value (numeric : demand.Numeric) (i j : Nat) (row : i < demand.jacobian.cols)
    (column : j < demand.jacobian.cols) : demand.summands i j = ((demand.map value).summands i j).map number := by
  have products (stored : SortedMap Nat RealOrNaN) (mem : stored ∈ demand.jacobian.rows) :
      productAt i j stored = (productAt i j (stored.map fun _ => value)).map number := by
    simp only [productAt, SortedMap.get_map]
    cases first : stored.get? i with
    | none => rfl
    | some a =>
        cases second : stored.get? j with
        | none => rfl
        | some b =>
            have left := number_value a (numeric.jacobian stored mem i row a first)
            have right := number_value b (numeric.jacobian stored mem j column b second)
            simp only [Option.map_some, List.map_cons, List.map_nil, ← number_mul, left, right]
  have damping : demand.damping.toList = (demand.damping.map value).toList.map number := by
    cases found : demand.damping with
    | none => rfl
    | some a => simp [number_value a (numeric.damping (Nat.zero_lt_of_lt row) a found)]
  simp only [summands, Demand.map, SparseMatrix.map, List.map_append, List.map_flatMap, List.flatMap_map]
  refine congrArg₂ (· ++ ·) (List.flatMap_congr products) ?_
  split
  · exact damping
  · rfl

theorem open_rows_value (numeric : demand.Numeric) :
    demand.matrix.openRows = (demand.map value).matrix.openRows.map numbers := by
  rw [open_rows_matrix, open_rows_matrix, List.map_map]
  refine List.map_congr_left fun i row => ?_
  change _ = ((List.range demand.jacobian.cols).map _).map (Option.map number)
  rw [List.map_map]
  refine List.map_congr_left fun j column => ?_
  have left : i < demand.jacobian.cols := List.mem_range.mp row
  have right : j < demand.jacobian.cols := List.mem_range.mp column
  rw [Function.comp_apply, demand.place_matrix i j left, (demand.map value).place_matrix i j left,
    demand.summands_value numeric i j left right]
  exact foldl_added_number _ none

end Demand

section Inverse

def Block.toMatrix (n : ℕ) (b : Block ℝ) : Matrix (Fin n) (Fin n) ℝ := .of fun i => vector n (b.rows[i.val]?.getD [])

noncomputable def unitSolutions (n : ℕ) (solution : List ℝ → List ℝ) : Block ℝ :=
  Block.ofColumns n ((Block.identity n).rows.map solution)

theorem mul_unit_solutions (n : ℕ) (A : Matrix (Fin n) (Fin n) ℝ) (solution : List ℝ → List ℝ)
    (solves : ∀ rhs : List ℝ, rhs.length = n → A *ᵥ vector n (solution rhs) = vector n rhs) :
    A * (unitSolutions n solution).toMatrix n = 1 := by
  ext i k
  have unit (k : Fin n) : (Block.identity n : Block ℝ).rows[k.val]? =
      some ((List.range n).map fun j => if k.val = j then 1 else 0) := by
    simp [Block.identity, Block.ofFn]
  have column : (fun j => (unitSolutions n solution).toMatrix n j k) =
      vector n (solution ((List.range n).map fun j => if k.val = j then 1 else 0)) := by
    funext j
    simp [unitSolutions, Block.toMatrix, Block.ofColumns, vector, unit]
  have solved := congrFun (solves ((List.range n).map fun j => if k.val = j then 1 else 0) (by simp)) i
  rw [← column] at solved
  change A i ⬝ᵥ _ = _ at solved
  rw [mul_apply', solved]
  simp [vector, Matrix.one_apply, Fin.ext_iff, eq_comm]

theorem inverse_number (n : ℕ) {method : Method RealOrNaN} (factors : method.Factors) (solution : List ℝ → List ℝ)
    (each : ∀ rhs : List ℝ, rhs.length = n → method.solve factors (rhs.map number) = (solution rhs).map number) :
    Solver.inverse n factors = (unitSolutions n solution).map number := by
  have unit (i : ℕ) : (List.range n).map (fun j => if i = j then (1 : RealOrNaN) else 0) =
      ((List.range n).map fun j => if i = j then (1 : ℝ) else 0).map number := by
    rw [List.map_map]
    refine List.map_congr_left fun j _ => ?_
    rw [Function.comp_apply]
    split <;> rfl
  have columns : (Block.identity n).rows.map (method.solve factors) =
      ((Block.identity n).rows.map solution).map (List.map number) := by
    simp only [Block.identity, Block.ofFn, List.map_map]
    refine List.map_congr_left fun i _ => ?_
    simp only [Function.comp_apply]
    rw [unit, each _ (by simp)]
  have entry (column : List ℝ) (i : ℕ) : (column.map number).getD i 0 = number (column.getD i 0) := by
    simp only [List.getD_eq_getElem?_getD, List.getElem?_map]
    cases column[i]? <;> rfl
  rw [Solver.inverse, columns, unitSolutions]
  refine Block.ext_rows _ _ (by simp [Block.ofColumns, Block.map]) ?_
  simp only [Block.ofColumns, Block.map, List.map_map]
  refine List.map_congr_left fun i _ => ?_
  rw [Function.comp_apply, List.map_map]
  exact List.map_congr_left fun rhs _ => entry (solution rhs) i

end Inverse

namespace Demand

def normalMatrix (n : ℕ) (demand : Demand ℝ) : Matrix (Fin n) (Fin n) ℝ :=
  let J := demand.jacobian.toMatrix demand.jacobian.height n
  Jᵀ * J + demand.damping.getD 0 • 1

theorem to_matrix_matrix (n : ℕ) (demand : Demand ℝ) (cols : demand.jacobian.cols = n) :
    demand.matrix.toMatrix n n = demand.normalMatrix n := by
  unfold matrix normalMatrix
  cases demand.damping with
  | none =>
      subst cols
      simpa [Solver.damped] using to_matrix_gram _ demand.jacobian le_rfl
  | some damping => exact to_matrix_damped n _ demand.jacobian cols rfl damping

theorem to_matrix_places (n : ℕ) (demand : Demand ℝ) (cols : demand.jacobian.cols = n) :
    Places.toMatrix n n demand.matrix.openRows = demand.normalMatrix n := by
  rw [to_matrix_open_rows n _ (demand.matrix_square.1.trans cols) (demand.matrix_square.2.trans cols),
    demand.to_matrix_matrix n cols]

theorem normal_matrix_symmetric (n : ℕ) (demand : Demand ℝ) : (demand.normalMatrix n).IsHermitian := by
  simp [normalMatrix, IsHermitian]

-- The matrix is, in numbers, the inverse of `JᵀJ`, damped or not.
structure InvertedBy (demand : Demand RealOrNaN) (C : Block RealOrNaN) : Prop where
  numeric : demand.Numeric
  shape : C.shape = (demand.jacobian.cols, demand.jacobian.cols)
  finite : C.isFinite = true
  left : (demand.map value).normalMatrix demand.jacobian.cols * (C.map value).toMatrix demand.jacobian.cols = 1
  right : (C.map value).toMatrix demand.jacobian.cols * (demand.map value).normalMatrix demand.jacobian.cols = 1

theorem inverted_by_inverse (demand : Demand RealOrNaN) (numeric : demand.Numeric) {method : Method RealOrNaN}
    (factors : method.Factors)
    (solves : ∀ rhs : List ℝ, rhs.length = demand.jacobian.cols → ∃ x : Fin demand.jacobian.cols → ℝ,
      method.solve factors (rhs.map number) = (List.ofFn x).map number ∧
        (demand.map value).normalMatrix demand.jacobian.cols *ᵥ x = vector demand.jacobian.cols rhs) :
    demand.InvertedBy (Solver.inverse demand.jacobian.cols factors) := by
  have total (rhs : List ℝ) : ∃ x : Fin demand.jacobian.cols → ℝ, rhs.length = demand.jacobian.cols →
      method.solve factors (rhs.map number) = (List.ofFn x).map number ∧
        (demand.map value).normalMatrix demand.jacobian.cols *ᵥ x = vector demand.jacobian.cols rhs := by
    by_cases length : rhs.length = demand.jacobian.cols
    · obtain ⟨x, solved⟩ := solves rhs length
      exact ⟨x, fun _ => solved⟩
    · exact ⟨0, fun same => absurd same length⟩
  choose solution solved using total
  have inverse := mul_unit_solutions _ ((demand.map value).normalMatrix demand.jacobian.cols)
    (fun rhs => List.ofFn (solution rhs)) fun rhs length => (vector_of_fn _ (solution rhs)).symm ▸ (solved rhs length).2
  rw [inverse_number _ factors _ fun rhs length => (solved rhs length).1]
  have back (b : Block ℝ) : (b.map number).map value = b := by
    refine Block.ext_rows _ _ rfl ?_
    simp [Block.map, Function.comp_def, value]
  refine ⟨numeric, ?_, ?_, (back _).symm ▸ inverse, (back _).symm ▸ mul_eq_one_comm.mp inverse⟩
  · simp [Block.shape, Block.height, Block.map, unitSolutions, Block.ofColumns, Block.identity, Block.ofFn]
  · simp [Block.isFinite, Block.map, Scalar.isFinite]

end Demand

-- In exact arithmetic: factors that solve the demand with numbers belong to a matrix of numbers, and each of its
-- systems is solved by them.
structure Method.ExactAt (method : Method RealOrNaN) (demand : Demand RealOrNaN) (factors : method.Factors) : Prop where
  numeric : demand.Numeric
  solves : ∀ rhs : List ℝ, rhs.length = demand.jacobian.cols → ∃ x : Fin demand.jacobian.cols → ℝ,
    method.solve factors (rhs.map number) = (List.ofFn x).map number ∧
      (demand.map value).normalMatrix demand.jacobian.cols *ᵥ x = vector demand.jacobian.cols rhs

def Method.Exact (method : Method RealOrNaN) (demand : Demand RealOrNaN) : Prop :=
  ∀ plan factors, method.plan demand.matrix.pattern = some plan → method.factor plan demand.matrix = some factors →
    (method.solve factors (demand.gradient.map (- ·))).all Scalar.isFinite = true → method.ExactAt demand factors

section Methods

variable (demand : Demand RealOrNaN)

theorem Method.cholesky_exact : Method.cholesky.Exact demand := by
  intro plan factors planned factored _
  cases planned
  obtain ⟨height, wide⟩ := demand.open_rows_square
  have factored : Cholesky.factor demand.jacobian.cols demand.matrix.openRows = some factors :=
    demand.pattern_size ▸ factored
  have numeric : demand.Numeric := demand.numeric_of_diagonal fun i spoilt => by
    rw [Cholesky.factor_nan _ _ height wide i spoilt] at factored
    cases factored
  rw [demand.open_rows_value numeric, Cholesky.factor_numbers] at factored
  obtain ⟨columns, real, rfl⟩ := Option.map_eq_some_iff.mp factored
  have places := Demand.to_matrix_places demand.jacobian.cols (demand.map value) rfl
  have symmetric := Demand.normal_matrix_symmetric demand.jacobian.cols (demand.map value)
  rw [← places] at symmetric
  refine ⟨numeric, fun rhs length => ?_⟩
  obtain ⟨whole, solved⟩ := Cholesky.factors_solve _ (demand.map value).open_rows_square symmetric columns real rhs length
  refine ⟨vector demand.jacobian.cols (Cholesky.solve columns rhs), ?_, places ▸ solved⟩
  have roots : ∀ column ∈ columns, column.root ≠ 0 := fun column mem => (Cholesky.root_pos _ _ columns real column mem).ne'
  exact (Cholesky.solve_numbers columns roots rhs).trans (congrArg (List.map number) (of_fn_vector _ _ whole).symm)

theorem Method.qr_apart (plan : ℕ) (factors : List (Reflection.Step RealOrNaN))
    (planned : (Method.qr : Method RealOrNaN).plan demand.matrix.pattern = some plan)
    (factored : Method.qr.factor plan demand.matrix = some factors)
    (finite : (Method.qr.solve factors (demand.gradient.map (- ·))).all Scalar.isFinite = true) :
    factors = Reflection.factor demand.jacobian.cols demand.matrix.openRows ∧
      ∀ step ∈ factors, ∃ d : ℝ, d ≠ 0 ∧ step.diagonal = number d := by
  -- A solution is finite only if all that it divides by is a number, and none is zero.
  cases planned
  have made : Reflection.factor demand.jacobian.cols demand.matrix.openRows = factors :=
    Option.some.inj (demand.pattern_size ▸ factored)
  exact ⟨made.symm, Reflection.solve_apart factors _ finite⟩

-- A length below full precision would be missing from the factors, and from what they invert.
theorem Method.qr_exact (precise : demand.Numeric →
    Reflection.PreciseThroughout demand.jacobian.cols (demand.map value).matrix.openRows) : Method.qr.Exact demand := by
  intro plan factors planned factored finite
  obtain ⟨height, wide⟩ := demand.open_rows_square
  obtain ⟨rfl, apart⟩ := Method.qr_apart demand plan factors planned factored finite
  have numeric : demand.Numeric := demand.numeric_of_diagonal fun i spoilt => by
    obtain ⟨step, mem, undefined⟩ := Reflection.factor_nan _ _ height wide i spoilt
    obtain ⟨d, _, number⟩ := apart step mem
    cases undefined.symm.trans number
  rw [demand.open_rows_value numeric, Reflection.factor_numbers] at apart ⊢
  have nonzero : ∀ step ∈ Reflection.factor demand.jacobian.cols (demand.map value).matrix.openRows, step.diagonal ≠ 0 := by
    intro step mem zero
    obtain ⟨d, nonzero, same⟩ := apart (step.map number) (List.mem_map_of_mem mem)
    exact nonzero ((number.inj same).symm.trans zero)
  refine ⟨numeric, fun rhs length => ?_⟩
  obtain ⟨whole, solved⟩ := Reflection.steps_solve _ _ (demand.map value).open_rows_square nonzero (precise numeric) rhs length
  refine ⟨vector demand.jacobian.cols (Reflection.solve _ rhs), ?_,
    Demand.to_matrix_places demand.jacobian.cols (demand.map value) rfl ▸ solved⟩
  exact (Reflection.solve_numbers _ nonzero rhs).trans (congrArg (List.map number) (of_fn_vector _ _ whole).symm)

end Methods

namespace Solver

theorem exact_inverts {method : Method RealOrNaN} (demand : Demand RealOrNaN) (exact : method.Exact demand)
    (last : Solved method) (remembers : Remembers last demand) :
    demand.InvertedBy (inverse demand.jacobian.cols last.factors) := by
  obtain ⟨plan, planned, factored⟩ := remembers.factors
  obtain ⟨numeric, solves⟩ := exact plan last.factors planned factored remembers.finite
  exact demand.inverted_by_inverse numeric last.factors solves

/-- What is kept is the memory of the last successful solve, whatever was asked, and a failure leaves it alone. Where the
method is exact, a covariance that is kept is the inverse of the matrix that was factored for that solve. -/
theorem memory_of_latest_solve :
    (∀ (α : Type) [Scalar α] (method : Method α) (calls : List (Call α)),
      Option.Rel Remembers ((start : Solver method).after calls).last ((start : Solver method).latest none calls)) ∧
    (∀ (α : Type) [Scalar α] (method : Method α) (solver : Solver method) (demand : Demand α) (cause : SolveError),
      solver.answer demand = .error cause → (solver.next (.solve demand)).last = solver.last) ∧
    ∀ (method : Method RealOrNaN) (calls : List (Call RealOrNaN)) (last : Solved method) (demand : Demand RealOrNaN)
      (C : Block RealOrNaN), ((start : Solver method).after calls).last = some last →
      (start : Solver method).latest none calls = some demand → method.Exact demand →
      last.covariance = some C → demand.InvertedBy C := by
  refine ⟨fun α _ method calls => start.after_remembers start_planned none .none calls,
    fun α _ method solver demand cause failed => solver.solve_error_keeps demand cause failed, ?_⟩
  intro method calls last demand C kept known exact cached
  have remembers := latest_remembers calls last demand kept known
  exact remembers.covariance C cached ▸ exact_inverts demand exact last remembers

theorem covariance_kept_through_misfit :
    let calls : List (Call RealOrNaN) := [.solve (.single (number 2) (number 5)), .covariance, .solve .misfit]
    (∃ C, ((start : Solver Method.cholesky).after calls).covariance? = some C ∧
      (Demand.single (number 2) (number 5)).InvertedBy C) ∧
    ∃ C, ((start : Solver Method.qr).after calls).covariance? = some C ∧
      (Demand.single (number 2) (number 5)).InvertedBy C := by
  intro calls
  obtain ⟨_, _, inverts⟩ := memory_of_latest_solve
  constructor
  · have root : Scalar.sqrt (number 2 * number 2) = number 2 :=
      (number_sqrt _ (mul_self_nonneg 2)).trans (congrArg number (Real.sqrt_mul_self two_pos.le))
    have answered := answer_single (number 2) (number 5) (show (0 : ℝ) < 2 * 2 by norm_num) (by
      rw [root, zero_eq, number_mul, number_add, number_neg, number_div _ _ two_ne_zero, number_sub,
        number_div _ _ two_ne_zero]
      rfl)
    obtain ⟨known, last, C, kept, cached⟩ := after_misfit _ _ answered
    exact ⟨C, by rw [covariance?, kept]; exact cached,
      inverts .cholesky calls last _ C kept known (Method.cholesky_exact _) cached⟩
  · have large : ¬ Scalar.abs (2 * 2 : ℝ) < Scalar.leastNormal := by
      rw [scalar_abs_eq, not_lt]
      exact least_normal_le_one.trans (by norm_num)
    have flat : Block.norm ([] : List ℝ) < Scalar.leastNormal :=
      (Reflection.norm_of_zero [] (by simp)).trans_lt least_normal_pos
    have steps : ∀ step ∈ Reflection.factor 1 [[some (2 * 2 : ℝ)]], step.diagonal ≠ 0 := by
      simp [Reflection.factor, Reflection.mirrorOf, Places.held, large, flat]
    have solved := Reflection.solve_numbers _ steps [-(0 + 2 * 5)]
    rw [← Reflection.factor_numbers] at solved
    have answered : (start : Solver Method.qr).answer (.single (number 2) (number 5)) =
        .ok ((Reflection.solve (Reflection.factor 1 [[some (2 * 2)]]) [-(0 + 2 * 5)]).map number) :=
      (start.answer_ok_iff start_planned _ _).mpr
        ⟨⟨rfl, rfl⟩, _, Reflection.factor 1 ([[some (2 * 2)]].map numbers), rfl, rfl, solved.symm, by simp [Scalar.isFinite]⟩
    have precise : Reflection.PreciseThroughout 1 [[some (2 * 2 : ℝ)]] :=
      ⟨⟨fun small => absurd small large, fun _ => by simp [Places.held]⟩, trivial⟩
    obtain ⟨known, last, C, kept, cached⟩ := after_misfit _ _ answered
    exact ⟨C, by rw [covariance?, kept]; exact cached,
      inverts .qr calls last _ C kept known (Method.qr_exact _ fun _ => precise) cached⟩

end Solver

end FactorGraph
