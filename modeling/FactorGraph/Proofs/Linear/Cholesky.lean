import Mathlib
import FactorGraph.Proofs.Linear.Places
import FactorGraph.Proofs.Linear.Plan

set_option autoImplicit false

open Matrix FactorGraph.Places

namespace FactorGraph

namespace Cholesky

section Schur

variable {n : ℕ} (A : Matrix (Fin (n + 1)) (Fin (n + 1)) ℝ)

noncomputable def schur : Matrix (Fin n) (Fin n) ℝ :=
  .of fun i j => A i.succ j.succ - A i.succ 0 * A j.succ 0 / A 0 0

def firstColumn : Fin n → ℝ := fun i => A i.succ 0

theorem mul_vec_cons (symmetric : A.IsHermitian) (x : ℝ) (xs : Fin n → ℝ) (nonzero : A 0 0 ≠ 0) :
    A *ᵥ vecCons x xs = vecCons (A 0 0 * x + firstColumn A ⬝ᵥ xs)
      (schur A *ᵥ xs + ((A 0 0 * x + firstColumn A ⬝ᵥ xs) / A 0 0) • firstColumn A) := by
  funext i
  cases i using Fin.cases with
  | zero =>
      have mirrored : ∀ j : Fin n, A 0 j.succ = A j.succ 0 := fun j => by simpa using symmetric.apply j.succ 0
      simp [Matrix.mulVec, dotProduct, Fin.sum_univ_succ, firstColumn, mirrored]
  | succ i =>
      simp only [Matrix.mulVec, dotProduct, Fin.sum_univ_succ, firstColumn, schur, of_apply, cons_val_zero,
        cons_val_succ, Pi.add_apply, Pi.smul_apply, smul_eq_mul, sub_mul, Finset.sum_sub_distrib]
      have pulled : ∑ j : Fin n, A i.succ 0 * A j.succ 0 / A 0 0 * xs j =
          A i.succ 0 / A 0 0 * ∑ j : Fin n, A j.succ 0 * xs j := by
        rw [Finset.mul_sum]
        exact Finset.sum_congr rfl fun j _ => by ring
      rw [pulled]
      field_simp
      ring

theorem schur_symmetric (symmetric : A.IsHermitian) : (schur A).IsHermitian := by
  ext i j
  have mirrored : A j.succ i.succ = A i.succ j.succ := by simpa using symmetric.apply i.succ j.succ
  simp [schur, mirrored, mul_comm]

theorem schur_pos_def (positive : A.PosDef) : (schur A).PosDef := by
  -- A vector of the rest is extended by the first entry that makes the first row vanish on it.
  have pivot : 0 < A 0 0 := positive.diag_pos
  apply PosDef.of_dotProduct_mulVec_pos
  · exact schur_symmetric A positive.isHermitian
  · intro xs nonzero
    have moved := positive.dotProduct_mulVec_pos (x := vecCons (-(firstColumn A ⬝ᵥ xs) / A 0 0) xs)
      fun zero => nonzero (funext fun i => by simpa using congrFun zero i.succ)
    -- On this vector the form of the whole matrix is the form of the rest.
    have vanishes : A 0 0 * (-(firstColumn A ⬝ᵥ xs) / A 0 0) + firstColumn A ⬝ᵥ xs = 0 := by
      field_simp
      ring
    rw [mul_vec_cons A positive.isHermitian _ xs pivot.ne', vanishes] at moved
    simpa using moved

theorem schur_solves (symmetric : A.IsHermitian) (nonzero : A 0 0 ≠ 0) (b : ℝ) (bs xs : Fin n → ℝ)
    (solved : schur A *ᵥ xs = bs - (b / A 0 0) • firstColumn A) :
    A *ᵥ vecCons ((b - firstColumn A ⬝ᵥ xs) / A 0 0) xs = vecCons b bs := by
  have first : A 0 0 * ((b - firstColumn A ⬝ᵥ xs) / A 0 0) + firstColumn A ⬝ᵥ xs = b := by
    field_simp
    ring
  rw [mul_vec_cons A symmetric _ xs nonzero, first, solved, sub_add_cancel]

end Schur

variable {n : ℕ} {pivot : ℝ} {first : List (Option ℝ)} {rows : List (List (Option ℝ))}

theorem square_rest (square : Shaped (n + 1) (n + 1) ((some pivot :: first) :: rows)) :
    rows.length = n ∧ ∀ row ∈ rows, row.length = n + 1 :=
  ⟨Nat.succ.inj square.1, fun row mem => square.2 row (List.mem_cons_of_mem _ mem)⟩

theorem less_column_places (below row : List (Option ℝ)) (scale : Option ℝ) (row_length : row.length = n)
    (length : below.length = n) :
    places n (lessColumn below row scale) = places n row - scale.getD 0 • places n below := by
  cases scale with
  | none => simp [lessColumn]
  | some l => exact places_less_multiple n l row below row_length length

noncomputable def scaled (pivot : ℝ) (rows : List (List (Option ℝ))) : List (Option ℝ) :=
  rows.map fun row => (row.headD none).map (· / Scalar.sqrt pivot)

theorem places_scaled (square : Shaped (n + 1) (n + 1) ((some pivot :: first) :: rows)) :
    places n (scaled pivot rows) =
      (1 / Real.sqrt pivot) • firstColumn (toMatrix (n + 1) (n + 1) ((some pivot :: first) :: rows)) := by
  obtain ⟨height, width⟩ := square_rest square
  funext i
  have inside : i.val < rows.length := by rw [height]; exact i.isLt
  have long := width rows[i.val] (List.getElem_mem inside)
  cases row : rows[i.val] with
  | nil => simp [row] at long
  | cons a rest =>
      simp only [places, scaled, List.getElem?_map, List.getElem?_eq_getElem inside, row, Option.map_some,
        Option.getD_some, Pi.smul_apply, firstColumn, toMatrix, of_apply, Fin.val_succ, List.getElem?_cons_succ]
      cases a with
      | none => simp
      | some a => simp [Scalar.sqrt, div_eq_inv_mul]

theorem root_halves (positive : 0 < pivot) : 1 / Real.sqrt pivot * (1 / Real.sqrt pivot) = 1 / pivot := by
  rw [one_div_mul_one_div, Real.mul_self_sqrt positive.le]

theorem remainder_eq_schur (positive : 0 < pivot) (square : Shaped (n + 1) (n + 1) ((some pivot :: first) :: rows)) :
    Shaped n n (remainder (scaled pivot rows) rows) ∧
      toMatrix n n (remainder (scaled pivot rows) rows) =
        schur (toMatrix (n + 1) (n + 1) ((some pivot :: first) :: rows)) := by
  obtain ⟨height, width⟩ := square_rest square
  have below : (scaled pivot rows).length = n := by simp [scaled, height]
  refine ⟨remainder_shape n _ rows height width below, ?_⟩
  ext i j
  have inside : i.val < rows.length := by rw [height]; exact i.isLt
  have short : i.val < (scaled pivot rows).length := by rw [below]; exact i.isLt
  have long : rows[i.val].tail.length = n := by simp [width _ (List.getElem_mem inside)]
  have row : (remainder (scaled pivot rows) rows)[i.val]? =
      some (lessColumn (scaled pivot rows) rows[i.val].tail (scaled pivot rows)[i.val]) := by
    simp [remainder, inside, short]
  have head : ((scaled pivot rows)[i.val]).getD 0 = places n (scaled pivot rows) i := by simp [places, short]
  have tail : places n rows[i.val].tail j = toMatrix (n + 1) (n + 1) ((some pivot :: first) :: rows) i.succ j.succ := by
    simp [places, toMatrix, inside]
  rw [toMatrix, of_apply, row, Option.getD_some, less_column_places _ _ _ long below, head, places_scaled square,
    Pi.sub_apply, tail]
  simp only [Pi.smul_apply, smul_eq_mul, schur, of_apply, firstColumn]
  have corner : toMatrix (n + 1) (n + 1) ((some pivot :: first) :: rows) 0 0 = pivot := by simp [toMatrix, places]
  rw [corner, mul_mul_mul_comm, root_halves positive]
  ring

theorem vector_lower (y : ℝ) (column : Column ℝ) (bs : List ℝ) (length : bs.length = n)
    (below : column.below.length = n) :
    vector n (lower y column bs) = vector n bs - y • places n column.below := by
  funext i
  have left : i.val < bs.length := by rw [length]; exact i.isLt
  have right : i.val < column.below.length := by rw [below]; exact i.isLt
  simp only [vector, lower, places, List.getElem?_zipWith, List.getElem?_eq_getElem left,
    List.getElem?_eq_getElem right, Option.getD_some, Pi.sub_apply, Pi.smul_apply, smul_eq_mul]
  cases column.below[i.val] <;> simp [mul_comm]

theorem solve_step (positive : 0 < pivot) (square : Shaped (n + 1) (n + 1) ((some pivot :: first) :: rows))
    (symmetric : (toMatrix (n + 1) (n + 1) ((some pivot :: first) :: rows)).IsHermitian) (b : ℝ) (bs : List ℝ)
    (length : bs.length = n) (columns : List (Column ℝ))
    (solves : ∀ rhs : List ℝ, rhs.length = n → (solve columns rhs).length = n ∧
      schur (toMatrix (n + 1) (n + 1) ((some pivot :: first) :: rows)) *ᵥ vector n (solve columns rhs) = vector n rhs) :
    (solve (⟨Scalar.sqrt pivot, scaled pivot rows⟩ :: columns) (b :: bs)).length = n + 1 ∧
      toMatrix (n + 1) (n + 1) ((some pivot :: first) :: rows) *ᵥ
        vector (n + 1) (solve (⟨Scalar.sqrt pivot, scaled pivot rows⟩ :: columns) (b :: bs)) =
          vector (n + 1) (b :: bs) := by
  have scaled_eq := places_scaled square
  have corner : toMatrix (n + 1) (n + 1) ((some pivot :: first) :: rows) 0 0 = pivot := by simp [toMatrix, places]
  generalize toMatrix (n + 1) (n + 1) ((some pivot :: first) :: rows) = A at *
  have below : (scaled pivot rows).length = n := by simpa [scaled] using (square_rest square).1
  have halves := root_halves positive
  obtain ⟨long, solved⟩ := solves (lower (b / Scalar.sqrt pivot) ⟨Scalar.sqrt pivot, scaled pivot rows⟩ bs)
    (by simp [lower, length, below])
  rw [vector_lower _ _ _ length below, scaled_eq, smul_smul] at solved
  rw [solve]
  generalize solve columns (lower (b / Scalar.sqrt pivot) ⟨Scalar.sqrt pivot, scaled pivot rows⟩ bs) = xs at *
  have reduced : b / Scalar.sqrt pivot * (1 / Real.sqrt pivot) = b / A 0 0 :=
    calc b / Real.sqrt pivot * (1 / Real.sqrt pivot) = b * (1 / Real.sqrt pivot * (1 / Real.sqrt pivot)) := by ring
      _ = b / A 0 0 := by rw [halves, corner]; ring
  have head : (b / Scalar.sqrt pivot - Places.dot (scaled pivot rows) xs) / Scalar.sqrt pivot =
      (b - firstColumn A ⬝ᵥ vector n xs) / A 0 0 := by
    rw [places_dot n _ _ below.le, scaled_eq, smul_dotProduct, smul_eq_mul]
    calc (b / Real.sqrt pivot - 1 / Real.sqrt pivot * (firstColumn A ⬝ᵥ vector n xs)) / Real.sqrt pivot
        = (b - firstColumn A ⬝ᵥ vector n xs) * (1 / Real.sqrt pivot * (1 / Real.sqrt pivot)) := by ring
      _ = (b - firstColumn A ⬝ᵥ vector n xs) / A 0 0 := by rw [halves, corner]; ring
  rw [reduced] at solved
  refine ⟨by simp [long], ?_⟩
  rw [vector_cons, vector_cons, head]
  exact schur_solves A symmetric (corner ▸ positive.ne') b (vector n bs) (vector n xs) solved

theorem factors_solve (rows : List (List (Option ℝ))) (square : Shaped n n rows)
    (symmetric : (toMatrix n n rows).IsHermitian) (columns : List (Column ℝ)) (factored : factor n rows = some columns)
    (rhs : List ℝ) (length : rhs.length = n) :
    (solve columns rhs).length = n ∧ toMatrix n n rows *ᵥ vector n (solve columns rhs) = vector n rhs := by
  -- By induction on the size: what remains below the first column is the Schur complement, which is symmetric again.
  induction n generalizing rows columns rhs with
  | zero =>
      cases factored
      cases List.eq_nil_of_length_eq_zero length
      exact ⟨rfl, funext fun i => i.elim0⟩
  | succ n ih =>
      match rows, rhs with
      | [] :: _, _ | (none :: _) :: _, _ => cases factored
      | (some pivot :: first) :: rows, b :: bs =>
          rw [factor] at factored
          by_cases above : 0 < pivot
          · rw [if_pos above] at factored
            obtain ⟨others, found, rfl⟩ := Option.map_eq_some_iff.mp factored
            obtain ⟨smaller, rest⟩ := remainder_eq_schur above square
            have solves := ih _ smaller (rest ▸ schur_symmetric _ symmetric) others found
            exact solve_step above square symmetric b bs (Nat.succ.inj length) others (rest ▸ solves)
          · simp [above] at factored

theorem factor_of_pos_def (rows : List (List (Option ℝ))) (square : Shaped n n rows)
    (positive : (toMatrix n n rows).PosDef) : ∃ columns, factor n rows = some columns := by
  induction n generalizing rows with
  | zero => exact ⟨[], rfl⟩
  | succ n ih =>
      cases rows with
      | nil => exact absurd square.1 (by simp)
      | cons row rows =>
          cases row with
          | nil => exact absurd (square.2 [] List.mem_cons_self) (by simp)
          | cons cell first =>
              -- An open place counts as zero, so the positive corner is a stored entry.
              have corner : 0 < toMatrix (n + 1) (n + 1) ((cell :: first) :: rows) 0 0 := positive.diag_pos
              cases cell with
              | none => simp [toMatrix, places] at corner
              | some pivot =>
                  have above : 0 < pivot := by simpa [toMatrix, places] using corner
                  obtain ⟨smaller, rest⟩ := remainder_eq_schur above square
                  obtain ⟨columns, factored⟩ := ih _ smaller (rest ▸ schur_pos_def _ positive)
                  refine ⟨⟨Scalar.sqrt pivot, scaled pivot rows⟩ :: columns, ?_⟩
                  rw [factor, if_pos above]
                  exact Option.map_eq_some_iff.mpr ⟨columns, factored, rfl⟩

theorem factor_solves (rows : List (List (Option ℝ))) (square : Shaped n n rows) (positive : (toMatrix n n rows).PosDef) :
    ∃ columns, factor n rows = some columns ∧ ∀ rhs : List ℝ, rhs.length = n →
      (solve columns rhs).length = n ∧ toMatrix n n rows *ᵥ vector n (solve columns rhs) = vector n rhs := by
  obtain ⟨columns, factored⟩ := factor_of_pos_def rows square positive
  exact ⟨columns, factored, factors_solve rows square positive.isHermitian columns factored⟩

end Cholesky

end FactorGraph
