import Mathlib
import FactorGraph.Block

set_option autoImplicit false

namespace FactorGraph

noncomputable instance : Scalar ℝ where
  decidableLT := inferInstance
  decidableLE := inferInstance
  sqrt := Real.sqrt
  sin := Real.sin
  cos := Real.cos
  atan2 y x := Complex.arg ⟨x, y⟩
  pi := Real.pi
  isFinite _ := true

theorem all_finite (v : List ℝ) : v.all Scalar.isFinite = true := List.all_eq_true.mpr fun _ _ => rfl

theorem least_normal_eq : (Scalar.leastNormal : ℝ) = 22250738585072014 * (10 ^ 324)⁻¹ := by
  change OfScientific.ofScientific 22250738585072014 true 324 = _
  rw [← Rat.cast_ofScientific 22250738585072014 true 324, Rat.ofScientific_def']
  simp only [if_true, zpow_neg, zpow_ofNat, Rat.cast_mul, Rat.cast_inv, Rat.cast_pow,
    Rat.cast_ofNat, Nat.cast_ofNat]

theorem least_normal_pos : (0 : ℝ) < Scalar.leastNormal := by
  rw [least_normal_eq]
  positivity

theorem least_normal_le_one : (Scalar.leastNormal : ℝ) ≤ 1 := by
  have high : (10 : ℝ) ^ 17 ≤ 10 ^ 324 := pow_le_pow_right₀ (by norm_num) (by norm_num)
  rw [least_normal_eq, ← div_eq_mul_inv, div_le_one (by positivity)]
  exact le_trans (by norm_num) high

theorem epsilon_eq : (Scalar.epsilon : ℝ) = 1 / 4503599627370496 := by
  rw [Scalar.epsilon]
  norm_num

theorem epsilon_pos : (0 : ℝ) < Scalar.epsilon := by
  rw [epsilon_eq]
  norm_num

theorem epsilon_lt_one : (Scalar.epsilon : ℝ) < 1 := by
  rw [epsilon_eq]
  norm_num

theorem scalar_abs_eq (a : ℝ) : Scalar.abs a = |a| := by
  unfold Scalar.abs
  split
  · rename_i negative
    exact (abs_of_neg negative).symm
  · rename_i nonnegative
    exact (abs_of_nonneg (not_lt.mp nonnegative)).symm

theorem scalar_max_eq (a b : ℝ) : Scalar.max a b = max a b := by
  unfold Scalar.max
  split
  · rename_i below
    exact (max_eq_right below).symm
  · rename_i above
    rw [if_pos (le_refl a)]
    exact (max_eq_left (le_of_not_ge above)).symm

theorem total_eq_sum (l : List ℝ) : Scalar.total l = l.sum := by
  cases l with
  | nil => exact neg_zero
  | cons a rest => rw [Scalar.total, List.sum_eq_foldl, List.foldl_cons, zero_add]

theorem foldl_add_eq_sum {β : Type} (f : β → ℝ) (l : List β) :
    l.foldl (fun acc e => acc + f e) 0 = (l.map f).sum := by
  rw [List.sum_eq_foldl, List.foldl_map]

section Vectors

open Matrix

def vector (n : ℕ) (v : List ℝ) : Fin n → ℝ := fun i => v[i.val]?.getD 0

theorem vector_nil (n : ℕ) : vector n [] = 0 := by
  funext i
  simp [vector]

theorem vector_cons (n : ℕ) (a : ℝ) (v : List ℝ) : vector (n + 1) (a :: v) = vecCons a (vector n v) := by
  funext i
  cases i using Fin.cases <;> simp [vector]

theorem vector_of_fn (n : ℕ) (x : Fin n → ℝ) : vector n (List.ofFn x) = x := by
  funext i
  simp [vector]

theorem of_fn_vector (n : ℕ) (v : List ℝ) (length : v.length = n) : List.ofFn (vector n v) = v := by
  subst length
  apply List.ext_getElem (by simp)
  intro i _ inside
  simp [vector, inside]

theorem dot_eq_sum (a b : List ℝ) : Block.dot a b = (List.zipWith (· * ·) a b).sum := List.sum_eq_foldl.symm

theorem dot_eq_dot_product (n : ℕ) (a b : List ℝ) (bound : a.length ≤ n) :
    Block.dot a b = vector n a ⬝ᵥ vector n b := by
  rw [dot_eq_sum]
  induction a generalizing n b with
  | nil => simp [vector_nil]
  | cons x a ih =>
      cases n with
      | zero => exact absurd bound (by simp)
      | succ n =>
          cases b with
          | nil => simp [vector_nil]
          | cons y b =>
              rw [vector_cons, vector_cons, cons_dotProduct_cons, ← ih n b (Nat.le_of_succ_le_succ bound)]
              simp

end Vectors

end FactorGraph
