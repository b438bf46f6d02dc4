import Mathlib

set_option autoImplicit false

open Set

namespace FactorGraph.Taylor

noncomputable def sinSum (n : ℕ) (x : ℝ) : ℝ :=
  ∑ k ∈ Finset.range n, (-1) ^ k * x ^ (2 * k + 1) / (2 * k + 1).factorial

noncomputable def cosSum (n : ℕ) (x : ℝ) : ℝ :=
  ∑ k ∈ Finset.range n, (-1) ^ k * x ^ (2 * k) / (2 * k).factorial

section Polynomials

variable (n : ℕ) (x : ℝ) (moves : 0 ≠ x)

include moves

theorem iterated_deriv_sin_zero : iteratedDerivWithin n Real.sin (uIcc 0 x) 0 = iteratedDeriv n Real.sin 0 :=
  iteratedDerivWithin_eq_iteratedDeriv (uniqueDiffOn_uIcc moves) Real.contDiff_sin.contDiffAt left_mem_uIcc

theorem iterated_deriv_cos_zero : iteratedDerivWithin n Real.cos (uIcc 0 x) 0 = iteratedDeriv n Real.cos 0 :=
  iteratedDerivWithin_eq_iteratedDeriv (uniqueDiffOn_uIcc moves) Real.contDiff_cos.contDiffAt left_mem_uIcc

theorem taylor_sin_eq : taylorWithinEval Real.sin (2 * n) (uIcc 0 x) 0 x = sinSum n x := by
  -- The derivatives of even order vanish, so the polynomial of degree `2n` is the one of degree `2n - 1`.
  rw [taylor_within_apply]
  induction n with
  | zero => simp [sinSum]
  | succ n ih =>
      rw [mul_add, mul_one, Finset.sum_range_succ, Finset.sum_range_succ, ih, iterated_deriv_sin_zero _ x moves,
        iterated_deriv_sin_zero _ x moves, sinSum, sinSum, Finset.sum_range_succ]
      simp only [Real.iteratedDeriv_even_sin, Real.iteratedDeriv_even_cos, Real.iteratedDeriv_add_one_sin,
        Real.iteratedDeriv_add_one_cos, Pi.mul_apply, Pi.pow_apply, Pi.neg_apply, Pi.one_apply, Real.sin_zero,
        Real.cos_zero, smul_eq_mul, sub_zero]
      ring

theorem taylor_cos_eq : taylorWithinEval Real.cos (2 * n + 1) (uIcc 0 x) 0 x = cosSum (n + 1) x := by
  rw [taylor_within_apply]
  induction n with
  | zero => simp [cosSum, Finset.sum_range_succ, iterated_deriv_cos_zero _ x moves]
  | succ n ih =>
      rw [mul_add, mul_one, Finset.sum_range_succ, Finset.sum_range_succ, ih, iterated_deriv_cos_zero _ x moves,
        iterated_deriv_cos_zero _ x moves, cosSum, cosSum, Finset.sum_range_succ _ (n + 1)]
      simp only [Real.iteratedDeriv_even_sin, Real.iteratedDeriv_even_cos, Real.iteratedDeriv_add_one_sin,
        Real.iteratedDeriv_add_one_cos, Pi.mul_apply, Pi.pow_apply, Pi.neg_apply, Pi.one_apply, Real.sin_zero,
        Real.cos_zero, smul_eq_mul, sub_zero]
      ring_nf

end Polynomials

theorem remainder_le (f : ℝ → ℝ) (smooth : ∀ n : ℕ, ContDiff ℝ n f) (bounded : ∀ n x, |iteratedDeriv n f x| ≤ 1) (n : ℕ)
    (x : ℝ) (moves : 0 ≠ x) : |f x - taylorWithinEval f n (uIcc 0 x) 0 x| ≤ |x| ^ (n + 1) / (n + 1).factorial := by
  obtain ⟨y, _, remainder⟩ :=
    taylor_mean_remainder_lagrange_iteratedDeriv (n := n) moves (smooth (n + 1)).contDiffOn
  rw [remainder, sub_zero, abs_div, abs_mul, abs_pow, Nat.abs_cast]
  exact div_le_div_of_nonneg_right (mul_le_of_le_one_left (by positivity) (bounded _ _)) (by positivity)

theorem sin_near (n : ℕ) (x : ℝ) : |Real.sin x - sinSum n x| ≤ |x| ^ (2 * n + 1) / (2 * n + 1).factorial := by
  by_cases moves : 0 = x
  · simp [← moves, sinSum]
  · rw [← taylor_sin_eq n x moves]
    exact remainder_le _ (fun _ => Real.contDiff_sin) Real.abs_iteratedDeriv_sin_le_one _ x moves

theorem cos_near (n : ℕ) (x : ℝ) :
    |Real.cos x - cosSum (n + 1) x| ≤ |x| ^ (2 * n + 2) / (2 * n + 2).factorial := by
  by_cases moves : 0 = x
  · simp [← moves, cosSum, Finset.sum_range_succ']
  · rw [← taylor_cos_eq n x moves]
    exact remainder_le _ (fun _ => Real.contDiff_cos) Real.abs_iteratedDeriv_cos_le_one _ x moves

end FactorGraph.Taylor
