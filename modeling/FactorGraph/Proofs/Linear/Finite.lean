import FactorGraph.Proofs.Linear.Plan
import FactorGraph.Proofs.NotANumber

set_option autoImplicit false

namespace FactorGraph

open RealOrNaN

namespace RealOrNaN

variable (a b : RealOrNaN)

@[simp] theorem nan_add : nan + b = nan := by cases b <;> rfl

@[simp] theorem add_nan : a + nan = nan := by cases a <;> rfl

@[simp] theorem nan_sub : nan - b = nan := by cases b <;> rfl

@[simp] theorem nan_mul : nan * b = nan := by cases b <;> rfl

@[simp] theorem nan_div : nan / b = nan := by cases b <;> rfl

@[simp] theorem neg_nan : -nan = nan := rfl

theorem not_pos_nan : ¬ (0 : RealOrNaN) < nan := id

theorem not_nan_lt : ¬ nan < b := by cases b <;> exact id

theorem sqrt_nan : Scalar.sqrt nan = nan := rfl

theorem divisor_of_finite (finite : Scalar.isFinite (a / b) = true) : ∃ y : ℝ, y ≠ 0 ∧ b = number y := by
  cases a with
  | nan => rw [nan_div] at finite; cases finite
  | number x =>
      cases b with
      | nan => cases finite
      | number y =>
          refine ⟨y, fun zero => ?_, rfl⟩
          have undefined : number x / number y = nan := if_pos zero
          rw [undefined] at finite
          cases finite

def NanAt (i j : Nat) (rows : List (List (Option RealOrNaN))) : Prop :=
  ∃ row, rows[i]? = some row ∧ row[j]? = some (some nan)

theorem nan_at_tail (i j : Nat) (rows : List (List (Option RealOrNaN))) (found : NanAt i (j + 1) rows) :
    NanAt i j (rows.map List.tail) := by
  obtain ⟨row, here, value⟩ := found
  exact ⟨row.tail, by simp [here], by simpa using value⟩

theorem less_multiple_nan (scale : RealOrNaN) (b : Option RealOrNaN) :
    Places.lessMultiple scale (some nan) b = some nan := by
  cases b <;> simp [Places.lessMultiple]

theorem zip_nan (scale : RealOrNaN) (row other : List (Option RealOrNaN)) (j : Nat) (value : row[j]? = some (some nan))
    (inside : j < other.length) : (List.zipWith (Places.lessMultiple scale) row other)[j]? = some (some nan) := by
  simp [List.getElem?_zipWith, value, List.getElem?_eq_getElem inside, less_multiple_nan]

end RealOrNaN

namespace Cholesky

theorem remainder_nan (below : List (Option RealOrNaN)) (rows : List (List (Option RealOrNaN))) (i j : Nat)
    (row : i < below.length) (column : j < below.length) (found : NanAt i (j + 1) rows) :
    NanAt i j (remainder below rows) := by
  obtain ⟨tail, here, value⟩ := nan_at_tail i j rows found
  refine ⟨lessColumn below tail below[i], ?_, ?_⟩
  · rw [remainder, List.getElem?_zipWith, here, List.getElem?_eq_getElem row]
  · unfold lessColumn
    split
    · exact value
    · exact zip_nan _ tail below j value column

theorem factor_nan (size : Nat) (rows : List (List (Option RealOrNaN))) (height : rows.length = size)
    (wide : ∀ row ∈ rows, row.length = size) (i : Nat) (found : NanAt i i rows) : factor size rows = none := by
  -- The value stays on the diagonal until it is the pivot, and is then not positive.
  induction size generalizing rows i with
  | zero =>
      obtain ⟨row, here, _⟩ := found
      simp [List.eq_nil_of_length_eq_zero height] at here
  | succ size ih =>
      match rows with
      | [] | [] :: _ | (none :: _) :: _ => rfl
      | (some pivot :: first) :: rows =>
          rw [factor]
          by_cases positive : 0 < pivot
          · rw [if_pos positive]
            have fewer : rows.length = size := Nat.succ.inj height
            cases i with
            | zero =>
                obtain ⟨_, ⟨⟩, ⟨⟩⟩ := found
                exact absurd positive not_pos_nan
            | succ i =>
                have later : NanAt i (i + 1) rows := found
                obtain ⟨_, here, _⟩ := later
                have inside : i < size := fewer ▸ (List.getElem?_eq_some_iff.mp here).1
                have below : (rows.map fun row => (row.headD none).map (· / Scalar.sqrt pivot)).length = size := by
                  simp [fewer]
                obtain ⟨short, narrow⟩ := remainder_shape size _ rows fewer
                  (fun row mem => wide row (List.mem_cons_of_mem _ mem)) below
                dsimp only
                rw [ih _ short narrow i (remainder_nan _ rows i i (below ▸ inside) (below ▸ inside) found)]
                rfl
          · exact if_neg positive

end Cholesky

namespace Reflection

theorem foldl_add_nan (v : List RealOrNaN) : v.foldl (· + ·) nan = nan := by
  induction v with
  | nil => rfl
  | cons a v ih => rw [List.foldl_cons, nan_add, ih]

theorem mirror_nan (rest : List (Option RealOrNaN)) : (mirrorOf (some nan :: rest)).2 = nan := by
  have length (v : List RealOrNaN) : Block.dot (nan :: v) (nan :: v) = nan := by
    rw [Block.dot, List.zipWith_cons_cons, List.foldl_cons, nan_mul, add_nan, foldl_add_nan]
  simp only [mirrorOf, Option.getD_some, Scalar.abs, not_nan_lt, if_false, List.map_cons, nan_div, length, sqrt_nan,
    neg_nan, nan_mul]
  split <;> rfl

theorem reflect_rows_nan (n : Nat) (mirror : Mirror RealOrNaN) (rows : List (List (Option RealOrNaN)))
    (tall : mirror.normal.length = rows.length) (wide : ∀ row ∈ rows, row.length = n) (i j : Nat)
    (found : NanAt i j rows) : NanAt i j (reflectRows mirror rows) := by
  obtain ⟨row, here, value⟩ := found
  obtain ⟨inside, same⟩ := List.getElem?_eq_some_iff.mp here
  have width := Places.head_length n i rows wide inside
  have column : j < n := wide row (same ▸ List.getElem_mem inside) ▸ (List.getElem?_eq_some_iff.mp value).1
  have normal : i < mirror.normal.length := tall ▸ inside
  simp only [NanAt, reflectRows, List.getElem?_zipWith, here, List.getElem?_eq_getElem normal, width,
    Option.some.injEq, exists_eq_left']
  split
  · exact value
  · exact zip_nan _ row _ j value ((Places.weighted_sum_length n _ rows wide).symm ▸ column)

theorem factor_nan (size : Nat) (rows : List (List (Option RealOrNaN))) (height : rows.length = size)
    (wide : ∀ row ∈ rows, row.length = size) (i : Nat) (found : NanAt i i rows) :
    ∃ step ∈ factor size rows, step.diagonal = nan := by
  -- The value stays on the diagonal until its column is reflected.
  induction size generalizing rows i with
  | zero =>
      obtain ⟨row, here, _⟩ := found
      simp [List.eq_nil_of_length_eq_zero height] at here
  | succ size ih =>
      match rows with
      | row :: rows =>
          rw [factor]
          dsimp only
          cases i with
          | zero =>
              obtain ⟨_, ⟨⟩, value⟩ := found
              cases row with
              | nil => cases value
              | cons a first =>
                  cases value
                  exact ⟨_, List.mem_cons_self, mirror_nan _⟩
          | succ i =>
              have tall := normal_length ((row :: rows).map (·.headD none))
              rw [List.length_map] at tall
              have narrow := Places.tails_length size (row :: rows) wide
              obtain ⟨long, short⟩ := reflect_rows_shape size _ ((row :: rows).map List.tail)
                (tall.trans (List.length_map _).symm) narrow
              obtain ⟨other, here, value⟩ := reflect_rows_nan size _ _ (tall.trans (List.length_map _).symm) narrow
                (i + 1) i (nan_at_tail (i + 1) i _ found)
              obtain ⟨step, mem, spoilt⟩ := ih (reflectRows _ ((row :: rows).map List.tail)).tail
                (by rw [List.length_tail, long, List.length_map, height]; rfl)
                (fun other mem => short other (List.mem_of_mem_tail mem)) i ⟨other, by simpa using here, value⟩
              exact ⟨step, List.mem_cons_of_mem _ mem, spoilt⟩

theorem solve_apart (steps : List (Step RealOrNaN)) (b : List RealOrNaN)
    (finite : (solve steps b).all Scalar.isFinite = true) : ∀ step ∈ steps, ∃ d : ℝ, d ≠ 0 ∧ step.diagonal = number d := by
  induction steps generalizing b with
  | nil => simp
  | cons step steps ih =>
      rw [solve, List.all_cons, Bool.and_eq_true] at finite
      exact List.forall_mem_cons.mpr ⟨divisor_of_finite _ _ finite.1, ih _ finite.2⟩

end Reflection

end FactorGraph
