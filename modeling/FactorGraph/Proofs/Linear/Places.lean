import Mathlib
import FactorGraph.Linear.Places
import FactorGraph.Proofs.Exact

set_option autoImplicit false

open Matrix

namespace FactorGraph

def places (n : ℕ) (v : List (Option ℝ)) : Fin n → ℝ := fun i => (v[i.val]?.getD none).getD 0

theorem places_cons (n : ℕ) (a : Option ℝ) (v : List (Option ℝ)) :
    places (n + 1) (a :: v) = vecCons (a.getD 0) (places n v) := by
  funext i
  cases i using Fin.cases <;> simp [places]

theorem places_eq_vector (n : ℕ) (v : List (Option ℝ)) : places n v = vector n (v.map (·.getD 0)) := by
  funext i
  cases held : v[i.val]? <;> simp [places, vector, held]

theorem places_dot (n : ℕ) (v : List (Option ℝ)) (w : List ℝ) (bound : v.length ≤ n) :
    Places.dot v w = places n v ⬝ᵥ vector n w := by
  have filled : Places.dot v w = Block.dot (v.map (·.getD 0)) w := by
    have pairs : (v.zip w).map (fun e => e.1.getD 0 * e.2) = List.zipWith (fun a b => a.getD 0 * b) v w :=
      List.map_zipWith
    rw [dot_eq_sum, List.zipWith_map_left, ← pairs, ← foldl_add_eq_sum, Places.dot]
    congr 1
    funext sum e
    cases held : e.1 <;> simp
  rw [filled, dot_eq_dot_product n _ w (by simpa using bound), places_eq_vector]

namespace Places

theorem places_less_multiple (n : ℕ) (scale : ℝ) (row other : List (Option ℝ)) (left : row.length = n)
    (right : other.length = n) :
    places n (List.zipWith (lessMultiple scale) row other) = places n row - scale • places n other := by
  funext j
  have inRow : j.val < row.length := by rw [left]; exact j.isLt
  have inOther : j.val < other.length := by rw [right]; exact j.isLt
  simp only [places, List.getElem?_zipWith, List.getElem?_eq_getElem inRow, List.getElem?_eq_getElem inOther,
    Option.getD_some, Pi.sub_apply, Pi.smul_apply, smul_eq_mul]
  cases other[j.val] <;> simp [lessMultiple]

theorem places_add_multiple (n : ℕ) (scale : ℝ) (row other : List (Option ℝ)) (left : row.length = n)
    (right : other.length = n) :
    places n (List.zipWith (addMultiple scale) row other) = scale • places n row + places n other := by
  funext j
  have inRow : j.val < row.length := by rw [left]; exact j.isLt
  have inOther : j.val < other.length := by rw [right]; exact j.isLt
  simp only [places, List.getElem?_zipWith, List.getElem?_eq_getElem inRow, List.getElem?_eq_getElem inOther,
    Option.getD_some, Pi.add_apply, Pi.smul_apply, smul_eq_mul]
  cases row[j.val] <;> simp [addMultiple]

def toMatrix (h n : ℕ) (rows : List (List (Option ℝ))) : Matrix (Fin h) (Fin n) ℝ :=
  .of fun i => places n (rows[i.val]?.getD [])

theorem to_matrix_row (h n : ℕ) (rows : List (List (Option ℝ))) (i : Fin h) :
    toMatrix h n rows i = places n (rows[i.val]?.getD []) := rfl

theorem to_matrix_cons (h n : ℕ) (row : List (Option ℝ)) (rows : List (List (Option ℝ))) :
    toMatrix (h + 1) n (row :: rows) = .of (vecCons (places n row) (of.symm (toMatrix h n rows))) := by
  ext i j
  cases i using Fin.cases <;> rfl

def Shaped (h n : ℕ) (rows : List (List (Option ℝ))) : Prop := rows.length = h ∧ ∀ row ∈ rows, row.length = n

end Places

end FactorGraph
