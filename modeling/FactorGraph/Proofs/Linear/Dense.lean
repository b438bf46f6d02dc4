import Mathlib
import FactorGraph.Proofs.Entries
import FactorGraph.Proofs.Exact
import FactorGraph.Proofs.Linear.Triplets

set_option autoImplicit false

open Matrix

namespace FactorGraph.SparseMatrix

def entry (row : SortedMap Nat ℝ) (j : ℕ) : ℝ := (row.get? j).getD 0

theorem entry_empty (j : ℕ) : entry .empty j = 0 := rfl

theorem entry_accumulate (row : SortedMap Nat ℝ) (c j : ℕ) (a : ℝ) :
    entry (accumulate row c a) j = entry row j + if j = c then a else 0 := by
  by_cases same : j = c
  · subst same
    rw [if_pos rfl, entry, accumulate, SortedMap.get_upsert_self]
    cases old : row.get? j <;> simp [entry, old]
  · rw [if_neg same, add_zero, entry, accumulate, SortedMap.get_upsert_of_ne row same]
    rfl

theorem entry_foldl_accumulate (scale : ℝ) (entries : List (ℕ × ℝ)) (row : SortedMap Nat ℝ) (j : ℕ) :
    entry (entries.foldl (fun acc e => accumulate acc e.1 (scale * e.2)) row) j =
      entry row j + scale * (entries.map fun e => if j = e.1 then e.2 else 0).sum := by
  induction entries generalizing row with
  | nil => simp
  | cons e rest ih =>
      rw [List.foldl_cons, ih, entry_accumulate, List.map_cons, List.sum_cons]
      split <;> ring

theorem entry_row_of_entries (entries : List (ℕ × ℝ)) (j : ℕ) :
    entry (rowOfEntries entries) j = (entries.map fun e => if j = e.1 then e.2 else 0).sum := by
  have folded := entry_foldl_accumulate 1 entries .empty j
  simp only [one_mul, entry_empty, zero_add] at folded
  exact folded

theorem entry_eq_sum (row : SortedMap Nat ℝ) (j : ℕ) :
    entry row j = (row.entries.map fun e => if j = e.1 then e.2 else 0).sum := by
  -- The keys of a row differ, so at most one summand counts.
  obtain ⟨es, sorted⟩ := row
  change (SortedMap.findEntry j es).getD 0 = _
  induction es with
  | nil => rfl
  | cons e rest ih =>
      obtain ⟨k, v⟩ := e
      rw [List.map_cons, List.pairwise_cons] at sorted
      have absent : j ≤ k → (rest.map fun e => if j = e.1 then e.2 else 0).sum = 0 := by
        intro before
        apply List.sum_eq_zero
        intro a mem
        obtain ⟨e, inside, rfl⟩ := List.mem_map.mp mem
        have after : k < e.1 := sorted.1 e.1 (List.mem_map_of_mem inside)
        exact if_neg (Nat.ne_of_lt (Nat.lt_of_le_of_lt before after))
      rw [SortedMap.findEntry, List.map_cons, List.sum_cons]
      rcases Nat.lt_trichotomy j k with less | rfl | more
      · rw [if_pos less, if_neg (Nat.ne_of_lt less), absent (Nat.le_of_lt less)]
        simp
      · rw [if_neg (Nat.lt_irrefl j), if_neg (Nat.lt_irrefl j), if_pos rfl, absent (Nat.le_refl j)]
        simp
      · rw [if_neg (Nat.lt_asymm more), if_pos more, if_neg (Nat.ne_of_gt more), ih sorted.2, zero_add]

theorem entry_accumulate_row (row other : SortedMap Nat ℝ) (scale : ℝ) (j : ℕ) :
    entry (accumulateRow row scale other) j = entry row j + scale * entry other j := by
  rw [accumulateRow, entry_foldl_accumulate, entry_eq_sum other]

theorem sum_entries (n : ℕ) (entries : List (ℕ × ℝ)) (v : List ℝ) (length : v.length = n) :
    (entries.map fun e => e.2 * v[e.1]?.getD 0).sum =
      ∑ j : Fin n, (entries.map fun e => if j.val = e.1 then e.2 else 0).sum * v[j.val]?.getD 0 := by
  induction entries with
  | nil => simp
  | cons e rest ih =>
      simp only [List.map_cons, List.sum_cons, add_mul, Finset.sum_add_distrib, ← ih, add_left_inj]
      by_cases inside : e.1 < n
      · rw [Finset.sum_eq_single (⟨e.1, inside⟩ : Fin n)]
        · simp
        · intro j _ other
          rw [if_neg fun same => other (Fin.ext same), zero_mul]
        · simp
      · rw [List.getElem?_eq_none (by omega)]
        simp only [Option.getD_none, mul_zero]
        symm
        apply Finset.sum_eq_zero
        intro j _
        rw [if_neg fun same : j.val = e.1 => inside (same ▸ j.isLt), zero_mul]

theorem row_dot_eq_sum (n : ℕ) (row : SortedMap Nat ℝ) (v : List ℝ) (length : v.length = n) :
    rowDot row v = ∑ j : Fin n, entry row j * vector n v j := by
  rw [rowDot, foldl_add_eq_sum, sum_entries n row.entries v length]
  simp only [entry_eq_sum row, vector]

theorem row_dot_row_of_entries (entries : List (ℕ × ℝ)) (v : List ℝ) :
    rowDot (rowOfEntries entries) v = (entries.map fun e => e.2 * v[e.1]?.getD 0).sum := by
  rw [row_dot_eq_sum v.length _ v rfl, sum_entries v.length entries v rfl]
  simp only [entry_row_of_entries, vector]

def toMatrix (h n : ℕ) (m : SparseMatrix ℝ) : Matrix (Fin h) (Fin n) ℝ :=
  .of fun i j => entry (m.rows[i.val]?.getD .empty) j

theorem to_matrix_mul_vec (h n : ℕ) (m : SparseMatrix ℝ) (v : List ℝ) (length : v.length = n) :
    vector h (m.mulVec v) = m.toMatrix h n *ᵥ vector n v := by
  funext i
  simp only [vector, mulVec, List.getElem?_map, Matrix.mulVec, dotProduct, toMatrix, of_apply]
  cases m.rows[i.val]? with
  | none => simp [entry_empty]
  | some row => exact row_dot_eq_sum n row v length

theorem sum_eq_sum_fin {β : Type} (l : List β) (h : ℕ) (bound : l.length ≤ h) (f : β → ℝ) (none : β)
    (zero : f none = 0) : (l.map f).sum = ∑ k : Fin h, f (l[k.val]?.getD none) := by
  induction l generalizing h with
  | nil => simp [zero]
  | cons a rest ih =>
      cases h with
      | zero => exact absurd bound (by simp)
      | succ h =>
          rw [Fin.sum_univ_succ, List.map_cons, List.sum_cons, ih h (Nat.le_of_succ_le_succ bound)]
          simp

theorem to_matrix_transpose_mul_vec (h : ℕ) (m : SparseMatrix ℝ) (v : List ℝ) (bound : m.height ≤ h) :
    vector m.cols (m.transposeMulVec v) = (m.toMatrix h m.cols)ᵀ *ᵥ vector h v := by
  funext j
  have inside : (m.transposeMulVec v)[j.val]? = some ((m.rows.zip v).map fun e => entry e.1 j * e.2).sum := by
    simp only [transposeMulVec, List.getElem?_map, List.getElem?_range j.isLt, Option.map_some, Option.some.injEq]
    rw [← foldl_add_eq_sum]
    congr 1
    funext acc e
    cases stored : e.1.get? j.val <;> simp [entry, stored]
  have padded := sum_eq_sum_fin (m.rows.zip v) h (by simp [height] at bound ⊢; omega)
    (fun e => entry e.1 j * e.2) (.empty, 0) (by simp)
  simp only [vector, inside, Option.getD_some, padded, Matrix.mulVec, dotProduct, transpose_apply, toMatrix, of_apply]
  refine Finset.sum_congr rfl fun k _ => ?_
  cases row : m.rows[k.val]? <;> cases value : v[k.val]? <;> simp [List.zip, List.getElem?_zipWith, row, value, entry_empty]

theorem entry_foldl (j : ℕ) (f : SortedMap Nat ℝ → ℝ) (step : SortedMap Nat ℝ → SortedMap Nat ℝ → SortedMap Nat ℝ)
    (adds : ∀ acc row, entry (step acc row) j = entry acc j + f row) (rows : List (SortedMap Nat ℝ))
    (acc : SortedMap Nat ℝ) : entry (rows.foldl step acc) j = entry acc j + (rows.map f).sum := by
  induction rows generalizing acc with
  | nil => simp
  | cons row rest ih => rw [List.foldl_cons, ih, adds, List.map_cons, List.sum_cons, add_assoc]

theorem to_matrix_gram (h : ℕ) (m : SparseMatrix ℝ) (bound : m.height ≤ h) :
    m.gram.toMatrix m.cols m.cols = (m.toMatrix h m.cols)ᵀ * m.toMatrix h m.cols := by
  ext i j
  have sum : m.gram.toMatrix m.cols m.cols i j = (m.rows.map fun row => entry row i * entry row j).sum := by
    simp only [toMatrix, of_apply, gram, List.getElem?_map, List.getElem?_range i.isLt, Option.map_some,
      Option.getD_some]
    rw [entry_foldl j (fun row => entry row i * entry row j), entry_empty, zero_add]
    intro acc row
    cases stored : row.get? i.val with
    | none => simp [entry, stored]
    | some a =>
        rw [entry_accumulate_row]
        simp [entry, stored]
  rw [sum, sum_eq_sum_fin m.rows h bound (fun row => entry row i * entry row j) .empty (by simp [entry_empty])]
  rfl

theorem to_matrix_add_diagonal (n : ℕ) (m : SparseMatrix ℝ) (damping : ℝ) (height : m.height = n) :
    (m.addDiagonal damping).toMatrix n n = m.toMatrix n n + damping • (1 : Matrix (Fin n) (Fin n) ℝ) := by
  subst height
  ext i j
  have inside : m.rows[i.val]? = some (m.rows.get i) := List.getElem?_eq_getElem i.isLt
  simp only [toMatrix, addDiagonal, of_apply, List.getElem?_mapIdx, inside, Option.map_some, Option.getD_some,
    entry_accumulate, Matrix.add_apply, Matrix.smul_apply, Matrix.one_apply, smul_eq_mul, mul_ite, mul_one, mul_zero,
    Fin.ext_iff, eq_comm]

end FactorGraph.SparseMatrix
