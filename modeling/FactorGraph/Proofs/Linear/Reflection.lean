import Mathlib
import FactorGraph.Proofs.Linear.Places
import FactorGraph.Proofs.Linear.Plan

set_option autoImplicit false

open Matrix FactorGraph.Places

namespace FactorGraph.Reflection

def Mirror.matrix (n : ℕ) (mirror : Mirror ℝ) : Matrix (Fin n) (Fin n) ℝ :=
  1 - mirror.strength • vecMulVec (places n mirror.normal) (places n mirror.normal)

structure Mirror.Proper (n : ℕ) (mirror : Mirror ℝ) : Prop where
  length : mirror.normal.length = n
  unit : mirror.strength = 0 ∨
    mirror.strength * (places n mirror.normal ⬝ᵥ places n mirror.normal) = 2

section Mirror

variable {n : ℕ} (mirror : Mirror ℝ)

theorem matrix_mul_vec (x : Fin n → ℝ) :
    mirror.matrix n *ᵥ x = x - (mirror.strength * (places n mirror.normal ⬝ᵥ x)) • places n mirror.normal := by
  rw [Mirror.matrix, sub_mulVec, one_mulVec, smul_mulVec, vecMulVec_mulVec, op_smul_eq_smul, smul_smul]

theorem matrix_involutive (proper : mirror.Proper n) (x : Fin n → ℝ) :
    mirror.matrix n *ᵥ (mirror.matrix n *ᵥ x) = x := by
  simp only [matrix_mul_vec]
  rcases proper.unit with flat | unit
  · simp [flat]
  · rw [dotProduct_sub, dotProduct_smul, smul_eq_mul, sub_sub, ← add_smul]
    have cancels : mirror.strength * (places n mirror.normal ⬝ᵥ x) + mirror.strength *
        (places n mirror.normal ⬝ᵥ x - mirror.strength * (places n mirror.normal ⬝ᵥ x) *
          (places n mirror.normal ⬝ᵥ places n mirror.normal)) = 0 := by
      linear_combination (-mirror.strength * (places n mirror.normal ⬝ᵥ x)) * unit
    rw [cancels, zero_smul, sub_zero]

theorem vector_reflect (proper : mirror.Proper n) (v : List ℝ) (length : v.length = n) :
    (reflect mirror v).length = n ∧ vector n (reflect mirror v) = mirror.matrix n *ᵥ vector n v := by
  refine ⟨by simp [reflect, length, proper.length], ?_⟩
  rw [matrix_mul_vec, ← places_dot n _ v proper.length.le]
  funext i
  have left : i.val < v.length := by rw [length]; exact i.isLt
  have right : i.val < mirror.normal.length := by rw [proper.length]; exact i.isLt
  simp only [vector, places, reflect, List.getElem?_zipWith, List.getElem?_eq_getElem left,
    List.getElem?_eq_getElem right, Option.getD_some, Pi.sub_apply, Pi.smul_apply, smul_eq_mul]
  cases mirror.normal[i.val] <;> simp

end Mirror

theorem weighted_sum_places (m : ℕ) (weights : List (Option ℝ)) (rows : List (List (Option ℝ)))
    (width : ∀ row ∈ rows, row.length = m) :
    places m (weightedSum m weights rows) = places weights.length weights ᵥ* toMatrix weights.length m rows := by
  induction weights generalizing rows with
  | nil =>
      funext j
      simp [weightedSum, places, vecMul, dotProduct]
  | cons weight weights ih =>
      cases rows with
      | nil =>
          funext j
          simp [weightedSum, places, toMatrix, vecMul, dotProduct]
      | cons row rows =>
          obtain ⟨long, others⟩ := List.forall_mem_cons.mp width
          have first : places (weight :: weights).length (weight :: weights) ᵥ*
              toMatrix (weight :: weights).length m (row :: rows) =
              weight.getD 0 • places m row + places weights.length weights ᵥ* toMatrix weights.length m rows := by
            rw [List.length_cons, places_cons, to_matrix_cons, cons_vecMul_cons, Equiv.apply_symm_apply]
          rw [first, ← ih rows others]
          cases weight with
          | none => rw [Option.getD_none, zero_smul, zero_add, weightedSum]
          | some weight =>
              rw [weightedSum]
              exact places_add_multiple m weight row _ long (weighted_sum_length m weights rows others)

theorem matrix_mul_row {h m : ℕ} (mirror : Mirror ℝ) (A : Matrix (Fin h) (Fin m) ℝ) (i : Fin h) :
    (mirror.matrix h * A) i = A i - (mirror.strength * places h mirror.normal i) • (places h mirror.normal ᵥ* A) := by
  funext j
  rw [Mirror.matrix, Matrix.sub_mul, Matrix.one_mul, Matrix.smul_mul, vecMulVec_mul]
  simp [vecMulVec_apply, mul_assoc]

theorem reflect_rows (h m : ℕ) (mirror : Mirror ℝ) (rows : List (List (Option ℝ))) (proper : mirror.Proper (h + 1))
    (shaped : Shaped (h + 1) m rows) :
    Shaped (h + 1) m (reflectRows mirror rows) ∧
      toMatrix (h + 1) m (reflectRows mirror rows) = mirror.matrix (h + 1) * toMatrix (h + 1) m rows := by
  obtain ⟨height, width⟩ := shaped
  obtain ⟨tall, wide⟩ := reflect_rows_shape m mirror rows (proper.length.trans height.symm) width
  refine ⟨⟨tall.trans height, wide⟩, ?_⟩
  have head := head_length m 0 rows width (height ▸ h.succ_pos)
  have sum := weighted_sum_places m mirror.normal rows width
  rw [proper.length] at sum
  funext i
  have inRows : i.val < rows.length := by rw [height]; exact i.isLt
  have inNormal : i.val < mirror.normal.length := by rw [proper.length]; exact i.isLt
  have row : toMatrix (h + 1) m rows i = places m rows[i.val] := by simp [to_matrix_row, inRows]
  have weight : places (h + 1) mirror.normal i = mirror.normal[i.val].getD 0 := by simp [places, inNormal]
  rw [matrix_mul_row, ← sum, row, weight, to_matrix_row]
  simp only [reflectRows, List.getElem?_zipWith, List.getElem?_eq_getElem inRows,
    List.getElem?_eq_getElem inNormal, head, Option.getD_some]
  cases mirror.normal[i.val] with
  | none => simp
  | some n =>
      exact places_less_multiple m _ _ _ (width _ (List.getElem_mem inRows)) (weighted_sum_length m _ rows width)

section Column

theorem dot_of_zero (v : List ℝ) (zero : ∀ a ∈ v, a = 0) : Block.dot v v = 0 := by
  rw [dot_eq_sum, List.zipWith_self]
  apply List.sum_eq_zero
  intro a mem
  obtain ⟨b, inside, rfl⟩ := List.mem_map.mp mem
  rw [zero b inside, mul_zero]

theorem dot_self_nonneg (v : List ℝ) : 0 ≤ Block.dot v v := by
  rw [dot_eq_dot_product v.length v v le_rfl]
  exact Finset.sum_nonneg fun i _ => mul_self_nonneg _

theorem dot_self_pos (v : List ℝ) (nonzero : ¬ ∀ a ∈ v, a = 0) : 0 < Block.dot v v := by
  refine lt_of_le_of_ne (dot_self_nonneg v) fun zero => nonzero fun a mem => ?_
  rw [dot_eq_dot_product v.length v v le_rfl] at zero
  obtain ⟨i, bound, rfl⟩ := List.mem_iff_getElem.mp mem
  simpa [vector, bound] using congrFun (dotProduct_self_eq_zero.mp zero.symm) ⟨i, bound⟩

theorem norm_of_zero (v : List ℝ) (zero : ∀ a ∈ v, a = 0) : Block.norm v = 0 := by
  unfold Block.norm
  dsimp only
  split
  · have scaled : ∀ a ∈ v.map (· / Block.largest v), a = 0 := by
      intro a mem
      obtain ⟨b, inside, rfl⟩ := List.mem_map.mp mem
      rw [zero b inside, zero_div]
    rw [dot_of_zero _ scaled]
    simp [Scalar.sqrt]
  · rw [dot_of_zero v zero]
    simp [Scalar.sqrt]

theorem foldl_max_bounds (m : ℝ) (v : List ℝ) :
    m ≤ v.foldl (fun m a => Scalar.max m (Scalar.abs a)) m ∧
      ∀ a ∈ v, |a| ≤ v.foldl (fun m a => Scalar.max m (Scalar.abs a)) m := by
  induction v generalizing m with
  | nil => simp
  | cons b v ih =>
      obtain ⟨above, each⟩ := ih (Scalar.max m (Scalar.abs b))
      have both : m ≤ Scalar.max m (Scalar.abs b) ∧ |b| ≤ Scalar.max m (Scalar.abs b) := by
        rw [scalar_max_eq, scalar_abs_eq]
        exact ⟨le_max_left _ _, le_max_right _ _⟩
      refine ⟨both.1.trans above, fun a mem => ?_⟩
      rcases List.mem_cons.mp mem with rfl | later
      · exact both.2.trans above
      · exact each a later

theorem abs_le_largest (v : List ℝ) : ∀ a ∈ v, |a| ≤ Block.largest v := (foldl_max_bounds 0 v).2

theorem largest_pos (a : ℝ) (v : List ℝ) (nonzero : ¬ ∀ b ∈ v, b = 0) : 0 < Block.largest (a :: v) := by
  by_contra bounded
  apply nonzero
  intro b mem
  have magnitude := abs_le_largest (a :: v) b (List.mem_cons_of_mem _ mem)
  exact abs_eq_zero.mp (le_antisymm (magnitude.trans (not_lt.mp bounded)) (abs_nonneg b))

theorem mem_held_iff (v : List (Option ℝ)) (a : ℝ) : a ∈ held v ↔ some a ∈ v := by
  simp [held]

theorem places_eq_zero_iff (n : ℕ) (v : List (Option ℝ)) (length : v.length = n) :
    places n v = 0 ↔ ∀ a ∈ held v, a = 0 := by
  constructor
  · intro zero a mem
    obtain ⟨i, bound, here⟩ := List.mem_iff_getElem.mp ((mem_held_iff v a).mp mem)
    have value := congrFun zero ⟨i, length ▸ bound⟩
    simpa [places, bound, here] using value
  · intro flat
    funext i
    have bound : i.val < v.length := by rw [length]; exact i.isLt
    cases here : v[i.val] with
    | none => simp [places, bound, here]
    | some a =>
        have zero := flat a ((mem_held_iff v a).mpr (here ▸ List.getElem_mem bound))
        simp [places, bound, here, zero]

theorem dot_held (n : ℕ) (v : List (Option ℝ)) (bound : v.length ≤ n) :
    Block.dot (held v) (held v) = places n v ⬝ᵥ places n v := by
  induction v generalizing n with
  | nil => simp [held, places, dotProduct, dot_eq_sum]
  | cons a v ih =>
      cases n with
      | zero => exact absurd bound (by simp)
      | succ n =>
          have rest := ih n (Nat.le_of_succ_le_succ bound)
          rw [places_cons, cons_dotProduct_cons, ← rest]
          cases a <;> simp [held, dot_eq_sum]

theorem householder {n : ℕ} (c : Fin (n + 1) → ℝ) (image : ℝ) (square : image * image = c ⬝ᵥ c)
    (opposite : image * c 0 ≤ 0) (nonzero : c ≠ 0) :
    let normal := c - vecCons image 0
    0 < normal ⬝ᵥ normal ∧ normal ⬝ᵥ normal = 2 * (normal ⬝ᵥ c) := by
  -- The image is on the other side of the axis, so that the normal does not vanish.
  intro normal
  have positive : 0 < c ⬝ᵥ c :=
    lt_of_le_of_ne (Finset.sum_nonneg fun i _ => mul_self_nonneg (c i))
      fun zero => nonzero (dotProduct_self_eq_zero.mp zero.symm)
  have axis : (vecCons image 0 : Fin (n + 1) → ℝ) ⬝ᵥ c = image * c 0 := by
    simp [dotProduct, Fin.sum_univ_succ]
  have own : (vecCons image 0 : Fin (n + 1) → ℝ) ⬝ᵥ vecCons image 0 = image * image := by
    simp
  have products : normal ⬝ᵥ c = c ⬝ᵥ c - image * c 0 := by rw [sub_dotProduct, axis]
  have length : normal ⬝ᵥ normal = 2 * (c ⬝ᵥ c) - 2 * (image * c 0) := by
    rw [sub_dotProduct, dotProduct_sub, dotProduct_sub, dotProduct_comm c (vecCons image 0), axis, own, square]
    ring
  exact ⟨by rw [length]; linarith, by rw [length, products]; ring⟩

theorem places_scaled (n : ℕ) (m : ℝ) (v : List (Option ℝ)) :
    places n (v.map fun a => a.map (· / m)) = m⁻¹ • places n v := by
  funext i
  simp only [places, List.getElem?_map, Pi.smul_apply, smul_eq_mul]
  cases v[i.val]? with
  | none => simp
  | some a => cases a <;> simp [div_eq_inv_mul]

theorem held_scaled (m : ℝ) (v : List (Option ℝ)) :
    held (v.map fun a => a.map (· / m)) = (held v).map (· / m) := by
  induction v with
  | nil => rfl
  | cons a v ih => cases a <;> simpa [held] using ih

theorem scaled_square (n : ℕ) (f m : ℝ) (rest : List (Option ℝ)) (length : rest.length = n) :
    Block.dot ((f :: held rest).map (· / m)) ((f :: held rest).map (· / m)) =
      (m⁻¹ • vecCons f (places n rest)) ⬝ᵥ (m⁻¹ • vecCons f (places n rest)) := by
  rw [show f :: held rest = held (some f :: rest) from rfl, ← held_scaled, dot_held (n + 1) _ (by simp [length]), places_scaled, places_cons]
  rfl

theorem mirror_scaled (n : ℕ) (f m image : ℝ) (rest : List (Option ℝ)) (length : rest.length = n) (scale : 0 < m)
    (nonzero : places n rest ≠ 0)
    (square : image * image = (m⁻¹ • vecCons f (places n rest)) ⬝ᵥ (m⁻¹ • vecCons f (places n rest)))
    (opposite : image * (f / m) ≤ 0) :
    let normal := some (f / m - image) :: rest.map fun a => a.map (· / m)
    let mirror : Mirror ℝ := ⟨normal, 2.0 / Block.dot (held normal) (held normal)⟩
    mirror.Proper (n + 1) ∧ mirror.matrix (n + 1) *ᵥ vecCons f (places n rest) = vecCons (image * m) 0 := by
  intro normal mirror
  set c : Fin (n + 1) → ℝ := m⁻¹ • vecCons f (places n rest) with column
  have tall : normal.length = n + 1 := by simp [normal, length]
  have along : places (n + 1) normal = c - vecCons image 0 := by
    rw [places_cons, places_scaled, column]
    funext i
    cases i using Fin.cases <;> simp [div_eq_inv_mul]
  have apart : c ≠ 0 := fun zero => nonzero (funext fun i => by
    have entry := congrFun zero i.succ
    simpa [column, scale.ne'] using entry)
  -- The scaled column is reflected onto the first axis, and the scale taken back at the end.
  obtain ⟨positive, twice⟩ := householder c image square (by simpa [column, div_eq_inv_mul] using opposite) apart
  rw [← along] at positive twice
  have strength : mirror.strength = 2 / (places (n + 1) normal ⬝ᵥ places (n + 1) normal) := by
    change (2.0 : ℝ) / Block.dot (held normal) (held normal) = _
    rw [dot_held (n + 1) normal tall.le]
    norm_num
  refine ⟨⟨tall, .inr ?_⟩, ?_⟩
  · rw [strength]
    exact div_mul_cancel₀ 2 positive.ne'
  · have whole : vecCons f (places n rest) = m • c := by rw [column, smul_inv_smul₀ scale.ne']
    have one : mirror.strength * (places (n + 1) normal ⬝ᵥ c) = 1 := by
      have half : 0 < places (n + 1) normal ⬝ᵥ c := by linarith
      rw [strength, twice]
      field_simp
    rw [whole, mulVec_smul, matrix_mul_vec]
    change m • (c - (mirror.strength * (places (n + 1) normal ⬝ᵥ c)) • places (n + 1) normal) = _
    rw [one, one_smul, along, sub_sub_cancel]
    funext i
    cases i using Fin.cases <;> simp [mul_comm]

theorem opposite_root (f m square : ℝ) (scale : 0 < m) (nonneg : 0 ≤ square) :
    let image := if f < 0 then Real.sqrt square else -Real.sqrt square
    image * image = square ∧ image * (f / m) ≤ 0 := by
  intro image
  have root := Real.mul_self_sqrt nonneg
  have long := Real.sqrt_nonneg square
  by_cases negative : f < 0
  · have chosen : image = Real.sqrt square := if_pos negative
    rw [chosen]
    exact ⟨root, mul_nonpos_of_nonneg_of_nonpos long (div_nonpos_of_nonpos_of_nonneg negative.le scale.le)⟩
  · have chosen : image = -Real.sqrt square := if_neg negative
    rw [chosen]
    exact ⟨(neg_mul_neg _ _).trans root,
      mul_nonpos_of_nonpos_of_nonneg (neg_nonpos.mpr long) (div_nonneg (not_lt.mp negative) scale.le)⟩

-- The first entry and the length of the others vanish or have full precision.
def Precise : List (Option ℝ) → Prop
  | [] => True
  | first :: rest =>
      (Scalar.abs (first.getD 0) < Scalar.leastNormal → first.getD 0 = 0) ∧
        (Block.norm (held rest) < Scalar.leastNormal → ∀ a ∈ held rest, a = 0)

theorem mirror_of_precise (n : ℕ) (first : Option ℝ) (rest : List (Option ℝ)) (length : rest.length = n)
    (precise : Precise (first :: rest)) :
    (mirrorOf (first :: rest)).1.Proper (n + 1) ∧
      (mirrorOf (first :: rest)).1.matrix (n + 1) *ᵥ places (n + 1) (first :: rest) =
        vecCons (mirrorOf (first :: rest)).2 0 := by
  obtain ⟨wholeHead, wholeTail⟩ := precise
  have head : (if Scalar.abs (first.getD 0) < Scalar.leastNormal then 0 else first.getD 0) = first.getD 0 := by
    split
    · rename_i small
      exact (wholeHead small).symm
    · rfl
  unfold mirrorOf
  dsimp only
  rw [head, places_cons]
  by_cases small : Block.norm (held rest) < Scalar.leastNormal
  · -- Nothing is reflected, and below its first entry the column is zero already.
    rw [if_pos small]
    refine ⟨⟨by simp [length], .inl rfl⟩, ?_⟩
    rw [(places_eq_zero_iff n rest length).mpr (wholeTail small)]
    simp [Mirror.matrix]
  · rw [if_neg small]
    have nonzero : places n rest ≠ 0 := by
      intro zero
      rw [norm_of_zero _ ((places_eq_zero_iff n rest length).mp zero)] at small
      exact small least_normal_pos
    have scale : 0 < Block.largest (first.getD 0 :: held rest) :=
      largest_pos _ _ fun flat => nonzero ((places_eq_zero_iff n rest length).mpr flat)
    generalize Block.largest (first.getD 0 :: held rest) = m at scale ⊢
    generalize first.getD 0 = f
    have squared := scaled_square n f m rest length
    have nonneg := dot_self_nonneg ((f :: held rest).map (· / m))
    generalize Block.dot ((f :: held rest).map (· / m)) ((f :: held rest).map (· / m)) = square at squared nonneg ⊢
    obtain ⟨root, opposite⟩ := opposite_root f m square scale nonneg
    exact mirror_scaled n f m _ rest length scale nonzero (root.trans squared) opposite

end Column

def PreciseThroughout : (size : ℕ) → List (List (Option ℝ)) → Prop
  | size + 1, row :: rows =>
      Precise ((row :: rows).map (·.headD none)) ∧
        PreciseThroughout size
          (reflectRows (mirrorOf ((row :: rows).map (·.headD none))).1 ((row :: rows).map List.tail)).tail
  | _, _ => True

theorem mul_vec_split (n : ℕ) (rows : List (List (Option ℝ))) (shaped : Shaped (n + 1) (n + 1) rows) (x : ℝ)
    (xs : Fin n → ℝ) :
    toMatrix (n + 1) (n + 1) rows *ᵥ vecCons x xs =
      x • places (n + 1) (rows.map (·.headD none)) + toMatrix (n + 1) n (rows.map List.tail) *ᵥ xs := by
  obtain ⟨height, width⟩ := shaped
  funext i
  have inside : i.val < rows.length := by rw [height]; exact i.isLt
  have long := width rows[i.val] (List.getElem_mem inside)
  simp only [Matrix.mulVec, to_matrix_row, places, List.getElem?_map, List.getElem?_eq_getElem inside,
    Option.map_some, Option.getD_some, Pi.add_apply, Pi.smul_apply, smul_eq_mul]
  cases row : rows[i.val] with
  | nil => simp [row] at long
  | cons a rest =>
      change places (n + 1) (a :: rest) ⬝ᵥ vecCons x xs = x * a.getD 0 + places n rest ⬝ᵥ xs
      rw [places_cons, cons_dotProduct_cons, mul_comm]

theorem reflected_mul_vec (n : ℕ) (row : List (Option ℝ)) (rows : List (List (Option ℝ)))
    (shaped : Shaped (n + 1) (n + 1) (row :: rows)) (precise : Precise ((row :: rows).map (·.headD none))) :
    let mirror := (mirrorOf ((row :: rows).map (·.headD none))).1
    let reflected := reflectRows mirror ((row :: rows).map List.tail)
    mirror.Proper (n + 1) ∧ Shaped n n reflected.tail ∧ (reflected.headD []).length = n ∧
      ∀ (x : ℝ) (xs : Fin n → ℝ),
        mirror.matrix (n + 1) *ᵥ (toMatrix (n + 1) (n + 1) (row :: rows) *ᵥ vecCons x xs) =
          vecCons (x * (mirrorOf ((row :: rows).map (·.headD none))).2 + places n (reflected.headD []) ⬝ᵥ xs)
            (toMatrix n n reflected.tail *ᵥ xs) := by
  intro mirror reflected
  obtain ⟨height, width⟩ := shaped
  obtain ⟨proper, onAxis⟩ := mirror_of_precise n (row.headD none)
    (rows.map fun other : List (Option ℝ) => other.headD none) (by simpa using height) precise
  change mirror.matrix (n + 1) *ᵥ places (n + 1) ((row :: rows).map (·.headD none)) = _ at onAxis
  have tails : Shaped (n + 1) n ((row :: rows).map List.tail) := ⟨by simpa using height, tails_length n _ width⟩
  obtain ⟨⟨tall, wide⟩, product⟩ := reflect_rows n n mirror _ proper tails
  change reflected.length = n + 1 at tall
  change ∀ row ∈ reflected, row.length = n at wide
  change toMatrix (n + 1) n reflected = _ at product
  cases split : reflected with
  | nil => simp [split] at tall
  | cons first rest =>
      rw [split] at tall wide product
      refine ⟨proper, ⟨Nat.succ.inj tall, fun other mem => wide other (List.mem_cons_of_mem _ mem)⟩,
        wide first List.mem_cons_self, fun x xs => ?_⟩
      rw [mul_vec_split n _ ⟨height, width⟩, mulVec_add, mulVec_smul, mulVec_mulVec, ← product, onAxis,
        to_matrix_cons, cons_mulVec, Equiv.apply_symm_apply, smul_cons, smul_zero, cons_add_cons, zero_add]
      rfl

theorem steps_solve (n : ℕ) (rows : List (List (Option ℝ))) (shaped : Shaped n n rows)
    (apart : ∀ step ∈ factor n rows, step.diagonal ≠ 0) (precise : PreciseThroughout n rows) (rhs : List ℝ)
    (length : rhs.length = n) :
    (solve (factor n rows) rhs).length = n ∧
      toMatrix n n rows *ᵥ vector n (solve (factor n rows) rhs) = vector n rhs := by
  induction n generalizing rows rhs with
  | zero =>
      cases List.eq_nil_of_length_eq_zero length
      cases rows <;> exact ⟨rfl, funext fun i => i.elim0⟩
  | succ n ih =>
      cases rows with
      | nil => exact absurd shaped.1 (by simp)
      | cons row rows =>
          obtain ⟨here, later⟩ := precise
          obtain ⟨proper, smaller, wide, step⟩ := reflected_mul_vec n row rows shaped here
          rw [factor] at apart ⊢
          dsimp only at step later apart ⊢
          generalize mirrorOf ((row :: rows).map (·.headD none)) = found at *
          obtain ⟨mirror, diagonal⟩ := found
          generalize reflectRows mirror ((row :: rows).map List.tail) = reflected at *
          generalize toMatrix (n + 1) (n + 1) (row :: rows) = A at *
          obtain ⟨first, others⟩ := List.forall_mem_cons.mp apart
          obtain ⟨long, turned⟩ := vector_reflect mirror proper rhs length
          rw [solve]
          dsimp only
          cases image : reflect mirror rhs with
          | nil => simp [image] at long
          | cons b bs =>
              rw [image] at long
              obtain ⟨tall, solved⟩ := ih reflected.tail smaller others later bs (Nat.succ.inj long)
              rw [List.tail_cons, List.headD_cons]
              refine ⟨by simp [tall], ?_⟩
              -- Both sides are compared after the reflection, which is its own inverse.
              rw [← matrix_involutive mirror proper (A *ᵥ _), vector_cons, step, solved,
                div_mul_cancel₀ _ first, places_dot n _ _ wide.le, sub_add_cancel, ← vector_cons, ← image, turned,
                matrix_involutive mirror proper]

theorem diagonal_ne_zero (n : ℕ) (rows : List (List (Option ℝ))) (shaped : Shaped n n rows)
    (regular : ∀ x, toMatrix n n rows *ᵥ x = 0 → x = 0) (precise : PreciseThroughout n rows) :
    ∀ step ∈ factor n rows, step.diagonal ≠ 0 := by
  induction n generalizing rows with
  | zero => cases rows <;> simp [factor]
  | succ n ih =>
      cases rows with
      | nil => exact absurd shaped.1 (by simp)
      | cons row rows =>
          obtain ⟨here, later⟩ := precise
          obtain ⟨proper, smaller, _, step⟩ := reflected_mul_vec n row rows shaped here
          rw [factor]
          dsimp only at step later ⊢
          generalize mirrorOf ((row :: rows).map (·.headD none)) = found at *
          obtain ⟨mirror, diagonal⟩ := found
          generalize reflectRows mirror ((row :: rows).map List.tail) = reflected at *
          generalize toMatrix (n + 1) (n + 1) (row :: rows) = A at *
          have vanishes (x : ℝ) (xs : Fin n → ℝ) (zero : mirror.matrix (n + 1) *ᵥ (A *ᵥ vecCons x xs) = 0) :
              vecCons x xs = 0 := by
            apply regular
            rw [← matrix_involutive mirror proper (A *ᵥ vecCons x xs), zero, mulVec_zero]
          -- Without a diagonal entry the first unit vector would vanish under the matrix.
          have apart : diagonal ≠ 0 := by
            intro zero
            have flat := vanishes 1 0 (by rw [step]; simp [zero])
            simpa using congrFun flat 0
          -- What vanishes below extends, by the first row, to a vector that vanishes altogether.
          have rest : ∀ xs, toMatrix n n reflected.tail *ᵥ xs = 0 → xs = 0 := by
            intro xs zero
            have flat := vanishes (-(places n (reflected.headD []) ⬝ᵥ xs) / diagonal) xs
              (by rw [step, zero, div_mul_cancel₀ _ apart]; simp)
            exact funext fun i => by simpa using congrFun flat i.succ
          exact List.forall_mem_cons.mpr ⟨apart, ih reflected.tail smaller rest later⟩

theorem factor_solves (n : ℕ) (rows : List (List (Option ℝ))) (shaped : Shaped n n rows)
    (regular : ∀ x, toMatrix n n rows *ᵥ x = 0 → x = 0) (precise : PreciseThroughout n rows) (rhs : List ℝ)
    (length : rhs.length = n) :
    (solve (factor n rows) rhs).length = n ∧
      toMatrix n n rows *ᵥ vector n (solve (factor n rows) rhs) = vector n rhs :=
  steps_solve n rows shaped (diagonal_ne_zero n rows shaped regular precise) precise rhs length

end FactorGraph.Reflection
