import Mathlib
import FactorGraph.Linear.Cholesky
import FactorGraph.Proofs.Linear.Reflection
import FactorGraph.Proofs.NotANumber

set_option autoImplicit false

namespace FactorGraph

open RealOrNaN

namespace RealOrNaN

section Operations

variable (x y : ℝ)

theorem zero_eq : (0 : RealOrNaN) = number 0 := rfl

@[simp] theorem number_add : number x + number y = number (x + y) := rfl

@[simp] theorem number_sub : number x - number y = number (x - y) := rfl

@[simp] theorem number_mul : number x * number y = number (x * y) := rfl

@[simp] theorem number_neg : -number x = number (-x) := rfl

theorem number_div (nonzero : y ≠ 0) : number x / number y = number (x / y) := if_neg nonzero

theorem number_sqrt (nonneg : 0 ≤ x) : Scalar.sqrt (number x) = number (Scalar.sqrt x) := if_neg nonneg.not_gt

theorem number_abs : Scalar.abs (number x) = number (Scalar.abs x) := by
  unfold Scalar.abs
  have same : number x < 0 ↔ x < 0 := Iff.rfl
  simp only [same]
  split <;> rfl

theorem number_max : Scalar.max (number x) (number y) = number (Scalar.max x y) := by
  unfold Scalar.max
  simp only [number_le]
  split
  · rfl
  · split <;> rfl

end Operations

section Sums

variable {β : Type}

theorem foldl_number (step : RealOrNaN → β → RealOrNaN) (real : ℝ → β → ℝ) (xs : List β) (x : ℝ)
    (each : ∀ x, ∀ b ∈ xs, step (number x) b = number (real x b)) :
    xs.foldl step (number x) = number (xs.foldl real x) := by
  induction xs generalizing x with
  | nil => rfl
  | cons b rest ih =>
      rw [List.foldl_cons, List.foldl_cons, each x b List.mem_cons_self]
      exact ih _ fun x c mem => each x c (List.mem_cons_of_mem b mem)

theorem dot_number (v w : List ℝ) : Block.dot (v.map number) (w.map number) = number (Block.dot v w) := by
  have products : List.zipWith (· * ·) (v.map number) (w.map number) = (List.zipWith (· * ·) v w).map number := by
    rw [List.zipWith_map, List.map_zipWith]
    rfl
  rw [Block.dot, products, List.foldl_map]
  exact foldl_number _ (· + ·) _ 0 fun _ _ _ => rfl

theorem largest_number (v : List ℝ) : Block.largest (v.map number) = number (Block.largest v) := by
  rw [Block.largest, List.foldl_map]
  exact foldl_number _ (fun m a => Scalar.max m (Scalar.abs a)) v 0 fun m a _ => by
    rw [number_abs, number_max]

theorem map_div_number (v : List ℝ) (m : ℝ) (nonzero : m ≠ 0) :
    (v.map number).map (· / number m) = (v.map (· / m)).map number := by
  simp only [List.map_map]
  exact List.map_congr_left fun x _ => number_div x m nonzero

theorem norm_number (v : List ℝ) : Block.norm (v.map number) = number (Block.norm v) := by
  unfold Block.norm
  dsimp only
  rw [largest_number]
  by_cases positive : 0 < Block.largest v
  · rw [if_pos ⟨positive, rfl⟩, if_pos ⟨positive, rfl⟩, map_div_number v _ positive.ne', dot_number,
      number_sqrt _ (Reflection.dot_self_nonneg _), number_mul]
  · rw [if_neg fun both => positive both.1, if_neg fun both => positive both.1, dot_number,
      number_sqrt _ (Reflection.dot_self_nonneg v)]

end Sums

end RealOrNaN

namespace RealOrNaN

def numbers (v : List (Option ℝ)) : List (Option RealOrNaN) := v.map (Option.map number)

theorem numbers_cons (a : Option ℝ) (v : List (Option ℝ)) : numbers (a :: v) = a.map number :: numbers v := rfl

theorem held_numbers (v : List (Option ℝ)) : Places.held (numbers v) = (Places.held v).map number := by
  induction v with
  | nil => rfl
  | cons a v ih => cases a <;> simpa [Places.held, numbers] using ih

theorem places_dot_numbers (v : List (Option ℝ)) (w : List ℝ) :
    Places.dot (numbers v) (w.map number) = number (Places.dot v w) := by
  rw [Places.dot, numbers, List.zip_map, List.foldl_map]
  refine foldl_number _ (fun sum (e : Option ℝ × ℝ) => (e.1.map fun a => sum + a * e.2).getD sum) _ 0 fun sum e _ => ?_
  obtain ⟨a, b⟩ := e
  cases a <;> rfl

theorem less_multiple_number (scale : ℝ) (a b : Option ℝ) :
    Places.lessMultiple (number scale) (a.map number) (b.map number) = (Places.lessMultiple scale a b).map number := by
  cases b with
  | none => rfl
  | some b => cases a <;> rfl

theorem add_multiple_number (scale : ℝ) (a b : Option ℝ) :
    Places.addMultiple (number scale) (a.map number) (b.map number) = (Places.addMultiple scale a b).map number := by
  cases a with
  | none => rfl
  | some a => cases b <;> rfl

theorem zip_numbers (f : Option RealOrNaN → Option RealOrNaN → Option RealOrNaN) (g : Option ℝ → Option ℝ → Option ℝ)
    (each : ∀ a b, f (a.map number) (b.map number) = (g a b).map number) (v w : List (Option ℝ)) :
    List.zipWith f (numbers v) (numbers w) = numbers (List.zipWith g v w) := by
  rw [numbers, numbers, numbers, List.zipWith_map, List.map_zipWith]
  simp only [each]

theorem weighted_sum_numbers (width : ℕ) (weights : List (Option ℝ)) (rows : List (List (Option ℝ))) :
    Places.weightedSum width (numbers weights) (rows.map numbers) = numbers (Places.weightedSum width weights rows) := by
  induction weights generalizing rows with
  | nil => simp [Places.weightedSum, numbers]
  | cons weight weights ih =>
      cases rows with
      | nil => simp [Places.weightedSum, numbers]
      | cons row rows =>
          simp only [numbers_cons, List.map_cons, Places.weightedSum, ih]
          cases weight with
          | none => rfl
          | some weight => exact zip_numbers _ _ (add_multiple_number weight) row _

theorem heads_numbers (rows : List (List (Option ℝ))) :
    (rows.map numbers).map (·.headD none) = numbers (rows.map (·.headD none)) := by
  simp only [numbers, List.map_map]
  exact List.map_congr_left fun row _ => by cases row <;> rfl

theorem tails_numbers (rows : List (List (Option ℝ))) :
    (rows.map numbers).map List.tail = (rows.map List.tail).map numbers := by
  simp only [List.map_map]
  exact List.map_congr_left fun row _ => by cases row <;> rfl

end RealOrNaN

namespace Cholesky

def Column.map {α β : Type} (f : α → β) (column : Column α) : Column β :=
  ⟨f column.root, column.below.map (Option.map f)⟩

theorem less_column_numbers (below row : List (Option ℝ)) (l : Option ℝ) :
    lessColumn (numbers below) (numbers row) (l.map number) = numbers (lessColumn below row l) := by
  cases l with
  | none => rfl
  | some l => exact zip_numbers _ _ (less_multiple_number l) row below

theorem remainder_numbers (below : List (Option ℝ)) (rows : List (List (Option ℝ))) :
    remainder (numbers below) (rows.map numbers) = (remainder below rows).map numbers := by
  rw [remainder, tails_numbers, remainder, List.map_zipWith]
  nth_rewrite 2 [numbers]
  rw [List.zipWith_map]
  simp only [less_column_numbers]

theorem below_numbers (pivot : ℝ) (positive : 0 < pivot) (rows : List (List (Option ℝ))) :
    (rows.map numbers).map (fun row => (row.headD none).map (· / Scalar.sqrt (number pivot))) =
      numbers (rows.map fun row => (row.headD none).map (· / Scalar.sqrt pivot)) := by
  have root : (Scalar.sqrt pivot : ℝ) ≠ 0 := (Real.sqrt_pos.mpr positive).ne'
  rw [number_sqrt pivot positive.le]
  simp only [numbers, List.map_map]
  refine List.map_congr_left fun row _ => ?_
  cases row with
  | nil => rfl
  | cons a row =>
      cases a with
      | none => rfl
      | some a => exact congrArg some (number_div a _ root)

theorem factor_numbers (size : ℕ) (rows : List (List (Option ℝ))) :
    factor size (rows.map numbers) = (factor size rows).map (List.map (Column.map number)) := by
  -- A root is taken of a positive pivot only, and then divides.
  induction size generalizing rows with
  | zero => rfl
  | succ size ih =>
      match rows with
      | [] | [] :: _ | (none :: _) :: _ => rfl
      | (some pivot :: first) :: rows =>
          rw [List.map_cons, numbers_cons, Option.map_some, factor, factor]
          by_cases positive : 0 < pivot
          · have above : (0 : RealOrNaN) < number pivot := positive
            dsimp only
            rw [if_pos positive, if_pos above, below_numbers pivot positive, remainder_numbers, ih,
              number_sqrt pivot positive.le, Option.map_map, Option.map_map]
            rfl
          · have above : ¬ (0 : RealOrNaN) < number pivot := positive
            rw [if_neg positive, if_neg above]
            rfl

theorem root_pos (size : ℕ) (rows : List (List (Option ℝ))) (columns : List (Column ℝ))
    (factored : factor size rows = some columns) : ∀ column ∈ columns, 0 < column.root := by
  induction size generalizing rows columns with
  | zero =>
      cases factored
      simp
  | succ size ih =>
      match rows with
      | [] | [] :: _ | (none :: _) :: _ => cases factored
      | (some pivot :: first) :: rows =>
          rw [factor] at factored
          by_cases positive : 0 < pivot
          · rw [if_pos positive] at factored
            obtain ⟨others, found, rfl⟩ := Option.map_eq_some_iff.mp factored
            exact List.forall_mem_cons.mpr ⟨Real.sqrt_pos.mpr positive, ih _ others found⟩
          · simp [positive] at factored

theorem lower_numbers (y : ℝ) (column : Column ℝ) (bs : List ℝ) :
    lower (number y) (column.map number) (bs.map number) = (lower y column bs).map number := by
  rw [lower, lower, Column.map, List.zipWith_map, List.map_zipWith]
  congr 1
  funext b l
  cases l <;> rfl

theorem solve_numbers (columns : List (Column ℝ)) (apart : ∀ column ∈ columns, column.root ≠ 0) (bs : List ℝ) :
    solve (columns.map (Column.map number)) (bs.map number) = (solve columns bs).map number := by
  induction columns generalizing bs with
  | nil => rfl
  | cons column columns ih =>
      obtain ⟨root, others⟩ := List.forall_mem_cons.mp apart
      cases bs with
      | nil => rfl
      | cons b bs =>
          rw [List.map_cons, List.map_cons, solve, solve, List.map_cons]
          have first : number b / (column.map number).root = number (b / column.root) := number_div b _ root
          rw [first, lower_numbers, ih others]
          refine congrArg (· :: _) ?_
          change (number (b / column.root) - Places.dot (numbers column.below) _) / number column.root = _
          rw [places_dot_numbers, number_sub, number_div _ _ root]

end Cholesky

namespace Reflection

def Mirror.map {α β : Type} (f : α → β) (mirror : Mirror α) : Mirror β :=
  ⟨mirror.normal.map (Option.map f), f mirror.strength⟩

def Step.map {α β : Type} (f : α → β) (step : Step α) : Step β :=
  ⟨step.mirror.map f, f step.diagonal, step.right.map (Option.map f)⟩

section Column

variable (h m image : ℝ) (rest : List (Option ℝ))

theorem image_number (l : ℝ) : (if number h < 0 then number l else -number l) = number (if h < 0 then l else -l) := by
  have negative : number h < 0 ↔ h < 0 := Iff.rfl
  simp only [negative]
  split <;> rfl

theorem normal_numbers (scale : m ≠ 0) :
    some (number h / number m - number image) :: (numbers rest).map (Option.map (· / number m)) =
      numbers (some (h / m - image) :: rest.map (Option.map (· / m))) := by
  rw [number_div _ _ scale, numbers_cons, numbers, numbers, List.map_map, List.map_map]
  refine congrArg _ (List.map_congr_left fun a _ => ?_)
  cases a with
  | none => rfl
  | some a => exact congrArg some (number_div a m scale)

theorem normal_dot_pos (scale : m ≠ 0) (nonzero : ¬ ∀ a ∈ Places.held rest, a = 0) :
    0 < Block.dot (Places.held (some (h / m - image) :: rest.map (Option.map (· / m))))
      (Places.held (some (h / m - image) :: rest.map (Option.map (· / m)))) := by
  refine dot_self_pos _ fun zero => nonzero fun a mem => ?_
  have scaled := zero (a / m) (by
    rw [mem_held_iff] at mem ⊢
    exact List.mem_cons_of_mem _ (List.mem_map.mpr ⟨some a, mem, rfl⟩))
  exact (div_eq_zero_iff.mp scaled).resolve_right scale

end Column

theorem mirror_numbers (column : List (Option ℝ)) :
    mirrorOf (numbers column) = ((mirrorOf column).1.map number, number (mirrorOf column).2) := by
  -- Where a reflection is made, neither the largest entry nor the length of the normal is zero.
  cases column with
  | nil => rfl
  | cons first rest =>
      have entry : (first.map number).getD 0 = number (first.getD 0) := by cases first <;> rfl
      have below (x : ℝ) : number x < (Scalar.leastNormal : RealOrNaN) ↔ x < Scalar.leastNormal := Iff.rfl
      rw [numbers_cons]
      unfold mirrorOf
      simp only [entry, held_numbers, norm_number, number_abs, below]
      generalize first.getD 0 = f
      have head : (if Scalar.abs f < Scalar.leastNormal then (0 : RealOrNaN) else number f) =
          number (if Scalar.abs f < Scalar.leastNormal then 0 else f) := by split <;> rfl
      rw [head]
      generalize (if Scalar.abs f < Scalar.leastNormal then 0 else f) = h
      by_cases small : Block.norm (Places.held rest) < Scalar.leastNormal
      · rw [if_pos small, if_pos small]
        rfl
      · rw [if_neg small, if_neg small]
        have nonzero : ¬ ∀ a ∈ Places.held rest, a = 0 := by
          intro zero
          rw [norm_of_zero _ zero] at small
          exact small least_normal_pos
        have scale := (largest_pos h _ nonzero).ne'
        rw [← List.map_cons, largest_number, map_div_number _ _ scale, dot_number, number_sqrt _ (dot_self_nonneg _),
          image_number, normal_numbers _ _ _ _ scale, held_numbers, dot_number]
        refine Prod.ext (congrArg (Mirror.mk _) ?_) rfl
        exact number_div _ _ (normal_dot_pos _ _ _ rest scale nonzero).ne'

theorem reflect_numbers (mirror : Mirror ℝ) (v : List ℝ) :
    reflect (mirror.map number) (v.map number) = (reflect mirror v).map number := by
  change List.zipWith _ _ (numbers mirror.normal) = _
  rw [numbers, List.zipWith_map, reflect, List.map_zipWith]
  congr 1
  funext a n
  change (Option.map (fun n => number a - number mirror.strength * Places.dot (numbers mirror.normal) (v.map number) * n)
    (n.map number)).getD (number a) = _
  rw [places_dot_numbers]
  cases n <;> rfl

theorem reflect_rows_numbers (mirror : Mirror ℝ) (rows : List (List (Option ℝ))) :
    reflectRows (mirror.map number) (rows.map numbers) = (reflectRows mirror rows).map numbers := by
  have width : ((rows.map numbers).headD []).length = (rows.headD []).length := by
    cases rows <;> simp [numbers]
  have sum : Places.weightedSum (rows.headD []).length (mirror.map number).normal (rows.map numbers) =
      numbers (Places.weightedSum (rows.headD []).length mirror.normal rows) := weighted_sum_numbers _ _ _
  unfold reflectRows
  simp only [width, sum]
  rw [Mirror.map, List.zipWith_map, List.map_zipWith]
  congr 1
  funext row n
  cases n with
  | none => rfl
  | some n => exact zip_numbers _ _ (less_multiple_number (mirror.strength * n)) row _

theorem factor_numbers (size : ℕ) (rows : List (List (Option ℝ))) :
    factor size (rows.map numbers) = (factor size rows).map (Step.map number) := by
  induction size generalizing rows with
  | zero => cases rows <;> rfl
  | succ size ih =>
      cases rows with
      | nil => rfl
      | cons row rows =>
          rw [List.map_cons, factor, factor, ← List.map_cons, heads_numbers, tails_numbers, mirror_numbers]
          dsimp only
          have first (rows : List (List (Option ℝ))) : (rows.map numbers).headD [] = numbers (rows.headD []) := by
            cases rows <;> rfl
          rw [reflect_rows_numbers, ← List.map_tail, ih, first]
          rfl

theorem solve_numbers (steps : List (Step ℝ)) (apart : ∀ step ∈ steps, step.diagonal ≠ 0) (b : List ℝ) :
    solve (steps.map (Step.map number)) (b.map number) = (solve steps b).map number := by
  induction steps generalizing b with
  | nil => rfl
  | cons step steps ih =>
      obtain ⟨diagonal, others⟩ := List.forall_mem_cons.mp apart
      rw [List.map_cons, solve, solve, List.map_cons]
      have reflected : reflect (step.map number).mirror (b.map number) = (reflect step.mirror b).map number :=
        reflect_numbers step.mirror b
      have head (v : List ℝ) : (v.map number).headD 0 = number (v.headD 0) := by cases v <;> rfl
      rw [reflected, ← List.map_tail, ih others, head]
      refine congrArg (· :: _) ?_
      change (_ - Places.dot (numbers step.right) _) / number step.diagonal = _
      rw [places_dot_numbers, number_sub, number_div _ _ diagonal]

end Reflection

end FactorGraph
