import Mathlib
import FactorGraph.Proofs.Exact

set_option autoImplicit false

namespace FactorGraph

inductive RealOrNaN where
  | number (x : ℝ)
  | nan

namespace RealOrNaN

open Classical

def lift (f : ℝ → ℝ) : RealOrNaN → RealOrNaN
  | number x => number (f x)
  | nan => nan

def lift₂ (f : ℝ → ℝ → ℝ) : RealOrNaN → RealOrNaN → RealOrNaN
  | number x, number y => number (f x y)
  | _, _ => nan

def compares (r : ℝ → ℝ → Prop) : RealOrNaN → RealOrNaN → Prop
  | number x, number y => r x y
  | _, _ => False

noncomputable def divide : RealOrNaN → RealOrNaN → RealOrNaN
  | number x, number y => if y = 0 then nan else number (x / y)
  | _, _ => nan

noncomputable def root : RealOrNaN → RealOrNaN
  | number x => if x < 0 then nan else number (Real.sqrt x)
  | nan => nan

noncomputable instance : Scalar RealOrNaN where
  zero := number 0
  one := number 1
  add := lift₂ (· + ·)
  sub := lift₂ (· - ·)
  mul := lift₂ (· * ·)
  div := divide
  neg := lift (- ·)
  lt := compares (· < ·)
  le := compares (· ≤ ·)
  beq a b := decide (compares (· = ·) a b)
  natCast n := number n
  ofScientific mantissa negative exponent := number (OfScientific.ofScientific mantissa negative exponent)
  decidableLT := fun _ _ => Classical.propDecidable _
  decidableLE := fun _ _ => Classical.propDecidable _
  sqrt := root
  sin := lift Real.sin
  cos := lift Real.cos
  atan2 := lift₂ fun y x => Complex.arg ⟨x, y⟩
  pi := number Real.pi
  isFinite
    | number _ => true
    | nan => false

section Finite

variable (a b : RealOrNaN)

theorem finite_iff : Scalar.isFinite a = true ↔ ∃ x, a = number x := by
  cases a <;> simp [Scalar.isFinite]

@[simp] theorem finite_zero : Scalar.isFinite (0 : RealOrNaN) = true := rfl

@[simp] theorem finite_one : Scalar.isFinite (1 : RealOrNaN) = true := rfl

@[simp] theorem finite_scientific (mantissa : Nat) (negative : Bool) (exponent : Nat) :
    Scalar.isFinite (OfScientific.ofScientific mantissa negative exponent : RealOrNaN) = true := rfl

@[simp] theorem finite_add : Scalar.isFinite (a + b) = (Scalar.isFinite a && Scalar.isFinite b) := by
  cases a <;> cases b <;> rfl

@[simp] theorem finite_sub : Scalar.isFinite (a - b) = (Scalar.isFinite a && Scalar.isFinite b) := by
  cases a <;> cases b <;> rfl

@[simp] theorem finite_mul : Scalar.isFinite (a * b) = (Scalar.isFinite a && Scalar.isFinite b) := by
  cases a <;> cases b <;> rfl

@[simp] theorem finite_neg : Scalar.isFinite (-a) = Scalar.isFinite a := by
  cases a <;> rfl

@[simp] theorem finite_sin : Scalar.isFinite (Scalar.sin a) = Scalar.isFinite a := by
  cases a <;> rfl

@[simp] theorem finite_cos : Scalar.isFinite (Scalar.cos a) = Scalar.isFinite a := by
  cases a <;> rfl

theorem finite_div (nonzero : b ≠ 0) : Scalar.isFinite (a / b) = (Scalar.isFinite a && Scalar.isFinite b) := by
  cases a with
  | nan => rfl
  | number x =>
      cases b with
      | nan => rfl
      | number y =>
          have divisor : y ≠ 0 := fun zero => nonzero (congrArg number zero)
          change Scalar.isFinite (if y = 0 then nan else number (x / y)) = true
          rw [if_neg divisor]
          rfl

end Finite

section Order

variable (a b : RealOrNaN)

theorem number_lt (x y : ℝ) : number x < number y ↔ x < y := Iff.rfl

theorem number_le (x y : ℝ) : number x ≤ number y ↔ x ≤ y := Iff.rfl

theorem pos_iff : 0 < a ↔ ∃ x : ℝ, 0 < x ∧ a = number x := by
  cases a with
  | nan => exact ⟨False.elim, fun ⟨_, _, same⟩ => nomatch same⟩
  | number x => exact ⟨fun positive => ⟨x, positive, rfl⟩, fun ⟨_, positive, same⟩ => number.inj same ▸ positive⟩

theorem ne_zero_of_pos (positive : 0 < a) : a ≠ 0 := by
  rintro rfl
  exact lt_irrefl (0 : ℝ) positive

theorem finite_of_pos (positive : 0 < a) : Scalar.isFinite a = true := by
  obtain ⟨x, _, rfl⟩ := (pos_iff a).mp positive
  rfl

theorem scientific_pos (mantissa : Nat) (negative : Bool) (exponent : Nat) (positive : 0 < mantissa) :
    (0 : RealOrNaN) < OfScientific.ofScientific mantissa negative exponent := by
  change (0 : ℝ) < OfScientific.ofScientific mantissa negative exponent
  have mantissa_pos : (0 : ℚ) < mantissa := Nat.cast_pos.mpr positive
  rw [← Rat.cast_ofScientific, Rat.ofScientific_def']
  exact Rat.cast_pos.mpr (mul_pos mantissa_pos (by positivity))

@[simp] theorem finite_div_scientific (mantissa : Nat) (negative : Bool) (exponent : Nat) (positive : 0 < mantissa) :
    Scalar.isFinite (a / OfScientific.ofScientific mantissa negative exponent) = Scalar.isFinite a := by
  rw [finite_div _ _ (ne_zero_of_pos _ (scientific_pos mantissa negative exponent positive)), finite_scientific,
    Bool.and_true]

theorem pos_div (first : 0 < a) (second : 0 < b) : 0 < a / b := by
  obtain ⟨x, above, rfl⟩ := (pos_iff a).mp first
  obtain ⟨y, divisor, rfl⟩ := (pos_iff b).mp second
  refine (pos_iff _).mpr ⟨x / y, div_pos above divisor, ?_⟩
  exact if_neg divisor.ne'

theorem pos_mul (first : 0 < a) (second : 0 < b) : 0 < a * b := by
  obtain ⟨x, above, rfl⟩ := (pos_iff a).mp first
  obtain ⟨y, other, rfl⟩ := (pos_iff b).mp second
  exact (pos_iff _).mpr ⟨x * y, mul_pos above other, rfl⟩

theorem pos_sqrt (positive : 0 < a) : 0 < Scalar.sqrt a := by
  obtain ⟨x, above, rfl⟩ := (pos_iff a).mp positive
  refine (pos_iff _).mpr ⟨Real.sqrt x, Real.sqrt_pos.mpr above, ?_⟩
  exact if_neg above.not_gt

theorem pos_one : (0 : RealOrNaN) < 1 := (one_pos : (0 : ℝ) < 1)

theorem finite_epsilon : Scalar.isFinite (Scalar.epsilon : RealOrNaN) = true :=
  finite_of_pos _ (pos_div _ _ pos_one (scientific_pos 45035996273704960 true 1 (by decide)))

theorem abs_zero : Scalar.abs (0 : RealOrNaN) = 0 := if_neg (lt_irrefl (0 : ℝ))

theorem pos_of_not_lt (bound : RealOrNaN) (finite : Scalar.isFinite a = true) (positive : 0 < bound)
    (high : ¬ a < bound) : 0 < a := by
  obtain ⟨x, rfl⟩ := (finite_iff a).mp finite
  obtain ⟨y, above, rfl⟩ := (pos_iff bound).mp positive
  exact (pos_iff _).mpr ⟨x, above.trans_le (not_lt.mp high), rfl⟩

theorem pos_of_not_le_square (bound : RealOrNaN) (finite : Scalar.isFinite a = true) (known : Scalar.isFinite bound = true)
    (high : ¬ a ≤ bound * bound) : 0 < a := by
  obtain ⟨x, rfl⟩ := (finite_iff a).mp finite
  obtain ⟨y, rfl⟩ := (finite_iff bound).mp known
  exact (pos_iff _).mpr ⟨x, (mul_self_nonneg y).trans_lt (not_le.mp high), rfl⟩

end Order

end RealOrNaN

end FactorGraph
