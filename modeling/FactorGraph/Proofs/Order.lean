import Mathlib
import FactorGraph.Proofs.Exact

set_option autoImplicit false

namespace FactorGraph

namespace Scalar

class Ordered (α : Type) [Scalar α] : Prop where
  le_refl : ∀ a : α, isFinite a = true → a ≤ a
  comparable : ∀ a b : α, a ≤ b → a ≤ a ∧ b ≤ b
  le_trans : ∀ a b c : α, a ≤ b → b ≤ c → a ≤ c
  le_of_lt : ∀ a b : α, a < b → a ≤ b
  lt_of_not_le : ∀ a b : α, a ≤ a → b ≤ b → ¬ a ≤ b → b < a
  not_le_of_lt : ∀ a b : α, a < b → ¬ b ≤ a

variable {α : Type} [Scalar α] [Ordered α]

theorem lt_of_le_of_lt (a b c : α) (first : a ≤ b) (second : b < c) : a < c := by
  have later := Ordered.le_of_lt b c second
  refine Ordered.lt_of_not_le c a (Ordered.comparable b c later).2 (Ordered.comparable a b first).1 fun back => ?_
  exact Ordered.not_le_of_lt b c second (Ordered.le_trans c a b back first)

theorem lt_of_finite_of_not_le (a bound : α) (finite : isFinite a = true) (compares : bound ≤ bound) (high : ¬ a ≤ bound) :
    bound < a :=
  Ordered.lt_of_not_le a bound (Ordered.le_refl a finite) compares high

theorem not_lt_iff (a bound : α) (first : a ≤ a) (compares : bound ≤ bound) : ¬ bound < a ↔ a ≤ bound := by
  constructor
  · intro low
    by_contra high
    exact low (Ordered.lt_of_not_le a bound first compares high)
  · exact fun low high => Ordered.not_le_of_lt bound a high low

theorem last_le_of_descending (first last : α) (others : List α) (compares : first ≤ first)
    (descending : (first :: others).IsChain fun before after => after < before)
    (final : (first :: others).getLast? = some last) : last ≤ first := by
  induction others generalizing first with
  | nil =>
      cases final
      exact compares
  | cons second others ih =>
      obtain ⟨lower, descending⟩ := List.isChain_cons_cons.mp descending
      have below := Ordered.le_of_lt second first lower
      rw [List.getLast?_cons_cons] at final
      exact Ordered.le_trans last second first (ih second (Ordered.comparable _ _ below).1 descending final) below

class Signed (α : Type) [Scalar α] : Prop extends Ordered α where
  neg_le_neg : ∀ a b : α, a ≤ b → -b ≤ -a
  neg_neg_le : ∀ a : α, a ≤ a → -(-a) ≤ a
  neg_zero_le : -(0 : α) ≤ 0

section Magnitude

variable [Signed α] (a bound : α)

omit [Ordered α] in
theorem abs_comparable (compares : a ≤ a) : abs a ≤ abs a := by
  unfold abs
  split
  · exact Signed.neg_le_neg a a compares
  · exact compares

omit [Ordered α] in
theorem neg_le_of_abs_le (compares : a ≤ a) (within : abs a ≤ bound) : -bound ≤ a := by
  unfold abs at within
  split at within
  · exact Ordered.le_trans _ _ _ (Signed.neg_le_neg _ _ within) (Signed.neg_neg_le a compares)
  · rename_i nonnegative
    have zero : (0 : α) ≤ 0 := (Ordered.comparable _ _ Signed.neg_zero_le).2
    have above := (not_lt_iff 0 a zero compares).mp nonnegative
    exact Ordered.le_trans _ _ _ (Signed.neg_le_neg _ _ (Ordered.le_trans _ _ _ above within))
      (Ordered.le_trans _ _ _ Signed.neg_zero_le above)

end Magnitude

end Scalar

instance : Scalar.Ordered ℝ where
  le_refl _ _ := le_refl _
  comparable _ _ _ := ⟨le_refl _, le_refl _⟩
  le_trans _ _ _ := le_trans
  le_of_lt _ _ := le_of_lt
  lt_of_not_le _ _ _ _ := lt_of_not_ge
  not_le_of_lt _ _ := not_le_of_gt

instance : Scalar.Signed ℝ where
  neg_le_neg _ _ := neg_le_neg
  neg_neg_le a _ := (neg_neg a).le
  neg_zero_le := neg_zero.le

namespace Machine

open Float.Model Float.Model.UnpackedFloat

def place? : UnpackedFloat → Option (ℤ ×ₗ ℤ ×ₗ ℤ)
  | .notANumber => none
  | .infinity .negative => some (toLex (-2, toLex (0, 0)))
  | .infinity .positive => some (toLex (2, toLex (0, 0)))
  | .zero _ => some (toLex (0, toLex (0, 0)))
  | .finite .negative mantissa exponent _ => some (toLex (-1, toLex (-exponent, -mantissa)))
  | .finite .positive mantissa exponent _ => some (toLex (1, toLex (exponent, mantissa)))

theorem compare_neg (a b : ℤ) : compare (-a) (-b) = (compare a b).swap := by
  rcases lt_trichotomy a b with less | rfl | more
  · rw [compare_lt_iff_lt.mpr less, compare_gt_iff_gt.mpr (neg_lt_neg less)]
    rfl
  · simp
  · rw [compare_gt_iff_gt.mpr more, compare_lt_iff_lt.mpr (neg_lt_neg more)]
    rfl

theorem compare_cast (a b : ℕ) : compare (a : ℤ) b = compare a b := by
  rcases lt_trichotomy a b with less | rfl | more
  · rw [compare_lt_iff_lt.mpr less, compare_lt_iff_lt.mpr (Nat.cast_lt.mpr less)]
  · simp
  · rw [compare_gt_iff_gt.mpr more, compare_gt_iff_gt.mpr (Nat.cast_lt.mpr more)]

theorem compare_eq (a b : UnpackedFloat) :
    a.compare b = (place? a).bind fun p => (place? b).map fun q => compare p q := by
  rcases a with ⟨_ | _⟩ | _ | _ | ⟨_ | _, m, e, _⟩ <;> rcases b with ⟨_ | _⟩ | _ | _ | ⟨_ | _, n, f, _⟩ <;>
    simp only [UnpackedFloat.compare, place?, Option.bind_some, Option.bind_none, Option.map_some, Option.map_none,
      Prod.Lex.compare_def, compareLex, compareOn, ofLex_toLex, compare_neg, compare_cast, Ordering.swap_then] <;> rfl

theorem le_iff (a b : Float) : a ≤ b ↔
    ∃ p q, place? a.toModel.unpack = some p ∧ place? b.toModel.unpack = some q ∧ p ≤ q := by
  change decide ((a.toModel.unpack.compare b.toModel.unpack).any (·.isLE) = true) = true ↔ _
  rw [decide_eq_true_iff, compare_eq]
  cases place? a.toModel.unpack <;> cases place? b.toModel.unpack <;>
    simp [Ordering.isLE_iff_ne_gt, compare_gt_iff_gt]

theorem lt_iff (a b : Float) : a < b ↔
    ∃ p q, place? a.toModel.unpack = some p ∧ place? b.toModel.unpack = some q ∧ p < q := by
  change decide ((a.toModel.unpack.compare b.toModel.unpack == some .lt) = true) = true ↔ _
  rw [decide_eq_true_iff, beq_iff_eq, compare_eq]
  cases place? a.toModel.unpack <;> cases place? b.toModel.unpack <;>
    simp [compare_lt_iff_lt]

theorem place_of_finite (a : Float) (finite : Scalar.isFinite a = true) : ∃ p, place? a.toModel.unpack = some p := by
  change a.toModel.unpack.isFinite = true at finite
  cases form : a.toModel.unpack with
  | notANumber => simp [form, UnpackedFloat.isFinite] at finite
  | infinity sign => simp [form, UnpackedFloat.isFinite] at finite
  | zero sign => exact ⟨_, rfl⟩
  | finite sign mantissa exponent positive => cases sign <;> exact ⟨_, rfl⟩

instance : Scalar.Ordered Float where
  le_refl a finite := by
    obtain ⟨p, placed⟩ := place_of_finite a finite
    exact (le_iff a a).mpr ⟨p, p, placed, placed, le_refl p⟩
  comparable a b below := by
    obtain ⟨p, q, first, second, _⟩ := (le_iff a b).mp below
    exact ⟨(le_iff a a).mpr ⟨p, p, first, first, le_refl p⟩, (le_iff b b).mpr ⟨q, q, second, second, le_refl q⟩⟩
  le_trans a b c below further := by
    obtain ⟨p, q, first, second, low⟩ := (le_iff a b).mp below
    obtain ⟨r, s, again, third, high⟩ := (le_iff b c).mp further
    cases second.symm.trans again
    exact (le_iff a c).mpr ⟨p, s, first, third, low.trans high⟩
  le_of_lt a b below := by
    obtain ⟨p, q, first, second, low⟩ := (lt_iff a b).mp below
    exact (le_iff a b).mpr ⟨p, q, first, second, low.le⟩
  lt_of_not_le a b first second above := by
    obtain ⟨p, _, first, _, _⟩ := (le_iff a a).mp first
    obtain ⟨q, _, second, _, _⟩ := (le_iff b b).mp second
    exact (lt_iff b a).mpr ⟨q, p, second, first, lt_of_not_ge fun low => above ((le_iff a b).mpr ⟨p, q, first, second, low⟩)⟩
  not_le_of_lt a b below back := by
    obtain ⟨p, q, first, second, low⟩ := (lt_iff a b).mp below
    obtain ⟨r, s, again, once, high⟩ := (le_iff b a).mp back
    cases second.symm.trans again
    cases first.symm.trans once
    exact absurd high (not_le_of_gt low)

theorem unpack_opposite (spec : Format) (s : Sign) (e : BitVec spec.exponentBits)
    (m : BitVec spec.mantissaBitsWithoutImplicit) :
    UnpackedFloat.unpack spec (packComponents spec (-s) e m) =
      (UnpackedFloat.unpack spec (packComponents spec s e m)).neg := by
  simp only [UnpackedFloat.unpack, unpackSign_packComponents, unpackExponent_packComponents,
    unpackMantissa_packComponents, Sign.ofBitVec_toBitVec]
  split_ifs <;> rfl

-- What bits stand for is read back after it is written, though a number that is not one is written in one way only.
theorem unpack_pack_unpack (spec : Format) (wide : 2 ≤ spec.exponentBits) (b : BitVec spec.numBits) :
    UnpackedFloat.unpack spec (UnpackedFloat.pack spec (UnpackedFloat.unpack spec b)) = UnpackedFloat.unpack spec b := by
  rw [pack_unpack b wide]
  by_cases odd : isNaNBits b = true
  · rw [if_pos odd, unpack_packedNaN]
    obtain ⟨full, some⟩ := of_decide_eq_true odd
    simp only [UnpackedFloat.unpack, full, some, if_true, if_false]
  · rw [if_neg odd]

theorem unpack_neg (a : Float) : (-a).toModel.unpack = a.toModel.unpack.neg := by
  let b : BitVec Format.binary64.numBits := a.toModel.toBits.toBitVec
  have turned : a.toModel.unpack.neg = UnpackedFloat.unpack .binary64
      (packComponents .binary64 (-Sign.ofBitVec (unpackSign b)) (unpackExponent b) (unpackMantissa b)) := by
    rw [unpack_opposite, packComponents_unpackSign_unpackExponent_unpackMantissa]
    rfl
  change UnpackedFloat.unpack .binary64 (UnpackedFloat.pack .binary64 a.toModel.unpack.neg) = _
  rw [turned, unpack_pack_unpack _ (by decide)]

theorem place_neg (a : Float) : place? (-a).toModel.unpack = (place? a.toModel.unpack).map (- ·) := by
  rw [unpack_neg]
  rcases a.toModel.unpack with ⟨_ | _⟩ | _ | _ | ⟨_ | _, m, e, _⟩ <;>
    simp [UnpackedFloat.neg, place?, ← toLex_neg]

theorem neg_le_neg_of_le (a b : Float) (below : a ≤ b) : -b ≤ -a := by
  obtain ⟨p, q, first, second, low⟩ := (le_iff a b).mp below
  refine (le_iff (-b) (-a)).mpr ⟨-q, -p, ?_, ?_, neg_le_neg low⟩
  · rw [place_neg, second, Option.map_some]
  · rw [place_neg, first, Option.map_some]

instance : Scalar.Signed Float where
  neg_le_neg := neg_le_neg_of_le
  neg_neg_le a compares := by
    obtain ⟨p, _, placed, _, _⟩ := (le_iff a a).mp compares
    refine (le_iff (-(-a)) a).mpr ⟨p, p, ?_, placed, le_refl p⟩
    rw [place_neg, place_neg, placed, Option.map_some, Option.map_some, neg_neg]
  neg_zero_le := (le_iff (-0) 0).mpr ⟨0, 0, rfl, rfl, le_refl 0⟩

end Machine

end FactorGraph
