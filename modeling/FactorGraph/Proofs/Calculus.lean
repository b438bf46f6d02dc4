import Mathlib
import FactorGraph.Proofs.Lie.Rotation

set_option autoImplicit false

open Filter Topology

namespace FactorGraph

variable {E : Type} [NormedAddCommGroup E] [NormedSpace ℝ E]

-- The derivative of `f` at zero takes the direction `v` to `slope v`.
def Moves (f slope : E → ℝ) : Prop := ∃ d : E →L[ℝ] ℝ, HasFDerivAt f d 0 ∧ ∀ v, d v = slope v

namespace Moves

variable {f g slope rate : E → ℝ}

theorem differentiable (moves : Moves f slope) : DifferentiableAt ℝ f 0 := by
  obtain ⟨d, derivative, _⟩ := moves
  exact derivative.differentiableAt

theorem continuous (moves : Moves f slope) : ContinuousAt f 0 := moves.differentiable.continuousAt

theorem congr_slope (moves : Moves f slope) (same : ∀ v, slope v = rate v) : Moves f rate := by
  obtain ⟨d, derivative, value⟩ := moves
  exact ⟨d, derivative, fun v => (value v).trans (same v)⟩

theorem congr_near (moves : Moves f slope) (same : g =ᶠ[𝓝 0] f) : Moves g slope := by
  obtain ⟨d, derivative, value⟩ := moves
  exact ⟨d, derivative.congr_of_eventuallyEq same, value⟩

theorem unique (first : Moves f slope) (second : Moves f rate) (v : E) : slope v = rate v := by
  obtain ⟨d, derivative, value⟩ := first
  obtain ⟨e, other, worth⟩ := second
  rw [← value, ← worth, derivative.unique other]

theorem const (a : ℝ) : Moves (fun _ : E => a) fun _ => 0 := ⟨0, hasFDerivAt_const a 0, fun _ => rfl⟩

theorem self_zero (moves : Moves f f) : f 0 = 0 := by
  obtain ⟨d, _, value⟩ := moves
  rw [← value, map_zero]

theorem add (first : Moves f slope) (second : Moves g rate) : Moves (fun v => f v + g v) fun v => slope v + rate v := by
  obtain ⟨d, derivative, value⟩ := first
  obtain ⟨e, other, worth⟩ := second
  exact ⟨d + e, derivative.add other, fun v => by rw [add_apply, value, worth]⟩

theorem neg (moves : Moves f slope) : Moves (fun v => -f v) fun v => -slope v := by
  obtain ⟨d, derivative, value⟩ := moves
  exact ⟨-d, derivative.neg, fun v => by rw [neg_apply, value]⟩

theorem sub (first : Moves f slope) (second : Moves g rate) : Moves (fun v => f v - g v) fun v => slope v - rate v := by
  obtain ⟨d, derivative, value⟩ := first
  obtain ⟨e, other, worth⟩ := second
  exact ⟨d - e, derivative.sub other, fun v => by rw [sub_apply, value, worth]⟩

theorem mul (first : Moves f slope) (second : Moves g rate) :
    Moves (fun v => f v * g v) fun v => slope v * g 0 + f 0 * rate v := by
  obtain ⟨d, derivative, value⟩ := first
  obtain ⟨e, other, worth⟩ := second
  refine ⟨_, derivative.mul other, fun v => ?_⟩
  simp only [add_apply, smul_apply, smul_eq_mul, value, worth]
  ring

theorem mul_of_zero (first : Moves f slope) (second : Moves g rate) (left : f 0 = 0) (right : g 0 = 0) :
    Moves (fun v => f v * g v) fun _ => 0 :=
  (first.mul second).congr_slope fun v => by rw [left, right, mul_zero, zero_mul, add_zero]

theorem const_mul (a : ℝ) (moves : Moves f slope) : Moves (fun v => a * f v) fun v => a * slope v :=
  ((const a).mul moves).congr_slope fun v => by rw [zero_mul, zero_add]

theorem mul_const (moves : Moves f slope) (a : ℝ) : Moves (fun v => f v * a) fun v => slope v * a :=
  (moves.mul (const a)).congr_slope fun v => by rw [mul_zero, add_zero]

theorem comp (moves : Moves f slope) (outer : ℝ → ℝ) (rate : ℝ) (derivative : HasDerivAt outer rate (f 0)) :
    Moves (fun v => outer (f v)) fun v => rate * slope v := by
  obtain ⟨d, inner, value⟩ := moves
  refine ⟨_, derivative.comp_hasFDerivAt 0 inner, fun v => ?_⟩
  simp only [smul_apply, smul_eq_mul, value]

theorem div (first : Moves f slope) (second : Moves g rate) (regular : g 0 ≠ 0) :
    Moves (fun v => f v / g v) fun v => (slope v * g 0 - f 0 * rate v) / (g 0 * g 0) := by
  refine ((first.mul (second.comp _ _ (hasDerivAt_inv regular))).congr_slope fun v => ?_)
  field_simp
  ring

theorem arg_eq_arctan (x y : ℝ) (right : 0 < x) : Complex.arg ⟨x, y⟩ = Real.arctan (y / x) := by
  have range := Complex.abs_arg_lt_pi_div_two_iff.mpr (.inl (show 0 < (⟨x, y⟩ : ℂ).re from right))
  rw [← Real.arctan_tan (neg_lt_of_abs_lt range) (lt_of_abs_lt range), Complex.tan_arg]

theorem arg (first : Moves f slope) (second : Moves g rate) (right : 0 < f 0) :
    Moves (fun v => Complex.arg ⟨f v, g v⟩) fun v => (f 0 * rate v - g 0 * slope v) / (f 0 * f 0 + g 0 * g 0) := by
  have arc := (second.div first right.ne').comp Real.arctan _ (Real.hasDerivAt_arctan _)
  have near : (fun v => Complex.arg ⟨f v, g v⟩) =ᶠ[𝓝 0] fun v => Real.arctan (g v / f v) := by
    filter_upwards [first.continuous.eventually_const_lt right] with v positive
    exact arg_eq_arctan _ _ positive
  refine (arc.congr_near near).congr_slope fun v => ?_
  have regular := right.ne'
  field_simp

end Moves

structure Vec3Moves (f slope : E → Vec3 ℝ) : Prop where
  x : Moves (fun v => (f v).x) fun v => (slope v).x
  y : Moves (fun v => (f v).y) fun v => (slope v).y
  z : Moves (fun v => (f v).z) fun v => (slope v).z

namespace Vec3Moves

variable {f g slope rate : E → Vec3 ℝ}

theorem congr_slope (moves : Vec3Moves f slope) (same : ∀ v, slope v = rate v) : Vec3Moves f rate where
  x := moves.x.congr_slope fun v => congrArg Vec3.x (same v)
  y := moves.y.congr_slope fun v => congrArg Vec3.y (same v)
  z := moves.z.congr_slope fun v => congrArg Vec3.z (same v)

theorem congr_near (moves : Vec3Moves f slope) (same : g =ᶠ[𝓝 0] f) : Vec3Moves g slope where
  x := moves.x.congr_near (same.fun_comp Vec3.x)
  y := moves.y.congr_near (same.fun_comp Vec3.y)
  z := moves.z.congr_near (same.fun_comp Vec3.z)

theorem unique (first : Vec3Moves f slope) (second : Vec3Moves f rate) (v : E) : slope v = rate v :=
  Vec3.ext (first.x.unique second.x v) (first.y.unique second.y v) (first.z.unique second.z v)

theorem self_zero (moves : Vec3Moves f f) : f 0 = 0 := Vec3.ext moves.x.self_zero moves.y.self_zero moves.z.self_zero

theorem const (a : Vec3 ℝ) : Vec3Moves (fun _ : E => a) fun _ => 0 where
  x := .const a.x
  y := .const a.y
  z := .const a.z

theorem add (first : Vec3Moves f slope) (second : Vec3Moves g rate) :
    Vec3Moves (fun v => f v + g v) fun v => slope v + rate v where
  x := first.x.add second.x
  y := first.y.add second.y
  z := first.z.add second.z

theorem neg (moves : Vec3Moves f slope) : Vec3Moves (fun v => -f v) fun v => -slope v where
  x := moves.x.neg
  y := moves.y.neg
  z := moves.z.neg

theorem sub (first : Vec3Moves f slope) (second : Vec3Moves g rate) :
    Vec3Moves (fun v => f v - g v) fun v => slope v - rate v where
  x := first.x.sub second.x
  y := first.y.sub second.y
  z := first.z.sub second.z

theorem smul {s ds : E → ℝ} (scale : Moves s ds) (moves : Vec3Moves f slope) :
    Vec3Moves (fun v => s v * f v) fun v => ds v * f 0 + s 0 * slope v where
  x := scale.mul moves.x
  y := scale.mul moves.y
  z := scale.mul moves.z

theorem dot (first : Vec3Moves f slope) (second : Vec3Moves g rate) :
    Moves (fun v => (f v).dot (g v)) fun v => (slope v).dot (g 0) + (f 0).dot (rate v) :=
  (((first.x.mul second.x).add (first.y.mul second.y)).add (first.z.mul second.z)).congr_slope fun v => by
    simp only [Vec3.dot]
    ring

theorem norm_squared (moves : Vec3Moves f slope) :
    Moves (fun v => (f v).normSquared) fun v => 2 * (f 0).dot (slope v) :=
  (moves.dot moves).congr_slope fun v => by
    simp only [Vec3.dot]
    ring

theorem norm (moves : Vec3Moves f slope) (regular : (f 0).norm ≠ 0) :
    Moves (fun v => (f v).norm) fun v => (f 0).dot (slope v) / (f 0).norm := by
  have positive : (f 0).normSquared ≠ 0 := fun zero => regular ((congrArg Real.sqrt zero).trans Real.sqrt_zero)
  refine (moves.norm_squared.comp Real.sqrt _ (Real.hasDerivAt_sqrt positive)).congr_slope fun v => ?_
  change 1 / (2 * (f 0).norm) * _ = _
  field_simp

theorem cross (first : Vec3Moves f slope) (second : Vec3Moves g rate) :
    Vec3Moves (fun v => (f v).cross (g v)) fun v => (slope v).cross (g 0) + (f 0).cross (rate v) where
  x := ((first.y.mul second.z).sub (first.z.mul second.y)).congr_slope fun v => by
    simp only [Vec3.cross, Vec3.add_def]
    ring
  y := ((first.z.mul second.x).sub (first.x.mul second.z)).congr_slope fun v => by
    simp only [Vec3.cross, Vec3.add_def]
    ring
  z := ((first.x.mul second.y).sub (first.y.mul second.x)).congr_slope fun v => by
    simp only [Vec3.cross, Vec3.add_def]
    ring

theorem mul_vec (m : Mat3 ℝ) (moves : Vec3Moves f slope) : Vec3Moves (fun v => m * f v) fun v => m * slope v where
  x := ((const m.r0).dot moves).congr_slope fun v => by
    rw [Vec3.zero_dot, zero_add]
    rfl
  y := ((const m.r1).dot moves).congr_slope fun v => by
    rw [Vec3.zero_dot, zero_add]
    rfl
  z := ((const m.r2).dot moves).congr_slope fun v => by
    rw [Vec3.zero_dot, zero_add]
    rfl

end Vec3Moves

structure QuatMoves (f slope : E → Quat ℝ) : Prop where
  w : Moves (fun v => (f v).w) fun v => (slope v).w
  x : Moves (fun v => (f v).x) fun v => (slope v).x
  y : Moves (fun v => (f v).y) fun v => (slope v).y
  z : Moves (fun v => (f v).z) fun v => (slope v).z

namespace QuatMoves

variable {f slope : E → Quat ℝ}

theorem congr_slope {rate : E → Quat ℝ} (moves : QuatMoves f slope) (same : ∀ v, slope v = rate v) :
    QuatMoves f rate where
  w := moves.w.congr_slope fun v => congrArg Quat.w (same v)
  x := moves.x.congr_slope fun v => congrArg Quat.x (same v)
  y := moves.y.congr_slope fun v => congrArg Quat.y (same v)
  z := moves.z.congr_slope fun v => congrArg Quat.z (same v)

theorem congr_near {g : E → Quat ℝ} (moves : QuatMoves f slope) (same : g =ᶠ[𝓝 0] f) : QuatMoves g slope where
  w := moves.w.congr_near (same.fun_comp Quat.w)
  x := moves.x.congr_near (same.fun_comp Quat.x)
  y := moves.y.congr_near (same.fun_comp Quat.y)
  z := moves.z.congr_near (same.fun_comp Quat.z)

theorem imaginary (moves : QuatMoves f slope) :
    Vec3Moves (fun v => (f v).imaginary) fun v => (slope v).imaginary := ⟨moves.x, moves.y, moves.z⟩

theorem const_mul (q : Quat ℝ) (moves : QuatMoves f slope) : QuatMoves (fun v => q * f v) fun v => q * slope v where
  w := (((moves.w.const_mul q.w).sub (moves.x.const_mul q.x)).sub (moves.y.const_mul q.y)).sub (moves.z.const_mul q.z)
  x := (((moves.x.const_mul q.w).add (moves.w.const_mul q.x)).add (moves.z.const_mul q.y)).sub (moves.y.const_mul q.z)
  y := (((moves.y.const_mul q.w).sub (moves.z.const_mul q.x)).add (moves.w.const_mul q.y)).add (moves.x.const_mul q.z)
  z := (((moves.z.const_mul q.w).add (moves.y.const_mul q.x)).sub (moves.x.const_mul q.y)).add (moves.w.const_mul q.z)

theorem mul_const (moves : QuatMoves f slope) (q : Quat ℝ) : QuatMoves (fun v => f v * q) fun v => slope v * q where
  w := (((moves.w.mul_const q.w).sub (moves.x.mul_const q.x)).sub (moves.y.mul_const q.y)).sub (moves.z.mul_const q.z)
  x := (((moves.w.mul_const q.x).add (moves.x.mul_const q.w)).add (moves.y.mul_const q.z)).sub (moves.z.mul_const q.y)
  y := (((moves.w.mul_const q.y).sub (moves.x.mul_const q.z)).add (moves.y.mul_const q.w)).add (moves.z.mul_const q.x)
  z := (((moves.w.mul_const q.z).add (moves.x.mul_const q.y)).sub (moves.y.mul_const q.x)).add (moves.z.mul_const q.w)

theorem conjugate (moves : QuatMoves f slope) :
    QuatMoves (fun v => (f v).conjugate) fun v => (slope v).conjugate where
  w := moves.w
  x := moves.x.neg
  y := moves.y.neg
  z := moves.z.neg

end QuatMoves

end FactorGraph
