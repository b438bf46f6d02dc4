import Mathlib
import FactorGraph.Proofs.Calculus
import FactorGraph.Proofs.Camera.Differentiation

set_option autoImplicit false

open Filter Topology

namespace FactorGraph

variable {E : Type} [NormedAddCommGroup E] [NormedSpace ℝ E]

structure Dual.Follows (a : E → Dual ℝ) (f : E → ℝ) : Prop where
  value : ∀ v, (a v).value = f 0
  moves : Moves f fun v => (a v).slope

namespace Dual.Follows

variable {a b : E → Dual ℝ} {f g s : E → ℝ}

theorem congr_near (follows : Follows a f) (same : g =ᶠ[𝓝 0] f) : Follows a g where
  value v := (follows.value v).trans same.eq_of_nhds.symm
  moves := follows.moves.congr_near same

theorem constant (x : ℝ) : Follows (fun _ : E => .constant x) fun _ => x := ⟨fun _ => rfl, .const x⟩

theorem along (x : ℝ) (linear : Moves s s) : Follows (fun v => ⟨x, s v⟩) fun v => x + s v where
  value _ := by rw [linear.self_zero, add_zero]
  moves := ((Moves.const x).add linear).congr_slope fun _ => zero_add _

theorem add (first : Follows a f) (second : Follows b g) : Follows (fun v => a v + b v) fun v => f v + g v where
  value v := congrArg₂ (· + ·) (first.value v) (second.value v)
  moves := first.moves.add second.moves

theorem sub (first : Follows a f) (second : Follows b g) : Follows (fun v => a v - b v) fun v => f v - g v where
  value v := congrArg₂ (· - ·) (first.value v) (second.value v)
  moves := first.moves.sub second.moves

theorem neg (follows : Follows a f) : Follows (fun v => -a v) fun v => -f v where
  value v := congrArg (-·) (follows.value v)
  moves := follows.moves.neg

theorem mul (first : Follows a f) (second : Follows b g) : Follows (fun v => a v * b v) fun v => f v * g v where
  value v := congrArg₂ (· * ·) (first.value v) (second.value v)
  moves := (first.moves.mul second.moves).congr_slope fun v => by rw [mul_slope, first.value, second.value]

theorem div (first : Follows a f) (second : Follows b g) (regular : g 0 ≠ 0) :
    Follows (fun v => a v / b v) fun v => f v / g v where
  value v := by rw [div_value, first.value, second.value]
  moves := (first.moves.div second.moves regular).congr_slope fun v => by
    rw [div_slope _ _ ((second.value v).trans_ne regular), first.value, second.value]
    field_simp

theorem sqrt (follows : Follows a f) (positive : 0 < f 0) :
    Follows (fun v => Scalar.sqrt (a v)) fun v => Real.sqrt (f v) where
  value v := congrArg Real.sqrt (follows.value v)
  moves := (follows.moves.comp Real.sqrt _ (Real.hasDerivAt_sqrt positive.ne')).congr_slope fun v => by
    -- The slope is scaled by the root over the value, not by one over the root.
    change _ = (a v).slope * (1 / (a v).value * Real.sqrt (a v).value * 0.5)
    have root : Real.sqrt (f 0) ≠ 0 := (Real.sqrt_pos.mpr positive).ne'
    have square : Real.sqrt (f 0) ^ 2 = f 0 := Real.sq_sqrt positive.le
    rw [follows.value, literal_half]
    field_simp
    rw [square, mul_comm]

theorem sin (follows : Follows a f) : Follows (fun v => Scalar.sin (a v)) fun v => Real.sin (f v) where
  value v := congrArg Real.sin (follows.value v)
  moves := (follows.moves.comp Real.sin _ (Real.hasDerivAt_sin _)).congr_slope fun v => by
    change _ = (a v).slope * Real.cos (a v).value
    rw [follows.value, mul_comm]

theorem cos (follows : Follows a f) : Follows (fun v => Scalar.cos (a v)) fun v => Real.cos (f v) where
  value v := congrArg Real.cos (follows.value v)
  moves := (follows.moves.comp Real.cos _ (Real.hasDerivAt_cos _)).congr_slope fun v => by
    change _ = -((a v).slope * Real.sin (a v).value)
    rw [follows.value, neg_mul, mul_comm]

end Dual.Follows

structure Vec3Follows (a : E → Vec3 (Dual ℝ)) (f : E → Vec3 ℝ) : Prop where
  x : Dual.Follows (fun v => (a v).x) fun v => (f v).x
  y : Dual.Follows (fun v => (a v).y) fun v => (f v).y
  z : Dual.Follows (fun v => (a v).z) fun v => (f v).z

namespace Vec3Follows

variable {a b : E → Vec3 (Dual ℝ)} {f g s : E → Vec3 ℝ} {c : E → Dual ℝ} {h : E → ℝ}

theorem congr_near (follows : Vec3Follows a f) (same : g =ᶠ[𝓝 0] f) : Vec3Follows a g where
  x := follows.x.congr_near (same.fun_comp Vec3.x)
  y := follows.y.congr_near (same.fun_comp Vec3.y)
  z := follows.z.congr_near (same.fun_comp Vec3.z)

theorem constants (p : Vec3 ℝ) : Vec3Follows (fun _ : E => Dual.constants p) fun _ => p :=
  ⟨.constant p.x, .constant p.y, .constant p.z⟩

theorem along (p : Vec3 ℝ) (linear : Vec3Moves s s) : Vec3Follows (fun v => Dual.along p (s v)) fun v => p + s v where
  x := .along p.x linear.x
  y := .along p.y linear.y
  z := .along p.z linear.z

theorem add (first : Vec3Follows a f) (second : Vec3Follows b g) :
    Vec3Follows (fun v => a v + b v) fun v => f v + g v where
  x := first.x.add second.x
  y := first.y.add second.y
  z := first.z.add second.z

theorem smul (scale : Dual.Follows c h) (follows : Vec3Follows a f) :
    Vec3Follows (fun v => c v * a v) fun v => h v * f v where
  x := scale.mul follows.x
  y := scale.mul follows.y
  z := scale.mul follows.z

theorem div (follows : Vec3Follows a f) (scale : Dual.Follows c h) (regular : h 0 ≠ 0) :
    Vec3Follows (fun v => a v / c v) fun v => f v / h v where
  x := follows.x.div scale regular
  y := follows.y.div scale regular
  z := follows.z.div scale regular

theorem dot (first : Vec3Follows a f) (second : Vec3Follows b g) :
    Dual.Follows (fun v => (a v).dot (b v)) fun v => (f v).dot (g v) :=
  ((first.x.mul second.x).add (first.y.mul second.y)).add (first.z.mul second.z)

theorem cross (first : Vec3Follows a f) (second : Vec3Follows b g) :
    Vec3Follows (fun v => (a v).cross (b v)) fun v => (f v).cross (g v) where
  x := (first.y.mul second.z).sub (first.z.mul second.y)
  y := (first.z.mul second.x).sub (first.x.mul second.z)
  z := (first.x.mul second.y).sub (first.y.mul second.x)

theorem norm_squared_continuous (follows : Vec3Follows a f) : ContinuousAt (fun v => (f v).normSquared) 0 :=
  (follows.dot follows).moves.continuous

end Vec3Follows

structure Vec2Follows (a : E → Vec2 (Dual ℝ)) (f : E → Vec2 ℝ) : Prop where
  x : Dual.Follows (fun v => (a v).x) fun v => (f v).x
  y : Dual.Follows (fun v => (a v).y) fun v => (f v).y

theorem distort_follows {x y : E → Dual ℝ} {lens : E → Vec3 (Dual ℝ)} {f g : E → ℝ} {h : E → Vec3 ℝ}
    (first : Dual.Follows x f) (second : Dual.Follows y g) (bends : Vec3Follows lens h) :
    Vec2Follows (fun v => distort (x v) (y v) (lens v)) fun v => distort (f v) (g v) (h v) := by
  have square := (first.mul first).add (second.mul second)
  have factor := (Dual.Follows.constant 1).add (square.mul (bends.y.add (bends.z.mul square)))
  have scale := bends.x.mul factor
  exact ⟨scale.mul first, scale.mul second⟩

end FactorGraph
