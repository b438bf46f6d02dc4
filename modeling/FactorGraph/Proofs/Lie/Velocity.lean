import Mathlib
import FactorGraph.Proofs.Calculus
import FactorGraph.Proofs.Lie.Pose3
import FactorGraph.Proofs.Lie.Series

set_option autoImplicit false

open Filter Topology

namespace FactorGraph

theorem Quat.unit_normalize (q : Quat ℝ) (nonzero : 0 < q.x * q.x + q.y * q.y + q.z * q.z + q.w * q.w) :
    q.normalize.Unit := by
  have square : q.norm * q.norm = q.x * q.x + q.y * q.y + q.z * q.z + q.w * q.w := Real.mul_self_sqrt nonzero.le
  have regular : q.norm ≠ 0 := fun zero => by
    rw [zero, mul_zero] at square
    exact nonzero.ne square
  rw [Unit]
  simp only [normalize]
  field_simp
  linear_combination -square

theorem Quat.unit_of_scaled_axis (a : Vec3 ℝ) : (ofScaledAxis a).Unit := by
  unfold ofScaledAxis
  generalize a / (2.0 : ℝ) = half
  dsimp only
  split
  · exact unit_one
  · rename_i long
    have positive : 0 < half.normSquared := (mul_self_nonneg _).trans_lt (not_le.mp long)
    have square : half.norm * half.norm = half.x * half.x + half.y * half.y + half.z * half.z := Vec3.norm_mul_self half
    have regular : half.norm ≠ 0 := (Real.sqrt_pos.mpr positive).ne'
    have circle := Real.sin_sq_add_cos_sq half.norm
    change Real.cos half.norm * Real.cos half.norm +
      Real.sin half.norm / half.norm * half.x * (Real.sin half.norm / half.norm * half.x) +
      Real.sin half.norm / half.norm * half.y * (Real.sin half.norm / half.norm * half.y) +
      Real.sin half.norm / half.norm * half.z * (Real.sin half.norm / half.norm * half.z) = 1
    field_simp
    linear_combination half.norm ^ 2 * circle - Real.sin half.norm ^ 2 * square

theorem Rotation.unit_exp (t : Vec3 ℝ) : (exp t).quat.Unit := by
  unfold exp
  split
  · exact Quat.unit_of_scaled_axis t
  · refine Quat.unit_normalize _ ?_
    have := mul_self_nonneg (t.x / 2.0)
    have := mul_self_nonneg (t.y / 2.0)
    have := mul_self_nonneg (t.z / 2.0)
    simp only
    linarith

theorem Rotation.exp_of_short (t : Vec3 ℝ) (short : t.normSquared < Scalar.epsilon) :
    exp t = ⟨Quat.normalize ⟨1, t.x / 2, t.y / 2, t.z / 2⟩⟩ := by
  rw [exp, if_neg (not_lt.mpr short.le), literal_two]

variable {E : Type} [NormedAddCommGroup E] [NormedSpace ℝ E]

noncomputable def Vec3.seriesChange (a b da db : ℝ) (t dt y : Vec3 ℝ) : Vec3 ℝ :=
  da * t.cross y + a * dt.cross y + db * t.cross (t.cross y) + b * (dt.cross (t.cross y) + t.cross (dt.cross y))

theorem Vec3Moves.series {a b da db : E → ℝ} {t y dt dy : E → Vec3 ℝ} (first : Moves a da) (second : Moves b db)
    (turn : Vec3Moves t dt) (moves : Vec3Moves y dy) :
    Vec3Moves (fun v => Vec3.series (a v) (b v) (t v) (y v))
      fun v => Vec3.series (a 0) (b 0) (t 0) (dy v) + Vec3.seriesChange (a 0) (b 0) (da v) (db v) (t 0) (dt v) (y 0) :=
  ((moves.add (Vec3Moves.smul first (turn.cross moves))).add
    (Vec3Moves.smul second (turn.cross (turn.cross moves)))).congr_slope fun v => by
      ext <;> simp only [Vec3.series, Vec3.seriesChange, Vec3.cross, Vec3.add_def, Vec3.smul_def] <;> ring

theorem Vec3Moves.short_near {f slope : E → Vec3 ℝ} (moves : Vec3Moves f slope) (start : f 0 = 0) (bound : ℝ)
    (positive : 0 < bound) : ∀ᶠ v in 𝓝 0, (f v).normSquared < bound := by
  have zero : (f 0).dot (f 0) = 0 := by rw [start, Vec3.zero_dot]
  exact (moves.dot moves).continuous.eventually_lt continuousAt_const (by rwa [zero])

theorem QuatMoves.act {f : E → Quat ℝ} {turn y dy : E → Vec3 ℝ}
    (moves : QuatMoves f fun v => Quat.ofParts 0 (turn v / (2 : ℝ))) (unit : ∀ v, (f v).Unit) (start : f 0 = 1)
    (along : Vec3Moves y dy) :
    Vec3Moves (fun v => (f v).toMatrix * y v) fun v => dy v + (turn v).cross (y 0) := by
  have series := Vec3Moves.series (moves.w.const_mul 2) (Moves.const 2) moves.imaginary along
  refine (series.congr_near (.of_forall fun v => (f v).to_matrix_mul_eq_imaginary (unit v) (y v))).congr_slope fun v => ?_
  rw [start]
  ext <;> simp [Quat.ofParts, Quat.imaginary, Quat.one_def, Vec3.series, Vec3.seriesChange, Vec3.cross, Vec3.add_def,
    Vec3.smul_def, Vec3.div_def] <;> ring

theorem Vec3Moves.normalize {f slope : E → Vec3 ℝ} (moves : Vec3Moves f slope) (start : f 0 = 0) :
    QuatMoves (fun v => Quat.normalize ⟨1, (f v).x / 2, (f v).y / 2, (f v).z / 2⟩)
      fun v => Quat.ofParts 0 (slope v / (2 : ℝ)) := by
  obtain ⟨x, y, z⟩ := Vec3.ext_iff.mp start
  have half {g rate : E → ℝ} (moves : Moves g rate) : Moves (fun v => g v / 2) fun v => rate v / 2 :=
    moves.mul_const 2⁻¹
  have square {g rate : E → ℝ} (moves : Moves g rate) (zero : g 0 = 0) :
      Moves (fun v => g v / 2 * (g v / 2)) fun _ => 0 :=
    (half moves).mul_of_zero (half moves) (by rw [zero, zero_div]) (by rw [zero, zero_div])
  have inside := (((square moves.x x).add (square moves.y y)).add (square moves.z z)).add (Moves.const (1 * 1))
  have one : (f 0).x / 2 * ((f 0).x / 2) + (f 0).y / 2 * ((f 0).y / 2) + (f 0).z / 2 * ((f 0).z / 2) + 1 * 1 = 1 := by
    rw [x, y, z]
    norm_num
  -- The length is one, and does not change to first order.
  have norm : Moves (fun v => Quat.norm ⟨1, (f v).x / 2, (f v).y / 2, (f v).z / 2⟩) fun _ => 0 :=
    (inside.comp Real.sqrt _ (Real.hasDerivAt_sqrt (by rw [one]; exact one_ne_zero))).congr_slope fun v => by ring
  have unit : Quat.norm ⟨1, (f 0).x / 2, (f 0).y / 2, (f 0).z / 2⟩ = 1 := (congrArg Real.sqrt one).trans Real.sqrt_one
  have scaled {g rate : E → ℝ} (moves : Moves g rate) :
      Moves (fun v => g v / Quat.norm ⟨1, (f v).x / 2, (f v).y / 2, (f v).z / 2⟩) rate :=
    (moves.div norm (by rw [unit]; exact one_ne_zero)).congr_slope fun v => by rw [unit]; ring
  exact ⟨scaled (.const 1), scaled (half moves.x), scaled (half moves.y), scaled (half moves.z)⟩

structure Twist3Moves (f slope : E → Twist3 ℝ) : Prop where
  rho : Vec3Moves (fun v => (f v).rho) fun v => (slope v).rho
  theta : Vec3Moves (fun v => (f v).theta) fun v => (slope v).theta

namespace Twist3Moves

variable {f g slope rate : E → Twist3 ℝ}

theorem congr_slope (moves : Twist3Moves f slope) (same : ∀ v, slope v = rate v) : Twist3Moves f rate where
  rho := moves.rho.congr_slope fun v => congrArg Twist3.rho (same v)
  theta := moves.theta.congr_slope fun v => congrArg Twist3.theta (same v)

theorem congr_near (moves : Twist3Moves f slope) (same : g =ᶠ[𝓝 0] f) : Twist3Moves g slope where
  rho := moves.rho.congr_near (same.fun_comp Twist3.rho)
  theta := moves.theta.congr_near (same.fun_comp Twist3.theta)

end Twist3Moves

theorem Twist3.neg_def (t : Twist3 ℝ) : -t = ⟨-t.rho, -t.theta⟩ := rfl

noncomputable def Mat6.mulTwist (m : Mat6 ℝ) (t : Twist3 ℝ) : Twist3 ℝ :=
  ⟨m.topLeft * t.rho + m.topRight * t.theta, m.bottomLeft * t.rho + m.bottomRight * t.theta⟩

theorem Mat3.to_block_mul_vec (m : Mat3 ℝ) (v : Vec3 ℝ) : m.toBlock.mulVec v.toList = (m * v).toList := by
  simp [Block.mulVec, Block.dot, toBlock, toRows, Vec3.toList, mul_vec_def, Vec3.dot]

theorem Mat6.to_block_mul_vec (m : Mat6 ℝ) (t : Twist3 ℝ) : m.toBlock.mulVec t.toList = (m.mulTwist t).toList := by
  simp [Block.mulVec, Block.dot, toBlock, toRows, Mat3.toRows, Twist3.toList, Vec3.toList, mulTwist, Mat3.mul_vec_def,
    Vec3.dot, Vec3.add_def, add_assoc]

namespace Mat6

variable (m n : Mat6 ℝ) (t : Twist3 ℝ)

theorem mul_twist_neg : m.mulTwist (-t) = -m.mulTwist t := by
  simp only [mulTwist, Twist3.neg_def, Mat3.mul_vec_neg, Vec3.neg_add_neg]

theorem neg_mul_twist : (-m).mulTwist t = -m.mulTwist t := by
  change (⟨-m.topLeft * t.rho + -m.topRight * t.theta, -m.bottomLeft * t.rho + -m.bottomRight * t.theta⟩ : Twist3 ℝ) = _
  simp only [mulTwist, Twist3.neg_def, Mat3.neg_mul_vec, Vec3.neg_add_neg]

theorem mul_mul_twist : (m * n).mulTwist t = m.mulTwist (n.mulTwist t) := by
  refine Twist3.ext ?_ ?_
  · change (m.topLeft * n.topLeft + m.topRight * n.bottomLeft) * t.rho +
      (m.topLeft * n.topRight + m.topRight * n.bottomRight) * t.theta = _
    simp only [Mat3.add_mul_vec, Mat3.mul_mul_vec, mulTwist, Mat3.mul_vec_add]
    ext <;> simp only [Vec3.add_def] <;> ring
  · change (m.bottomLeft * n.topLeft + m.bottomRight * n.bottomLeft) * t.rho +
      (m.bottomLeft * n.topRight + m.bottomRight * n.bottomRight) * t.theta = _
    simp only [Mat3.add_mul_vec, Mat3.mul_mul_vec, mulTwist, Mat3.mul_vec_add]
    ext <;> simp only [Vec3.add_def] <;> ring

end Mat6

namespace Pose3

-- A motion through the identity, which leaves it with the velocity `twist`.
structure Velocity (k : E → Pose3 ℝ) (twist : E → Twist3 ℝ) : Prop where
  unit : ∀ v, (k v).Unit
  start : k 0 = 1
  rotation : QuatMoves (fun v => (k v).rotation.quat) fun v => Quat.ofParts 0 ((twist v).theta / (2 : ℝ))
  position : Vec3Moves (fun v => (k v).position) fun v => (twist v).rho

theorem exp_zero : exp (⟨0, 0⟩ : Twist3 ℝ) = 1 := by
  have short : (0 : Vec3 ℝ).normSquared < Scalar.epsilon := by
    rw [Vec3.norm_squared_zero]
    exact epsilon_pos
  have length : Quat.norm (⟨1, 0, 0, 0⟩ : Quat ℝ) = 1 := by
    change Real.sqrt (0 * 0 + 0 * 0 + 0 * 0 + 1 * 1) = 1
    norm_num
  refine Pose3.ext ((Rotation.exp_of_short 0 short).trans (Rotation.ext ?_)) (Mat3.mul_vec_zero _)
  change Quat.normalize ⟨1, 0 / 2, 0 / 2, 0 / 2⟩ = ⟨1, 0, 0, 0⟩
  rw [zero_div, Quat.normalize, length]
  ext <;> simp

theorem velocity_exp (t : E → Twist3 ℝ) (coordinates : Twist3Moves t t) :
    Velocity (fun v => exp (t v)) t where
  unit v := Rotation.unit_exp _
  start := by
    have origin : t 0 = ⟨0, 0⟩ := Twist3.ext coordinates.rho.self_zero coordinates.theta.self_zero
    rw [origin, exp_zero]
  rotation := by
    refine (coordinates.theta.normalize coordinates.theta.self_zero).congr_near ?_
    filter_upwards [coordinates.theta.short_near coordinates.theta.self_zero _ epsilon_pos] with v short
    exact congrArg Rotation.quat (Rotation.exp_of_short _ short)
  position := by
    have small : (0 : ℝ) < Rotation.smallAngleSquared := by
      rw [Rotation.smallAngleSquared]
      norm_num
    have square := coordinates.theta.norm_squared
    have first := (Moves.const (0.5 : ℝ)).sub (square.mul_const (24.0 : ℝ)⁻¹)
    have second := (Moves.const (1 / 6.0 : ℝ)).sub (square.mul_const (120.0 : ℝ)⁻¹)
    refine ((Vec3Moves.series first second coordinates.theta coordinates.rho).congr_near ?_).congr_slope fun v => ?_
    · filter_upwards [coordinates.theta.short_near coordinates.theta.self_zero _ small] with v short
      exact Rotation.left_jacobian_of_short _ _ short
    · rw [coordinates.theta.self_zero, coordinates.rho.self_zero]
      ext <;> simp [Vec3.series, Vec3.seriesChange, Vec3.cross, Vec3.add_def, Vec3.smul_def]

theorem conjugate_moves {k : E → Pose3 ℝ} {twist : E → Twist3 ℝ} (velocity : Velocity k twist) :
    QuatMoves (fun v => (k v).rotation.quat.conjugate) fun v => Quat.ofParts 0 (-(twist v).theta / (2 : ℝ)) :=
  velocity.rotation.conjugate.congr_slope fun v => by
    ext <;> simp only [Quat.conjugate, Quat.ofParts, Vec3.div_def, Vec3.neg_def, neg_div]

theorem velocity_inv {k : E → Pose3 ℝ} {twist : E → Twist3 ℝ} (velocity : Velocity k twist) :
    Velocity (fun v => (k v)⁻¹) fun v => -twist v where
  unit v := unit_inv _ (velocity.unit v)
  start := by
    rw [velocity.start]
    exact laws.inv_one
  rotation := conjugate_moves velocity
  position := by
    have start : (k 0).rotation.quat.conjugate = 1 := by
      rw [velocity.start]
      exact Quat.conjugate_one
    have carried := (conjugate_moves velocity).act (fun v => Quat.unit_conjugate _ (velocity.unit v)) start
      velocity.position
    refine (carried.neg.congr_near (.of_forall fun v => ?_)).congr_slope fun v => ?_
    · exact congrArg Pose3.position (inv_eq _ (velocity.unit v))
    · rw [velocity.start]
      change -((twist v).rho + (-(twist v).theta).cross 0) = -(twist v).rho
      rw [Vec3.cross_zero, Vec3.add_zero]

theorem adjoint_inverse (r : Pose3 ℝ) (unit : r.Unit) (t : Twist3 ℝ) :
    (adjoint r⁻¹).mulTwist t =
      ⟨r.rotation.quat.conjugate.toMatrix * (t.theta.cross r.position + t.rho),
       r.rotation.quat.conjugate.toMatrix * t.theta⟩ := by
  have inverse := Quat.unit_conjugate _ unit
  rw [inv_eq r unit]
  refine Twist3.ext ?_ ?_
  · change r.rotation.quat.conjugate.toMatrix * t.rho +
      Mat3.skew (-(r.rotation.quat.conjugate.toMatrix * r.position)) * r.rotation.quat.conjugate.toMatrix * t.theta = _
    rw [Mat3.mul_mul_vec, Mat3.skew_mul_vec, Mat3.mul_vec_add, Quat.to_matrix_mul_cross _ inverse]
    ext <;> simp only [Vec3.add_def, Vec3.cross, Vec3.neg_def] <;> ring
  · change (0 : Mat3 ℝ) * t.rho + r.rotation.quat.conjugate.toMatrix * t.theta = _
    rw [Mat3.zero_mul_vec, Vec3.zero_add]

theorem velocity_frame {k : E → Pose3 ℝ} {twist : E → Twist3 ℝ} (velocity : Velocity k twist) (r : Pose3 ℝ)
    (unit : r.Unit) : Velocity (fun v => r⁻¹ * (k v * r)) fun v => (adjoint r⁻¹).mulTwist (twist v) where
  unit v := unit_mul _ _ (unit_inv r unit) (unit_mul _ _ (velocity.unit v) unit)
  start := by
    rw [velocity.start]
    exact laws.frame_one r unit
  rotation := by
    refine ((velocity.rotation.mul_const r.rotation.quat).const_mul r.rotation.quat.conjugate).congr_slope fun v => ?_
    rw [Quat.conjugate_mul_imaginary, adjoint_inverse r unit]
    refine congrArg (Quat.ofParts 0) ?_
    ext <;> simp only [Vec3.div_def, Mat3.mul_vec_def, Vec3.dot] <;> ring
  position := by
    have carried := (velocity.rotation.act velocity.unit (congrArg (·.rotation.quat) velocity.start)
      (Vec3Moves.const r.position)).add velocity.position
    refine (((carried.mul_vec r⁻¹.rotation.toMatrix).add (.const r⁻¹.position)).congr_near
      (.of_forall fun v => ?_)).congr_slope fun v => ?_
    · rw [mul_eq _ _ (unit_inv r unit), mul_eq _ _ (velocity.unit v)]
      rfl
    · rw [adjoint_inverse r unit]
      change r.rotation.quat.conjugate.toMatrix * (0 + (twist v).theta.cross r.position + (twist v).rho) + 0 = _
      rw [Vec3.zero_add, Vec3.add_zero]

end Pose3

end FactorGraph
