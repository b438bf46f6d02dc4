import Mathlib
import FactorGraph.Proofs.Factor.Chart

set_option autoImplicit false

namespace FactorGraph

class FaithfulVariable (M : Type) [Variable ℝ M] : Prop where
  reads : ∀ x : M, Variable.ofValue? (Variable.toValue x) = some x
  dimension : ∀ x : M, (Variable.toValue x).dimension = Manifold.dimension x
  moves : ∀ (x : M) (delta : List ℝ), (Variable.toValue x).retract delta = Variable.toValue <$> Manifold.retract x delta

instance : FaithfulVariable (Pose2 ℝ) := ⟨fun _ => rfl, fun _ => rfl, fun _ _ => rfl⟩

instance : FaithfulVariable (Pose3 ℝ) := ⟨fun _ => rfl, fun _ => rfl, fun _ _ => rfl⟩

instance : FaithfulVariable (Vec3 ℝ) := ⟨fun _ => rfl, fun _ => rfl, fun _ _ => rfl⟩

instance : FaithfulVariable (List ℝ) := ⟨fun _ => rfl, fun _ => rfl, fun _ _ => rfl⟩

instance : FaithfulVariable (Calibration ℝ) := ⟨fun _ => rfl, fun _ => rfl, fun _ _ => rfl⟩

instance : FaithfulVariable (Camera ℝ) := ⟨fun _ => rfl, fun _ => rfl, fun _ _ => rfl⟩

theorem FaithfulVariable.retract_ok {M : Type} [Variable ℝ M] [FaithfulVariable M] (x y : M) (delta : List ℝ)
    (moved : Manifold.retract x delta = .ok y) : (Variable.toValue x).retract delta = .ok (Variable.toValue y) := by
  rw [FaithfulVariable.moves, moved]
  rfl

namespace Factor

-- The residual after the value at `place` has moved along `delta`.
noncomputable def movedResidual (factor : Factor ℝ) (values : List (Value ℝ)) (place : ℕ) (delta : List ℝ) :
    Option (List ℝ) := do
  let x ← values[place]?
  let moved ← (x.retract delta).toOption
  let evaluation ← (factor.evaluate (values.set place moved) .residual).toOption
  return evaluation.residual

-- The block is the derivative, where nothing has moved, of the residual as a function of the move at `place`.
structure IsDerivative (factor : Factor ℝ) (values : List (Value ℝ)) (place : ℕ) (block : Block ℝ) : Prop where
  shape : values[place]?.map (fun x => (factor.dimension, x.dimension)) = some block.shape
  derivative : ∃ (residual : (Fin block.cols → ℝ) → Fin block.height → ℝ)
      (slope : (Fin block.cols → ℝ) →L[ℝ] Fin block.height → ℝ),
    (∀ delta, factor.movedResidual values place (List.ofFn delta) = some (List.ofFn (residual delta))) ∧
    HasFDerivAt residual slope 0 ∧ ∀ delta, List.ofFn (slope delta) = block.mulVec (List.ofFn delta)

-- Asked for derivatives, the factor answers with one block for each value, the derivative of its residual.
def DerivativesExact (factor : Factor ℝ) (values : List (Value ℝ)) : Prop :=
  ∃ residual blocks, factor.evaluate values .derivatives = .ok ⟨residual, some blocks⟩ ∧ blocks.length = values.length ∧
    ∀ place block, blocks[place]? = some block → factor.IsDerivative values place block

theorem moved_residual_eq (factor : Factor ℝ) (values : List (Value ℝ)) (place : ℕ) (delta : List ℝ) (x y : Value ℝ)
    (evaluation : Evaluation ℝ) (found : values[place]? = some x) (moved : x.retract delta = .ok y)
    (answers : factor.evaluate (values.set place y) .residual = .ok evaluation) :
    factor.movedResidual values place delta = some evaluation.residual := by
  simp [movedResidual, found, moved, answers, Except.toOption]

theorem is_derivative_of_moves (factor : Factor ℝ) (values : List (Value ℝ)) (place : ℕ) (x : Value ℝ)
    (found : values[place]? = some x) {n : ℕ} (block : Block ℝ) (entries : List ((Fin n → ℝ) → ℝ))
    (width : x.dimension = n) (height : factor.dimension = entries.length) (derivative : block.Differentiates entries)
    (reached : ∀ d, factor.movedResidual values place (List.ofFn d) = some (entries.map (· d))) :
    factor.IsDerivative values place block where
  shape := by rw [found, derivative.shape, ← height, ← width]; rfl
  derivative := by
    obtain ⟨slopes, moves, product⟩ := derivative.moves
    have rows : block.height = entries.length := congrArg Prod.fst derivative.shape
    have cols : block.cols = n := congrArg Prod.snd derivative.shape
    subst cols
    have same : block.height = slopes.length := rows.trans moves.length_eq
    have each (i : Fin block.height) : Moves (entries.get (i.cast rows)) (slopes.get (i.cast same)) := moves.get _ _
    choose slope changes values using each
    refine ⟨fun d i => entries.get (i.cast rows) d, ContinuousLinearMap.pi slope, fun d => ?_, hasFDerivAt_pi.mpr changes,
      fun d => ?_⟩
    · rw [reached]
      exact congrArg some (List.ext_getElem (by simp [rows]) fun i _ _ => by simp)
    · rw [product]
      exact List.ext_getElem (by simp [same]) fun i _ _ => by simp [values]

section Prior

variable {M : Type} [Variable ℝ M] [FaithfulVariable M] (given x : M) {n : ℕ} (block : Block ℝ)
  (entries : List ((Fin n → ℝ) → ℝ)) (chart : Chart given x block entries)

include chart

theorem prior_exact : (prior given).DerivativesExact [Variable.toValue x] := by
  obtain ⟨coordinates, leads⟩ := chart.leads
  refine ⟨coordinates, [block], prior_derivatives given x _ (FaithfulVariable.reads x) _ leads _ chart.jacobian, rfl, ?_⟩
  have exactly : (prior given).IsDerivative [Variable.toValue x] 0 block := by
    refine is_derivative_of_moves _ _ _ _ rfl block entries ((FaithfulVariable.dimension x).trans chart.width)
      chart.height chart.derivative fun d => ?_
    obtain ⟨y, moved, seen⟩ := chart.reached d
    have evaluated := prior_residual given y _ (FaithfulVariable.reads y) _ seen
    exact moved_residual_eq _ [_] 0 _ _ _ _ rfl (FaithfulVariable.retract_ok x y _ moved) evaluated
  intro place other found
  match place with
  | 0 => exact Option.some.inj found ▸ exactly

end Prior

section Between

variable {G T J : Type} [LieGroup ℝ G T J] [Variable ℝ G] [FaithfulVariable G] (measured a b : G) {n : ℕ}
  (t : (Fin n → ℝ) → T) (width : ∀ x : G, Manifold.dimension x = n)
  (moves : ∀ (x : G) d, Manifold.retract x (List.ofFn d) = .ok (x * LieGroup.exp (t d)))
  (entries others : List ((Fin n → ℝ) → ℝ))

include width moves

theorem between_exact (height : LieGroup.dimension G = entries.length) (level : LieGroup.dimension G = others.length)
    (reads : ∀ d, LieGroup.coordinates (G := G) (LieGroup.log (measured⁻¹ * ((a * LieGroup.exp (t d))⁻¹ * b))) =
      entries.map (· d))
    (shows : ∀ d, LieGroup.coordinates (G := G) (LieGroup.log (measured⁻¹ * (a⁻¹ * (b * LieGroup.exp (t d))))) =
      others.map (· d))
    (first : (LieGroup.toBlock (G := G) (LieGroup.negate (G := G) (LieGroup.multiply (G := G)
      (LieGroup.rightJacobianInverse (G := G) (LieGroup.log (measured⁻¹ * (a⁻¹ * b))))
      (LieGroup.adjoint (a⁻¹ * b)⁻¹)))).Differentiates entries)
    (second : (LieGroup.toBlock (G := G)
      (LieGroup.rightJacobianInverse (G := G) (LieGroup.log (measured⁻¹ * (a⁻¹ * b))))).Differentiates others) :
    (between measured).DerivativesExact [Variable.toValue a, Variable.toValue b] := by
  have read (x : G) : Variable.ofValue? (Variable.toValue x) = some x := FaithfulVariable.reads x
  refine ⟨_, _, between_derivatives measured a b _ _ (read a) (read b), rfl, fun place block found => ?_⟩
  match place with
  | 0 =>
      rw [← Option.some.inj found]
      refine is_derivative_of_moves _ _ _ _ rfl _ entries ((FaithfulVariable.dimension a).trans (width a)) height first
        fun d => ?_
      have evaluated := between_residual measured (a * LieGroup.exp (t d)) b _ _ (read _) (read b)
      rw [reads] at evaluated
      exact moved_residual_eq _ [_, _] 0 _ _ _ _ rfl (FaithfulVariable.retract_ok _ _ _ (moves a d)) evaluated
  | 1 =>
      rw [← Option.some.inj found]
      refine is_derivative_of_moves _ _ _ _ rfl _ others ((FaithfulVariable.dimension b).trans (width b)) level second
        fun d => ?_
      have evaluated := between_residual measured a (b * LieGroup.exp (t d)) _ _ (read a) (read _)
      rw [shows] at evaluated
      exact moved_residual_eq _ [_, _] 1 _ _ _ _ rfl (FaithfulVariable.retract_ok _ _ _ (moves b d)) evaluated

end Between

end Factor

namespace StandardFactor

-- Where the blocks of priors and of relative measurements are exact: rotations have length one, and the rotation of
-- the error is neither so small that the logarithm is approximated, nor half a turn.
inductive Regular : StandardFactor ℝ → List (Value ℝ) → Prop where
  | between2 (z a b : Pose2 ℝ) (measured : z.Unit) (first : a.Unit) (second : b.Unit)
      (regular : (z⁻¹ * (a⁻¹ * b)).Regular) : Regular (.betweenPose2 z) [.pose2 a, .pose2 b]
  | between3 (z a b : Pose3 ℝ) (measured : z.Unit) (first : a.Unit) (second : b.Unit)
      (regular : (z⁻¹ * (a⁻¹ * b)).Regular) : Regular (.betweenPose3 z) [.pose3 a, .pose3 b]
  | pose2 (given x : Pose2 ℝ) (first : given.Unit) (second : x.Unit) (regular : (given⁻¹ * x).Regular) :
      Regular (.prior (.pose2 given)) [.pose2 x]
  | pose3 (given x : Pose3 ℝ) (first : given.Unit) (second : x.Unit) (regular : (given⁻¹ * x).Regular) :
      Regular (.prior (.pose3 given)) [.pose3 x]
  | point3 (given x : Vec3 ℝ) : Regular (.prior (.point3 given)) [.point3 x]
  | vector (given x : List ℝ) (length : x.length = given.length) : Regular (.prior (.vector given)) [.vector x]
  | calibration (given x : Calibration ℝ) : Regular (.prior (.calibration given)) [.calibration x]
  | camera (given x : Camera ℝ) (first : given.pose.Unit) (second : x.pose.Unit)
      (regular : (given.pose⁻¹ * x.pose).Regular) : Regular (.prior (.camera given)) [.camera x]

theorem derivatives_exact (f : StandardFactor ℝ) (values : List (Value ℝ)) (regular : Regular f values) :
    f.factor.DerivativesExact values := by
  cases regular with
  | between2 z a b measured first second regular =>
      exact Factor.between_exact z a b (fun d => (⟨d 0, d 1, d 2⟩ : Twist2 ℝ)) (fun _ => rfl) (fun _ _ => rfl) _ _ rfl rfl
        (fun _ => rfl) (fun _ => rfl)
        (Block.mat3_differentiates _ _ (Pose2.between_first_moves .coordinates z a b measured first second regular))
        (Block.mat3_differentiates _ _ (Pose2.between_second_moves .coordinates z a b measured first second regular))
  | between3 z a b measured first second regular =>
      exact Factor.between_exact z a b (fun d => (⟨⟨d 0, d 1, d 2⟩, ⟨d 3, d 4, d 5⟩⟩ : Twist3 ℝ)) (fun _ => rfl)
        (fun _ _ => rfl) _ _ rfl rfl (fun _ => rfl) (fun _ => rfl)
        (Block.mat6_differentiates _ _ (Pose3.between_first_moves .coordinates z a b measured first second regular))
        (Block.mat6_differentiates _ _ (Pose3.between_second_moves .coordinates z a b measured first second regular))
  | pose2 given x first second regular => exact Factor.prior_exact given x _ _ (.pose2 given x first second regular)
  | pose3 given x first second regular => exact Factor.prior_exact given x _ _ (.pose3 given x first second regular)
  | point3 given x => exact Factor.prior_exact given x _ _ (.point given x)
  | vector given x length => exact Factor.prior_exact given x _ _ (.vector given x length)
  | calibration given x => exact Factor.prior_exact given x _ _ (.lens given x)
  | camera given x first second regular =>
      exact Factor.prior_exact given x _ _
        (.camera given x (.pose3 given.pose x.pose first second regular) (.lens given.calibration x.calibration))

theorem derivatives_exact_turned :
    let a : Pose3 ℝ := ⟨⟨⟨4 / 5, 0, 3 / 5, 0⟩⟩, ⟨1, 2, 3⟩⟩
    let b : Pose3 ℝ := ⟨⟨⟨12 / 25, 16 / 25, 9 / 25, -(12 / 25)⟩⟩, ⟨0, 1, 1⟩⟩
    Regular (.betweenPose3 1) [.pose3 a, .pose3 b] ∧
      (StandardFactor.betweenPose3 (1 : Pose3 ℝ)).factor.DerivativesExact [.pose3 a, .pose3 b] := by
  intro a b
  have first : a.Unit := by
    change (4 / 5 : ℝ) * (4 / 5) + 0 * 0 + 3 / 5 * (3 / 5) + 0 * 0 = 1
    norm_num
  have second : b.Unit := by
    change (12 / 25 : ℝ) * (12 / 25) + 16 / 25 * (16 / 25) + 9 / 25 * (9 / 25) + -(12 / 25) * -(12 / 25) = 1
    norm_num
  have turn : ((1 : Pose3 ℝ)⁻¹ * (a⁻¹ * b)).rotation.quat = ⟨3 / 5, 4 / 5, 0, 0⟩ := by
    change (1 : Quat ℝ).conjugate * (a.rotation.quat.conjugate * b.rotation.quat) = _
    rw [Quat.conjugate_one, Quat.one_mul_self]
    ext <;> norm_num [a, b, Quat.conjugate, Quat.mul_def]
  have length : ((1 : Pose3 ℝ)⁻¹ * (a⁻¹ * b)).rotation.quat.imaginary.norm = 4 / 5 := by
    rw [turn]
    change Real.sqrt (4 / 5 * (4 / 5) + 0 * 0 + 0 * 0) = 4 / 5
    rw [Real.sqrt_eq_iff_mul_self_eq (by norm_num) (by norm_num)]
    norm_num
  have error : ((1 : Pose3 ℝ)⁻¹ * (a⁻¹ * b)).Unit :=
    Pose3.unit_mul _ _ (Pose3.unit_inv _ Pose3.unit_one) (Pose3.unit_mul _ _ (Pose3.unit_inv _ first) second)
  have regular : Regular (.betweenPose3 1) [.pose3 a, .pose3 b] :=
    .between3 1 a b Pose3.unit_one first second
      (Pose3.regular_of_parts _ error (by rw [turn]; norm_num) (by rw [length]; norm_num))
  exact ⟨regular, derivatives_exact _ _ regular⟩

end StandardFactor

end FactorGraph
