import Mathlib
import FactorGraph.Proofs.Factor.Evaluation
import FactorGraph.Proofs.Lie.Pose3Log
import FactorGraph.Proofs.Lie.Pose2Log

set_option autoImplicit false

namespace FactorGraph

namespace Moves

theorem coordinate {n : ℕ} (i : Fin n) : Moves (fun d : Fin n → ℝ => d i) fun d => d i :=
  ⟨ContinuousLinearMap.proj i, hasFDerivAt_apply i 0, fun _ => rfl⟩

theorem comp_linear {E F : Type} [NormedAddCommGroup E] [NormedSpace ℝ E] [NormedAddCommGroup F] [NormedSpace ℝ F]
    {f slope : E → ℝ} (moves : Moves f slope) (L : F →L[ℝ] E) : Moves (fun v => f (L v)) fun v => slope (L v) := by
  obtain ⟨d, derivative, value⟩ := moves
  rw [← map_zero L] at derivative
  exact ⟨d.comp L, derivative.comp 0 L.hasFDerivAt, fun v => value (L v)⟩

end Moves

def Vec3.entries {n : ℕ} (f : (Fin n → ℝ) → Vec3 ℝ) : List ((Fin n → ℝ) → ℝ) :=
  [fun d => (f d).x, fun d => (f d).y, fun d => (f d).z]

def Twist3.entries {n : ℕ} (f : (Fin n → ℝ) → Twist3 ℝ) : List ((Fin n → ℝ) → ℝ) :=
  Vec3.entries (fun d => (f d).rho) ++ Vec3.entries fun d => (f d).theta

theorem Vec3Moves.entries {n : ℕ} {f slope : (Fin n → ℝ) → Vec3 ℝ} (moves : Vec3Moves f slope) :
    List.Forall₂ Moves (Vec3.entries f) (Vec3.entries slope) :=
  .cons moves.x (.cons moves.y (.cons moves.z .nil))

theorem Twist3Moves.entries {n : ℕ} {f slope : (Fin n → ℝ) → Twist3 ℝ} (moves : Twist3Moves f slope) :
    List.Forall₂ Moves (Twist3.entries f) (Twist3.entries slope) :=
  List.rel_append moves.rho.entries moves.theta.entries

theorem Vec3Moves.coordinates :
    Vec3Moves (fun d : Fin 3 → ℝ => ⟨d 0, d 1, d 2⟩) fun d => ⟨d 0, d 1, d 2⟩ :=
  ⟨.coordinate 0, .coordinate 1, .coordinate 2⟩

theorem Twist3Moves.coordinates :
    Twist3Moves (fun d : Fin 6 → ℝ => ⟨⟨d 0, d 1, d 2⟩, ⟨d 3, d 4, d 5⟩⟩)
      fun d => ⟨⟨d 0, d 1, d 2⟩, ⟨d 3, d 4, d 5⟩⟩ :=
  ⟨⟨.coordinate 0, .coordinate 1, .coordinate 2⟩, ⟨.coordinate 3, .coordinate 4, .coordinate 5⟩⟩

namespace Block

structure Differentiates {n : ℕ} (block : Block ℝ) (entries : List ((Fin n → ℝ) → ℝ)) : Prop where
  shape : block.shape = (entries.length, n)
  moves : ∃ slopes : List ((Fin n → ℝ) → ℝ), List.Forall₂ Moves entries slopes ∧
    ∀ d, block.mulVec (List.ofFn d) = slopes.map (· d)

theorem dot_append (u v s t : List ℝ) (length : u.length = s.length) : dot (u ++ v) (s ++ t) = dot u s + dot v t := by
  rw [dot_eq_sum, dot_eq_sum, dot_eq_sum, List.zipWith_append length, List.sum_append]

theorem dot_zeros (n : ℕ) (v : List ℝ) : dot (List.replicate n 0) v = 0 := by
  rw [dot_eq_sum]
  refine List.sum_eq_zero fun a mem => ?_
  obtain ⟨i, inside, rfl⟩ := List.mem_iff_getElem.mp mem
  simp

theorem identity_mul_vec (n : ℕ) (v : List ℝ) (length : v.length = n) : (identity n).mulVec v = v := by
  apply List.ext_getElem
  · simp [mulVec, identity, ofFn, length]
  intro i _ inside
  rw [length] at inside
  have row : vector n ((List.range n).map fun j => if i = j then (1 : ℝ) else 0) = Pi.single ⟨i, inside⟩ 1 := by
    funext j
    simp [vector, Pi.single_apply, Fin.ext_iff, eq_comm]
  simp only [mulVec, identity, ofFn, List.getElem_map, List.getElem_range]
  rw [dot_eq_dot_product n _ _ (by simp), row, single_one_dotProduct]
  simp [vector, length, inside]

theorem diagonal_mul_vec (a b : Block ℝ) (u v : List ℝ) (length : u.length = a.cols) :
    (a.diagonal b).mulVec (u ++ v) = a.mulVec u ++ b.mulVec v := by
  rw [mulVec, diagonal, List.map_append, List.map_map, List.map_map]
  refine congrArg₂ _ (List.map_congr_left fun row mem => ?_) (List.map_congr_left fun row mem => ?_)
  · change dot (row ++ _) (u ++ v) = _
    rw [dot_append _ _ _ _ ((a.length_of_mem row mem).trans length.symm), dot_zeros, add_zero]
  · change dot (_ ++ row) (u ++ v) = _
    rw [dot_append _ _ _ _ (by rw [List.length_replicate, length]), dot_zeros, zero_add]

theorem mat3_differentiates (m : Mat3 ℝ) (f : (Fin 3 → ℝ) → Vec3 ℝ)
    (moves : Vec3Moves f fun d => m * (⟨d 0, d 1, d 2⟩ : Vec3 ℝ)) : m.toBlock.Differentiates (Vec3.entries f) where
  shape := rfl
  moves := ⟨_, moves.entries, fun d => m.to_block_mul_vec ⟨d 0, d 1, d 2⟩⟩

theorem mat6_differentiates (m : Mat6 ℝ) (f : (Fin 6 → ℝ) → Twist3 ℝ)
    (moves : Twist3Moves f fun d => m.mulTwist ⟨⟨d 0, d 1, d 2⟩, ⟨d 3, d 4, d 5⟩⟩) :
    m.toBlock.Differentiates (Twist3.entries f) where
  shape := rfl
  moves := ⟨_, moves.entries, fun d => m.to_block_mul_vec ⟨⟨d 0, d 1, d 2⟩, ⟨d 3, d 4, d 5⟩⟩⟩

theorem identity_differentiates {n : ℕ} (f : Fin n → (Fin n → ℝ) → ℝ) (moves : ∀ i, Moves (f i) fun d => d i) :
    (identity n).Differentiates (List.ofFn f) where
  shape := by simp [shape, height, identity, ofFn]
  moves := by
    refine ⟨List.ofFn fun i d => d i, ?_, fun d => ?_⟩
    · rw [List.ofFn_eq_map, List.ofFn_eq_map, List.forall₂_map_left_iff, List.forall₂_map_right_iff, List.forall₂_same]
      exact fun i _ => moves i
    · rw [identity_mul_vec n _ (by simp), List.map_ofFn]
      rfl

theorem diagonal_differentiates {m n : ℕ} {a b : Block ℝ} {entries : List ((Fin m → ℝ) → ℝ)}
    {others : List ((Fin n → ℝ) → ℝ)} (first : a.Differentiates entries) (second : b.Differentiates others) :
    (a.diagonal b).Differentiates ((entries.map fun f d => f fun i => d (Fin.castAdd n i)) ++
      others.map fun f (d : Fin (m + n) → ℝ) => f fun i => d (Fin.natAdd m i)) where
  shape := by
    have rows := congrArg Prod.fst first.shape
    have below := congrArg Prod.fst second.shape
    have cols : a.cols = m := congrArg Prod.snd first.shape
    have beside : b.cols = n := congrArg Prod.snd second.shape
    simp only [shape, height] at rows below
    simp [shape, height, diagonal, rows, below, cols, beside]
  moves := by
    obtain ⟨slopes, moves, product⟩ := first.moves
    obtain ⟨rates, changes, follows⟩ := second.moves
    let left := (LinearMap.funLeft ℝ ℝ (Fin.castAdd n : Fin m → Fin (m + n))).toContinuousLinearMap
    let right := (LinearMap.funLeft ℝ ℝ (Fin.natAdd m : Fin n → Fin (m + n))).toContinuousLinearMap
    refine ⟨(slopes.map fun f d => f (left d)) ++ rates.map fun f d => f (right d), List.rel_append ?_ ?_, fun d => ?_⟩
    · rw [List.forall₂_map_left_iff, List.forall₂_map_right_iff]
      exact moves.imp fun _ _ part => part.comp_linear left
    · rw [List.forall₂_map_left_iff, List.forall₂_map_right_iff]
      exact changes.imp fun _ _ part => part.comp_linear right
    · have split : List.ofFn d = List.ofFn (left d) ++ List.ofFn (right d) := by
        rw [← List.ofFn_fin_append]
        exact congrArg List.ofFn (Fin.append_castAdd_natAdd).symm
      have cols : a.cols = m := congrArg Prod.snd first.shape
      rw [split, diagonal_mul_vec _ _ _ _ (by rw [List.length_ofFn, cols]), product, follows, List.map_append,
        List.map_map, List.map_map]
      rfl

end Block

-- The entries of the tangent vector from `given` to `x`, as `x` moves, and the block of their slopes.
structure Chart {M : Type} [Manifold ℝ M] (given x : M) {n : ℕ} (block : Block ℝ) (entries : List ((Fin n → ℝ) → ℝ)) :
    Prop where
  width : Manifold.dimension x = n
  height : Manifold.dimension given = entries.length
  leads : ∃ coordinates, Manifold.localCoordinates given x = .ok coordinates
  jacobian : Manifold.localJacobian given x = .ok block
  reached : ∀ d, ∃ y, Manifold.retract x (List.ofFn d) = .ok y ∧
    Manifold.localCoordinates given y = .ok (entries.map (· d))
  derivative : block.Differentiates entries

namespace Chart

theorem point (given x : Vec3 ℝ) :
    Chart given x (.identity 3) (Vec3.entries fun d : Fin 3 → ℝ => x + (⟨d 0, d 1, d 2⟩ : Vec3 ℝ) - given) where
  width := rfl
  height := rfl
  leads := ⟨_, rfl⟩
  jacobian := rfl
  reached d := ⟨x + ⟨d 0, d 1, d 2⟩, rfl, rfl⟩
  derivative := by
    have moves := (((Vec3Moves.const x).add .coordinates).sub (.const given)).congr_slope fun d => by
      rw [Vec3.zero_add, Vec3.sub_zero]
    exact ⟨rfl, _, moves.entries, fun d => Block.identity_mul_vec 3 _ List.length_ofFn⟩

theorem lens (given x : Calibration ℝ) :
    Chart given x (.identity 3)
      (Vec3.entries fun d : Fin 3 → ℝ => x.parameters + (⟨d 0, d 1, d 2⟩ : Vec3 ℝ) - given.parameters) where
  width := rfl
  height := rfl
  leads := ⟨_, rfl⟩
  jacobian := rfl
  reached d := ⟨x.withParameters (x.parameters + ⟨d 0, d 1, d 2⟩), rfl, rfl⟩
  derivative := (point given.parameters x.parameters).derivative

theorem vector (given x : List ℝ) (length : x.length = given.length) :
    Chart given x (.identity given.length)
      (List.ofFn fun (i : Fin given.length) (d : Fin given.length → ℝ) => x[i] + d i - given[i]) where
  width := length
  height := List.length_ofFn.symm
  leads := ⟨List.zipWith (· - ·) x given, by simp [Manifold.localCoordinates, checkLengths, length]⟩
  jacobian := by simp [Manifold.localJacobian, checkLengths, length]
  reached d := ⟨List.zipWith (· + ·) x (List.ofFn d), by
    simp [Manifold.retract, checkTangent, length, all_finite], by
    have same : (List.zipWith (· + ·) x (List.ofFn d)).length = given.length := by simp [length]
    have apart : List.zipWith (· - ·) (List.zipWith (· + ·) x (List.ofFn d)) given =
        List.ofFn fun i : Fin given.length => x[i] + d i - given[i] :=
      List.ext_getElem (by simp [length]) fun i _ _ => by simp
    simp only [Manifold.localCoordinates, checkLengths, same, if_true, apart, List.map_ofFn]
    rfl⟩
  derivative := Block.identity_differentiates _ fun i =>
    (((Moves.const x[i]).add (.coordinate i)).sub (.const given[i])).congr_slope fun d => by rw [zero_add, sub_zero]

theorem pose2 (given x : Pose2 ℝ) (first : given.Unit) (second : x.Unit) (regular : (given⁻¹ * x).Regular) :
    Chart given x (Pose2.rightJacobianInverse (Pose2.log (given⁻¹ * x))).toBlock
      (Vec3.entries fun d : Fin 3 → ℝ => (Pose2.log (given⁻¹ * (x * Pose2.exp ⟨d 0, d 1, d 2⟩))).triple) where
  width := rfl
  height := rfl
  leads := ⟨_, rfl⟩
  jacobian := rfl
  reached d := ⟨x * Pose2.exp ⟨d 0, d 1, d 2⟩, rfl, rfl⟩
  derivative := Block.mat3_differentiates _ _ (Pose2.prior_moves .coordinates given x first second regular)

theorem pose3 (given x : Pose3 ℝ) (first : given.Unit) (second : x.Unit) (regular : (given⁻¹ * x).Regular) :
    Chart given x (Twist3.leftJacobianInverse (-Pose3.log (given⁻¹ * x))).toBlock
      (Twist3.entries fun d : Fin 6 → ℝ =>
        Pose3.log (given⁻¹ * (x * Pose3.exp ⟨⟨d 0, d 1, d 2⟩, ⟨d 3, d 4, d 5⟩⟩))) where
  width := rfl
  height := rfl
  leads := ⟨_, rfl⟩
  jacobian := rfl
  reached d := ⟨x * Pose3.exp ⟨⟨d 0, d 1, d 2⟩, ⟨d 3, d 4, d 5⟩⟩, rfl, rfl⟩
  derivative := Block.mat6_differentiates _ _ (Pose3.prior_moves .coordinates given x first second regular)

theorem camera (given x : Camera ℝ) {pose lens : Block ℝ} {entries : List ((Fin 6 → ℝ) → ℝ)}
    {others : List ((Fin 3 → ℝ) → ℝ)} (turns : Chart given.pose x.pose pose entries)
    (bends : Chart given.calibration x.calibration lens others) :
    Chart given x (pose.diagonal lens) ((entries.map fun f d => f fun i => d (Fin.castAdd 3 i)) ++
      others.map fun f (d : Fin (6 + 3) → ℝ) => f fun i => d (Fin.natAdd 6 i)) where
  width := rfl
  height := by
    have six : 6 = entries.length := turns.height
    have three : 3 = others.length := bends.height
    rw [List.length_append, List.length_map, List.length_map, ← six, ← three]
    rfl
  leads := by
    obtain ⟨u, first⟩ := turns.leads
    obtain ⟨v, second⟩ := bends.leads
    exact ⟨u ++ v, Camera.local_coordinates_ok given x u v first second⟩
  jacobian := by
    change (Manifold.localJacobian given.pose x.pose >>= fun pose =>
      Manifold.localJacobian given.calibration x.calibration >>= fun lens => pure (pose.diagonal lens)) = _
    rw [turns.jacobian, bends.jacobian]
    rfl
  reached d := by
    obtain ⟨p, turned, first⟩ := turns.reached fun i => d (Fin.castAdd 3 i)
    obtain ⟨c, bent, second⟩ := bends.reached fun i => d (Fin.natAdd 6 i)
    refine ⟨⟨p, c⟩, ?_, ?_⟩
    · change (Manifold.retract x.pose (List.ofFn fun i : Fin 6 => d (Fin.castAdd 3 i)) >>= fun pose =>
        Manifold.retract x.calibration (List.ofFn fun i : Fin 3 => d (Fin.natAdd 6 i)) >>= fun calibration =>
          pure (⟨pose, calibration⟩ : Camera ℝ)) = _
      rw [turned, bent]
      rfl
    · rw [Camera.local_coordinates_ok given ⟨p, c⟩ _ _ first second, List.map_append, List.map_map, List.map_map]
      rfl
  derivative := Block.diagonal_differentiates turns.derivative bends.derivative

end Chart

end FactorGraph
