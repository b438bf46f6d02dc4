import Mathlib
import FactorGraph.Proofs.Camera.Snavely
import FactorGraph.Proofs.Factor.Chart
import FactorGraph.Proofs.ForwardMode

set_option autoImplicit false

open Filter Topology

namespace FactorGraph

theorem Moves.slope_eq_dot {n : ℕ} {f slope : (Fin n → ℝ) → ℝ} (moves : Moves f slope) (d : Fin n → ℝ) :
    Block.dot (List.ofFn fun j => slope (Pi.single j 1)) (List.ofFn d) = slope d := by
  obtain ⟨L, _, value⟩ := moves
  rw [dot_eq_dot_product n _ _ (by rw [List.length_ofFn]), vector_of_fn, vector_of_fn, dotProduct_comm, ← value]
  conv_rhs => rw [pi_eq_sum_univ' d, map_sum]
  exact Finset.sum_congr rfl fun i _ => by rw [map_smul, smul_eq_mul, value]

namespace Block

theorem differentiates_of_rows {n : ℕ} (block : Block ℝ) (entries slopes : List ((Fin n → ℝ) → ℝ)) (cols : block.cols = n)
    (rows : block.rows = slopes.map fun slope => List.ofFn fun j => slope (Pi.single j 1))
    (moves : List.Forall₂ Moves entries slopes) : block.Differentiates entries where
  shape := by rw [shape, height, rows, List.length_map, cols, moves.length_eq]
  moves := by
    refine ⟨slopes, moves, fun d => ?_⟩
    rw [mulVec, rows, List.map_map]
    refine List.map_congr_left fun slope mem => ?_
    obtain ⟨i, inside, rfl⟩ := List.mem_iff_getElem.mp mem
    exact (moves.get (moves.length_eq ▸ inside) inside).slope_eq_dot d

-- Close to zero the projection succeeds, and the block is the derivative of its pixel there.
structure DifferentiatesPixel {n : ℕ} (block : Block ℝ) (project : (Fin n → ℝ) → Except (Cheirality ℝ) (Vec2 ℝ)) :
    Prop where
  pixel : ∃ pixel : (Fin n → ℝ) → Vec2 ℝ, (∀ᶠ d in 𝓝 0, project d = .ok (pixel d)) ∧
    block.Differentiates [fun d => (pixel d).x, fun d => (pixel d).y]

def slopeRows {n : ℕ} (image : (Fin n → ℝ) → Vec2 (Dual ℝ)) : List (List ℝ) :=
  [List.ofFn fun j => (image (Pi.single j 1)).x.slope, List.ofFn fun j => (image (Pi.single j 1)).y.slope]

theorem differentiates_pixel {n : ℕ} (block : Block ℝ) {project : (Fin n → ℝ) → Except (Cheirality ℝ) (Vec2 ℝ)}
    {image : (Fin n → ℝ) → Vec2 (Dual ℝ)} {pixel : (Fin n → ℝ) → Vec2 ℝ} (follows : Vec2Follows image pixel)
    (near : ∀ᶠ d in 𝓝 0, project d = .ok (pixel d)) (cols : block.cols = n) (rows : block.rows = slopeRows image) :
    block.DifferentiatesPixel project :=
  ⟨pixel, near, block.differentiates_of_rows _ [fun d => (image d).x.slope, fun d => (image d).y.slope] cols rows
    (.cons follows.x.moves (.cons follows.y.moves .nil))⟩

end Block

namespace Dual

open Block

theorem derivative_rows (f : Vec3 (Dual ℝ) → Vec2 (Dual ℝ)) (u : Vec3 ℝ) :
    (derivative f u).toBlock.rows = slopeRows fun d : Fin 3 → ℝ => f (along u ⟨d 0, d 1, d 2⟩) := rfl

theorem derivative_rows_beside (f : Vec3 (Dual ℝ) → Vec3 (Dual ℝ) → Vec3 (Dual ℝ) → Vec2 (Dual ℝ)) (u v w : Vec3 ℝ) :
    ((derivative (fun a => f a (constants v) (constants w)) u).beside3
      (derivative (fun b => f (constants u) b (constants w)) v)
      (derivative (fun c => f (constants u) (constants v) c) w)).rows =
    slopeRows fun d : Fin 9 → ℝ => f (along u ⟨d 0, d 1, d 2⟩) (along v ⟨d 3, d 4, d 5⟩) (along w ⟨d 6, d 7, d 8⟩) := rfl

end Dual

namespace SnavelyCamera

section Depth

variable (c : SnavelyCamera ℝ) (point : Vec3 ℝ)

theorem check_depth_ok (front : 0 < -(c.toFrame point).z) : c.checkDepth point = .ok () := if_neg front.not_ge

theorem check_depth_error (behind : -(c.toFrame point).z ≤ 0) :
    c.checkDepth point = .error ⟨-(c.toFrame point).z⟩ := if_pos behind

theorem depth_error_iff {γ : Type} (answer : γ) (fault : Cheirality ℝ) :
    (c.checkDepth point >>= fun _ => pure answer) = .error fault ↔
      -(c.toFrame point).z ≤ 0 ∧ fault = ⟨-(c.toFrame point).z⟩ := by
  rcases le_or_gt (-(c.toFrame point).z) 0 with behind | front
  · rw [check_depth_error c point behind]
    exact ⟨fun same => ⟨behind, (Except.error.inj same).symm⟩, fun ⟨_, same⟩ => congrArg Except.error same.symm⟩
  · rw [check_depth_ok c point front]
    exact ⟨fun same => (nomatch same : False).elim, fun same => absurd same.1 front.not_ge⟩

theorem project_ok (front : 0 < -(c.toFrame point).z) : c.project point = .ok (c.image point) := by
  rw [project, check_depth_ok c point front]
  rfl

end Depth

section Follows

variable {E : Type} [NormedAddCommGroup E] [NormedSpace ℝ E]

section Axis

variable {a b : E → Vec3 (Dual ℝ)} {f g : E → Vec3 ℝ} (axis : Vec3Follows a f) (point : Vec3Follows b g)

include axis

theorem dual_long_iff (v : E) : (Scalar.epsilon : Dual ℝ) < (a v).normSquared ↔ Scalar.epsilon < (f 0).normSquared := by
  change (Scalar.epsilon : Dual ℝ).value < ((a v).dot (a v)).value ↔ _
  rw [Dual.epsilon_value, (axis.dot axis).value]
  rfl

include point

theorem turn_follows (turns : 0 < (f 0).normSquared) :
    Vec3Follows (fun v => turn (a v) (b v)) fun v => turn (f v) (g v) := by
  have angle := (axis.dot axis).sqrt turns
  have unit := axis.div angle (Real.sqrt_pos.mpr turns).ne'
  have along := (unit.dot point).mul ((Dual.Follows.constant 1).sub angle.cos)
  exact ((Vec3Follows.smul angle.cos point).add (.smul angle.sin (unit.cross point))).add (.smul along unit)

theorem rotate_follows_of_long (long : Scalar.epsilon < (f 0).normSquared) :
    Vec3Follows (fun v => rotate (a v) (b v)) fun v => rotate (f v) (g v) := by
  have near : (fun v => rotate (f v) (g v)) =ᶠ[𝓝 0] fun v => turn (f v) (g v) := by
    filter_upwards [axis.norm_squared_continuous.eventually_const_lt long] with v stays
    exact rotate_of_long _ _ stays
  have dual : (fun v => rotate (a v) (b v)) = fun v => turn (a v) (b v) :=
    funext fun v => rotate_of_long _ _ ((dual_long_iff axis v).mpr long)
  rw [dual]
  exact (turn_follows axis point (epsilon_pos.trans long)).congr_near near

theorem rotate_follows_of_short (below : (f 0).normSquared < Scalar.epsilon) :
    Vec3Follows (fun v => rotate (a v) (b v)) fun v => rotate (f v) (g v) := by
  have near : (fun v => rotate (f v) (g v)) =ᶠ[𝓝 0] fun v => g v + (f v).cross (g v) := by
    filter_upwards [axis.norm_squared_continuous.eventually_lt_const below] with v stays
    exact rotate_of_short _ _ stays.not_gt
  have dual : (fun v => rotate (a v) (b v)) = fun v => b v + (a v).cross (b v) :=
    funext fun v => rotate_of_short _ _ (mt (dual_long_iff axis v).mp below.not_gt)
  rw [dual]
  exact (point.add (axis.cross point)).congr_near near

end Axis

structure Follows (a : E → SnavelyCamera (Dual ℝ)) (f : E → SnavelyCamera ℝ) : Prop where
  rotation : Vec3Follows (fun v => (a v).rotation) fun v => (f v).rotation
  shift : Vec3Follows (fun v => (a v).shift) fun v => (f v).shift
  lens : Vec3Follows (fun v => (a v).lens) fun v => (f v).lens

variable {a : E → SnavelyCamera (Dual ℝ)} {f : E → SnavelyCamera ℝ} {b : E → Vec3 (Dual ℝ)} {g : E → Vec3 ℝ}
  (camera : Follows a f) (point : Vec3Follows b g) (smooth : (f 0).rotation.normSquared ≠ Scalar.epsilon)

include camera point smooth

theorem to_frame_follows : Vec3Follows (fun v => (a v).toFrame (b v)) fun v => (f v).toFrame (g v) := by
  have rotated : Vec3Follows (fun v => rotate (a v).rotation (b v)) fun v => rotate (f v).rotation (g v) :=
    smooth.lt_or_gt.elim (rotate_follows_of_short camera.rotation point) (rotate_follows_of_long camera.rotation point)
  exact rotated.add camera.shift

variable (front : 0 < -((f 0).toFrame (g 0)).z)

include front

theorem image_follows : Vec2Follows (fun v => (a v).image (b v)) fun v => (f v).image (g v) := by
  have frame := to_frame_follows camera point smooth
  have regular : ((f 0).toFrame (g 0)).z ≠ 0 := (neg_pos.mp front).ne
  exact distort_follows (frame.x.neg.div frame.z regular) (frame.y.neg.div frame.z regular) camera.lens

theorem project_near : ∀ᶠ v in 𝓝 0, (f v).project (g v) = .ok ((f v).image (g v)) := by
  have depth := (to_frame_follows camera point smooth).z.neg.moves.continuous
  filter_upwards [depth.eventually_const_lt front] with v ahead
  exact (f v).project_ok (g v) ahead

end Follows

variable (c : SnavelyCamera ℝ) (point : Vec3 ℝ)

noncomputable def moved (d : Fin 9 → ℝ) : SnavelyCamera ℝ :=
  ⟨c.rotation + ⟨d 0, d 1, d 2⟩, c.shift + ⟨d 3, d 4, d 5⟩, c.lens + ⟨d 6, d 7, d 8⟩⟩

def heading (d : Fin 9 → ℝ) : SnavelyCamera (Dual ℝ) :=
  ⟨Dual.along c.rotation ⟨d 0, d 1, d 2⟩, Dual.along c.shift ⟨d 3, d 4, d 5⟩, Dual.along c.lens ⟨d 6, d 7, d 8⟩⟩

theorem moved_zero : c.moved 0 = c := by
  change (⟨c.rotation + 0, c.shift + 0, c.lens + 0⟩ : SnavelyCamera ℝ) = c
  simp only [Vec3.add_zero]

theorem heading_follows : Follows c.heading c.moved where
  rotation := .along c.rotation ⟨.coordinate 0, .coordinate 1, .coordinate 2⟩
  shift := .along c.shift ⟨.coordinate 3, .coordinate 4, .coordinate 5⟩
  lens := .along c.lens ⟨.coordinate 6, .coordinate 7, .coordinate 8⟩

noncomputable def derivatives : SnavelyProjection ℝ :=
  let r := Dual.constants c.rotation
  let t := Dual.constants c.shift
  let l := Dual.constants c.lens
  let p := Dual.constants point
  { pixel := Dual.values (image ⟨r, t, l⟩ p)
    rotation := Dual.derivative (fun r => image ⟨r, t, l⟩ p) c.rotation
    shift := Dual.derivative (fun t => image ⟨r, t, l⟩ p) c.shift
    lens := Dual.derivative (fun l => image ⟨r, t, l⟩ p) c.lens
    point := Dual.derivative (fun p => image ⟨r, t, l⟩ p) point }

theorem project_derivatives_ok (front : 0 < -(c.toFrame point).z) :
    c.projectDerivatives point = .ok (c.derivatives point) := by
  rw [projectDerivatives, check_depth_ok c point front]
  rfl

theorem camera_differentiates (smooth : c.rotation.normSquared ≠ Scalar.epsilon) (front : 0 < -(c.toFrame point).z) :
    (c.derivatives point).camera.DifferentiatesPixel fun d => (c.moved d).project point := by
  have still := c.moved_zero
  rw [← still] at smooth front
  have follows := c.heading_follows
  have fixed : Vec3Follows (fun _ : Fin 9 → ℝ => Dual.constants point) fun _ => point := .constants point
  exact Block.differentiates_pixel _ (image_follows follows fixed smooth front)
    (project_near follows fixed smooth front) rfl
    (Dual.derivative_rows_beside (fun r t l => image ⟨r, t, l⟩ (Dual.constants point)) c.rotation c.shift c.lens)

theorem point_differentiates (smooth : c.rotation.normSquared ≠ Scalar.epsilon) (front : 0 < -(c.toFrame point).z) :
    (c.derivatives point).point.toBlock.DifferentiatesPixel fun d : Fin 3 → ℝ => c.project (point + ⟨d 0, d 1, d 2⟩) := by
  have follows : Follows (fun _ : Fin 3 → ℝ => ⟨Dual.constants c.rotation, Dual.constants c.shift, Dual.constants c.lens⟩)
      fun _ => c :=
    ⟨.constants c.rotation, .constants c.shift, .constants c.lens⟩
  have moves := Vec3Follows.along point .coordinates
  rw [← point.add_zero] at front
  exact Block.differentiates_pixel _ (image_follows follows moves smooth front)
    (project_near follows moves smooth front) rfl (Dual.derivative_rows _ point)

/-- Both projections fail with the depth just where it is not positive. In front of a camera whose rotation is zero or has
the closed form, the blocks are the derivatives of the pixel by the nine numbers of the camera and by the point. -/
theorem projection_blocks_exact :
    let depth := -(c.toFrame point).z
    (∀ fault, (c.project point = .error fault ↔ depth ≤ 0 ∧ fault = ⟨depth⟩) ∧
      (c.projectDerivatives point = .error fault ↔ depth ≤ 0 ∧ fault = ⟨depth⟩)) ∧
    (c.rotation = 0 ∨ Scalar.epsilon < c.rotation.normSquared → 0 < depth →
      ∃ p : SnavelyProjection ℝ, c.project point = .ok p.pixel ∧ c.projectDerivatives point = .ok p ∧
        (p.camera.DifferentiatesPixel fun d => (c.moved d).project point) ∧
        p.point.toBlock.DifferentiatesPixel fun d : Fin 3 → ℝ => c.project (point + ⟨d 0, d 1, d 2⟩)) := by
  intro depth
  refine ⟨fun fault => ⟨depth_error_iff c point _ fault, depth_error_iff c point _ fault⟩, fun rotates front => ?_⟩
  have smooth : c.rotation.normSquared ≠ Scalar.epsilon := by
    rcases rotates with zero | long
    · rw [zero, Vec3.norm_squared_zero]
      exact epsilon_pos.ne
    · exact long.ne'
  have answer := c.project_derivatives_ok point front
  refine ⟨c.derivatives point, ?_, answer, camera_differentiates c point smooth front,
    point_differentiates c point smooth front⟩
  rw [project_eq_map, answer]
  rfl

-- Unturned and turned about its viewing direction, a camera sees a point at the same depth.
theorem projection_blocks_exact_turned :
    let lens : Vec3 ℝ := ⟨500, 1 / 10, 1 / 100⟩
    let still : SnavelyCamera ℝ := ⟨0, 0, lens⟩
    let turned : SnavelyCamera ℝ := ⟨⟨0, 0, 3⟩, 0, lens⟩
    let ahead : Vec3 ℝ := ⟨1, 2, -4⟩
    (∃ p : SnavelyProjection ℝ, still.project ahead = .ok p.pixel ∧ still.projectDerivatives ahead = .ok p ∧
      (p.camera.DifferentiatesPixel fun d => (still.moved d).project ahead) ∧
      p.point.toBlock.DifferentiatesPixel fun d : Fin 3 → ℝ => still.project (ahead + ⟨d 0, d 1, d 2⟩)) ∧
    (∃ p : SnavelyProjection ℝ, turned.project ahead = .ok p.pixel ∧ turned.projectDerivatives ahead = .ok p ∧
      (p.camera.DifferentiatesPixel fun d => (turned.moved d).project ahead) ∧
      p.point.toBlock.DifferentiatesPixel fun d : Fin 3 → ℝ => turned.project (ahead + ⟨d 0, d 1, d 2⟩)) ∧
    still.project ⟨1, 2, 4⟩ = .error ⟨-4⟩ ∧ still.projectDerivatives ⟨1, 2, 4⟩ = .error ⟨-4⟩ := by
  intro lens still turned ahead
  have stays (point : Vec3 ℝ) : still.toFrame point = point := by rw [toFrame, rotate_zero, Vec3.add_zero]
  have long : Scalar.epsilon < turned.rotation.normSquared := by
    change (1 : ℝ) / 4503599627370496.0 < _
    norm_num [turned, Vec3.normSquared, Vec3.dot]
  have depth : (turned.toFrame ahead).z = -4 := by
    rw [toFrame, rotate_eq_series _ _ long]
    simp [turned, ahead, Vec3.series, Vec3.cross, Vec3.add_def, Vec3.smul_def]
  refine ⟨(projection_blocks_exact still ahead).2 (.inl rfl) ?_, (projection_blocks_exact turned ahead).2 (.inr long) ?_,
    ((projection_blocks_exact still ⟨1, 2, 4⟩).1 _).1.mpr ?_, ((projection_blocks_exact still ⟨1, 2, 4⟩).1 _).2.mpr ?_⟩
  · rw [stays]
    norm_num [ahead]
  · rw [depth]
    norm_num
  · rw [stays]
    norm_num
  · rw [stays]
    norm_num

end SnavelyCamera

end FactorGraph
