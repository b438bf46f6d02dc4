import FactorGraph.Proofs.Factor.Signature
import FactorGraph.Proofs.Camera.Snavely

set_option autoImplicit false

namespace FactorGraph

variable {α : Type} [Scalar α]

namespace Factor

-- The answers to a request for the residual and to one for the derivatives.
inductive Agree (dimension : Nat) (arguments : List (Value α)) :
    Except (FactorError α) (Evaluation α) → Except (FactorError α) (Evaluation α) → Prop where
  | failed (e : FactorError α) : Agree dimension arguments (.error e) (.error e)
  | answered (residual : List α) (blocks : List (Block α)) (length : residual.length = dimension)
      (shapes : List.Forall₂ (fun block value => block.shape = (dimension, value.dimension)) blocks arguments) :
      Agree dimension arguments (.ok ⟨residual, none⟩) (.ok ⟨residual, some blocks⟩)

def RequestsAgree (factor : Factor α) : Prop :=
  ∀ arguments : List (Value α),
    Agree factor.dimension arguments (factor.evaluate arguments .residual) (factor.evaluate arguments .derivatives)

section Reading

variable {dimension : Nat} {arguments : List (Value α)}

theorem agree_bind {β : Type} (x : Except (FactorError α) β) (f g : β → Except (FactorError α) (Evaluation α))
    (each : ∀ b, x = .ok b → Agree dimension arguments (f b) (g b)) : Agree dimension arguments (x >>= f) (x >>= g) := by
  cases x with
  | error e => exact .failed e
  | ok b => exact each b rfl

omit [Scalar α] in
theorem check_arity_length (expected : Nat) (checked : checkArity arguments expected = .ok ()) :
    arguments.length = expected := by
  unfold checkArity at checked
  split at checked
  · assumption
  · cases checked

omit [Scalar α] in
theorem variable_at_ok {M : Type} [Variable α M] (index : Nat) (x : M)
    (found : variableAt M arguments index = .ok x) :
    ∃ value, arguments[index]? = some value ∧ Variable.ofValue? value = some x := by
  unfold variableAt at found
  cases here : arguments[index]? with
  | none => simp [here] at found
  | some value =>
      cases read : Variable.ofValue? (M := M) value with
      | none => simp [here, read] at found
      | some y =>
          simp only [here, read, Except.ok.injEq] at found
          exact ⟨value, rfl, found ▸ read⟩

end Reading

end Factor

namespace Variable

-- A value of the type has the dimension of the element it holds, and the coordinates of an element around another
-- exist when their derivative does, both of the dimensions of the two elements.
structure Charted (M : Type) [Variable α M] : Prop where
  dimension : ∀ (value : Value α) (x : M), Variable.ofValue? value = some x → value.dimension = Manifold.dimension x
  coordinates : ∀ given x : M,
    (∃ e, Manifold.localCoordinates given x = .error e ∧ Manifold.localJacobian given x = .error e) ∨
    ∃ coordinates jacobian, Manifold.localCoordinates given x = .ok coordinates ∧
      Manifold.localJacobian given x = .ok jacobian ∧ coordinates.length = Manifold.dimension given ∧
      jacobian.shape = (Manifold.dimension given, Manifold.dimension x)

theorem pose2_charted : Charted (Pose2 α) where
  dimension value x read := by cases value <;> cases read; rfl
  coordinates _ _ := .inr ⟨_, _, rfl, rfl, rfl, rfl⟩

theorem pose3_charted : Charted (Pose3 α) where
  dimension value x read := by cases value <;> cases read; rfl
  coordinates _ _ := .inr ⟨_, _, rfl, rfl, rfl, rfl⟩

theorem point_charted : Charted (Vec3 α) where
  dimension value x read := by cases value <;> cases read; rfl
  coordinates _ _ := .inr ⟨_, _, rfl, rfl, rfl, rfl⟩

theorem calibration_charted : Charted (Calibration α) where
  dimension value x read := by cases value <;> cases read; rfl
  coordinates _ _ := .inr ⟨_, _, rfl, rfl, rfl, rfl⟩

theorem camera_charted : Charted (Camera α) where
  dimension value x read := by cases value <;> cases read; rfl
  coordinates _ _ := .inr ⟨_, _, rfl, rfl, rfl, rfl⟩

theorem vector_charted : Charted (List α) where
  dimension value x read := by cases value <;> cases read; rfl
  coordinates given x := by
    by_cases length : x.length = given.length
    · obtain ⟨leads, turns⟩ := vector_coordinates given x length
      refine .inr ⟨_, _, leads, turns, ?_, ?_⟩
      · change (List.zipWith (· - ·) x given).length = given.length
        simp [length]
      · change (Block.identity given.length : Block α).shape = (given.length, x.length)
        rw [length]
        exact Block.shape_ofFn _ _ _
    · have checked : checkLengths given x = .error (.dimensionMismatch given.length x.length) := if_neg length
      refine .inl ⟨.dimensionMismatch given.length x.length, ?_, ?_⟩
      · change (checkLengths given x >>= fun _ => .ok _) = _
        rw [checked]
        rfl
      · change (checkLengths given x >>= fun _ => .ok _) = _
        rw [checked]
        rfl

end Variable

namespace Factor

omit [Scalar α] in
theorem single_argument (arguments : List (Value α)) (value : Value α) (arity : arguments.length = 1)
    (first : arguments[0]? = some value) : arguments = [value] := by
  match arguments, arity with
  | [_], _ => simpa using first

omit [Scalar α] in
theorem both_arguments (arguments : List (Value α)) (a b : Value α) (arity : arguments.length = 2)
    (first : arguments[0]? = some a) (second : arguments[1]? = some b) : arguments = [a, b] := by
  match arguments, arity with
  | [_, _], _ => simpa using And.intro first second

theorem components_dimension (value : Value α) (xs : List α) (found : components? value = some xs) :
    value.dimension = xs.length := by
  cases value <;> cases found <;> rfl

theorem prior_agrees {M : Type} [Variable α M] (charted : Variable.Charted M) (given : M) :
    (prior given).RequestsAgree := by
  intro arguments
  refine agree_bind _ _ _ fun _ checked => agree_bind _ _ _ fun x found => ?_
  obtain ⟨value, first, read⟩ := variable_at_ok 0 x found
  have only := single_argument arguments value (check_arity_length 1 checked) first
  rcases charted.coordinates given x with ⟨e, leads, turns⟩ | ⟨coordinates, jacobian, leads, turns, length, shape⟩
  · rw [leads]
    exact .failed _
  · rw [leads, turns, only]
    rw [← charted.dimension value x read] at shape
    exact .answered coordinates [jacobian] length (.cons shape .nil)

section Pairs

variable {M N : Type} [Variable α M] [Variable α N]

theorem pair_agrees (first : Variable.Charted M) (second : Variable.Charted N) (dimension : Nat)
    (arguments : List (Value α)) (f g : M → N → Except (FactorError α) (Evaluation α))
    (each : ∀ (a b : Value α) (x : M) (y : N), a.dimension = Manifold.dimension x → b.dimension = Manifold.dimension y →
      Agree dimension [a, b] (f x y) (g x y)) :
    Agree dimension arguments
      (checkArity arguments 2 >>= fun _ => variableAt M arguments 0 >>= fun x => variableAt N arguments 1 >>= f x)
      (checkArity arguments 2 >>= fun _ => variableAt M arguments 0 >>= fun x => variableAt N arguments 1 >>= g x) := by
  refine agree_bind _ _ _ fun _ checked => agree_bind _ _ _ fun x start => agree_bind _ _ _ fun y finish => ?_
  obtain ⟨a, here, reads⟩ := variable_at_ok 0 x start
  obtain ⟨b, there, read⟩ := variable_at_ok 1 y finish
  rw [both_arguments arguments a b (check_arity_length 2 checked) here there]
  exact each a b x y (first.dimension a x reads) (second.dimension b y read)

end Pairs

theorem between_agrees {G T J : Type} [LieGroup α G T J] [Variable α G] (charted : Variable.Charted G)
    (length : ∀ t : T, (LieGroup.coordinates (G := G) t).length = LieGroup.dimension G)
    (shape : ∀ (x : G) (m : J), (LieGroup.toBlock (G := G) m).shape = (LieGroup.dimension G, Manifold.dimension x))
    (measured : G) : (between measured).RequestsAgree := by
  intro arguments
  refine pair_agrees charted charted _ arguments _ _ fun a b x y first second => ?_
  exact .answered _ _ (length _) (.cons (first ▸ shape x _) (.cons (second ▸ shape y _) .nil))

section Projections

variable (measured : Vec2 α)

theorem reprojection_agrees {P : Type} (arguments : List (Value α)) (predict : Except (Cheirality α) (Vec2 α))
    (derivatives : Except (Cheirality α) P) (answer : P → Vec2 α × List (Block α))
    (same : predict = derivatives.map fun p => (answer p).1)
    (shapes : ∀ p, List.Forall₂ (fun block value => block.shape = (2, value.dimension)) (answer p).2 arguments) :
    Agree 2 arguments (reprojection measured .residual predict (derivatives.map answer))
      (reprojection measured .derivatives predict (derivatives.map answer)) := by
  subst same
  cases derivatives with
  | error fault => exact .failed _
  | ok p => exact .answered _ _ rfl (shapes p)

theorem projection_agrees (lens : Calibration α) : (projection measured lens).RequestsAgree := by
  intro arguments
  refine pair_agrees Variable.pose3_charted Variable.point_charted _ arguments _ _ fun a b pose point first second => ?_
  refine reprojection_agrees measured _ _ _ _ (Camera.project_eq_map _ _) fun p => ?_
  exact .cons (first ▸ rfl) (.cons (second ▸ rfl) .nil)

theorem camera_projection_agrees : (cameraProjection measured).RequestsAgree := by
  intro arguments
  refine pair_agrees Variable.camera_charted Variable.point_charted _ arguments _ _ fun a b camera point first second => ?_
  refine reprojection_agrees measured _ _ _ _ (Camera.project_eq_map _ _) fun p => ?_
  exact .cons (first ▸ rfl) (.cons (second ▸ rfl) .nil)

end Projections

theorem component_bound_agrees (component : Nat) (bound : α) (side : BoundSide) :
    (componentBound component bound side).RequestsAgree := by
  intro arguments
  refine agree_bind _ _ _ fun _ checked => ?_
  match arguments, check_arity_length 1 checked with
  | [value], _ =>
      dsimp only
      cases found : components? value with
      | none => exact .failed _
      | some xs =>
          dsimp only
          cases xs[component]? with
          | none => exact .failed _
          | some x =>
              refine .answered _ _ rfl (.cons ?_ .nil)
              rw [components_dimension value xs found]
              exact Block.shape_ofFn 1 xs.length _

theorem max_distance_agrees (bound : α) : (maxDistance bound).RequestsAgree := by
  intro arguments
  refine pair_agrees Variable.point_charted Variable.point_charted _ arguments _ _ fun a b x y first second => ?_
  exact .answered _ _ rfl (.cons (first ▸ rfl) (.cons (second ▸ rfl) .nil))

omit [Scalar α] in
theorem nine_of_read (numbers : List α) (camera : SnavelyCamera α)
    (known : SnavelyCamera.ofList? numbers = some camera) : numbers.length = 9 := by
  unfold SnavelyCamera.ofList? at known
  split at known
  · rfl
  · cases known

theorem snavely_projection_agrees (measured : Vec2 ℝ) : (snavelyProjection measured).RequestsAgree := by
  intro arguments
  refine agree_bind _ _ _ fun _ checked => agree_bind _ _ _ fun numbers start => ?_
  cases known : SnavelyCamera.ofList? numbers with
  | none => exact .failed _
  | some camera =>
      refine agree_bind _ _ _ fun point finish => ?_
      obtain ⟨a, here, reads⟩ := variable_at_ok 0 numbers start
      obtain ⟨b, there, read⟩ := variable_at_ok 1 point finish
      rw [both_arguments arguments a b (check_arity_length 2 checked) here there]
      refine reprojection_agrees measured _ _ _ _ (camera.project_eq_map point) fun p => ?_
      refine .cons ?_ (.cons ?_ .nil)
      · rw [Variable.vector_charted.dimension a numbers reads]
        exact congrArg (Prod.mk 2) (nine_of_read numbers camera known).symm
      · rw [Variable.point_charted.dimension b point read]
        rfl

end Factor

/-- Whatever values a factor is given, the residual alone and the residual with derivatives fail with the same error or
are the same residual, of the dimension of the factor; then there is one block for each value, with the rows of the
residual and the columns of the tangent vectors of that value. -/
theorem StandardFactor.requests_agree (f : StandardFactor ℝ) (arguments : List (Value ℝ)) :
    Factor.Agree f.factor.dimension arguments (f.factor.evaluate arguments .residual)
      (f.factor.evaluate arguments .derivatives) := by
  revert arguments
  cases f with
  | prior given =>
      cases given with
      | pose2 x => exact Factor.prior_agrees Variable.pose2_charted x
      | pose3 x => exact Factor.prior_agrees Variable.pose3_charted x
      | point3 x => exact Factor.prior_agrees Variable.point_charted x
      | vector x => exact Factor.prior_agrees Variable.vector_charted x
      | calibration x => exact Factor.prior_agrees Variable.calibration_charted x
      | camera x => exact Factor.prior_agrees Variable.camera_charted x
  | betweenPose2 measured =>
      exact Factor.between_agrees Variable.pose2_charted (fun _ => rfl) (fun _ _ => rfl) measured
  | betweenPose3 measured =>
      exact Factor.between_agrees Variable.pose3_charted (fun _ => rfl) (fun _ _ => rfl) measured
  | projection measured lens => exact Factor.projection_agrees measured lens
  | cameraProjection measured => exact Factor.camera_projection_agrees measured
  | snavelyProjection measured => exact Factor.snavely_projection_agrees measured
  | componentBound component bound side => exact Factor.component_bound_agrees component bound side
  | maxDistance bound => exact Factor.max_distance_agrees bound

end FactorGraph
