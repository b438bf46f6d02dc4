import FactorGraph.Proofs.Factor.Evaluation

set_option autoImplicit false

namespace FactorGraph

variable {α : Type} [Scalar α]

def Value.signature (value : Value α) : VariableType × Nat := (value.type, value.dimension)

namespace Factor

-- Answers of a factor with a residual of `dimension` rows, on variables of the given dimensions.
inductive Proper (dimension : Nat) (dimensions : List Nat) :
    Request → Except (FactorError α) (Evaluation α) → Prop where
  | behind (request : Request) (fault : Cheirality α) : Proper dimension dimensions request (.error (.cheirality fault))
  | residual (residual : List α) (length : residual.length = dimension) :
      Proper dimension dimensions .residual (.ok ⟨residual, none⟩)
  | derivatives (residual : List α) (blocks : List (Block α)) (length : residual.length = dimension)
      (shapes : List.Forall₂ (fun block n => block.shape = (dimension, n)) blocks dimensions) :
      Proper dimension dimensions .derivatives (.ok ⟨residual, some blocks⟩)

-- The factor answers properly to all values of the given types and dimensions.
def Fits (factor : Factor α) (signature : List (VariableType × Nat)) : Prop :=
  ∀ arguments : List (Value α), arguments.map Value.signature = signature → ∀ request,
    Proper factor.dimension (signature.map Prod.snd) request (factor.evaluate arguments request)

theorem two_arguments (arguments : List (Value α)) (first second : VariableType × Nat)
    (same : arguments.map Value.signature = [first, second]) :
    ∃ a b, arguments = [a, b] ∧ a.signature = first ∧ b.signature = second := by
  obtain ⟨a, rest, rfl, here, others⟩ := List.map_eq_cons_iff.mp same
  obtain ⟨b, rfl, there⟩ := List.map_eq_singleton_iff.mp others
  exact ⟨a, b, rfl, here, there⟩

section Prior

variable {M : Type} [Variable α M] (given x : M) (value : Value α) (reads : Variable.ofValue? value = some x)
  (coordinates : List α) (leads : Manifold.localCoordinates given x = .ok coordinates)
  (length : coordinates.length = Manifold.dimension given)
  (jacobian : Block α) (turns : Manifold.localJacobian given x = .ok jacobian)
  (shape : jacobian.shape = (Manifold.dimension given, Manifold.dimension given))

include reads leads length turns shape

omit [Scalar α] in
theorem prior_proper (request : Request) :
    Proper (Manifold.dimension given) [Manifold.dimension given] request ((prior given).evaluate [value] request) := by
  cases request with
  | residual =>
      rw [prior_residual given x value reads coordinates leads]
      exact .residual coordinates length
  | derivatives =>
      rw [prior_derivatives given x value reads coordinates leads jacobian turns]
      exact .derivatives coordinates [jacobian] length (.cons shape .nil)

end Prior

theorem vector_fits (given x : List α) (length : x.length = given.length) (request : Request) :
    Proper given.length [given.length] request ((prior given).evaluate [.vector x] request) := by
  obtain ⟨leads, turns⟩ := vector_coordinates given x length
  have count : (List.zipWith (· - ·) x given).length = given.length := by
    rw [List.length_zipWith, length, Nat.min_self]
  exact prior_proper given x (.vector x) rfl _ leads count _ turns (Block.shape_ofFn _ _ _) request

theorem prior_fits (given : Value α) : (StandardFactor.prior given).factor.Fits [given.signature] := by
  intro arguments same request
  obtain ⟨x, rfl, here⟩ := List.map_eq_singleton_iff.mp same
  obtain ⟨type, dimension⟩ := Prod.mk.inj here
  cases given with
  | pose2 a =>
      cases x with
      | pose2 b => exact prior_proper a b _ rfl _ rfl rfl _ rfl rfl request
      | _ => cases type
  | pose3 a =>
      cases x with
      | pose3 b => exact prior_proper a b _ rfl _ rfl rfl _ rfl rfl request
      | _ => cases type
  | point3 a =>
      cases x with
      | point3 b => exact prior_proper a b _ rfl _ rfl rfl _ rfl rfl request
      | _ => cases type
  | vector a =>
      cases x with
      | vector b => exact vector_fits a b dimension request
      | _ => cases type
  | calibration a =>
      cases x with
      | calibration b => exact prior_proper a b _ rfl _ rfl rfl _ rfl rfl request
      | _ => cases type
  | camera a =>
      cases x with
      | camera b => exact prior_proper a b _ rfl _ rfl rfl _ rfl rfl request
      | _ => cases type

theorem between_fits (measured : Pose2 α) : (between measured).Fits [(.pose2, 3), (.pose2, 3)] := by
  intro arguments same request
  obtain ⟨x, y, rfl, here, there⟩ := two_arguments arguments _ _ same
  cases x with
  | pose2 a =>
      cases y with
      | pose2 b =>
          cases request with
          | residual =>
              rw [between_residual measured a b _ _ rfl rfl]
              exact .residual _ rfl
          | derivatives =>
              rw [between_derivatives measured a b _ _ rfl rfl]
              exact .derivatives _ _ rfl (.cons rfl (.cons rfl .nil))
      | _ => cases there
  | _ => cases here

section Projections

variable (measured : Vec2 α)

theorem reprojection_proper {P : Type} (request : Request) (predict : Except (Cheirality α) (Vec2 α))
    (derivatives : Except (Cheirality α) P) (answer : P → Vec2 α × List (Block α)) (dimensions : List Nat)
    (shapes : ∀ p, List.Forall₂ (fun block n => block.shape = (2, n)) (answer p).2 dimensions) :
    Proper 2 dimensions request (reprojection measured request predict (derivatives.map answer)) := by
  cases request with
  | residual =>
      cases predict with
      | error fault => exact .behind _ fault
      | ok pixel => exact .residual _ rfl
  | derivatives =>
      cases derivatives with
      | error fault => exact .behind _ fault
      | ok p => exact .derivatives _ _ rfl (shapes p)

theorem projection_fits (lens : Calibration α) : (projection measured lens).Fits [(.pose3, 6), (.point3, 3)] := by
  intro arguments same request
  obtain ⟨x, y, rfl, here, there⟩ := two_arguments arguments _ _ same
  cases x with
  | pose3 pose =>
      cases y with
      | point3 point =>
          exact reprojection_proper measured request _ _ _ _ fun p => .cons rfl (.cons rfl .nil)
      | _ => cases there
  | _ => cases here

theorem camera_projection_fits : (cameraProjection measured).Fits [(.camera, 9), (.point3, 3)] := by
  intro arguments same request
  obtain ⟨x, y, rfl, here, there⟩ := two_arguments arguments _ _ same
  cases x with
  | camera camera =>
      cases y with
      | point3 point =>
          exact reprojection_proper measured request _ _ _ _ fun p => .cons rfl (.cons rfl .nil)
      | _ => cases there
  | _ => cases here

omit [Scalar α] in
theorem nine_numbers (numbers : List α) (length : numbers.length = 9) :
    ∃ camera, SnavelyCamera.ofList? numbers = some camera := by
  match numbers, length with
  | [_, _, _, _, _, _, _, _, _], _ => exact ⟨_, rfl⟩

theorem snavely_projection_fits : (snavelyProjection measured).Fits [(.vector, 9), (.point3, 3)] := by
  intro arguments same request
  obtain ⟨x, y, rfl, here, there⟩ := two_arguments arguments _ _ same
  cases x with
  | vector numbers =>
      cases y with
      | point3 point =>
          obtain ⟨camera, read⟩ := nine_numbers numbers (congrArg Prod.snd here)
          have evaluated : (snavelyProjection measured).evaluate [.vector numbers, .point3 point] request =
              reprojection measured request (camera.project point)
                ((camera.projectDerivatives point).map fun p => (p.pixel, [p.camera, p.point.toBlock])) := by
            simp [snavelyProjection, checkArity, variableAt, Variable.ofValue?, read]
          rw [evaluated]
          exact reprojection_proper measured request _ _ _ _ fun p => .cons rfl (.cons rfl .nil)
      | _ => cases there
  | _ => cases here

end Projections

end Factor

end FactorGraph
