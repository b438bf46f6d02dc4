import Mathlib
import FactorGraph.Factor
import FactorGraph.Proofs.Outcome

set_option autoImplicit false

namespace FactorGraph

theorem Camera.local_coordinates_ok {α : Type} [Scalar α] (given x : Camera α) (pose lens : List α)
    (first : Manifold.localCoordinates given.pose x.pose = .ok pose)
    (second : Manifold.localCoordinates given.calibration x.calibration = .ok lens) :
    Manifold.localCoordinates given x = .ok (pose ++ lens) := by
  change (Manifold.localCoordinates given.pose x.pose >>= fun pose =>
    Manifold.localCoordinates given.calibration x.calibration >>= fun lens => .ok (pose ++ lens)) = _
  rw [first, second]
  rfl

theorem vector_coordinates {α : Type} [Scalar α] (given x : List α) (length : x.length = given.length) :
    Manifold.localCoordinates given x = .ok (List.zipWith (· - ·) x given) ∧
      Manifold.localJacobian given x = .ok (Block.identity given.length) := by
  have checked : checkLengths given x = .ok () := if_pos length
  constructor
  · change (checkLengths given x >>= fun _ => .ok _) = _
    rw [checked]
    rfl
  · change (checkLengths given x >>= fun _ => .ok _) = _
    rw [checked]
    rfl

namespace Factor

variable {α : Type}

section Prior

variable {M : Type} [Variable α M] (given x : M) (value : Value α) (reads : Variable.ofValue? value = some x)
  (coordinates : List α) (leads : Manifold.localCoordinates given x = .ok coordinates)

include reads leads

theorem prior_residual : (prior given).evaluate [value] .residual = .ok ⟨coordinates, none⟩ := by
  simp [prior, checkArity, variableAt, reads, leads, Except.mapError]

theorem prior_derivatives (jacobian : Block α) (turns : Manifold.localJacobian given x = .ok jacobian) :
    (prior given).evaluate [value] .derivatives = .ok ⟨coordinates, some [jacobian]⟩ := by
  simp [prior, checkArity, variableAt, reads, leads, turns, Except.mapError]

end Prior

theorem prior_value_residual [Scalar α] (given x : Value α) (coordinates : List α)
    (leads : given.localCoordinates? x = some (.ok coordinates)) :
    (StandardFactor.prior given).factor.evaluate [x] .residual = .ok ⟨coordinates, none⟩ := by
  cases given <;> cases x <;> simp only [Value.localCoordinates?, Option.some.injEq, reduceCtorEq] at leads
  all_goals exact prior_residual _ _ _ rfl _ leads

section Between

variable {G T J : Type} [LieGroup α G T J] [Variable α G] (measured a b : G) (first second : Value α)
  (start : Variable.ofValue? first = some a) (finish : Variable.ofValue? second = some b)

include start finish

theorem between_residual :
    (between measured).evaluate [first, second] .residual =
      .ok ⟨LieGroup.coordinates (G := G) (LieGroup.log (measured⁻¹ * (a⁻¹ * b))), none⟩ := by
  simp [between, checkArity, variableAt, start, finish, answer, LieGroup.between]

theorem between_derivatives :
    (between measured).evaluate [first, second] .derivatives =
      .ok ⟨LieGroup.coordinates (G := G) (LieGroup.log (measured⁻¹ * (a⁻¹ * b))),
        some
          [LieGroup.toBlock (G := G) (LieGroup.negate (G := G) (LieGroup.multiply (G := G)
              (LieGroup.rightJacobianInverse (G := G) (LieGroup.log (measured⁻¹ * (a⁻¹ * b))))
              (LieGroup.adjoint (a⁻¹ * b)⁻¹))),
            LieGroup.toBlock (G := G)
              (LieGroup.rightJacobianInverse (G := G) (LieGroup.log (measured⁻¹ * (a⁻¹ * b))))]⟩ := by
  simp [between, checkArity, variableAt, start, finish, answer, LieGroup.between]

end Between

end Factor

end FactorGraph
