import FactorGraph.Proofs.Lie.Rotation
import FactorGraph.Proofs.NotANumber
import FactorGraph.Value

set_option autoImplicit false

namespace FactorGraph

section Components

variable {α : Type}

def Quat.toList (q : Quat α) : List α := [q.w, q.x, q.y, q.z]

def Turn.toList (r : Turn α) : List α := [r.cos, r.sin]

def Mat3.toList (m : Mat3 α) : List α := m.r0.toList ++ m.r1.toList ++ m.r2.toList

def Pose2.components (p : Pose2 α) : List α := p.position.toList ++ p.turn.toList

def Pose3.components (p : Pose3 α) : List α := p.rotation.quat.toList ++ p.position.toList

end Components

namespace RealOrNaN

def Whole (entries : List RealOrNaN) : Prop := entries.all Scalar.isFinite = true

theorem whole_nil : Whole [] := rfl

theorem whole_cons (a : RealOrNaN) (rest : List RealOrNaN) :
    Whole (a :: rest) ↔ Scalar.isFinite a = true ∧ Whole rest := by
  simp [Whole]

theorem whole_append (first second : List RealOrNaN) : Whole (first ++ second) ↔ Whole first ∧ Whole second := by
  simp [Whole]

theorem whole_iff (entries : List RealOrNaN) : Whole entries ↔ nan ∉ entries := by
  rw [Whole, List.all_eq_true]
  constructor
  · intro finite mem
    cases finite nan mem
  · intro absent a mem
    cases a with
    | number x => rfl
    | nan => exact absurd mem absent

section Vectors

variable (s : RealOrNaN) (u v : Vec3 RealOrNaN) (m n : Mat3 RealOrNaN)

theorem whole_vector : Whole v.toList ↔
    Scalar.isFinite v.x = true ∧ Scalar.isFinite v.y = true ∧ Scalar.isFinite v.z = true := by
  simp only [Vec3.toList, whole_cons, whole_nil, and_true]

theorem whole_add : Whole (u + v).toList ↔ Whole u.toList ∧ Whole v.toList := by
  simp only [whole_vector, Vec3.add_def, finite_add, Bool.and_eq_true]
  tauto

theorem whole_smul : Whole (s * v).toList ↔ Scalar.isFinite s = true ∧ Whole v.toList := by
  simp only [whole_vector, Vec3.smul_def, finite_mul, Bool.and_eq_true]
  tauto

theorem whole_cross : Whole (u.cross v).toList ↔ Whole u.toList ∧ Whole v.toList := by
  simp only [whole_vector, Vec3.cross, finite_mul, finite_sub, Bool.and_eq_true]
  tauto

theorem finite_dot : Scalar.isFinite (u.dot v) = true ↔ Whole u.toList ∧ Whole v.toList := by
  simp only [whole_vector, Vec3.dot, finite_mul, finite_add, Bool.and_eq_true]
  tauto

theorem whole_matrix : Whole m.toList ↔ Whole m.r0.toList ∧ Whole m.r1.toList ∧ Whole m.r2.toList := by
  rw [Mat3.toList, whole_append, whole_append, and_assoc]

theorem whole_matrix_one : Whole (1 : Mat3 RealOrNaN).toList := rfl

theorem whole_matrix_skew (whole : Whole v.toList) : Whole (Mat3.skew v).toList := by
  rw [whole_vector] at whole
  simp [whole_matrix, whole_vector, Mat3.skew, whole]

theorem whole_matrix_add (first : Whole m.toList) (second : Whole n.toList) : Whole (m + n).toList := by
  rw [whole_matrix] at first second ⊢
  simp only [Mat3.add_def, whole_add]
  tauto

theorem whole_matrix_smul (finite : Scalar.isFinite s = true) (whole : Whole m.toList) : Whole (s * m).toList := by
  rw [whole_matrix] at whole ⊢
  simp only [Mat3.smul_def, whole_smul]
  tauto

theorem whole_matrix_vector (first : Whole m.toList) (second : Whole v.toList) : Whole (m * v).toList := by
  rw [whole_matrix] at first
  simp only [whole_vector, Mat3.mul_vec_def, finite_dot] at first second ⊢
  tauto

theorem whole_matrix_transpose (whole : Whole m.toList) : Whole m.transpose.toList := by
  simp only [whole_matrix, whole_vector, Mat3.transpose, Mat3.ofColumns] at whole ⊢
  tauto

theorem whole_matrix_mul (first : Whole m.toList) (second : Whole n.toList) : Whole (m * n).toList := by
  have columns := whole_matrix_transpose n second
  rw [whole_matrix] at first ⊢
  exact ⟨whole_matrix_vector _ _ columns first.1, whole_matrix_vector _ _ columns first.2.1,
    whole_matrix_vector _ _ columns first.2.2⟩

end Vectors

section Rotations

variable (p q : Quat RealOrNaN) (t : Vec3 RealOrNaN)

theorem whole_quat : Whole q.toList ↔ Scalar.isFinite q.w = true ∧ Whole q.imaginary.toList := by
  simp only [Quat.toList, Quat.imaginary, whole_vector, whole_cons, whole_nil, and_true]

theorem whole_quat_mul : Whole (p * q).toList ↔ Whole p.toList ∧ Whole q.toList := by
  simp only [Quat.toList, Quat.mul_def, whole_cons, whole_nil, finite_add, finite_sub, finite_mul, Bool.and_eq_true, and_true]
  tauto

theorem whole_rotate : Whole (q.rotate t).toList ↔ Whole q.toList ∧ Whole t.toList := by
  simp only [Quat.rotate, whole_add, whole_smul, whole_cross, whole_quat, finite_scientific]
  tauto

theorem whole_normalize (nonzero : q.norm ≠ 0) (finite : Scalar.isFinite q.norm = true) (whole : Whole q.toList) :
    Whole q.normalize.toList := by
  simp only [Quat.toList, Quat.normalize, whole_cons, whole_nil, finite_div _ _ nonzero, Bool.and_eq_true] at whole ⊢
  tauto

theorem pos_norm_squared_plus_one (whole : Whole t.toList) :
    0 < t.x * t.x + t.y * t.y + t.z * t.z + (1 : RealOrNaN) * 1 := by
  obtain ⟨first, second, third⟩ := (whole_vector t).mp whole
  obtain ⟨x, here⟩ := (finite_iff _).mp first
  obtain ⟨y, there⟩ := (finite_iff _).mp second
  obtain ⟨z, beyond⟩ := (finite_iff _).mp third
  rw [here, there, beyond]
  have above : 0 < x * x + y * y + z * z + 1 * 1 := by
    have squares := And.intro (mul_self_nonneg x) (And.intro (mul_self_nonneg y) (mul_self_nonneg z))
    linarith
  exact (pos_iff _).mpr ⟨_, above, rfl⟩

theorem whole_halves (whole : Whole t.toList) : Whole (t / (2.0 : RealOrNaN)).toList := by
  rw [whole_vector] at whole ⊢
  simpa [Vec3.div_def] using whole

theorem whole_of_parts (w : RealOrNaN) (finite : Scalar.isFinite w = true) (whole : Whole t.toList) :
    Whole (Quat.ofParts w t).toList :=
  (whole_quat _).mpr ⟨finite, whole⟩

theorem whole_scaled_axis (whole : Whole t.toList) : Whole (Quat.ofScaledAxis t).toList := by
  have halves := whole_halves t whole
  unfold Quat.ofScaledAxis
  generalize t / (2.0 : RealOrNaN) = half at halves ⊢
  by_cases short : half.normSquared ≤ Scalar.epsilon * Scalar.epsilon
  · simp only [if_pos short]
    rfl
  · have finite : Scalar.isFinite half.normSquared = true := (finite_dot half half).mpr ⟨halves, halves⟩
    have long := pos_sqrt _ (pos_of_not_le_square _ _ finite finite_epsilon short)
    have known := finite_of_pos _ long
    have quotient := finite_div (Scalar.sin (Scalar.sqrt half.normSquared)) _ (ne_zero_of_pos _ long)
    simp only [if_neg short]
    refine whole_of_parts _ _ ((finite_cos _).trans known) ((whole_smul _ _).mpr ⟨?_, halves⟩)
    rw [quotient, finite_sin, known, Bool.and_self]

theorem whole_rotation_exp (whole : Whole t.toList) : Whole (Rotation.exp t).quat.toList := by
  unfold Rotation.exp
  split_ifs
  · exact whole_scaled_axis t whole
  · have halves := whole_halves t whole
    have norm := pos_sqrt _ (pos_norm_squared_plus_one _ halves)
    exact whole_normalize _ (ne_zero_of_pos _ norm) (finite_of_pos _ norm) (whole_of_parts _ _ rfl halves)

theorem whole_jacobian_form (a b : RealOrNaN) (first : Scalar.isFinite a = true) (second : Scalar.isFinite b = true)
    (whole : Whole t.toList) :
    Whole (1 + a * Mat3.skew t + b * Mat3.skew t * Mat3.skew t).toList := by
  have skew := whole_matrix_skew t whole
  have linear := whole_matrix_add _ _ whole_matrix_one (whole_matrix_smul a _ first skew)
  exact whole_matrix_add _ _ linear (whole_matrix_mul _ _ (whole_matrix_smul b _ second skew) skew)

theorem whole_left_jacobian (whole : Whole t.toList) : Whole (Rotation.leftJacobian t).toList := by
  have finite : Scalar.isFinite t.normSquared = true := (finite_dot t t).mpr ⟨whole, whole⟩
  unfold Rotation.leftJacobian Rotation.jacobianCoefficients
  by_cases short : t.normSquared < Rotation.smallAngleSquared
  · simp only [if_pos short]
    exact whole_jacobian_form t _ _ (by simp [finite]) (by simp [finite]) whole
  · have long := pos_of_not_lt _ _ finite (scientific_pos 1 true 10 (by decide)) short
    have angle := pos_sqrt _ long
    have known := finite_of_pos _ angle
    have second := finite_div (Scalar.sqrt t.normSquared - Scalar.sin (Scalar.sqrt t.normSquared)) _
      (ne_zero_of_pos _ (pos_mul _ _ long angle))
    simp only [if_neg short, Rotation.closedCoefficients]
    refine whole_jacobian_form t _ _ ?_ ?_ whole
    · simp [finite_div _ _ (ne_zero_of_pos _ long), finite, known]
    · simp [second, finite, known]

end Rotations

section Poses

theorem whole_pose3 (p : Pose3 RealOrNaN) : Whole p.components ↔ Whole p.rotation.quat.toList ∧ Whole p.position.toList :=
  whole_append _ _

theorem whole_pose3_mul (a b : Pose3 RealOrNaN) : Whole (a * b).components ↔ Whole a.components ∧ Whole b.components := by
  change Whole (a.compose b).components ↔ _
  simp only [whole_pose3, Pose3.compose, Rotation.compose, Rotation.act, whole_quat_mul, whole_add, whole_rotate]
  tauto

theorem whole_pose3_exp (t : Twist3 RealOrNaN) (linear : Whole t.rho.toList) (angular : Whole t.theta.toList) :
    Whole (Pose3.exp t).components :=
  (whole_pose3 _).mpr ⟨whole_rotation_exp _ angular, whole_matrix_vector _ _ (whole_left_jacobian _ angular) linear⟩

theorem whole_pose2 (p : Pose2 RealOrNaN) : Whole p.components ↔
    Scalar.isFinite p.position.x = true ∧ Scalar.isFinite p.position.y = true ∧
      Scalar.isFinite p.turn.cos = true ∧ Scalar.isFinite p.turn.sin = true := by
  simp only [Pose2.components, Vec2.toList, Turn.toList, whole_append, whole_cons, whole_nil, and_true, and_assoc]

theorem whole_pose2_mul (a b : Pose2 RealOrNaN) : Whole (a * b).components ↔ Whole a.components ∧ Whole b.components := by
  change Whole (a.compose b).components ↔ _
  simp only [whole_pose2, Pose2.compose, Turn.act, Turn.compose, Vec2.add_def, finite_add, finite_sub, finite_mul,
    Bool.and_eq_true]
  tauto

theorem finite_arc_coefficients (theta : RealOrNaN) (finite : Scalar.isFinite theta = true) :
    Scalar.isFinite (Twist2.arcCoefficients theta).1 = true ∧ Scalar.isFinite (Twist2.arcCoefficients theta).2 = true := by
  unfold Twist2.arcCoefficients
  split_ifs with small
  · simp [finite]
  · have turned : theta ≠ 0 := by
      rintro rfl
      rw [abs_zero] at small
      exact small (scientific_pos 1 true 4 (by decide))
    simp [Twist2.closedArcCoefficients, finite_div _ _ turned, finite]

theorem whole_pose2_exp (t : Twist2 RealOrNaN) (whole : Whole t.toList) : Whole (Pose2.exp t).components := by
  simp only [Twist2.toList, whole_cons, whole_nil, and_true] at whole
  obtain ⟨first, second, angle⟩ := whole
  obtain ⟨a, b⟩ := finite_arc_coefficients t.theta angle
  rw [whole_pose2]
  simp [Pose2.exp, Turn.ofAngle, first, second, angle, a, b]

end Poses

end RealOrNaN

end FactorGraph
