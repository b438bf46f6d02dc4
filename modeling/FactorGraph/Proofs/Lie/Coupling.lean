import Mathlib
import FactorGraph.Proofs.Lie.Velocity

set_option autoImplicit false

namespace FactorGraph

namespace Vec3

noncomputable def mixed (r' rt tr ttr t' tt : ℝ) (r t y : Vec3 ℝ) : Vec3 ℝ :=
  r' * r.cross y + rt * r.cross (t.cross y) + tr * t.cross (r.cross y) + ttr * t.cross (t.cross (r.cross y)) +
    t' * t.cross y + tt * t.cross (t.cross y)

theorem series_mixed (α a p rt tr t' tt : ℝ) (r t y : Vec3 ℝ) :
    series α a t (mixed p rt tr 0 t' tt r t y) =
      mixed p rt (tr + α * p - a * t.normSquared * tr) (α * tr + a * p)
        (t' - α * (t.dot r * rt + t.normSquared * tt) - a * t.normSquared * t')
        (tt + α * t' - a * (t.dot r * rt + t.normSquared * tt)) r t y := by
  ext <;> simp only [series, mixed, normSquared, dot, cross, add_def, smul_def] <;> ring

theorem series_change_eq_mixed (a b da db : ℝ) (t dt y : Vec3 ℝ) :
    seriesChange a b (da * t.dot dt) (db * t.dot dt) t dt y =
      mixed (-a) b (-2 * b - t.normSquared * db) da (da * t.dot y) (db * t.dot y) y t dt := by
  ext <;> simp only [seriesChange, mixed, normSquared, dot, cross, add_def, smul_def] <;> ring

end Vec3

theorem literal_three : (3.0 : ℝ) = 3 := by norm_num

namespace Twist3

theorem coupling_mul (b c d : ℝ) (r t y : Vec3 ℝ) :
    ((1 / 2 : ℝ) * Mat3.skew (-r) + b * (Mat3.skew (-t) * Mat3.skew (-r) + Mat3.skew (-r) * Mat3.skew (-t) +
        Mat3.skew (-t) * Mat3.skew (-r) * Mat3.skew (-t)) +
      c * (Mat3.skew (-t) * (Mat3.skew (-t) * Mat3.skew (-r)) + Mat3.skew (-r) * Mat3.skew (-t) * Mat3.skew (-t) -
        (3 : ℝ) * (Mat3.skew (-t) * Mat3.skew (-r) * Mat3.skew (-t))) +
      d * (Mat3.skew (-t) * Mat3.skew (-r) * Mat3.skew (-t) * Mat3.skew (-t) +
        Mat3.skew (-t) * (Mat3.skew (-t) * Mat3.skew (-r) * Mat3.skew (-t)))) * y =
      Vec3.mixed (c * t.normSquared - 1 / 2) b b 0 (t.dot r * (b - 2 * c)) (-2 * d * t.dot r) r t y := by
  ext <;> simp only [Vec3.mixed, Vec3.normSquared, Vec3.dot, Vec3.cross, Vec3.add_def, Vec3.smul_def, Vec3.neg_def,
    Vec3.sub_def, Mat3.skew, Mat3.add_def, Mat3.sub_def, Mat3.smul_def, Mat3.mul_def, Mat3.rowMul, Mat3.transpose,
    Mat3.ofColumns, Mat3.mul_vec_def] <;> ring

section Coefficients

variable (φ s c : ℝ) (nonzero : φ ≠ 0)

include nonzero

theorem coupling_first : (φ * φ + 2 * c - 2) / (2 * (φ * φ * (φ * φ))) * (φ * φ) - 1 / 2 = -((1 - c) / (φ * φ)) := by
  field_simp
  ring

theorem coupling_second :
    (φ - s) / (φ * φ * φ) + s / φ * -((1 - c) / (φ * φ)) - (1 - c) / (φ * φ) * (φ * φ) * ((φ - s) / (φ * φ * φ)) =
      -2 * ((φ - s) / (φ * φ * φ)) - φ * φ * ((3 * s - 2 * φ - φ * c) / (φ * φ * (φ * φ) * φ)) := by
  field_simp
  ring

variable (circle : s ^ 2 + c ^ 2 = 1)

include circle

theorem coupling_third :
    s / φ * ((φ - s) / (φ * φ * φ)) + (1 - c) / (φ * φ) * -((1 - c) / (φ * φ)) =
      (φ * s - 2 * (1 - c)) / (φ * φ * (φ * φ)) := by
  field_simp
  linear_combination -circle

theorem coupling_fourth (σ : ℝ) :
    σ * ((φ - s) / (φ * φ * φ) - 2 * ((φ * φ + 2 * c - 2) / (2 * (φ * φ * (φ * φ))))) -
        s / φ * (σ * ((φ - s) / (φ * φ * φ)) +
          φ * φ * (-2 * ((2 * φ - 3 * s + φ * c) / (2 * (φ * φ * (φ * φ)) * φ)) * σ)) -
        (1 - c) / (φ * φ) * (φ * φ) *
          (σ * ((φ - s) / (φ * φ * φ) - 2 * ((φ * φ + 2 * c - 2) / (2 * (φ * φ * (φ * φ)))))) =
      (φ * s - 2 * (1 - c)) / (φ * φ * (φ * φ)) * σ := by
  field_simp
  linear_combination -2 * σ * circle

theorem coupling_fifth (σ : ℝ) :
    -2 * ((2 * φ - 3 * s + φ * c) / (2 * (φ * φ * (φ * φ)) * φ)) * σ +
        s / φ * (σ * ((φ - s) / (φ * φ * φ) - 2 * ((φ * φ + 2 * c - 2) / (2 * (φ * φ * (φ * φ)))))) -
        (1 - c) / (φ * φ) * (σ * ((φ - s) / (φ * φ * φ)) +
          φ * φ * (-2 * ((2 * φ - 3 * s + φ * c) / (2 * (φ * φ * (φ * φ)) * φ)) * σ)) =
      (3 * s - 2 * φ - φ * c) / (φ * φ * (φ * φ) * φ) * σ := by
  field_simp
  linear_combination -σ * φ * circle

end Coefficients

noncomputable def versedRate (t : Vec3 ℝ) : ℝ :=
  (t.norm * Real.sin t.norm - 2.0 * (1 - Real.cos t.norm)) / (t.normSquared * t.normSquared)

noncomputable def arcRate (t : Vec3 ℝ) : ℝ :=
  (3.0 * Real.sin t.norm - 2.0 * t.norm - t.norm * Real.cos t.norm) / (t.normSquared * t.normSquared * t.norm)

theorem coupling_coefficients_of_long (t : Vec3 ℝ) (long : ¬ t.normSquared < 1e-4) :
    couplingCoefficients t.normSquared =
      ((t.norm - Real.sin t.norm) / (t.normSquared * t.norm),
       (t.normSquared + 2 * Real.cos t.norm - 2) / (2 * (t.normSquared * t.normSquared)),
       (2 * t.norm - 3 * Real.sin t.norm + t.norm * Real.cos t.norm) /
        (2 * (t.normSquared * t.normSquared) * t.norm)) := by
  rw [couplingCoefficients, if_neg long, closedCouplingCoefficients, literal_two, literal_three]
  rfl

theorem coupling_of_long (r t y : Vec3 ℝ) (long : ¬ t.normSquared < 1e-4) : couplingBlock (-r) (-t) * y =
    Vec3.mixed ((t.normSquared + 2 * Real.cos t.norm - 2) / (2 * (t.normSquared * t.normSquared)) * t.normSquared - 1 / 2)
      (Rotation.arc t) (Rotation.arc t) 0
      (t.dot r * (Rotation.arc t -
        2 * ((t.normSquared + 2 * Real.cos t.norm - 2) / (2 * (t.normSquared * t.normSquared)))))
      (-2 * ((2 * t.norm - 3 * Real.sin t.norm + t.norm * Real.cos t.norm) /
        (2 * (t.normSquared * t.normSquared) * t.norm)) * t.dot r) r t y := by
  rw [couplingBlock, Vec3.norm_squared_neg, coupling_coefficients_of_long t long, literal_half, literal_three]
  exact coupling_mul _ _ _ r t y

theorem rotation_mul_coupling (r t y : Vec3 ℝ) (long : ¬ t.normSquared < 1e-4) (nonzero : t.norm ≠ 0) :
    Vec3.series (Rotation.sinc t) (Rotation.versed t) t (couplingBlock (-r) (-t) * y) =
      Vec3.seriesChange (Rotation.versed t) (Rotation.arc t) (versedRate t * t.dot y) (arcRate t * t.dot y) t y r := by
  have circle := Real.sin_sq_add_cos_sq t.norm
  rw [coupling_of_long r t y long, Vec3.series_mixed, Vec3.series_change_eq_mixed, Rotation.sinc, Rotation.versed,
    Rotation.arc, versedRate, arcRate, literal_two, literal_three, ← Vec3.norm_mul_self, coupling_first _ _ nonzero,
    coupling_second _ _ _ nonzero, coupling_third _ _ _ nonzero circle, coupling_fourth _ _ _ nonzero circle,
    coupling_fifth _ _ _ nonzero circle]

end Twist3

end FactorGraph
