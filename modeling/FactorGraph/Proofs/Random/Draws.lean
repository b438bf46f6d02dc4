import Mathlib
import FactorGraph.Proofs.Exact
import FactorGraph.Proofs.Outcome
import FactorGraph.Random.Source

set_option autoImplicit false

namespace FactorGraph

variable {β γ σ : Type}

def Gives (draw : StateM σ β) (P : β → Prop) : Prop := ∀ state, P (draw.run state).1

namespace Gives

theorem pure (P : β → Prop) (b : β) (holds : P b) : Gives (Pure.pure b : StateM σ β) P := fun _ => holds

theorem bind (P : β → Prop) (Q : γ → Prop) (draw : StateM σ β) (next : β → StateM σ γ) (first : Gives draw P)
    (second : ∀ b, P b → Gives (next b) Q) : Gives (draw >>= next) Q := fun state => second _ (first state) _

theorem weaken (P Q : β → Prop) (draw : StateM σ β) (gives : Gives draw P) (enough : ∀ b, P b → Q b) : Gives draw Q :=
  fun state => enough _ (gives state)

theorem map_all (R : β → γ → Prop) (draw : β → StateM σ γ) (bs : List β) (each : ∀ b ∈ bs, Gives (draw b) (R b)) :
    Gives (bs.mapM draw) (List.Forall₂ R bs) := by
  induction bs with
  | nil => exact pure _ _ .nil
  | cons b rest ih =>
      obtain ⟨here, later⟩ := List.forall_mem_cons.mp each
      rw [List.mapM_cons]
      exact bind _ _ _ _ here fun c first => bind _ _ _ _ (ih later) fun cs others => pure _ _ (.cons first others)

theorem map_each (P : γ → Prop) (draw : β → StateM σ γ) (bs : List β) (each : ∀ b ∈ bs, Gives (draw b) P) :
    Gives (bs.mapM draw) fun cs => cs.length = bs.length ∧ ∀ c ∈ cs, P c := by
  refine weaken _ _ _ (map_all (fun _ => P) draw bs each) fun cs drawn => ⟨drawn.length_eq.symm, ?_⟩
  clear each
  induction drawn with
  | nil => simp
  | cons here _ ih => exact List.forall_mem_cons.mpr ⟨here, ih⟩

end Gives

namespace Source

def Bounded (source : Source ℝ σ) : Prop :=
  ∀ (amplitude : ℝ) (state : σ), 0 < amplitude → |(source.draw amplitude state).1| ≤ amplitude

theorem uniform_gives (source : Source ℝ σ) (bounded : source.Bounded) (amplitude : ℝ) (nonneg : 0 ≤ amplitude) :
    Gives (source.uniform amplitude) (|·| ≤ amplitude) := by
  intro state
  change |(if 0 < amplitude then source.draw amplitude state else (0, state)).1| ≤ amplitude
  split
  case isTrue wide => exact bounded amplitude state wide
  case isFalse => rwa [abs_zero]

end Source

theorem Generator.source_bounded : (Generator.source : Source ℝ Generator).Bounded := by
  intro amplitude g wide
  change |((g.next.1 >>> 12).toNat : ℝ) / 4503599627370496.0 * (2.0 * amplitude) + -amplitude| ≤ amplitude
  have below : (g.next.1 >>> 12).toNat < 2 ^ 52 := by
    have bits := g.next.1.toNat_lt
    rw [UInt64.toNat_shiftRight, Nat.shiftRight_eq_div_pow]
    change g.next.1.toNat / 2 ^ 12 < 2 ^ 52
    omega
  have low : (0 : ℝ) ≤ (g.next.1 >>> 12).toNat := Nat.cast_nonneg _
  have high : ((g.next.1 >>> 12).toNat : ℝ) ≤ 4503599627370496 := by exact_mod_cast below.le
  generalize ((g.next.1 >>> 12).toNat : ℝ) = bits at low high
  have scaled : bits / 4503599627370496.0 * (2.0 * amplitude) = 2 * amplitude * (bits / 4503599627370496) := by
    norm_num
    ring
  have share : bits / 4503599627370496 ≤ 1 := (div_le_one (by norm_num)).mpr high
  have nonneg : 0 ≤ bits / 4503599627370496 := by positivity
  rw [scaled, abs_le]
  constructor <;> nlinarith

end FactorGraph
