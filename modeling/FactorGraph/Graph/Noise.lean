import FactorGraph.Graph.Error

set_option autoImplicit false

namespace FactorGraph

inductive Noise (α : Type) where
  | unit (dimension : Nat)
  | isotropic (dimension : Nat) (sigma : α)
  | diagonal (sigmas : List α)

namespace Noise

variable {α : Type} [Scalar α]

def checkSigma (sigma : α) : Except (GraphError α) Unit :=
  if Scalar.isFinite sigma && decide (0 < sigma) then .ok () else .error (.noise (.sigma sigma))

def ofSigma (dimension : Nat) (sigma : α) : Except (GraphError α) (Noise α) := do
  checkSigma sigma
  return .isotropic dimension sigma

def ofSigmas (sigmas : List α) : Except (GraphError α) (Noise α) := do
  sigmas.forM checkSigma
  return .diagonal sigmas

def dimension : Noise α → Nat
  | unit n => n
  | isotropic n _ => n
  | diagonal sigmas => sigmas.length

def sigma? (noise : Noise α) (row : Nat) : Option α :=
  if noise.dimension ≤ row then none
  else
    match noise with
    | unit _ => some 1
    | isotropic _ sigma => some sigma
    | diagonal sigmas => sigmas[row]?

def whiten (residual : List α) : Noise α → List α
  | unit _ => residual
  | isotropic _ sigma => residual.map (· / sigma)
  | diagonal sigmas => List.zipWith (· / ·) residual sigmas

-- Whitens a matrix row by row. Rows beyond those of the noise stay as they are.
def whitenBlock (block : Block α) : Noise α → Block α
  | unit _ => block
  | isotropic _ sigma => block.mapRows (fun _ row => row.map (· / sigma)) (by simp)
  | diagonal sigmas =>
      block.mapRows
        (fun i row =>
          match sigmas[i]? with
          | some sigma => row.map (· / sigma)
          | none => row)
        (by intro i row; cases sigmas[i]? <;> simp)

def squaredNorm (v : List α) : α := Block.dot v v

def squaredMahalanobis (noise : Noise α) (residual : List α) : α :=
  squaredNorm (noise.whiten residual)

end Noise

end FactorGraph
