import FactorGraph.Manifold
import FactorGraph.Camera.Error

set_option autoImplicit false

namespace FactorGraph

structure Calibration (α : Type) where
  f : α
  k1 : α
  k2 : α
  u0 : α
  v0 : α
deriving BEq

structure LensProjection (α : Type) where
  pixel : Vec2 α
  lens : Mat23 α
  point : Mat2 α

namespace Calibration

variable {α : Type} [Scalar α]

def plain : Calibration α := ⟨1, 0, 0, 0, 0⟩

def parameters (c : Calibration α) : Vec3 α := ⟨c.f, c.k1, c.k2⟩

def withParameters (c : Calibration α) (p : Vec3 α) : Calibration α := ⟨p.x, p.y, p.z, c.u0, c.v0⟩

def principalPoint (c : Calibration α) : Vec2 α := ⟨c.u0, c.v0⟩

def toList (c : Calibration α) : List α := [c.f, c.k1, c.k2, c.u0, c.v0]

def distortion (c : Calibration α) (r : α) : α := 1 + r * (c.k1 + c.k2 * r)

def uncalibrate (c : Calibration α) (p : Vec2 α) : Vec2 α :=
  let g := c.distortion p.normSquared
  ⟨c.u0 + c.f * g * p.x, c.v0 + c.f * g * p.y⟩

def uncalibrateDerivatives (c : Calibration α) (p : Vec2 α) : LensProjection α :=
  let r := p.normSquared
  let g := c.distortion r
  let fr := c.f * r
  let frr := fr * r
  let s := 2.0 * (c.k1 + 2.0 * c.k2 * r)
  let cross := p.x * p.y * s
  { pixel := c.uncalibrate p
    lens := ⟨⟨g * p.x, fr * p.x, frr * p.x⟩, ⟨g * p.y, fr * p.y, frr * p.y⟩⟩
    point := c.f * (⟨⟨g + p.x * p.x * s, cross⟩, ⟨cross, g + p.y * p.y * s⟩⟩ : Mat2 α) }

-- At most `fuel` steps of the iteration that divides the centred pixel by the distortion of the
-- last estimate. It ends at the first estimate whose pixel is closer than `tolerance`.
def undistort (c : Calibration α) (pixel : Vec2 α) (tolerance : α) :
    (fuel : Nat) → Vec2 α → Option (Vec2 α)
  | 0, _ => none
  | fuel + 1, p =>
      let next := ((pixel - c.principalPoint) / c.f) / c.distortion p.normSquared
      if (c.uncalibrate next - pixel).norm < tolerance then some next
      else undistort c pixel tolerance fuel next

def maxIterations : Nat := 20

def calibrate (c : Calibration α) (pixel : Vec2 α) (tolerance : α) :
    Except (CameraError α) (Vec2 α) :=
  match c.undistort pixel tolerance maxIterations ((pixel - c.principalPoint) / c.f) with
  | some p => .ok p
  | none => .error (.notConverged maxIterations)

instance : Manifold α (Calibration α) where
  dimension _ := 3
  retract c delta := do
    let p ← Manifold.retract c.parameters delta
    return c.withParameters p
  localCoordinates a b := Manifold.localCoordinates a.parameters b.parameters
  localJacobian a b := Manifold.localJacobian a.parameters b.parameters

end Calibration

end FactorGraph
