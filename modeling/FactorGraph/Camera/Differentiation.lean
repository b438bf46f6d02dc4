import FactorGraph.Camera.Pinhole
import FactorGraph.Scalar.Dual

set_option autoImplicit false

namespace FactorGraph

namespace Dual

variable {α : Type} [Scalar α]

def constants (v : Vec3 α) : Vec3 (Dual α) := v.map constant

def values (v : Vec2 (Dual α)) : Vec2 α := ⟨v.x.value, v.y.value⟩

def derivative (f : Vec3 (Dual α) → Vec2 (Dual α)) (v : Vec3 α) : Mat23 α :=
  let x := f ⟨seed v.x, constant v.y, constant v.z⟩
  let y := f ⟨constant v.x, seed v.y, constant v.z⟩
  let z := f ⟨constant v.x, constant v.y, seed v.z⟩
  ⟨⟨x.x.slope, y.x.slope, z.x.slope⟩, ⟨x.y.slope, y.y.slope, z.y.slope⟩⟩

end Dual

def distort {β : Type} [Scalar β] (x y : β) (lens : Vec3 β) : Vec2 β :=
  let r := x * x + y * y
  let g := 1 + r * (lens.y + lens.z * r)
  let scale := lens.x * g
  ⟨scale * x, scale * y⟩

namespace Camera

variable {α : Type} [Scalar α]

-- The projection of a camera that is moved by `rho` and `theta`, to first order, which is exact at
-- zero. The rotation, the position and the principal point of the camera are constants.
def nearbyProjection {β : Type} [Scalar β] (rotation : Mat3 β) (position : Vec3 β)
    (principal : Vec2 β) (rho theta lens point : Vec3 β) : Vec2 β :=
  let r := rotation * (1 + Mat3.skew theta)
  let t := position + rotation * rho
  let q := r.transpose * (point - t)
  distort (q.x / q.z) (q.y / q.z) lens + principal

def projectDual (c : Camera α) (point : Vec3 α) : Except (Cheirality α) (Projection α) := do
  let _ ← View.divide (c.pose.transformTo point)
  let rotation := c.pose.rotation.toMatrix.map Dual.constant
  let position := Dual.constants c.pose.position
  let principal : Vec2 (Dual α) :=
    ⟨.constant c.calibration.principalPoint.x, .constant c.calibration.principalPoint.y⟩
  let image := nearbyProjection rotation position principal
  let still : Vec3 (Dual α) := 0
  let lens := Dual.constants c.calibration.parameters
  let fixed := Dual.constants point
  return {
    pixel := Dual.values (image still still lens fixed)
    rho := Dual.derivative (fun rho => image rho still lens fixed) 0
    theta := Dual.derivative (fun theta => image still theta lens fixed) 0
    lens := Dual.derivative (fun lens => image still still lens fixed) c.calibration.parameters
    point := Dual.derivative (fun point => image still still lens point) point }

end Camera

end FactorGraph
