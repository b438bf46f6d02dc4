import FactorGraph.Camera.Differentiation

set_option autoImplicit false

namespace FactorGraph

-- The camera looks along its negative third axis, and the second axis of its image points up.
structure SnavelyCamera (α : Type) where
  rotation : Vec3 α
  shift : Vec3 α
  lens : Vec3 α

structure SnavelyProjection (α : Type) where
  pixel : Vec2 α
  rotation : Mat23 α
  shift : Mat23 α
  lens : Mat23 α
  point : Mat23 α

def SnavelyProjection.camera {α : Type} (p : SnavelyProjection α) : Block α :=
  p.rotation.beside3 p.shift p.lens

namespace SnavelyCamera

variable {α : Type} [Scalar α]

def toList (c : SnavelyCamera α) : List α :=
  c.rotation.toList ++ c.shift.toList ++ c.lens.toList

def ofList? : List α → Option (SnavelyCamera α)
  | [a, b, c, d, e, f, g, h, i] => some ⟨⟨a, b, c⟩, ⟨d, e, f⟩, ⟨g, h, i⟩⟩
  | _ => none

-- Rotates a point about the axis `w` by the length of `w`; to first order when `w` is short.
def rotate (w point : Vec3 α) : Vec3 α :=
  let squared := w.normSquared
  if Scalar.epsilon < squared then
    let theta := Scalar.sqrt squared
    let axis := w / theta
    let c := Scalar.cos theta
    c * point + Scalar.sin theta * axis.cross point + (axis.dot point * (1 - c)) * axis
  else point + w.cross point

def toFrame (c : SnavelyCamera α) (point : Vec3 α) : Vec3 α :=
  rotate c.rotation point + c.shift

def image (c : SnavelyCamera α) (point : Vec3 α) : Vec2 α :=
  let p := c.toFrame point
  distort (-p.x / p.z) (-p.y / p.z) c.lens

def checkDepth (c : SnavelyCamera α) (point : Vec3 α) : Except (Cheirality α) Unit :=
  let depth := -(c.toFrame point).z
  if depth ≤ 0 then .error ⟨depth⟩ else .ok ()

def project (c : SnavelyCamera α) (point : Vec3 α) : Except (Cheirality α) (Vec2 α) := do
  c.checkDepth point
  return c.image point

def projectDerivatives (c : SnavelyCamera α) (point : Vec3 α) :
    Except (Cheirality α) (SnavelyProjection α) := do
  c.checkDepth point
  let r := Dual.constants c.rotation
  let t := Dual.constants c.shift
  let l := Dual.constants c.lens
  let p := Dual.constants point
  return {
    pixel := Dual.values (image ⟨r, t, l⟩ p)
    rotation := Dual.derivative (fun r => image ⟨r, t, l⟩ p) c.rotation
    shift := Dual.derivative (fun t => image ⟨r, t, l⟩ p) c.shift
    lens := Dual.derivative (fun l => image ⟨r, t, l⟩ p) c.lens
    point := Dual.derivative (fun p => image ⟨r, t, l⟩ p) point }

def ofCamera (c : Camera α) : SnavelyCamera α :=
  let r := Mat3.diagonal 1 (-1) (-1) * c.pose.rotation.toMatrix.transpose
  ⟨(Rotation.ofMatrix r).log, -(r * c.pose.position), c.calibration.parameters⟩

def measurement (pixel principal : Vec2 α) : Vec2 α :=
  ⟨pixel.x - principal.x, -(pixel.y - principal.y)⟩

end SnavelyCamera

end FactorGraph
