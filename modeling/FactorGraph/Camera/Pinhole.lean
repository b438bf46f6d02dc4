import FactorGraph.Camera.Calibration
import FactorGraph.Camera.View

set_option autoImplicit false

namespace FactorGraph

structure Camera (α : Type) where
  pose : Pose3 α
  calibration : Calibration α

structure Projection (α : Type) where
  pixel : Vec2 α
  rho : Mat23 α
  theta : Mat23 α
  lens : Mat23 α
  point : Mat23 α

namespace Projection

variable {α : Type}

def pose (p : Projection α) : Block α := p.rho.beside p.theta

def camera (p : Projection α) : Block α := p.rho.beside3 p.theta p.lens

end Projection

namespace Camera

variable {α : Type} [Scalar α]

instance : BEq (Camera α) := ⟨fun a b => a.pose == b.pose && a.calibration == b.calibration⟩

def plain : Camera α := ⟨.identity, .plain⟩

def project (c : Camera α) (point : Vec3 α) : Except (Cheirality α) (Vec2 α) := do
  let p ← View.project c.pose point
  return c.calibration.uncalibrate p

def projectDerivatives (c : Camera α) (point : Vec3 α) :
    Except (Cheirality α) (Projection α) := do
  let v ← View.projectDerivatives c.pose point
  let l := c.calibration.uncalibrateDerivatives v.normalized
  return ⟨l.pixel, l.point * v.rho, l.point * v.theta, l.lens, l.point * v.point⟩

def backprojectTolerance : α := 1e-9

def backproject (c : Camera α) (pixel : Vec2 α) (depth : α) :
    Except (CameraError α) (Vec3 α) := do
  let p ← c.calibration.calibrate pixel backprojectTolerance
  return View.backproject c.pose p depth

def range (c : Camera α) (point : Vec3 α) : α := View.range c.pose point

instance : Manifold α (Camera α) where
  dimension _ := 9
  retract c delta := do
    checkTangent delta 9
    let pose ← Manifold.retract c.pose (delta.take 6)
    let calibration ← Manifold.retract c.calibration (delta.drop 6)
    return ⟨pose, calibration⟩
  localCoordinates a b := do
    let pose ← Manifold.localCoordinates a.pose b.pose
    let calibration ← Manifold.localCoordinates a.calibration b.calibration
    return pose ++ calibration
  localJacobian a b := do
    let pose ← Manifold.localJacobian a.pose b.pose
    let calibration ← Manifold.localJacobian a.calibration b.calibration
    return pose.diagonal calibration

end Camera

end FactorGraph
