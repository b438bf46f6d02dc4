import FactorGraph.Document.Read
import FactorGraph.Document.Write
import FactorGraph.Value

set_option autoImplicit false

namespace FactorGraph

open Readable (read?)
open Writable (write)

instance : Readable (Vec2 Float) where
  read? d := do
    match ← d.read? with
    | [x, y] => some ⟨x, y⟩
    | _ => none

instance : Readable (Vec3 Float) where
  read? d := do
    match ← d.read? with
    | [x, y, z] => some ⟨x, y, z⟩
    | _ => none

instance : Readable (Mat3 Float) where
  read? d := do
    match ← d.read? with
    | [a, b, c] => some ⟨a, b, c⟩
    | _ => none

instance : Readable (Block Float) where
  read? d := do Block.ofRows? (← d.read?)

instance : Writable (Vec2 Float) := ⟨fun v => write v.toList⟩
instance : Writable (Vec3 Float) := ⟨fun v => write v.toList⟩
instance : Writable (Mat2 Float) := ⟨fun m => write m.toRows⟩
instance : Writable (Mat3 Float) := ⟨fun m => write m.toRows⟩
instance : Writable (Mat23 Float) := ⟨fun m => write m.toRows⟩
instance : Writable (Block Float) := ⟨fun b => write b.rows⟩

namespace Rotation

def ofQuatDocument? (d : Document Float) : Option (Rotation Float) := do
  match ← d.read? with
  | [x, y, z, w] => some (.ofCoefficients x y z w)
  | _ => none

def ofEulerDocument? (d : Document Float) : Option (Rotation Float) := do
  let angles : Vec3 Float ← d.read?
  return .ofEuler angles.x angles.y angles.z

end Rotation

instance : Readable (Rotation Float) where
  read?
    | .text "identity" => some .identity
    | d => d.choose [
        ("quat", Rotation.ofQuatDocument?),
        ("euler", Rotation.ofEulerDocument?),
        ("axis", fun d => .ofScaledAxis <$> d.read?),
        ("matrix", fun d => .ofMatrix <$> d.read?)]

instance : Writable (Rotation Float) where
  write r := write [r.quat.w, r.quat.x, r.quat.y, r.quat.z]

instance : Readable (Pose2 Float) where
  read?
    | .text "identity" => some .identity
    | d => do
        let c : Vec3 Float ← d.read?
        return .ofCoordinates c.x c.y c.z

instance : Writable (Pose2 Float) where
  write p := write [p.position.x, p.position.y, p.turn.cos, p.turn.sin]

def Pose3.ofCoordinates? : List Float → Option (Pose3 Float)
  | [x, y, z, roll, pitch, yaw] => some (.ofEuler ⟨x, y, z⟩ roll pitch yaw)
  | _ => none

instance : Readable (Pose3 Float) where
  read?
    | .text "identity" => some .identity
    | .list items => do Pose3.ofCoordinates? (← (Document.list items).read?)
    | d => do return ⟨← d.get? "r", ← d.get? "t"⟩

instance : Writable (Pose3 Float) where
  write p := .record [("t", write p.position), ("r", write p.rotation.toMatrix)]

instance : Readable (Calibration Float) where
  read?
    | .text "default" => some .plain
    | d => do
        match ← d.read? with
        | [f, k1, k2, u0, v0] => some ⟨f, k1, k2, u0, v0⟩
        | _ => none

instance : Writable (Calibration Float) := ⟨fun c => write c.toList⟩

instance : Readable (Camera Float) where
  read?
    | .text "default" => some .plain
    | d => do return ⟨← d.get? "pose", ← d.get? "cal"⟩

instance : Writable (Camera Float) where
  write c := .record [("pose", write c.pose), ("cal", write c.calibration)]

instance : Readable (SnavelyCamera Float) where
  read? d := do SnavelyCamera.ofList? (← d.read?)

instance : Writable (SnavelyCamera Float) := ⟨fun c => write c.toList⟩

instance : Writable (LensProjection Float) where
  write p := .record [("pixel", write p.pixel), ("d_cal", write p.lens), ("d_pn", write p.point)]

instance : Writable (Projection Float) where
  write p := .record [("pixel", write p.pixel), ("d_pose", write p.pose), ("d_cal", write p.lens),
    ("d_point", write p.point)]

instance : Readable VariableType where
  read? d := do VariableType.ofName? (← d.read?)

instance : Readable (Value Float) where
  read? d := d.choose [
    ("pose2", fun d => .pose2 <$> d.read?),
    ("pose3", fun d => .pose3 <$> d.read?),
    ("point3", fun d => .point3 <$> d.read?),
    ("vector", fun d => .vector <$> d.read?),
    ("cal", fun d => .calibration <$> d.read?),
    ("camera", fun d => .camera <$> d.read?)]

instance : Writable (Value Float) where
  write
    | .pose2 p => .record [("pose2", write p)]
    | .pose3 p => .record [("pose3", write p)]
    | .point3 p => .record [("point3", write p)]
    | .vector xs => .record [("vector", write xs)]
    | .calibration c => .record [("cal", write c)]
    | .camera c => .record [("camera", write c)]

end FactorGraph
