import FactorGraph.Decimal.Shortest
import FactorGraph.Graph.Values

set_option autoImplicit false

namespace FactorGraph

open Decimal (fixed general scientific)

def four (x : Float) : String := fixed 4 x

def Quat.text (q : Quat Float) : String :=
  "[w: " ++ four q.w ++ ", x: " ++ four q.x ++ ", y: " ++ four q.y ++ ", z: " ++ four q.z ++ "]"

def Vec3.text (v : Vec3 Float) : String := "[" ++ four v.x ++ ", " ++ four v.y ++ ", " ++ four v.z ++ "]"

def Rotation.text (r : Rotation Float) : String := "SO3(quaternion: " ++ r.quat.text ++ ")"

def Pose2.text (p : Pose2 Float) : String :=
  "SE2(translation: [" ++ four p.position.x ++ ", " ++ four p.position.y ++ "], rotation: "
    ++ four p.angle ++ ")"

def Pose3.text (p : Pose3 Float) : String :=
  "SE3(translation: " ++ p.position.text ++ ", rotation: " ++ p.rotation.quat.text ++ ")"

def Twist3.text (t : Twist3 Float) : String :=
  "se3(rho: " ++ t.rho.text ++ ", theta: " ++ t.theta.text ++ ")"

def Calibration.text (c : Calibration Float) : String :=
  "Cal3Bundler(f: " ++ four c.f ++ ", k1: " ++ scientific 4 c.k1 ++ ", k2: " ++ scientific 4 c.k2
    ++ ", u0: " ++ fixed 2 c.u0 ++ ", v0: " ++ fixed 2 c.v0 ++ ")"

def Camera.text (c : Camera Float) : String :=
  "PinholeCamera(" ++ c.pose.text ++ ", " ++ c.calibration.text ++ ")"

namespace Full

def list (xs : List Float) : String := "[" ++ ", ".intercalate (xs.map general) ++ "]"

def record (name : String) (fields : List (String × String)) : String :=
  name ++ " \x7b " ++ ", ".intercalate (fields.map fun f => f.1 ++ ": " ++ f.2) ++ " \x7d"

def column (xs : List Float) : String := "[" ++ list xs ++ "]"

def pose2 (p : Pose2 Float) : String :=
  record "SE2" [("translation", column p.position.toList),
    ("rotation", record "Complex" [("re", general p.turn.cos), ("im", general p.turn.sin)])]

def pose3 (p : Pose3 Float) : String :=
  let q := p.rotation.quat
  record "SE3" [("rotation", record "SO3" [("quaternion", list [q.x, q.y, q.z, q.w])]),
    ("translation", column p.position.toList)]

def calibration (c : Calibration Float) : String :=
  record "Cal3Bundler" [("f", general c.f), ("k1", general c.k1), ("k2", general c.k2),
    ("u0", general c.u0), ("v0", general c.v0)]

def camera (c : Camera Float) : String :=
  record "PinholeCamera" [("pose", pose3 c.pose), ("calibration", calibration c.calibration)]

def vector (xs : List Float) : String :=
  record "VecStorage" [("data", list xs), ("nrows", s!"Dyn({xs.length})"), ("ncols", "Const")]

def value : Value Float → String
  | .pose2 p => "Pose2(" ++ pose2 p ++ ")"
  | .pose3 p => "Pose3(" ++ pose3 p ++ ")"
  | .point3 p => "Point3(" ++ column p.toList ++ ")"
  | .vector xs => "Vector(" ++ vector xs ++ ")"
  | .calibration c => "Calibration(" ++ calibration c ++ ")"
  | .camera c => "Camera(" ++ camera c ++ ")"

end Full

def Values.text (values : Values Float) : String :=
  s!"Values with {values.size} variables:\n"
    ++ String.join (values.entries.map fun (key, value) =>
      "  " ++ key.text ++ ": " ++ Full.value value ++ "\n")

end FactorGraph
