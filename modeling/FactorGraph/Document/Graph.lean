import FactorGraph.Document.Geometry
import FactorGraph.Factor
import FactorGraph.Graph.Linear
import FactorGraph.Graph.Noise

set_option autoImplicit false

namespace FactorGraph

open Readable (read?)
open Writable (write)

instance : Readable Key where
  read? d := do Key.ofText? (← d.read?)

instance : Writable Key := ⟨fun key => .text key.text⟩

instance : Readable (Except (GraphError Float) (Values Float)) where
  read? d := Values.ofEntries <$> d.read?

instance : Readable (Updates Float) where
  read? d := .ofList <$> d.read?

instance {ν : Type} [Writable ν] : Writable (KeyMap ν) := ⟨fun m => write m.entries⟩

def Noise.ofUniformDocument? (d : Document Float) :
    Option (Except (GraphError Float) (Noise Float)) := do
  let (dimension, sigma) ← d.read?
  return Noise.ofSigma dimension sigma

instance : Readable (Except (GraphError Float) (Noise Float)) where
  read? d := d.choose [
    ("unit", fun d => do return .ok (.unit (← d.read?))),
    ("isotropic", Noise.ofUniformDocument?),
    ("diagonal", fun d => Noise.ofSigmas <$> d.read?)]

def StandardFactor.boundOfDocument? (side : Factor.BoundSide) (d : Document Float) :
    Option (StandardFactor Float) := do
  let (component, bound) ← d.read?
  return .componentBound component bound side

instance : Readable (StandardFactor Float) where
  read? d := d.choose [
    ("prior", fun d => .prior <$> d.read?),
    ("between", fun d => d.choose [
      ("pose2", fun d => .betweenPose2 <$> d.read?),
      ("pose3", fun d => .betweenPose3 <$> d.read?)]),
    ("projection", fun d => do return .projection (← d.get? "measured") (← d.get? "cal")),
    ("general_sfm", fun d => .cameraProjection <$> d.read?),
    ("snavely", fun d => .snavelyProjection <$> d.read?),
    ("upper", StandardFactor.boundOfDocument? .upper),
    ("lower", StandardFactor.boundOfDocument? .lower),
    ("max_distance", fun d => .maxDistance <$> d.read?)]

def FactorKind.ofDocument? (d : Document Float) : Option FactorKind := do
  match ← d.optional? "dual" with
  | none => return .equality
  | some dual => return .inequality dual

instance : Writable (Evaluation Float) where
  write e := .record [("residual", write e.residual), ("jacobians", write e.jacobians)]

instance : Readable (LinearFactor Float) where
  read? d := do
    return ⟨← d.get? "keys", ← d.get? "jacobians", ← d.get? "rhs", ← FactorKind.ofDocument? d⟩

instance : Writable (LinearFactor Float) where
  write f := .record [("keys", write f.keys), ("rows", write f.rows),
    ("jacobians", write f.jacobians), ("rhs", write f.rhs), ("dual", write f.kind.dual?)]

instance : Writable Layout where
  write l := .record [("len", write l.spans.size), ("empty", write l.spans.isEmpty),
    ("total", write l.total),
    ("columns", write (l.spans.entries.map fun (key, span) =>
      Document.list [write key, write span.offset, write span.dimension]))]

def SparseMatrix.entryOfDocument? : Document Float → Option (Nat × Nat × Float)
  | .list [i, j, a] => do return (← i.read?, ← j.read?, ← a.read?)
  | _ => none

instance : Readable (SparseMatrix Float) where
  read?
    | .list [height, cols, .list entries] => do
        return .ofEntries (← height.read?) (← cols.read?)
          (← entries.mapM SparseMatrix.entryOfDocument?)
    | _ => none

instance : Writable (SparseMatrix Float) := ⟨fun m => write m.toDense⟩

instance : Writable (LinearSystem Float) where
  write s := .record [("shape", write (s.jacobian.height, s.jacobian.cols)),
    ("entries", write s.jacobian.stored), ("jacobian", write s.jacobian), ("rhs", write s.rhs)]

end FactorGraph
