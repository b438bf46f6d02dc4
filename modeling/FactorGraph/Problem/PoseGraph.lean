import FactorGraph.Graph.Nonlinear
import FactorGraph.Problem.Error

set_option autoImplicit false

namespace FactorGraph

structure PoseConstraint (α : Type) where
  source : Nat
  target : Nat
  measurement : Pose2 α
  sigmas : Vec3 α

structure PoseGraph (α : Type) where
  poses : SortedMap Nat (Pose2 α)
  constraints : List (PoseConstraint α)

variable {α : Type} [Scalar α]

def PoseConstraint.sigmasOfInformation (information : Vec3 α) : Vec3 α :=
  information.map fun w => 1 / Scalar.sqrt w

namespace PoseGraph

def checkEnds (graph : PoseGraph α) (index : Nat) (constraint : PoseConstraint α) :
    Except (ProblemError α) Unit :=
  match [constraint.source, constraint.target].find? (!graph.poses.contains ·) with
  | some pose => .error (.unknownPose index pose)
  | none => .ok ()

def constraintFactor (graph : PoseGraph α) (index : Nat) (constraint : PoseConstraint α) :
    Except (ProblemError α) (NonlinearFactor α) := do
  graph.checkEnds index constraint
  let noise ← (Noise.ofSigmas constraint.sigmas.toList).mapError .graph
  (NonlinearFactor.bind [.pose constraint.source, .pose constraint.target]
    (Factor.between constraint.measurement) noise .equality).mapError .graph

def entries (graph : PoseGraph α) : List (Key × Value α) :=
  graph.poses.entries.map fun (id, pose) => (Key.pose id, .pose2 pose)

def build (graph : PoseGraph α) : Except (ProblemError α) (Graph α × Values α) :=
  match graph.poses.entries with
  | [] => .error (.empty .noPoses)
  | (id, pose) :: _ => do
      let anchor ← (NonlinearFactor.bind [.pose id] (Factor.prior pose) (.unit 3)
        .equality).mapError .graph
      let constraints ← (graph.constraints.mapIdx fun i c => (i, c)).mapM
        fun (i, c) => graph.constraintFactor i c
      let values ← (Values.ofEntries graph.entries).mapError .graph
      return (anchor :: constraints, values)

end PoseGraph

end FactorGraph
