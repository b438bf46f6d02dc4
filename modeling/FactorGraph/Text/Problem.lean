import FactorGraph.Problem.PoseGraph
import FactorGraph.Problem.Scene
import FactorGraph.Text.Geometry

set_option autoImplicit false

namespace FactorGraph

open Decimal (fixed)

def Bundle.text (bundle : Bundle Float) : String :=
  s!"SfmData [ cameras: {bundle.cameras.length}, tracks: {bundle.tracks.length}, "
    ++ s!"measurements: {bundle.observationCount} ]"

def PoseGraph.text (graph : PoseGraph Float) : String :=
  s!"Pose2Graph [ poses: {graph.poses.size}, constraints: {graph.constraints.length} ]"

def PoseConstraint.text (c : PoseConstraint Float) : String :=
  s!"Pose2Constraint [ from: {c.source}, to: {c.target}, measurement: " ++ c.measurement.text
    ++ ", sigmas: (" ++ fixed 3 c.sigmas.x ++ ", " ++ fixed 3 c.sigmas.y ++ ", "
    ++ fixed 3 c.sigmas.z ++ ") ]"

end FactorGraph
