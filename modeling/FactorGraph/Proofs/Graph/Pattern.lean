import FactorGraph.Proofs.Graph.System
import FactorGraph.Proofs.Linear.Plan

set_option autoImplicit false

namespace FactorGraph

namespace Layout

def columns (layout : Layout) (keys : List Key) : List ℕ :=
  (List.range layout.total).filter fun c => keys.any fun key => (layout.span? key).any fun span =>
    decide (span.offset ≤ c ∧ c < span.offset + span.dimension)

end Layout

variable {α : Type} [Scalar α]

namespace LinearFactor

end LinearFactor

namespace Graph

def pattern (graph : Graph α) (layout : Layout) : Pattern :=
  graph.equalities.flatMap fun f => List.replicate f.dimension (layout.columns f.keys)

end Graph

end FactorGraph
