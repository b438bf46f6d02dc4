import FactorGraph.Graph.Layout

set_option autoImplicit false

namespace FactorGraph

def marginals {α : Type} (covariance : Block α) (layout : Layout) : List (Key × Block α) :=
  layout.spans.entries.filterMap fun (key, span) =>
    (covariance.principal span.offset span.dimension).map (key, ·)

end FactorGraph
