import FactorGraph.Graph.Values

set_option autoImplicit false

namespace FactorGraph

structure Span where
  offset : Nat
  dimension : Nat

structure Layout where
  spans : KeyMap Span
  total : Nat

namespace Layout

variable {α : Type} [Scalar α]

def place (offset : Nat) : List (Key × Value α) → List (Key × Span)
  | [] => []
  | (key, value) :: rest =>
      (key, ⟨offset, value.dimension⟩) :: place (offset + value.dimension) rest

theorem keys_place (offset : Nat) (es : List (Key × Value α)) :
    (place offset es).map Prod.fst = es.map Prod.fst := by
  induction es generalizing offset with
  | nil => rfl
  | cons e rest ih => simp [place, ih]

def ofValues (values : Values α) : Layout where
  spans := ⟨place 0 values.entries, (keys_place 0 values.entries).symm ▸ values.sorted⟩
  total := values.dimension

def span? (layout : Layout) (key : Key) : Option Span := layout.spans.get? key

def split (layout : Layout) (step : Block α) : Except (GraphError α) (Updates α) :=
  if step.height = layout.total ∧ step.cols = 1 then
    .ok (layout.spans.map fun _ span =>
      (step.rows.flatten.drop span.offset).take span.dimension)
  else .error (.shape (.column step.shape layout.total))

def join (updates : Updates α) : Block α := Block.column updates.values.flatten

end Layout

end FactorGraph
