import FactorGraph.Graph.Layout
import FactorGraph.Linear.Sparse

set_option autoImplicit false

namespace FactorGraph

inductive FactorKind where
  | equality
  | inequality (dual : Key)
deriving DecidableEq

def FactorKind.dual? : FactorKind → Option Key
  | equality => none
  | inequality dual => some dual

structure LinearFactor (α : Type) where
  keys : List Key
  jacobians : List (Block α)
  rhs : List α
  kind : FactorKind

abbrev LinearGraph (α : Type) := List (LinearFactor α)

structure LinearSystem (α : Type) where
  jacobian : SparseMatrix α
  rhs : List α

variable {α : Type} [Scalar α]

namespace LinearFactor

def rows (factor : LinearFactor α) : Nat := factor.rhs.length

def moved (updates : Updates α) :
    List (Key × Block α) → List α → Except (GraphError α) (List α)
  | [], residual => .ok residual
  | (key, jacobian) :: rest, residual =>
      match updates.get? key with
      | none => moved updates rest residual
      | some d =>
          if d.length = jacobian.cols then
            moved updates rest (List.zipWith (· + ·) residual (jacobian.mulVec d))
          else .error (.shape (.step key d.length jacobian.cols))

def error (factor : LinearFactor α) (updates : Updates α) : Except (GraphError α) α := do
  let residual ← moved updates (factor.keys.zip factor.jacobians) (factor.rhs.map (- ·))
  return Block.dot residual residual

def placed (layout : Layout) (height : Nat) :
    List (Key × Block α) → Except (GraphError α) (List (Nat × Block α))
  | [] => .ok []
  | (key, jacobian) :: rest =>
      match layout.span? key with
      | none => .error (.missingKey key)
      | some span =>
          if jacobian.shape = (height, span.dimension) then do
            return (span.offset, jacobian) :: (← placed layout height rest)
          else .error (.shape (.block key jacobian.shape (height, span.dimension)))

def blockTriplets (start offset : Nat) (block : Block α) : List (Nat × Nat × α) :=
  (List.range block.cols).flatMap fun col =>
    block.rows.mapIdx fun row entries => (start + row, offset + col, entries[col]?.getD 0)

def triplets (layout : Layout) (start : Nat) (factor : LinearFactor α) :
    Except (GraphError α) (List (Nat × Nat × α)) := do
  let blocks ← placed layout factor.rows (factor.keys.zip factor.jacobians)
  return blocks.flatMap fun (offset, block) => blockTriplets start offset block

end LinearFactor

namespace LinearGraph

def equalities (graph : LinearGraph α) : List (LinearFactor α) :=
  graph.filter (·.kind = .equality)

def error (graph : LinearGraph α) (updates : Updates α) : Except (GraphError α) α := do
  let errors ← graph.equalities.mapM (·.error updates)
  return Scalar.total errors

def rowCount : List (LinearFactor α) → Nat
  | [] => 0
  | factor :: rest => factor.rows + rowCount rest

def stacked (layout : Layout) :
    (start : Nat) → List (LinearFactor α) → Except (GraphError α) (List (Nat × Nat × α))
  | _, [] => .ok []
  | start, factor :: rest => do
      let here ← factor.triplets layout start
      let below ← stacked layout (start + factor.rows) rest
      return here ++ below

def toSparse (graph : LinearGraph α) (layout : Layout) :
    Except (GraphError α) (LinearSystem α) := do
  let height := rowCount graph.equalities
  let triplets ← stacked layout 0 graph.equalities
  match SparseMatrix.ofTriplets? height layout.total triplets with
  | none => throw (.sparseStructure s!"failed to assemble {height}x{layout.total} Jacobian")
  | some jacobian => return ⟨jacobian, graph.equalities.flatMap (·.rhs)⟩

end LinearGraph

end FactorGraph
