import FactorGraph.Graph.Nonlinear

set_option autoImplicit false

namespace FactorGraph

inductive ConstraintError (α : Type) where
  | graph (cause : GraphError α)
  | noRows (keys : List Key)

inductive Violation (α : Type) where
  | infeasible (keys : List Key) (e : α)
  | slack (keys : List Key) (e : α) (dual : Key)

variable {α : Type} [Scalar α]

namespace NonlinearFactor

-- The row of a constraint that should not be positive.
def leading (f : NonlinearFactor α) (values : Values α) : Except (ConstraintError α) α := do
  match ← (f.residual values).mapError .graph with
  | [] => throw (.noRows f.keys)
  | e :: _ => return e

def isActive (f : NonlinearFactor α) (values : Values α) (tolerance : α) :
    Except (ConstraintError α) Bool := do
  match f.kind with
  | .equality => return true
  | .inequality _ =>
      let e ← f.leading values
      return decide (-tolerance ≤ e)

end NonlinearFactor

structure InequalityGraph (α : Type) where
  factors : Graph α
  inequality : ∀ f ∈ factors, f.isInequality = true

namespace InequalityGraph

def empty : InequalityGraph α := ⟨[], by simp⟩

def add (graph : InequalityGraph α) (f : NonlinearFactor α) :
    Except (GraphError α) (InequalityGraph α) :=
  if h : f.isInequality = true then
    .ok ⟨graph.factors ++ [f], by
      intro g mem
      rcases List.mem_append.mp mem with mem | mem
      · exact graph.inequality g mem
      · rw [List.mem_singleton.mp mem]
        exact h⟩
  else .error (.notInequality (.keys f.keys))

def size (graph : InequalityGraph α) : Nat := graph.factors.length

def dualKeys (graph : InequalityGraph α) : List Key := graph.factors.filterMap (·.kind.dual?)

def linearize (graph : InequalityGraph α) (values : Values α) :
    Except (GraphError α) (LinearGraph α) := Graph.linearize graph.factors values

def activeSet (graph : InequalityGraph α) (values : Values α) (tolerance : α) :
    Except (ConstraintError α) (List Key) := do
  let active ← graph.factors.filterM (·.isActive values tolerance)
  return active.filterMap (·.kind.dual?)

-- How a constraint with first row `e` is violated, if it is. A constraint without multiplier among
-- `duals` only has to be feasible; one with a multiplier has to be tight.
def judge (f : NonlinearFactor α) (e : α) (duals : Updates α) (tolerance : α) :
    Option (Violation α) :=
  if tolerance < e then some (.infeasible f.keys e)
  else
    match f.kind.dual? with
    | none => none
    | some dual =>
        if duals.contains dual ∧ tolerance < Scalar.abs e then some (.slack f.keys e dual) else none

def firstViolation (values : Values α) (duals : Updates α) (tolerance : α) :
    List (NonlinearFactor α) → Except (ConstraintError α) (Option (Violation α))
  | [] => .ok none
  | f :: rest => do
      let e ← f.leading values
      match judge f e duals tolerance with
      | some violation => return some violation
      | none => firstViolation values duals tolerance rest

def violation? (graph : InequalityGraph α) (values : Values α) (duals : Updates α)
    (tolerance : α) : Except (ConstraintError α) (Option (Violation α)) :=
  firstViolation values duals tolerance graph.factors

def check (graph : InequalityGraph α) (values : Values α) (duals : Updates α) (tolerance : α) :
    Except (ConstraintError α) Bool := do
  return (← graph.violation? values duals tolerance).isNone

end InequalityGraph

end FactorGraph
