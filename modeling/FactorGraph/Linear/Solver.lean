import FactorGraph.Linear.Cholesky
import FactorGraph.Linear.Reflection
import FactorGraph.Linear.Sparse

set_option autoImplicit false

namespace FactorGraph

inductive SolveError where
  | factorization (text : String)
  -- No factorization exists, or the solution is not finite.
  | singular
  | creation (text : String)
  | residualShape (shape : Nat × Nat) (jacobianRows : Nat)
  | conversion (text : String)

abbrev Pattern := List (List Nat)

structure Method (α : Type) where
  Plan : Type
  Factors : Type
  plan : Pattern → Option Plan
  unplanned : String
  factor : Plan → SparseMatrix α → Option Factors
  solve : Factors → List α → List α

namespace Method

variable {α : Type} [Scalar α]

def cholesky : Method α where
  Plan := Nat
  Factors := List (Cholesky.Column α)
  plan pattern := some pattern.length
  unplanned := "Symbolic Cholesky decomposition failed"
  factor size matrix := Cholesky.factor size matrix.openRows
  solve := Cholesky.solve

def qr : Method α where
  Plan := Nat
  Factors := List (Reflection.Step α)
  plan pattern := some pattern.length
  unplanned := "Symbolic QR decomposition failed"
  factor size matrix := some (Reflection.factor size matrix.openRows)
  solve := Reflection.solve

end Method

inductive Planning {α : Type} (method : Method α) where
  | remembered (plan : method.Plan)
  | made (plan : method.Plan)

def Planning.plan {α : Type} {method : Method α} : Planning method → method.Plan
  | remembered plan => plan
  | made plan => plan

def Method.planAnew {α : Type} (method : Method α) (pattern : Pattern) :
    Except SolveError (Planning method) :=
  match method.plan pattern with
  | none => .error (.factorization method.unplanned)
  | some plan => .ok (.made plan)

structure Prepared {α : Type} (method : Method α) where
  hessian : SparseMatrix α
  gradient : List α
  matrix : SparseMatrix α
  planning : Planning method

structure Solved {α : Type} (method : Method α) where
  hessian : SparseMatrix α
  gradient : List α
  factors : method.Factors
  covariance : Option (Block α)
  standardErrors : Option (List α)

structure Solver {α : Type} (method : Method α) where
  plan : Option (Pattern × method.Plan)
  last : Option (Solved method)

namespace Solver

variable {α : Type} {method : Method α}

def start : Solver method := ⟨none, none⟩

def planFor (solver : Solver method) (pattern : Pattern) : Except SolveError (Planning method) :=
  match solver.plan with
  | none => method.planAnew pattern
  | some (known, plan) =>
      if known = pattern then .ok (.remembered plan) else method.planAnew pattern

def remember (solver : Solver method) (pattern : Pattern) : Planning method → Solver method
  | .remembered _ => solver
  | .made plan => { solver with plan := some (pattern, plan) }

variable [Scalar α]

def addDamping (hessian : SparseMatrix α) (damping : α) : Except SolveError (SparseMatrix α) :=
  let diagonal := (List.range hessian.cols).map fun i => (i, i, damping)
  match SparseMatrix.ofTriplets? hessian.cols hessian.cols diagonal with
  | none => .error (.creation "Failed to create lambda*I matrix")
  | some scaled => .ok (hessian.add scaled)

def toFactor (hessian : SparseMatrix α) : Option α → Except SolveError (SparseMatrix α)
  | none => .ok hessian
  | some damping => addDamping hessian damping

def prepare (solver : Solver method) (residual : Block α) (jacobian : SparseMatrix α)
    (damping : Option α) : Except SolveError (Prepared method) :=
  if residual.height = jacobian.height ∧ residual.cols = 1 then do
    let hessian := jacobian.gram
    let gradient := jacobian.transposeMulVec residual.rows.flatten
    let matrix ← toFactor hessian damping
    let planning ← solver.planFor matrix.pattern
    return ⟨hessian, gradient, matrix, planning⟩
  else .error (.residualShape residual.shape jacobian.height)

def factorAndSolve (plan : method.Plan) (matrix : SparseMatrix α) (rhs : List α) :
    Option (method.Factors × List α) :=
  match method.factor plan matrix with
  | none => none
  | some factors =>
      let step := method.solve factors rhs
      if step.all Scalar.isFinite then some (factors, step) else none

-- Solves the normal equations, damped or not. When it fails, all that the solver keeps of the last
-- successful solve stays as it was.
def solve (solver : Solver method) (residual : Block α) (jacobian : SparseMatrix α)
    (damping : Option α) : Except SolveError (List α) × Solver method :=
  match solver.prepare residual jacobian damping with
  | .error e => (.error e, solver)
  | .ok prepared =>
      let solver := solver.remember prepared.matrix.pattern prepared.planning
      match factorAndSolve prepared.planning.plan prepared.matrix (prepared.gradient.map (- ·)) with
      | none => (.error .singular, solver)
      | some (factors, step) =>
          (.ok step,
            { solver with last := some ⟨prepared.hessian, prepared.gradient, factors, none, none⟩ })

def hessian? (solver : Solver method) : Option (SparseMatrix α) := solver.last.map (·.hessian)

def gradient? (solver : Solver method) : Option (List α) := solver.last.map (·.gradient)

def covariance? (solver : Solver method) : Option (Block α) := solver.last.bind (·.covariance)

def inverse (n : Nat) (factors : method.Factors) : Block α :=
  Block.ofColumns n ((Block.identity n).rows.map (method.solve factors))

def withCovariance (solver : Solver method) : Solver method :=
  match solver.last with
  | none => solver
  | some last =>
      match last.covariance with
      | some _ => solver
      | none =>
          { solver with
            last := some { last with
              covariance := some (inverse last.hessian.cols last.factors) } }

def withStandardErrors (solver : Solver method) : Option (List α) × Solver method :=
  let solver := solver.withCovariance
  match solver.last with
  | none => (none, solver)
  | some last =>
      match last.covariance with
      | none => (none, solver)
      | some covariance =>
          let variances := covariance.diagonalEntries
          if variances.any fun v => decide (v < 0) then (none, solver)
          else
            let errors := variances.map Scalar.sqrt
            (some errors, { solver with last := some { last with standardErrors := some errors } })

end Solver

end FactorGraph
