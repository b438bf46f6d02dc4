import FactorGraph.Decimal.Reading
import FactorGraph.Document.Error
import FactorGraph.Document.Json
import FactorGraph.Document.Optimizer
import FactorGraph.Document.Problem
import FactorGraph.Journal
import FactorGraph.Proofs.Camera.BackProjection
import FactorGraph.Proofs.Camera.RoundTrip
import FactorGraph.Proofs.Camera.SnavelyDerivative
import FactorGraph.Proofs.Factor.Derivative
import FactorGraph.Proofs.Factor.Requests
import FactorGraph.Proofs.Graph.Complementarity
import FactorGraph.Proofs.Graph.GaussNewton
import FactorGraph.Proofs.Graph.Layout
import FactorGraph.Proofs.Graph.Retraction
import FactorGraph.Proofs.Lie.Conjugation
import FactorGraph.Proofs.Lie.JacobianInverse
import FactorGraph.Proofs.Lie.Motion
import FactorGraph.Proofs.Lie.SmallAngle
import FactorGraph.Proofs.Optimizer.Covariances
import FactorGraph.Proofs.Optimizer.Failure
import FactorGraph.Proofs.Optimizer.Prediction
import FactorGraph.Proofs.Optimizer.Retries
import FactorGraph.Proofs.Optimizer.Shape
import FactorGraph.Proofs.Optimizer.Stationary
import FactorGraph.Proofs.Optimizer.Statistics
import FactorGraph.Proofs.Optimizer.Truncation
import FactorGraph.Proofs.Problem.ReadBack
import FactorGraph.Proofs.Problem.Scene
