import FactorGraph.Proofs.Factor.Signature
import FactorGraph.Proofs.Graph.Linearization

set_option autoImplicit false

namespace FactorGraph

variable {α : Type} [Scalar α]

omit [Scalar α] in
-- Failures that depend on the numbers alone.
def GraphError.Momentary : GraphError α → Prop
  | .factor _ (.cheirality _) => True
  | .notFinite _ => True
  | _ => False

namespace Values

def Moves (values moved : Values α) : Prop := ∃ updates, values.retract updates = .ok moved

theorem reached_shape (values reached : Values α) (moves : Relation.ReflTransGen Moves values reached) :
    reached.shape = values.shape := by
  induction moves with
  | refl => rfl
  | tail _ move ih =>
      obtain ⟨updates, done⟩ := move
      exact (retract_shape _ _ updates done).trans ih

theorem signature_of_shape (a b : Values α) (same : b.shape = a.shape) (key : Key) :
    (b.get? key).map Value.signature = (a.get? key).map Value.signature := by
  let signatures (values : Values α) : KeyMap (VariableType × Nat) := values.map fun _ value => value.signature
  have read (values : Values α) : (signatures values).get? key = (values.get? key).map Value.signature :=
    SortedMap.get_map (fun _ value => value.signature) values key
  have maps : signatures b = signatures a := SortedMap.ext_entries _ _ same
  rw [← read, ← read, maps]

theorem signed_arguments (values : Values α) (keys : List Key) (signature : List (VariableType × Nat))
    (known : List.Forall₂ (fun key s => (values.get? key).map Value.signature = some s) keys signature) :
    ∃ arguments, List.Forall₂ (fun key value => values.get? key = some value) keys arguments ∧
      arguments.map Value.signature = signature := by
  induction known with
  | nil => exact ⟨[], .nil, rfl⟩
  | cons here others ih =>
      obtain ⟨value, found, rfl⟩ := Option.map_eq_some_iff.mp here
      obtain ⟨arguments, rest, rfl⟩ := ih
      exact ⟨value :: arguments, .cons found rest, rfl⟩

end Values

namespace NonlinearFactor

-- The variables of a factor have values, of types and dimensions that the factor fits.
def Typed (f : NonlinearFactor α) (values : Values α) : Prop :=
  ∃ signature, List.Forall₂ (fun key s => (values.get? key).map Value.signature = some s) f.keys signature ∧
    f.factor.Fits signature

theorem typed_of_shape (f : NonlinearFactor α) (a b : Values α) (same : b.shape = a.shape) (typed : f.Typed a) :
    f.Typed b := by
  obtain ⟨signature, known, fits⟩ := typed
  exact ⟨signature, known.imp fun key s here => (Values.signature_of_shape a b same key).trans here, fits⟩

section Failures

variable (f : NonlinearFactor α) (values : Values α) (typed : f.Typed values) (e : GraphError α)

theorem check_residual_momentary (residual : List α) (length : residual.length = f.dimension)
    (failed : f.checkResidual residual = .error e) : e.Momentary := by
  rw [checkResidual, if_neg (not_not.mpr length)] at failed
  split at failed
  · cases failed
  · cases failed
    trivial

theorem check_blocks_momentary (height : Nat) (entries : List (Key × Value α × Block α))
    (shapes : ∀ entry ∈ entries, entry.2.2.shape = (height, entry.2.1.dimension))
    (failed : checkBlocks height entries = .error e) : e.Momentary := by
  induction entries with
  | nil => cases failed
  | cons entry rest ih =>
      obtain ⟨key, value, block⟩ := entry
      have shape := shapes (key, value, block) List.mem_cons_self
      rw [checkBlocks, if_neg (not_not.mpr shape)] at failed
      split at failed
      · exact ih (fun other mem => shapes other (List.mem_cons_of_mem _ mem)) failed
      · cases failed
        trivial

theorem check_jacobians_momentary (arguments : List (Value α)) (blocks : List (Block α))
    (shapes : List.Forall₂ (fun block n => block.shape = (f.dimension, n)) blocks (arguments.map Value.dimension))
    (failed : f.checkJacobians arguments blocks = .error e) : e.Momentary := by
  rw [checkJacobians, if_pos (shapes.length_eq.trans (List.length_map _))] at failed
  refine check_blocks_momentary e f.dimension _ (fun entry mem => ?_) failed
  obtain ⟨_, pair⟩ := List.of_mem_zip mem
  rw [List.forall₂_map_right_iff] at shapes
  exact List.forall₂_zip shapes.flip pair

include typed

theorem typed_evaluates : ∃ arguments, f.gather values = .ok arguments ∧
    ∀ request,
      Factor.Proper f.dimension (arguments.map Value.dimension) request (f.factor.evaluate arguments request) := by
  obtain ⟨signature, known, fits⟩ := typed
  obtain ⟨arguments, found, same⟩ := Values.signed_arguments values f.keys signature known
  refine ⟨arguments, (gather_ok_iff f values arguments).mpr found, fun request => ?_⟩
  have proper := fits arguments same request
  rw [← same, List.map_map] at proper
  exact proper

theorem residual_momentary (failed : f.residual values = .error e) : e.Momentary := by
  obtain ⟨arguments, gathered, proper⟩ := typed_evaluates f values typed
  have answer := proper .residual
  rw [residual, gathered, Outcome.ok_bind, evaluate] at failed
  generalize f.factor.evaluate arguments .residual = outcome at answer failed
  cases answer with
  | behind _ fault =>
      cases failed
      trivial
  | residual residual length =>
      rw [Except.mapError, Outcome.ok_bind] at failed
      rcases (Outcome.bind_error_iff _ _ _).mp failed with checked | ⟨_, _, impossible⟩
      · exact check_residual_momentary f e residual length checked
      · cases impossible

theorem error_momentary (failed : f.error values = .error e) : e.Momentary := by
  rcases (Outcome.bind_error_iff _ _ _).mp failed with whitened | ⟨_, _, impossible⟩
  · rcases (Outcome.bind_error_iff _ _ _).mp whitened with residual | ⟨_, _, impossible⟩
    · exact residual_momentary f values typed e residual
    · cases impossible
  · cases impossible

theorem linearize_momentary (failed : f.linearize values = .error e) : e.Momentary := by
  obtain ⟨arguments, gathered, proper⟩ := typed_evaluates f values typed
  have answer := proper .derivatives
  rw [linearize, gathered, Outcome.ok_bind, evaluate] at failed
  generalize f.factor.evaluate arguments .derivatives = outcome at answer failed
  cases answer with
  | behind _ fault =>
      cases failed
      trivial
  | derivatives residual blocks length shapes =>
      rw [Except.mapError, Outcome.ok_bind] at failed
      rcases (Outcome.bind_error_iff _ _ _).mp failed with checked | ⟨_, _, failed⟩
      · exact check_residual_momentary f e residual length checked
      · rcases (Outcome.bind_error_iff _ _ _).mp failed with checked | ⟨_, _, impossible⟩
        · exact check_jacobians_momentary f e arguments blocks shapes checked
        · cases impossible

end Failures

end NonlinearFactor

namespace Graph

def Typed (graph : Graph α) (values : Values α) : Prop := ∀ f ∈ graph, f.Typed values

-- Every key has a value, and wherever updates lead, only the numbers make the graph fail.
structure Sound (graph : Graph α) (values : Values α) : Prop where
  closed : Closed graph values
  error : ∀ reached, Relation.ReflTransGen Values.Moves values reached →
    ∀ e, Graph.error graph reached = .error e → e.Momentary
  linearize : ∀ reached, Relation.ReflTransGen Values.Moves values reached →
    ∀ e, Graph.linearize graph reached = .error e → e.Momentary

variable (graph : Graph α) (values : Values α) (typed : Typed graph values)

include typed

theorem typed_closed : Closed graph values := by
  intro f mem key named
  obtain ⟨arguments, gathered, _⟩ := NonlinearFactor.typed_evaluates f values (typed f mem)
  obtain ⟨value, _, found⟩ := Outcome.map_all_inputs _ _ _ gathered key named
  by_contra missing
  rw [Values.find, (SortedMap.get_eq_none_iff values key).mpr missing] at found
  cases found

theorem typed_reached (reached : Values α) (moves : Relation.ReflTransGen Values.Moves values reached) :
    Typed graph reached := fun f mem =>
  f.typed_of_shape values reached (Values.reached_shape values reached moves) (typed f mem)

theorem error_momentary (e : GraphError α) (failed : Graph.error graph values = .error e) : e.Momentary := by
  rcases (Outcome.bind_error_iff _ _ _).mp failed with failed | ⟨_, _, impossible⟩
  · obtain ⟨f, mem, cause⟩ := Outcome.map_all_error _ _ _ failed
    exact f.error_momentary values (typed f (List.mem_of_mem_filter mem)) e cause
  · cases impossible

theorem linearize_momentary (e : GraphError α) (failed : Graph.linearize graph values = .error e) : e.Momentary := by
  obtain ⟨f, mem, cause⟩ := Outcome.map_all_error _ _ _ failed
  exact f.linearize_momentary values (typed f mem) e cause

theorem typed_sound : Sound graph values where
  closed := typed_closed graph values typed
  error reached moves := error_momentary graph reached (typed_reached graph values typed reached moves)
  linearize reached moves := linearize_momentary graph reached (typed_reached graph values typed reached moves)

end Graph

end FactorGraph
