import FactorGraph.Proofs.Graph.Linearization

set_option autoImplicit false

namespace FactorGraph

variable {α : Type} [Scalar α]

-- The second graph is the first with inequality factors inserted, which are listed.
inductive Inserted : List (NonlinearFactor α) → Graph α → Graph α → Prop where
  | none : Inserted [] [] []
  | keep (f : NonlinearFactor α) (extra : List (NonlinearFactor α)) (graph larger : Graph α)
      (others : Inserted extra graph larger) : Inserted extra (f :: graph) (f :: larger)
  | insert (f : NonlinearFactor α) (extra : List (NonlinearFactor α)) (graph larger : Graph α)
      (inequality : f.isInequality = true) (others : Inserted extra graph larger) :
      Inserted (f :: extra) graph (f :: larger)

omit [Scalar α] in
theorem Inserted.mem {extra : List (NonlinearFactor α)} {graph larger : Graph α} (inserted : Inserted extra graph larger) :
    ∀ f ∈ extra, f ∈ larger := by
  induction inserted with
  | none => simp
  | keep f extra graph larger others ih => exact fun g mem => List.mem_cons_of_mem f (ih g mem)
  | insert f extra graph larger inequality others ih =>
      exact List.forall_mem_cons.mpr ⟨List.mem_cons_self, fun g mem => List.mem_cons_of_mem f (ih g mem)⟩

namespace LinearGraph

omit [Scalar α] in
theorem equalities_cons (linear : LinearFactor α) (rest : LinearGraph α) : equalities (linear :: rest) =
    if linear.kind = .equality then linear :: rest.equalities else rest.equalities := by
  simp only [equalities, List.filter_cons, decide_eq_true_eq]

variable (a b : LinearGraph α) (same : b.equalities = a.equalities)

include same

theorem to_sparse_of_equalities (layout : Layout) : b.toSparse layout = a.toSparse layout := by
  rw [toSparse, toSparse, same]

theorem error_of_equalities (updates : Updates α) : b.error updates = a.error updates := by
  rw [error, error, same]

end LinearGraph

namespace NonlinearFactor

theorem linearize_equality (f : NonlinearFactor α) (values : Values α) (linear : LinearFactor α)
    (done : f.linearize values = .ok linear) : decide (linear.kind = .equality) = !f.isInequality := by
  rw [(linearize_fits f values linear done).2.1, isInequality]
  cases f.kind <;> rfl

end NonlinearFactor

namespace Graph

theorem linearize_cons (f : NonlinearFactor α) (graph : Graph α) (values : Values α) :
    Graph.linearize (f :: graph) values =
      f.linearize values >>= fun linear => (Graph.linearize graph values).map (linear :: ·) := by
  rw [linearize, List.mapM_cons]
  rfl

variable (extra : List (NonlinearFactor α)) (graph larger : Graph α) (inserted : Inserted extra graph larger)

include inserted

omit [Scalar α] in
theorem equalities_inserted : Graph.equalities larger = Graph.equalities graph := by
  induction inserted with
  | none => rfl
  | keep f extra graph larger others ih =>
      simp only [equalities, List.filter_cons] at ih ⊢
      rw [ih]
  | insert f extra graph larger inequality others ih => simpa [equalities, inequality] using ih

theorem error_inserted (values : Values α) : Graph.error larger values = Graph.error graph values := by
  rw [error, error, equalities_inserted extra graph larger inserted]

theorem linearize_inserted (values : Values α)
    (succeed : ∀ f ∈ extra, ∃ linear, f.linearize values = .ok linear) :
    (Graph.linearize larger values).map LinearGraph.equalities =
      (Graph.linearize graph values).map LinearGraph.equalities := by
  induction inserted with
  | none => rfl
  | keep f extra graph larger others ih =>
      rw [linearize_cons, linearize_cons]
      cases f.linearize values with
      | error e => rfl
      | ok linear =>
          have rest := congrArg (Except.map fun kept => if linear.kind = .equality then linear :: kept else kept) (ih succeed)
          simpa only [Outcome.ok_bind, Outcome.map_map, LinearGraph.equalities_cons] using rest
  | insert f extra graph larger inequality others ih =>
      obtain ⟨linear, done⟩ := succeed f List.mem_cons_self
      have dropped := f.linearize_equality values linear done
      rw [inequality] at dropped
      rw [linearize_cons, done, Outcome.ok_bind, ← ih fun g mem => succeed g (List.mem_cons_of_mem f mem)]
      simp only [Outcome.map_map, LinearGraph.equalities_cons, if_neg (of_decide_eq_false dropped)]

end Graph

end FactorGraph
