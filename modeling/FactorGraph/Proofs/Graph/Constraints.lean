import FactorGraph.Graph.Inequality
import FactorGraph.Proofs.Graph.System

set_option autoImplicit false

namespace FactorGraph

open Outcome

variable {α : Type} [Scalar α]

namespace NonlinearFactor

structure Rowless (values : Values α) (keys : List Key) (f : NonlinearFactor α) : Prop where
  keys : f.keys = keys
  dimension : f.dimension = 0
  residual : f.residual values = .ok []

def BeginsWith (f : NonlinearFactor α) (values : Values α) (e : α) : Prop :=
  ∃ rest, f.residual values = .ok (e :: rest)

variable (f : NonlinearFactor α) (values : Values α)

theorem leading_ok_iff (e : α) : f.leading values = .ok e ↔ f.BeginsWith values e := by
  unfold leading BeginsWith
  cases f.residual values with
  | error cause => simp [Except.mapError]
  | ok residual => cases residual <;> simp [Except.mapError]

theorem leading_no_rows_iff (keys : List Key) :
    f.leading values = .error (.noRows keys) ↔ f.Rowless values keys := by
  have flat (empty : f.residual values = .ok []) : f.dimension = 0 :=
    f.noise_dimension.symm.trans (f.residual_length values [] empty).symm
  constructor
  · intro missing
    unfold leading at missing
    cases evaluated : f.residual values with
    | error cause => simp [evaluated, Except.mapError] at missing
    | ok residual =>
        cases residual with
        | nil =>
            simp only [evaluated, Except.mapError, ok_bind, throw_error, Except.error.injEq,
              ConstraintError.noRows.injEq] at missing
            exact ⟨missing, flat evaluated, evaluated⟩
        | cons e rest => simp [evaluated, Except.mapError] at missing
  · rintro ⟨rfl, _, evaluated⟩
    simp [leading, evaluated, Except.mapError]

theorem is_active_eq (inequality : f.isInequality = true) (tolerance : α) :
    f.isActive values tolerance = f.leading values >>= fun e => .ok (decide (-tolerance ≤ e)) := by
  unfold isInequality at inequality
  unfold isActive
  cases kind : f.kind with
  | equality => simp [kind, FactorKind.dual?] at inequality
  | inequality dual => rfl

omit [Scalar α] in
theorem bind_keeps (factor : Factor α) (noise : Noise α) (kind : FactorKind) (keys : List Key) (f : NonlinearFactor α)
    (bound : bind keys factor noise kind = .ok f) : f.keys = keys ∧ f.factor = factor ∧ f.kind = kind := by
  unfold bind at bound
  split at bound
  · split at bound <;> cases bound
    exact ⟨rfl, rfl, rfl⟩
  · cases bound

omit [Scalar α] in
theorem bind_ok_iff (factor : Factor α) (noise : Noise α) (kind : FactorKind) (keys : List Key) :
    (∃ f, bind keys factor noise kind = .ok f) ↔ noise.dimension = factor.dimension ∧ keys ≠ [] := by
  unfold bind
  by_cases fits : noise.dimension = factor.dimension
  · by_cases empty : keys = [] <;> simp [fits, empty]
  · simp [fits]

end NonlinearFactor

namespace InequalityGraph

open NonlinearFactor

variable (graph : InequalityGraph α) (values : Values α) (duals : Updates α) (tolerance : α) (keys : List Key)

omit [Scalar α] in
theorem add_inequality (f : NonlinearFactor α) (inequality : f.isInequality = true) :
    ∃ grown, graph.add f = .ok grown ∧ grown.factors = graph.factors ++ [f] :=
  ⟨_, dif_pos inequality, rfl⟩

omit [Scalar α] in
theorem admitted_iff (factor : Factor α) (noise : Noise α) (dual : Key) :
    (∃ f grown, bind keys factor noise (.inequality dual) = .ok f ∧ graph.add f = .ok grown ∧
      grown.factors = graph.factors ++ [f]) ↔ noise.dimension = factor.dimension ∧ keys ≠ [] := by
  rw [← NonlinearFactor.bind_ok_iff factor noise (.inequality dual)]
  constructor
  · rintro ⟨f, _, bound, _⟩
    exact ⟨f, bound⟩
  · rintro ⟨f, bound⟩
    have inequality : f.isInequality = true := by
      rw [isInequality, (bind_keeps factor noise _ keys f bound).2.2]
      rfl
    obtain ⟨grown, added, appended⟩ := graph.add_inequality f inequality
    exact ⟨f, grown, bound, added, appended⟩

theorem active_set_no_rows_iff :
    graph.activeSet values tolerance = .error (.noRows keys) ↔
      Reaches (fun g => ∃ e, g.BeginsWith values e) (Rowless values keys) graph.factors := by
  have asked : graph.activeSet values tolerance = .error (.noRows keys) ↔
      graph.factors.filterM (·.isActive values tolerance) = .error (.noRows keys) := by
    rw [activeSet, bind_error_iff]
    simp
  rw [asked, filter_all_error_iff]
  clear asked
  obtain ⟨factors, inequality⟩ := graph
  dsimp only
  induction factors with
  | nil => simp only [reaches_nil]
  | cons g rest ih =>
      obtain ⟨first, others⟩ := List.forall_mem_cons.mp inequality
      have passes : (∃ keep, g.isActive values tolerance = .ok keep) ↔ ∃ e, g.BeginsWith values e := by
        simp only [is_active_eq g values first, Outcome.bind_ok_iff, leading_ok_iff]
        exact ⟨fun ⟨_, e, begins, _⟩ => ⟨e, begins⟩, fun ⟨e, begins⟩ => ⟨_, e, begins, rfl⟩⟩
      have stops : g.isActive values tolerance = .error (.noRows keys) ↔ g.Rowless values keys := by
        rw [is_active_eq g values first, bind_error_iff, leading_no_rows_iff]
        simp
      rw [reaches_cons_iff, reaches_cons_iff, passes, stops]
      exact or_congr_right (and_congr_right' (ih others))

theorem check_ok_iff (answer : Bool) :
    graph.check values duals tolerance = .ok answer ↔
      ∃ found, firstViolation values duals tolerance graph.factors = .ok found ∧ found.isNone = answer := by
  rw [check, violation?, Outcome.bind_ok_iff]
  simp

theorem check_error_iff (cause : ConstraintError α) :
    graph.check values duals tolerance = .error cause ↔
      Reaches (fun g => ∃ e, g.BeginsWith values e ∧ judge g e duals tolerance = none)
        (fun f => f.leading values = .error cause) graph.factors := by
  have asked : graph.check values duals tolerance = .error cause ↔
      firstViolation values duals tolerance graph.factors = .error cause := by
    rw [check, bind_error_iff, violation?]
    simp
  rw [asked]
  clear asked
  generalize graph.factors = factors
  induction factors with
  | nil => simp [firstViolation, reaches_nil]
  | cons g rest ih =>
      rw [firstViolation, bind_error_iff, reaches_cons_iff]
      refine or_congr_right (Iff.trans ⟨?_, ?_⟩ (and_congr_right' ih))
      · rintro ⟨e, begins, later⟩
        cases judged : judge g e duals tolerance with
        | none => exact ⟨⟨e, (g.leading_ok_iff values e).mp begins, judged⟩, by simpa [judged] using later⟩
        | some violation => simp [judged] at later
      · rintro ⟨⟨e, begins, judged⟩, later⟩
        exact ⟨e, (g.leading_ok_iff values e).mpr begins, by simpa [judged] using later⟩

theorem check_no_rows_iff :
    graph.check values duals tolerance = .error (.noRows keys) ↔
      Reaches (fun g => ∃ e, g.BeginsWith values e ∧ judge g e duals tolerance = none) (Rowless values keys)
        graph.factors := by
  simp only [check_error_iff, leading_no_rows_iff]

theorem answered_of_rows (tall : ∀ f ∈ graph.factors, 0 < f.dimension) :
    graph.activeSet values tolerance ≠ .error (.noRows keys) ∧
      graph.check values duals tolerance ≠ .error (.noRows keys) := by
  have unreached (passed : NonlinearFactor α → Prop) : ¬ Reaches passed (Rowless values keys) graph.factors := by
    intro reached
    obtain ⟨f, mem, flat⟩ := reaches_found _ _ _ reached
    exact (tall f mem).ne' flat.dimension
  rw [ne_eq, ne_eq, active_set_no_rows_iff, check_no_rows_iff]
  exact ⟨unreached _, unreached _⟩

theorem missing_row_iff :
    (graph.activeSet values tolerance = .error (.noRows keys) ↔
      Reaches (fun g => ∃ e, g.BeginsWith values e) (Rowless values keys) graph.factors) ∧
    (graph.check values duals tolerance = .error (.noRows keys) ↔
      Reaches (fun g => ∃ e, g.BeginsWith values e ∧ judge g e duals tolerance = none) (Rowless values keys)
        graph.factors) ∧
    ∀ (factor : Factor α) (noise : Noise α) (dual : Key),
      (∃ f grown, bind keys factor noise (.inequality dual) = .ok f ∧ graph.add f = .ok grown ∧
        grown.factors = graph.factors ++ [f]) ↔ noise.dimension = factor.dimension ∧ keys ≠ [] :=
  ⟨graph.active_set_no_rows_iff values tolerance keys, graph.check_no_rows_iff values duals tolerance keys,
    graph.admitted_iff keys⟩

theorem question_without_row :
    ∃ (f : NonlinearFactor Float) (graph : InequalityGraph Float) (values : Values Float),
      bind [⟨'v', 0⟩] (Factor.prior ([] : List Float)) (.unit 0) (.inequality ⟨'d', 0⟩) = .ok f ∧
      add .empty f = .ok graph ∧ Values.ofEntries [(⟨'v', 0⟩, .vector [])] = .ok values ∧
      ∀ tolerance, graph.activeSet values tolerance = .error (.noRows [⟨'v', 0⟩]) ∧
        graph.check values .empty tolerance = .error (.noRows [⟨'v', 0⟩]) :=
  ⟨_, _, _, rfl, rfl, rfl, fun _ => ⟨rfl, rfl⟩⟩

end InequalityGraph

end FactorGraph
