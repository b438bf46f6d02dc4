import FactorGraph.Proofs.Graph.Constraints
import FactorGraph.Proofs.Order

set_option autoImplicit false

namespace FactorGraph

open Outcome

variable {α : Type} [Scalar α]

namespace NonlinearFactor

-- The factor holds: its first row is not above the tolerance, and is tight where its dual has a multiplier.
def Complementary (values : Values α) (duals : Updates α) (tolerance : α) (f : NonlinearFactor α) : Prop :=
  ∃ e, f.BeginsWith values e ∧ e ≤ tolerance ∧
    ∀ dual, f.kind.dual? = some dual → dual ∈ duals.keys → Scalar.abs e ≤ tolerance

def Violates (values : Values α) (duals : Updates α) (tolerance : α) (f : NonlinearFactor α) : Prop :=
  ∃ e, f.BeginsWith values e ∧
    (tolerance < e ∨ ∃ dual, f.kind.dual? = some dual ∧ dual ∈ duals.keys ∧ tolerance < Scalar.abs e)

def Fails (values : Values α) (f : NonlinearFactor α) : Prop := ∃ cause, f.residual values = .error cause

variable (f : NonlinearFactor α) (values : Values α) (duals : Updates α) (tolerance e : α)

theorem begins_unique (other : α) (first : f.BeginsWith values e) (second : f.BeginsWith values other) : other = e := by
  obtain ⟨_, first⟩ := first
  obtain ⟨_, second⟩ := second
  cases first.symm.trans second
  rfl

theorem begins_finite (begins : f.BeginsWith values e) : Scalar.isFinite e = true := by
  obtain ⟨rest, evaluated⟩ := begins
  have checked := f.check_residual_finite _ (f.residual_checked values _ evaluated)
  exact List.all_eq_true.mp checked e List.mem_cons_self

theorem begins_of_evaluates (tall : 0 < f.dimension) (evaluates : ¬ f.Fails values) : ∃ e, f.BeginsWith values e := by
  cases evaluated : f.residual values with
  | error cause => exact absurd ⟨cause, evaluated⟩ evaluates
  | ok residual =>
      cases residual with
      | nil =>
          have flat := f.residual_length values [] evaluated
          rw [f.noise_dimension] at flat
          exact absurd flat.symm tall.ne'
      | cons e rest => exact ⟨e, rest, evaluated⟩

theorem leading_error_iff_fails (tall : 0 < f.dimension) :
    (∃ cause, f.leading values = .error cause) ↔ f.Fails values := by
  constructor
  · rintro ⟨cause, failed⟩
    by_contra evaluates
    obtain ⟨e, begins⟩ := f.begins_of_evaluates values tall evaluates
    cases ((f.leading_ok_iff values e).mpr begins).symm.trans failed
  · rintro ⟨cause, failed⟩
    exact ⟨.graph cause, by simp [leading, failed, Except.mapError]⟩

end NonlinearFactor

namespace InequalityGraph

open NonlinearFactor

variable (graph : InequalityGraph α) (f : NonlinearFactor α) (values : Values α) (duals : Updates α) (tolerance e : α)

theorem judge_some_iff : judge f e duals tolerance ≠ none ↔
    tolerance < e ∨ ∃ dual, f.kind.dual? = some dual ∧ dual ∈ duals.keys ∧ tolerance < Scalar.abs e := by
  unfold judge
  by_cases high : tolerance < e
  · simp [high]
  · rw [if_neg high]
    cases f.kind.dual? with
    | none => simp [high]
    | some dual => simp [high, SortedMap.contains_iff_mem_keys]

section Multipliers

variable (others : Updates α) (same : ∀ key, key ∈ others.keys ↔ key ∈ duals.keys)

include same

theorem judge_same_keys : judge f e others tolerance = judge f e duals tolerance := by
  unfold judge
  simp only [SortedMap.contains_iff_mem_keys, same]

theorem check_same_keys : graph.check values others tolerance = graph.check values duals tolerance := by
  have agrees : ∀ factors : List (NonlinearFactor α),
      firstViolation values others tolerance factors = firstViolation values duals tolerance factors := by
    intro factors
    induction factors with
    | nil => rfl
    | cons f rest ih => simp only [firstViolation, judge_same_keys f duals tolerance _ others same, ih]
  simp only [check, violation?, agrees]

end Multipliers

theorem violates_iff : f.Violates values duals tolerance ↔
    ∃ e, f.BeginsWith values e ∧ judge f e duals tolerance ≠ none := by
  simp only [Violates, judge_some_iff]

theorem passes_iff_not_violates (begins : f.BeginsWith values e) :
    (∃ other, f.BeginsWith values other ∧ judge f other duals tolerance = none) ↔ ¬ f.Violates values duals tolerance := by
  have only (other : α) (again : f.BeginsWith values other) : other = e := f.begins_unique values e other begins again
  rw [violates_iff]
  constructor
  · rintro ⟨other, again, judged⟩ ⟨_, still, violated⟩
    rw [only _ again] at judged
    rw [only _ still] at violated
    exact violated judged
  · intro kept
    by_contra violated
    exact kept ⟨e, begins, fun judged => violated ⟨e, begins, judged⟩⟩

-- Before the first constraint that cannot be evaluated, one that does not hold ends the check without an error.
theorem check_error_iff_reaches (tall : ∀ f ∈ graph.factors, 0 < f.dimension) :
    (∃ cause, graph.check values duals tolerance = .error cause) ↔
      Reaches (fun f => ¬ f.Violates values duals tolerance) (Fails values) graph.factors := by
  simp only [check_error_iff]
  generalize graph.factors = factors at tall
  induction factors with
  | nil => simp [reaches_nil]
  | cons f rest ih =>
      obtain ⟨first, others⟩ := List.forall_mem_cons.mp tall
      simp only [reaches_cons_iff, exists_or, exists_and_left, f.leading_error_iff_fails values first, ih others]
      by_cases fails : f.Fails values
      · simp only [fails, true_or]
      · obtain ⟨e, begins⟩ := f.begins_of_evaluates values first fails
        rw [passes_iff_not_violates f values duals tolerance e begins]

theorem check_answers (tall : ∀ f ∈ graph.factors, 0 < f.dimension)
    (evaluate : ∀ f ∈ graph.factors, ∃ residual, f.residual values = .ok residual) :
    ∃ answer, graph.check values duals tolerance = .ok answer := by
  cases checked : graph.check values duals tolerance with
  | ok answer => exact ⟨answer, rfl⟩
  | error cause =>
      obtain ⟨f, mem, _, failed⟩ := reaches_found _ _ _
        ((graph.check_error_iff_reaches values duals tolerance tall).mp ⟨cause, checked⟩)
      obtain ⟨residual, evaluated⟩ := evaluate f mem
      cases evaluated.symm.trans failed

theorem first_violation_none_iff (factors : List (NonlinearFactor α)) :
    firstViolation values duals tolerance factors = .ok none ↔
      ∀ f ∈ factors, ∃ e, f.BeginsWith values e ∧ judge f e duals tolerance = none := by
  induction factors with
  | nil => simp [firstViolation]
  | cons f rest ih =>
      rw [firstViolation, Outcome.bind_ok_iff, List.forall_mem_cons, ← ih]
      constructor
      · rintro ⟨e, begins, later⟩
        cases judged : judge f e duals tolerance with
        | none => exact ⟨⟨e, (f.leading_ok_iff values e).mp begins, judged⟩, by simpa [judged] using later⟩
        | some violation => simp [judged] at later
      · rintro ⟨⟨e, begins, judged⟩, later⟩
        exact ⟨e, (f.leading_ok_iff values e).mpr begins, by simpa [judged] using later⟩

section Ordered

variable [Scalar.Signed α]

theorem judge_none_iff (begins : f.BeginsWith values e) (compares : tolerance ≤ tolerance) :
    judge f e duals tolerance = none ↔
      e ≤ tolerance ∧ ∀ dual, f.kind.dual? = some dual → dual ∈ duals.keys → Scalar.abs e ≤ tolerance := by
  have number := Scalar.Ordered.le_refl e (f.begins_finite values e begins)
  rw [← not_iff_not, ← ne_eq, judge_some_iff, ← Scalar.not_lt_iff e tolerance number compares,
    ← Scalar.not_lt_iff (Scalar.abs e) tolerance (Scalar.abs_comparable e number) compares]
  push Not
  tauto

theorem complementary_iff (compares : tolerance ≤ tolerance) : f.Complementary values duals tolerance ↔
    ∃ e, f.BeginsWith values e ∧ judge f e duals tolerance = none :=
  exists_congr fun e => and_congr_right fun begins => (judge_none_iff f values duals tolerance e begins compares).symm

theorem check_true_iff (compares : tolerance ≤ tolerance) :
    graph.check values duals tolerance = .ok true ↔ ∀ f ∈ graph.factors, f.Complementary values duals tolerance := by
  simp only [check_ok_iff, Option.isNone_iff_eq_none, exists_eq_right, first_violation_none_iff,
    complementary_iff _ values duals tolerance compares]

theorem check_reordered (tall : ∀ f ∈ graph.factors, 0 < f.dimension)
    (evaluate : ∀ f ∈ graph.factors, ∃ residual, f.residual values = .ok residual) (compares : tolerance ≤ tolerance)
    (other : InequalityGraph α) (perm : other.factors.Perm graph.factors) :
    other.check values duals tolerance = graph.check values duals tolerance := by
  obtain ⟨answer, asked⟩ := graph.check_answers values duals tolerance tall evaluate
  obtain ⟨again, repeated⟩ := other.check_answers values duals tolerance (fun f mem => tall f (perm.mem_iff.mp mem))
    fun f mem => evaluate f (perm.mem_iff.mp mem)
  have first := graph.check_true_iff values duals tolerance compares
  have second := other.check_true_iff values duals tolerance compares
  simp only [perm.mem_iff] at second
  rw [← first, asked, repeated, Except.ok.injEq, Except.ok.injEq, ← Bool.eq_iff_iff] at second
  rw [asked, repeated, second]

theorem check_fewer_multipliers (compares : tolerance ≤ tolerance) (more : Updates α)
    (kept : ∀ key ∈ duals.keys, key ∈ more.keys) (holds : graph.check values more tolerance = .ok true) :
    graph.check values duals tolerance = .ok true := by
  rw [check_true_iff _ _ _ _ compares] at holds ⊢
  intro f mem
  obtain ⟨e, begins, low, tight⟩ := holds f mem
  exact ⟨e, begins, low, fun dual named given => tight dual named (kept dual given)⟩

theorem check_wider_tolerance (wider : α) (above : tolerance ≤ wider)
    (holds : graph.check values duals tolerance = .ok true) : graph.check values duals wider = .ok true := by
  obtain ⟨narrow, wide⟩ := Scalar.Ordered.comparable _ _ above
  rw [check_true_iff _ _ _ _ narrow] at holds
  rw [check_true_iff _ _ _ _ wide]
  intro f mem
  obtain ⟨e, begins, low, tight⟩ := holds f mem
  exact ⟨e, begins, Scalar.Ordered.le_trans _ _ _ low above, fun dual named given =>
    Scalar.Ordered.le_trans _ _ _ (tight dual named given) above⟩

theorem check_active (compares : tolerance ≤ tolerance) (holds : graph.check values duals tolerance = .ok true) :
    ∃ active, graph.activeSet values tolerance = .ok active ∧
      ∀ dual ∈ graph.dualKeys, dual ∈ duals.keys → dual ∈ active := by
  rw [check_true_iff _ _ _ _ compares] at holds
  have asked (f : NonlinearFactor α) (mem : f ∈ graph.factors) (e : α) (begins : f.BeginsWith values e) :
      f.isActive values tolerance = .ok (decide (-tolerance ≤ e)) := by
    rw [f.is_active_eq values (graph.inequality f mem), (f.leading_ok_iff values e).mpr begins, ok_bind]
  obtain ⟨active, filtered⟩ := filter_all_succeeds (·.isActive values tolerance) graph.factors fun f mem => by
    obtain ⟨e, begins, _⟩ := holds f mem
    exact ⟨_, asked f mem e begins⟩
  refine ⟨active.filterMap (·.kind.dual?), by rw [activeSet, filtered]; rfl, fun dual mem given => ?_⟩
  obtain ⟨f, present, named⟩ := List.mem_filterMap.mp mem
  obtain ⟨e, begins, _, tight⟩ := holds f present
  have reaches : -tolerance ≤ e := Scalar.neg_le_of_abs_le e tolerance
    (Scalar.Ordered.le_refl e (f.begins_finite values e begins)) (tight dual named given)
  refine List.mem_filterMap.mpr ⟨f, (filter_all_mem _ _ _ filtered f).mpr ⟨present, ?_⟩, named⟩
  rw [asked f present e begins, decide_eq_true reaches]

/-- With a row in every constraint and a tolerance that is a number, an estimate is feasible and complementary where all
constraints hold, in whichever order they stand. Of the multipliers the keys alone matter. -/
theorem check_decides_complementarity (tall : ∀ f ∈ graph.factors, 0 < f.dimension) (compares : tolerance ≤ tolerance) :
    ((∀ f ∈ graph.factors, ∃ residual, f.residual values = .ok residual) →
      ∃ answer, graph.check values duals tolerance = .ok answer ∧
        (answer = true ↔ ∀ f ∈ graph.factors, f.Complementary values duals tolerance) ∧
        ∀ other : InequalityGraph α, other.factors.Perm graph.factors →
          other.check values duals tolerance = .ok answer) ∧
    (∀ others : Updates α, (∀ key, key ∈ others.keys ↔ key ∈ duals.keys) →
      graph.check values others tolerance = graph.check values duals tolerance) ∧
    (∀ more : Updates α, (∀ key ∈ duals.keys, key ∈ more.keys) →
      graph.check values more tolerance = .ok true → graph.check values duals tolerance = .ok true) ∧
    (∀ wider, tolerance ≤ wider →
      graph.check values duals tolerance = .ok true → graph.check values duals wider = .ok true) ∧
    (graph.check values duals tolerance = .ok true →
      ∃ active, graph.activeSet values tolerance = .ok active ∧
        ∀ dual ∈ graph.dualKeys, dual ∈ duals.keys → dual ∈ active) ∧
    ((∃ cause, graph.check values duals tolerance = .error cause) ↔
      Reaches (fun f => ¬ f.Violates values duals tolerance) (Fails values) graph.factors) := by
  refine ⟨fun evaluate => ?_, graph.check_same_keys values duals tolerance,
    graph.check_fewer_multipliers values duals tolerance compares, graph.check_wider_tolerance values duals tolerance,
    graph.check_active values duals tolerance compares, graph.check_error_iff_reaches values duals tolerance tall⟩
  obtain ⟨answer, asked⟩ := graph.check_answers values duals tolerance tall evaluate
  refine ⟨answer, asked, ?_, fun other perm => ?_⟩
  · rw [← check_true_iff _ _ _ _ compares, asked, Except.ok.injEq]
  · rw [graph.check_reordered values duals tolerance tall evaluate compares other perm, asked]

end Ordered

def boundedBy (bound : Float) (dual : Key) : NonlinearFactor Float where
  keys := [⟨'b', 0⟩]
  factor := Factor.componentBound 0 bound .upper
  noise := .isotropic 1 0.25
  kind := .inequality dual
  noise_dimension := rfl
  keys_ne_nil := List.cons_ne_nil _ _

-- One bound is exceeded by nothing but the tolerance and has a multiplier, the other is far away.
def twoBounds : InequalityGraph Float where
  factors := [boundedBy 1 ⟨'d', 0⟩, boundedBy 8 ⟨'d', 1⟩]
  inequality := by simp [boundedBy, isInequality, FactorKind.dual?]

theorem check_decides_complementarity_at_the_edge :
    ∃ (origin : Values Float) (duals : Updates Float) (active : List Key),
      Values.ofEntries [(⟨'b', 0⟩, .vector [0])] = .ok origin ∧ duals.keys = [⟨'d', 0⟩] ∧
      (boundedBy 1 ⟨'d', 0⟩).BeginsWith origin (-1) ∧ twoBounds.check origin duals 1 = .ok true ∧
      twoBounds.activeSet origin 1 = .ok active ∧ ⟨'d', 0⟩ ∈ active := by
  let origin : Values Float := SortedMap.empty.insert ⟨'b', 0⟩ (.vector [0])
  let duals : Updates Float := SortedMap.empty.insert ⟨'d', 0⟩ [3]
  have tall : ∀ f ∈ twoBounds.factors, 0 < f.dimension := by simp [twoBounds, boundedBy, dimension, Factor.componentBound]
  obtain ⟨_, checked, rfl⟩ := Outcome.passes_ok id (twoBounds.check origin duals 1) (by decide +kernel)
  obtain ⟨active, found, present⟩ :=
    (twoBounds.check_decides_complementarity origin duals 1 tall (by decide +kernel)).2.2.2.2.1 checked
  exact ⟨origin, duals, active, rfl, rfl, ⟨[], rfl⟩, checked, found, present _ (by decide) (by decide)⟩

end InequalityGraph

end FactorGraph
