import FactorGraph.Proofs.Graph.System
import FactorGraph.Proofs.Linear.Marginals

set_option autoImplicit false

namespace FactorGraph

open RealOrNaN SparseMatrix

namespace RealOrNaN

theorem foldl_finite {β : Type} (step : RealOrNaN → β → RealOrNaN) (xs : List β) (start : RealOrNaN)
    (finite : Scalar.isFinite start = true)
    (each : ∀ b ∈ xs, ∀ acc, Scalar.isFinite acc = true → Scalar.isFinite (step acc b) = true) :
    Scalar.isFinite (xs.foldl step start) = true := by
  induction xs generalizing start with
  | nil => exact finite
  | cons b rest ih =>
      obtain ⟨first, others⟩ := List.forall_mem_cons.mp each
      exact ih _ (first start finite) others

theorem quotient_finite (x r sigma : RealOrNaN) (quotient : Scalar.isFinite (x / sigma) = true)
    (finite : Scalar.isFinite r = true) : Scalar.isFinite (r / sigma) = true := by
  obtain ⟨y, nonzero, rfl⟩ := divisor_of_finite x sigma quotient
  obtain ⟨z, rfl⟩ := (finite_iff r).mp finite
  rw [number_div z y nonzero]
  rfl

end RealOrNaN

namespace Noise

variable (noise : Noise RealOrNaN)

theorem whiten_finite (residual : List RealOrNaN) (whole : Whole residual) (block : Block RealOrNaN) (i : ℕ)
    (row : List RealOrNaN) (here : (noise.whitenBlock block).rows[i]? = some row) (a : RealOrNaN) (mem : a ∈ row)
    (finite : Scalar.isFinite a = true) (b : RealOrNaN) (there : (noise.whiten residual)[i]? = some b) :
    Scalar.isFinite b = true := by
  have each (r : RealOrNaN) (found : residual[i]? = some r) : Scalar.isFinite r = true :=
    List.all_eq_true.mp whole r (List.mem_of_getElem? found)
  cases noise with
  | unit n => exact each b there
  | isotropic n sigma =>
      obtain ⟨r, found, rfl⟩ := Option.map_eq_some_iff.mp (List.getElem?_map ▸ there)
      obtain ⟨raw, _, rfl⟩ := Option.map_eq_some_iff.mp (List.getElem?_mapIdx ▸ here)
      obtain ⟨x, _, rfl⟩ := List.mem_map.mp mem
      exact quotient_finite x r sigma finite (each r found)
  | diagonal sigmas =>
      obtain ⟨r, sigma, found, known, rfl⟩ := List.getElem?_zipWith_eq_some.mp there
      obtain ⟨raw, _, rfl⟩ := Option.map_eq_some_iff.mp (List.getElem?_mapIdx ▸ here)
      rw [known] at mem
      obtain ⟨x, _, rfl⟩ := List.mem_map.mp mem
      exact quotient_finite x r sigma finite (each r found)

end Noise

def LinearSystem.Sound (row : SortedMap Nat RealOrNaN) (b : RealOrNaN) : Prop :=
  ∀ j a, row.get? j = some a → Scalar.isFinite a = true → Scalar.isFinite b = true

namespace LinearFactor

theorem written_finite (entries : List (Nat × RealOrNaN)) (j : ℕ) (a : RealOrNaN)
    (stored : (rowOfEntries entries).get? j = some a) (finite : Scalar.isFinite a = true) :
    ∃ entry ∈ entries, Scalar.isFinite entry.2 = true := by
  rw [rowOfEntries, get_foldl_accumulate] at stored
  have absent : (SortedMap.empty : SortedMap Nat RealOrNaN).get? j = none := rfl
  rw [absent] at stored
  cases written : (entries.filter (·.1 = j)).map (·.2) with
  | nil => simp [written] at stored
  | cons b rest =>
      obtain ⟨entry, mem, rfl⟩ := List.mem_map.mp (written ▸ List.mem_cons_self : b ∈ (entries.filter (·.1 = j)).map (·.2))
      refine ⟨entry, List.mem_of_mem_filter mem, ?_⟩
      cases odd : entry.2 with
      | number x => rfl
      | nan =>
          rw [written, odd, foldl_added_nan _ none (.inl List.mem_cons_self)] at stored
          cases stored
          cases finite

theorem sparse_rows_sound (f : NonlinearFactor RealOrNaN) (values : Values RealOrNaN) (linear : LinearFactor RealOrNaN)
    (done : f.linearize values = .ok linear) (layout : Layout) (rows : List (SortedMap Nat RealOrNaN))
    (assembled : linear.sparseRows layout = .ok rows) : List.Forall₂ LinearSystem.Sound rows linear.rhs := by
  obtain ⟨arguments, evaluation, raw, made⟩ := f.linearize_ok values linear done
  have whole := f.check_residual_finite _ made.residual
  obtain rfl := made.result
  obtain ⟨blocks, laid, same⟩ := (Outcome.bind_ok_iff _ _ _).mp assembled
  cases same
  refine List.forall₂_iff_get.mpr ⟨by simp [LinearFactor.rows], fun i _ inside => ?_⟩
  simp only [List.get_eq_getElem, List.getElem_map, List.getElem_range]
  intro j a stored finite
  obtain ⟨entry, written, number⟩ := written_finite _ j a stored finite
  obtain ⟨⟨offset, block⟩, among, mem⟩ := List.mem_flatMap.mp written
  obtain ⟨_, _, paired, _⟩ := placed_places layout _ _ blocks laid (offset, block) among
  obtain ⟨unwhitened, _, rfl⟩ := List.mem_map.mp (List.of_mem_zip paired).2
  obtain ⟨k, bound, rfl⟩ := List.mem_mapIdx.mp mem
  cases row : (f.noise.whitenBlock unwhitened).rows[i]? with
  | none => simp [row] at bound
  | some entries =>
      simp only [row, Option.getD_some] at number
      rw [finite_neg]
      exact f.noise.whiten_finite _ whole unwhitened i entries row _ (List.getElem_mem _) number _
        (List.getElem?_eq_getElem _)

end LinearFactor

namespace LinearSystem

variable (system : LinearSystem RealOrNaN)

theorem gradient_whole (numeric : system.demand.Numeric) (sound : List.Forall₂ Sound system.jacobian.rows system.rhs) :
    Whole system.demand.gradient := by
  rw [Demand.gradient, Whole, List.all_eq_true]
  intro g mem
  obtain ⟨j, inside, rfl⟩ := List.mem_map.mp mem
  refine foldl_finite _ _ 0 rfl fun e member acc finite => ?_
  simp only [demand, Block.column_flatten, List.zip_map_right] at member
  obtain ⟨⟨row, b⟩, paired, rfl⟩ := List.mem_map.mp member
  dsimp only [Prod.map_apply, id]
  cases found : row.get? j with
  | none => exact finite
  | some a =>
      have entry := numeric.jacobian row (List.of_mem_zip paired).1 j (List.mem_range.mp inside) a found
      have factor := List.forall₂_zip sound paired j a found entry
      simp [finite, entry, factor]

end LinearSystem

namespace Graph

theorem to_sparse_sound (graph : Graph RealOrNaN) (values : Values RealOrNaN) (linear : LinearGraph RealOrNaN)
    (done : graph.linearize values = .ok linear) (layout : Layout) (system : LinearSystem RealOrNaN)
    (assembled : linear.toSparse layout = .ok system) :
    List.Forall₂ LinearSystem.Sound system.jacobian.rows system.rhs := by
  obtain ⟨lists, each, rfl⟩ := linear.to_sparse_rows_of_ok layout system assembled
  have stem : ∀ l ∈ linear.equalities, ∃ f ∈ graph, NonlinearFactor.linearize f values = .ok l := fun l mem =>
    Outcome.map_all_outputs _ _ _ done l (List.mem_of_mem_filter mem)
  clear assembled
  dsimp only
  generalize linear.equalities = factors at each stem
  induction each with
  | nil => exact .nil
  | @cons l list factors lists here others ih =>
      obtain ⟨⟨f, _, made⟩, later⟩ := List.forall_mem_cons.mp stem
      rw [List.flatten_cons, List.flatMap_cons]
      exact List.rel_append (LinearFactor.sparse_rows_sound f values l made layout list here) (ih later)

end Graph

end FactorGraph
