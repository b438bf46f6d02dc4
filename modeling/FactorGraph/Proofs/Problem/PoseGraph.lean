import FactorGraph.Problem.PoseGraph
import FactorGraph.Proofs.Graph.Typed
import FactorGraph.Proofs.Problem.Bundle

set_option autoImplicit false

namespace FactorGraph

variable {α : Type} [Scalar α]

namespace Noise

theorem check_all_ok_iff (sigmas : List α) :
    (forM sigmas checkSigma : Except (GraphError α) PUnit) = .ok () ↔ ∀ sigma ∈ sigmas, Usable sigma := by
  induction sigmas with
  | nil => simp
  | cons sigma rest ih =>
      rw [List.forM_cons, Outcome.bind_ok_iff, List.forall_mem_cons, ← check_sigma_ok_iff, ← ih]
      exact ⟨fun ⟨_, here, others⟩ => ⟨here, others⟩, fun ⟨here, others⟩ => ⟨(), here, others⟩⟩

theorem of_sigmas_ok_iff (sigmas : List α) (noise : Noise α) :
    ofSigmas sigmas = .ok noise ↔ (∀ sigma ∈ sigmas, Usable sigma) ∧ noise = .diagonal sigmas := by
  rw [ofSigmas, Outcome.bind_ok_iff, ← check_all_ok_iff]
  constructor
  · rintro ⟨_, checked, made⟩
    cases made
    exact ⟨checked, rfl⟩
  · rintro ⟨checked, rfl⟩
    exact ⟨(), checked, rfl⟩

end Noise

namespace PoseGraph

-- What a pose graph has to have before anything is built of it.
structure Valid (graph : PoseGraph α) : Prop where
  poses : graph.poses.entries ≠ []
  ends : ∀ c ∈ graph.constraints, c.source ∈ graph.poses.keys ∧ c.target ∈ graph.poses.keys
  sigmas : ∀ c ∈ graph.constraints, ∀ sigma ∈ c.sigmas.toList, Noise.Usable sigma

def anchor (id : Nat) (pose : Pose2 α) : NonlinearFactor α where
  keys := [.pose id]
  factor := Factor.prior pose
  noise := .unit 3
  kind := .equality
  noise_dimension := rfl
  keys_ne_nil := by simp

def relation (c : PoseConstraint α) : NonlinearFactor α where
  keys := [.pose c.source, .pose c.target]
  factor := Factor.between c.measurement
  noise := .diagonal c.sigmas.toList
  kind := .equality
  noise_dimension := rfl
  keys_ne_nil := by simp

variable (graph : PoseGraph α)

omit [Scalar α] in
theorem check_ends_ok_iff (index : Nat) (c : PoseConstraint α) :
    graph.checkEnds index c = .ok () ↔ c.source ∈ graph.poses.keys ∧ c.target ∈ graph.poses.keys := by
  have found := SortedMap.first_missing_none_iff graph.poses [c.source, c.target]
  rw [List.forall_mem_cons, List.forall_mem_singleton] at found
  rw [← found, checkEnds]
  cases [c.source, c.target].find? (!graph.poses.contains ·) <;> simp

theorem constraint_factor_ok_iff (index : Nat) (c : PoseConstraint α) (f : NonlinearFactor α) :
    graph.constraintFactor index c = .ok f ↔
      (c.source ∈ graph.poses.keys ∧ c.target ∈ graph.poses.keys) ∧
        (∀ sigma ∈ c.sigmas.toList, Noise.Usable sigma) ∧ f = relation c := by
  have bound := Bundle.bind_self (relation c)
  rw [constraintFactor, Outcome.bind_ok_iff, ← check_ends_ok_iff graph index c]
  simp only [Outcome.bind_ok_iff, Outcome.map_error_ok_iff, Noise.of_sigmas_ok_iff]
  constructor
  · rintro ⟨_, ends, noise, ⟨usable, rfl⟩, made⟩
    exact ⟨ends, usable, Except.ok.inj (made.symm.trans bound)⟩
  · rintro ⟨ends, usable, rfl⟩
    exact ⟨(), ends, _, ⟨usable, rfl⟩, bound⟩

omit [Scalar α] in
theorem entries_once : (graph.entries.map Prod.fst).Nodup := by
  have keys : graph.entries.map Prod.fst = graph.poses.keys.map Key.pose := by
    rw [entries, SortedMap.keys, List.map_map, List.map_map]
    rfl
  rw [keys]
  exact graph.poses.distinct_keys.map fun i j same => congrArg Key.index same

def initial : Values α := .ofList graph.entries

omit [Scalar α] in
theorem initial_pose (id : Nat) (pose : Pose2 α) (found : graph.poses.get? id = some pose) :
    graph.initial.get? (.pose id) = some (.pose2 pose) := by
  exact SortedMap.get_of_list _ graph.entries_once _ _
    (List.mem_map.mpr ⟨(id, pose), (SortedMap.get_eq_some_iff _ _ _).mp found, rfl⟩)

theorem known_pose (id : Nat) (known : id ∈ graph.poses.keys) :
    (graph.initial.get? (.pose id)).map Value.signature = some (.pose2, 3) := by
  obtain ⟨pose, found⟩ := Option.isSome_iff_exists.mp ((graph.poses.contains_iff_mem_keys id).mpr known)
  rw [initial_pose graph id pose found]
  rfl

theorem anchor_typed (id : Nat) (pose : Pose2 α) (known : id ∈ graph.poses.keys) :
    (anchor id pose).Typed graph.initial :=
  ⟨[(.pose2, 3)], .cons (known_pose graph id known) .nil, Factor.prior_fits (.pose2 pose)⟩

theorem relation_typed (c : PoseConstraint α) (ends : c.source ∈ graph.poses.keys ∧ c.target ∈ graph.poses.keys) :
    (relation c).Typed graph.initial :=
  ⟨[(.pose2, 3), (.pose2, 3)], .cons (known_pose graph _ ends.1) (.cons (known_pose graph _ ends.2) .nil),
    Factor.between_fits c.measurement⟩

theorem build_first (id : Nat) (pose : Pose2 α) (rest : List (Nat × Pose2 α))
    (entries : graph.poses.entries = (id, pose) :: rest) :
    graph.build = (graph.constraints.mapIdx fun i c => (i, c)).mapM (fun (i, c) => graph.constraintFactor i c) >>=
      fun constraints => .ok (anchor id pose :: constraints, graph.initial) := by
  have bound : NonlinearFactor.bind [.pose id] (Factor.prior pose) (.unit 3) .equality = .ok (anchor id pose) :=
    Bundle.bind_self (anchor id pose)
  rw [build, entries]
  dsimp only
  rw [bound, Values.of_entries_once _ graph.entries_once]
  rfl

theorem build_ok (built : Graph α × Values α) (done : graph.build = .ok built) :
    graph.Valid ∧ built.2 = graph.initial ∧ built.1.Typed graph.initial := by
  cases entries : graph.poses.entries with
  | nil => simp [build, entries] at done
  | cons first rest =>
      obtain ⟨id, pose⟩ := first
      rw [build_first graph id pose rest entries] at done
      obtain ⟨factors, each, done⟩ := (Outcome.bind_ok_iff _ _ _).mp done
      cases done
      have known : id ∈ graph.poses.keys := by simp [SortedMap.keys, entries]
      have held : ∀ c ∈ graph.constraints, (c.source ∈ graph.poses.keys ∧ c.target ∈ graph.poses.keys) ∧
          ∀ sigma ∈ c.sigmas.toList, Noise.Usable sigma := by
        intro c mem
        obtain ⟨i, inside, rfl⟩ := List.mem_iff_getElem.mp mem
        obtain ⟨f, _, made⟩ := Outcome.map_all_inputs _ _ _ each (i, graph.constraints[i])
          (List.mem_mapIdx.mpr ⟨i, inside, rfl⟩)
        obtain ⟨ends, usable, _⟩ := (constraint_factor_ok_iff graph i _ f).mp made
        exact ⟨ends, usable⟩
      refine ⟨⟨by simp [entries], fun c mem => (held c mem).1, fun c mem => (held c mem).2⟩, rfl, fun f mem => ?_⟩
      rcases List.mem_cons.mp mem with rfl | mem
      · exact anchor_typed graph id pose known
      · obtain ⟨⟨i, c⟩, _, made⟩ := Outcome.map_all_outputs _ _ _ each f mem
        obtain ⟨ends, _, rfl⟩ := (constraint_factor_ok_iff graph i c f).mp made
        exact relation_typed graph c ends

theorem build_succeeds (valid : graph.Valid) : ∃ built, graph.build = .ok built := by
  obtain ⟨⟨id, pose⟩, rest, entries⟩ := List.exists_cons_of_ne_nil valid.poses
  obtain ⟨factors, each⟩ : ∃ factors, (graph.constraints.mapIdx fun i c => (i, c)).mapM
      (fun (i, c) => graph.constraintFactor i c) = .ok factors := by
    refine Outcome.map_all_succeeds _ _ fun (i, c) mem => ?_
    obtain ⟨_, inside, same⟩ := List.mem_mapIdx.mp mem
    cases same
    have held := List.getElem_mem inside
    exact ⟨_, (constraint_factor_ok_iff graph i _ _).mpr ⟨valid.ends _ held, valid.sigmas _ held, rfl⟩⟩
  exact ⟨_, by rw [build_first graph id pose rest entries, each]; rfl⟩

end PoseGraph

end FactorGraph
