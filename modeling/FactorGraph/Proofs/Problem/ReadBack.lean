import FactorGraph.Proofs.Optimizer.History
import FactorGraph.Proofs.Problem.Closed

set_option autoImplicit false

namespace FactorGraph

variable {α : Type} [Scalar α]

namespace Values

variable (values : Values α) (key : Key)

theorem lookup_camera_iff (camera : Camera α) :
    values.lookup (Camera α) key = .ok camera ↔ values.get? key = some (.camera camera) := by
  rw [lookup, find]
  cases found : values.get? key with
  | none => simp
  | some value => cases value <;> simp [Variable.ofValue?]

theorem lookup_point_iff (point : Vec3 α) :
    values.lookup (Vec3 α) key = .ok point ↔ values.get? key = some (.point3 point) := by
  rw [lookup, find]
  cases found : values.get? key with
  | none => simp
  | some value => cases value <;> simp [Variable.ofValue?]

end Values

namespace Bundle

variable (bundle : Bundle α)

structure Reads (values : Values α) (data : Bundle α) : Prop where
  cameras : data.cameras.length = bundle.cameras.length
  camera : ∀ i camera, data.cameras[i]? = some camera → values.get? (.camera i) = some (.camera camera)
  observations : data.tracks.map (·.observations) = bundle.tracks.map (·.observations)
  point : ∀ j track, data.tracks[j]? = some track → values.get? (.point j) = some (.point3 track.point)

def readTrack (values : Values α) (j : ℕ) (track : Track α) : Except (GraphError α) (Track α) :=
  values.lookup (Vec3 α) (.point j) >>= fun point => .ok { track with point }

theorem read_track_iff (values : Values α) (j : ℕ) (track moved : Track α) :
    readTrack values j track = .ok moved ↔
      values.get? (.point j) = some (.point3 moved.point) ∧ moved.observations = track.observations := by
  rw [readTrack, Outcome.bind_ok_iff]
  constructor
  · rintro ⟨point, found, made⟩
    cases made
    exact ⟨(Values.lookup_point_iff _ _ _).mp found, rfl⟩
  · rintro ⟨found, same⟩
    cases moved
    cases same
    exact ⟨_, (Values.lookup_point_iff _ _ _).mpr found, rfl⟩

theorem with_values_eq (values : Values α) : bundle.withValues values =
    ((List.range bundle.cameras.length).mapM fun i => values.lookup (Camera α) (.camera i)) >>= fun cameras =>
      ((bundle.tracks.mapIdx fun j track => (j, track)).mapM fun e => readTrack values e.1 e.2) >>= fun tracks =>
        .ok ⟨cameras, tracks⟩ := rfl

theorem cameras_read_iff (values : Values α) (cameras : List (Camera α)) :
    ((List.range bundle.cameras.length).mapM fun i => values.lookup (Camera α) (.camera i)) = .ok cameras ↔
      cameras.length = bundle.cameras.length ∧
        ∀ i camera, cameras[i]? = some camera → values.get? (.camera i) = some (.camera camera) := by
  rw [Outcome.map_all_ok_iff_at, List.length_range]
  refine and_congr_right fun count => ⟨fun each i camera here => ?_, fun each i place camera there here => ?_⟩
  · obtain ⟨inside, _⟩ := List.getElem?_eq_some_iff.mp here
    exact (values.lookup_camera_iff _ camera).mp (each i i camera (List.getElem?_range (count ▸ inside)) here)
  · obtain ⟨_, rfl⟩ := List.getElem?_eq_some_iff.mp there
    rw [List.getElem_range]
    exact (values.lookup_camera_iff _ camera).mpr (each i camera here)

theorem tracks_read_iff (values : Values α) (tracks : List (Track α)) :
    ((bundle.tracks.mapIdx fun j track => (j, track)).mapM fun e => readTrack values e.1 e.2) = .ok tracks ↔
      tracks.map (·.observations) = bundle.tracks.map (·.observations) ∧
        ∀ j track, tracks[j]? = some track → values.get? (.point j) = some (.point3 track.point) := by
  rw [Outcome.map_all_ok_iff_at, List.length_mapIdx]
  constructor
  · rintro ⟨count, each⟩
    have read (j : ℕ) (inside : j < tracks.length) := (read_track_iff values j _ tracks[j]).mp
      (each j (j, bundle.tracks[j]) tracks[j] (by simp [← count, inside]) (List.getElem?_eq_getElem inside))
    refine ⟨List.ext_getElem (by simp [count]) fun j inside _ => ?_, fun j track here => ?_⟩
    · rw [List.length_map] at inside
      simpa using (read j inside).2
    · obtain ⟨inside, rfl⟩ := List.getElem?_eq_some_iff.mp here
      exact (read j inside).1
  · rintro ⟨same, each⟩
    have count : tracks.length = bundle.tracks.length := by simpa using congrArg List.length same
    refine ⟨count, fun j e track there here => ?_⟩
    obtain ⟨inside, rfl⟩ := List.getElem?_eq_some_iff.mp here
    obtain ⟨_, rfl⟩ := List.getElem?_eq_some_iff.mp there
    rw [List.getElem_mapIdx]
    refine (read_track_iff values j _ _).mpr ⟨each j _ here, ?_⟩
    have sightings := congrArg (·[j]?) same
    simpa [List.getElem?_eq_getElem inside, List.getElem?_eq_getElem (count ▸ inside)] using sightings

theorem with_values_ok_iff (values : Values α) (data : Bundle α) :
    bundle.withValues values = .ok data ↔ bundle.Reads values data := by
  rw [with_values_eq, Outcome.bind_ok_iff]
  constructor
  · rintro ⟨cameras, seen, done⟩
    obtain ⟨tracks, moved, done⟩ := (Outcome.bind_ok_iff _ _ _).mp done
    cases done
    obtain ⟨count, camera⟩ := (cameras_read_iff bundle values cameras).mp seen
    obtain ⟨observations, point⟩ := (tracks_read_iff bundle values tracks).mp moved
    exact ⟨count, camera, observations, point⟩
  · rintro ⟨count, camera, observations, point⟩
    refine ⟨data.cameras, (cameras_read_iff bundle values _).mpr ⟨count, camera⟩, ?_⟩
    exact (Outcome.bind_ok_iff _ _ _).mpr
      ⟨data.tracks, (tracks_read_iff bundle values _).mpr ⟨observations, point⟩, rfl⟩

theorem reads_initial : bundle.Reads (bundle.initial .general) bundle where
  cameras := rfl
  camera := initial_camera bundle .general
  observations := rfl
  point := initial_point bundle .general

theorem mem_initial_keys (model : CameraModel) (key : Key) : key ∈ (bundle.initial model).keys ↔
    (∃ i < bundle.cameras.length, key = .camera i) ∨ ∃ j < bundle.tracks.length, key = .point j := by
  rw [initial, SortedMap.mem_keys_of_list, entries, List.map_append, List.mem_append]
  simp [List.mem_mapIdx, eq_comm]

section Reached

variable (values : Values α) (same : values.shape = (bundle.initial .general).shape)

include same

theorem reached_camera (i : ℕ) (inside : i < bundle.cameras.length) :
    ∃ camera, values.get? (.camera i) = some (.camera camera) := by
  have signature := Values.signature_of_shape _ values same (.camera i)
  rw [initial_camera bundle .general i _ (List.getElem?_eq_getElem inside)] at signature
  obtain ⟨value, found, type⟩ := Option.map_eq_some_iff.mp signature
  cases value with
  | camera camera => exact ⟨camera, found⟩
  | _ => cases type

theorem reached_point (j : ℕ) (inside : j < bundle.tracks.length) :
    ∃ point, values.get? (.point j) = some (.point3 point) := by
  have signature := Values.signature_of_shape _ values same (.point j)
  rw [initial_point bundle .general j _ (List.getElem?_eq_getElem inside)] at signature
  obtain ⟨value, found, type⟩ := Option.map_eq_some_iff.mp signature
  cases value with
  | point3 point => exact ⟨point, found⟩
  | _ => cases type

theorem with_values_succeeds : ∃ data, bundle.withValues values = .ok data := by
  obtain ⟨cameras, seen⟩ := Outcome.map_all_succeeds (fun i => values.lookup (Camera α) (.camera i))
    (List.range bundle.cameras.length) fun i mem => by
      obtain ⟨camera, found⟩ := reached_camera bundle values same i (List.mem_range.mp mem)
      exact ⟨camera, (values.lookup_camera_iff _ _).mpr found⟩
  obtain ⟨tracks, moved⟩ := Outcome.map_all_succeeds (fun e => readTrack values e.1 e.2)
    (bundle.tracks.mapIdx fun j track => (j, track)) fun e mem => by
      obtain ⟨j, inside, rfl⟩ := List.mem_mapIdx.mp mem
      obtain ⟨point, found⟩ := reached_point bundle values same j inside
      exact ⟨{ bundle.tracks[j] with point }, (read_track_iff values j _ _).mpr ⟨found, rfl⟩⟩
  exact ⟨⟨cameras, tracks⟩, by rw [with_values_eq, seen, Outcome.ok_bind, moved, Outcome.ok_bind]⟩

theorem initial_of_reads (data : Bundle α) (reads : bundle.Reads values data) : data.initial .general = values := by
  have tracks : data.tracks.length = bundle.tracks.length := by simpa using congrArg List.length reads.observations
  have keys : (data.initial .general).keys = values.keys := by
    rw [Values.keys_of_shape values _ same]
    refine SortedMap.sorted_eq_of_mem _ _ (SortedMap.sorted _) (SortedMap.sorted _) fun key => ?_
    rw [mem_initial_keys, mem_initial_keys, reads.cameras, tracks]
  refine SortedMap.ext_get _ _ fun key => ?_
  by_cases named : key ∈ (data.initial .general).keys
  · rcases (mem_initial_keys data .general key).mp named with ⟨i, inside, rfl⟩ | ⟨j, inside, rfl⟩
    · have here := List.getElem?_eq_getElem inside
      rw [initial_camera data .general i _ here, reads.camera i _ here]
      rfl
    · have here := List.getElem?_eq_getElem inside
      rw [initial_point data .general j _ here, reads.point j _ here]
  · rw [(SortedMap.get_eq_none_iff _ key).mpr named, (SortedMap.get_eq_none_iff _ key).mpr (keys ▸ named)]

end Reached

omit [Scalar α] in
theorem Reads.valid {values : Values α} {data : Bundle α} (reads : bundle.Reads values data) (valid : bundle.Valid) :
    data.Valid where
  cameras none := valid.cameras (List.eq_nil_of_length_eq_zero (by rw [← reads.cameras, none]; rfl))
  tracks none := by
    have lists := reads.observations
    rw [none] at lists
    exact valid.tracks (List.map_eq_nil_iff.mp lists.symm)
  inside track mem observation seen := by
    have list : track.observations ∈ bundle.tracks.map (·.observations) := by
      rw [← reads.observations]
      exact List.mem_map_of_mem mem
    obtain ⟨original, among, same⟩ := List.mem_map.mp list
    rw [reads.cameras]
    exact valid.inside original among observation (same ▸ seen)

theorem usable_of_build (model : CameraModel) (options : BundleOptions α) (built : Graph α × Values α)
    (done : bundle.build model options = .ok built) : bundle.Valid ∧ ∀ sigma ∈ options.sigmas, Noise.Usable sigma := by
  obtain ⟨sightings, resolved, _⟩ := build_ok bundle model options built done
  have valid : bundle.Valid := (resolves_iff bundle).mp ⟨sightings, resolved⟩
  refine ⟨valid, ?_⟩
  by_contra unusable
  obtain ⟨sigma, rest⟩ := not_forall.mp unusable
  obtain ⟨_, _, _, refused⟩ := (bundle.build_cases model options).2.1 ((validate_ok_iff bundle).mpr valid)
    ⟨sigma, Classical.not_imp.mp rest⟩
  cases done.symm.trans refused

def ReadsBack (options : BundleOptions α) (values : Values α) : Prop :=
  ∃ data graph, bundle.withValues values = .ok data ∧ data.cameras.length = bundle.cameras.length ∧
    data.tracks.length = bundle.tracks.length ∧
    data.tracks.map (·.observations) = bundle.tracks.map (·.observations) ∧
    data.build .general options = .ok (graph, values)

theorem reads_back_of_moves (options : BundleOptions α) (graph : Graph α) (values moved : Values α)
    (built : bundle.build .general options = .ok (graph, values))
    (moves : Relation.ReflTransGen Values.Moves values moved) : bundle.ReadsBack options moved := by
  obtain ⟨_, _, made⟩ := build_ok bundle .general options _ built
  obtain ⟨_, rfl⟩ := Prod.mk.inj made
  have same := Values.reached_shape _ moved moves
  obtain ⟨data, read⟩ := with_values_succeeds bundle moved same
  have reads := (with_values_ok_iff bundle moved data).mp read
  obtain ⟨valid, usable⟩ := usable_of_build bundle .general options _ built
  obtain ⟨rebuilt, _, again, _⟩ := (data.build_cases .general options).2.2
    ((validate_ok_iff data).mpr (reads.valid bundle valid)) usable
  obtain ⟨_, _, made⟩ := build_ok data .general options _ again
  rw [(Prod.mk.inj made).2, initial_of_reads bundle moved same data reads] at again
  exact ⟨data, rebuilt, read, reads.cameras, by simpa using congrArg List.length reads.observations, reads.observations,
    again⟩

end Bundle

theorem Optimizer.optimize_moves {σ : Type} (solver : LinearSolver α σ) (config : Config α) (graph : Graph α)
    (initial : Values α) (result : OptimizationResult α) (finished : optimize solver config graph initial = .ok result) :
    Relation.ReflTransGen Values.Moves initial result.values := by
  obtain ⟨run, status, reached, _, rfl⟩ := optimize_ok _ _ _ _ _ finished
  obtain ⟨_, _, rfl, _, _, course⟩ := run_ok _ _ _ _ _ reached
  have moves := descent_moves _ _ _ _ (course_descends _ _ _ _ _ _ _ _ course)
  exact List.relationReflTransGen_of_exists_isChain_cons _ moves
    ((List.getLast_eq_iff_getLast?_eq_some (List.cons_ne_nil _ _)).mpr run.values_last)

namespace Bundle

theorem estimates_read_back (bundle : Bundle α) (options : BundleOptions α) (graph : Graph α) (values : Values α)
    (built : bundle.build .general options = .ok (graph, values)) :
    bundle.withValues values = .ok bundle ∧
    (∀ moved, Relation.ReflTransGen Values.Moves values moved → bundle.ReadsBack options moved) ∧
    ∀ {σ : Type} (solver : LinearSolver α σ) (config : Config α) (task : Graph α) (result : OptimizationResult α),
      Optimizer.optimize solver config task values = .ok result → bundle.ReadsBack options result.values := by
  refine ⟨?_, fun moved moves => bundle.reads_back_of_moves options graph values moved built moves,
    fun solver config task result finished => bundle.reads_back_of_moves options graph values _ built
      (Optimizer.optimize_moves solver config task values result finished)⟩
  obtain ⟨_, _, made⟩ := build_ok bundle .general options _ built
  rw [(Prod.mk.inj made).2]
  exact (with_values_ok_iff bundle _ bundle).mpr (reads_initial bundle)

def pointUnseen : Bundle Float := { pointAhead with tracks := pointAhead.tracks ++ [⟨⟨0.0, 0.0, 1.0⟩, []⟩] }

theorem estimates_read_back_behind :
    ∃ graph values moved data, pointUnseen.build .general .standard = .ok (graph, values) ∧
      values.retract backwards = .ok moved ∧ pointUnseen.withValues values = .ok pointUnseen ∧
      pointUnseen.withValues moved = .ok data ∧ data.tracks.length = 2 ∧
      ∃ again, data.build .general .standard = .ok (again, moved) := by
  obtain ⟨⟨graph, values⟩, built, moves⟩ := Outcome.passes_ok
    (fun built => Outcome.passes (fun _ => true) (built.2.retract backwards)) (pointUnseen.build .general .standard)
    (by decide +kernel)
  obtain ⟨moved, reached, _⟩ := Outcome.passes_ok _ _ moves
  obtain ⟨same, onward, _⟩ := estimates_read_back pointUnseen .standard graph values built
  obtain ⟨data, again, read, _, tracks, _, rebuilt⟩ := onward moved (.single ⟨_, reached⟩)
  exact ⟨graph, values, moved, data, built, reached, same, read, tracks, again, rebuilt⟩

end Bundle

end FactorGraph
