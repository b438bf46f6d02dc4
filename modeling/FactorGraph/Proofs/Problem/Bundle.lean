import Mathlib
import FactorGraph.Problem.Bundle
import FactorGraph.Proofs.Camera.Snavely
import FactorGraph.Proofs.Factor.Evaluation
import FactorGraph.Proofs.Graph.Coordinates
import FactorGraph.Proofs.Graph.Linearization

set_option autoImplicit false

namespace FactorGraph

namespace NonlinearFactor

variable {α : Type} [Scalar α]

theorem prior_dimension (value : Value α) : (StandardFactor.prior value).factor.dimension = value.dimension := by
  cases value <;> rfl

def gauge (key : Key) (value : Value α) (sigma : α) : NonlinearFactor α where
  keys := [key]
  factor := (StandardFactor.prior value).factor
  noise := .isotropic value.dimension sigma
  kind := .equality
  noise_dimension := (prior_dimension value).symm
  keys_ne_nil := by simp

theorem observation_dimension (model : CameraModel) (camera : Camera α) (pixel : Vec2 α) :
    (model.observation camera pixel).dimension = 2 := by
  cases model <;> rfl

def sighted (model : CameraModel) (sigma : α) (s : Sighting α) : NonlinearFactor α where
  keys := [.camera s.cameraIndex, .point s.trackIndex]
  factor := model.observation s.camera s.pixel
  noise := .isotropic 2 sigma
  kind := .equality
  noise_dimension := (observation_dimension model s.camera s.pixel).symm
  keys_ne_nil := by simp

end NonlinearFactor

namespace Noise

variable {α : Type} [Scalar α]

def Usable (sigma : α) : Prop := Scalar.isFinite sigma = true ∧ 0 < sigma

theorem check_sigma_ok_iff (sigma : α) : checkSigma sigma = .ok () ↔ Usable sigma := by
  unfold checkSigma Usable
  split <;> simp_all

theorem check_sigma_error (sigma : α) (unusable : ¬ Usable sigma) : checkSigma sigma = .error (.noise (.sigma sigma)) := by
  unfold checkSigma
  split
  · rename_i passed
    rw [Bool.and_eq_true, decide_eq_true_eq] at passed
    exact absurd passed unusable
  · rfl

end Noise

namespace Values

variable {α : Type}

theorem fold_add_once (entries : List (Key × Value α)) (values : Values α) (once : (entries.map Prod.fst).Nodup)
    (fresh : ∀ key ∈ entries.map Prod.fst, key ∉ values.keys) :
    entries.foldlM (fun values e => values.add e.1 e.2) values =
      .ok (entries.foldl (fun values e => values.insert e.1 e.2) values) := by
  induction entries generalizing values with
  | nil => rfl
  | cons e rest ih =>
      obtain ⟨here, later⟩ := List.nodup_cons.mp once
      obtain ⟨unknown, others⟩ := List.forall_mem_cons.mp fresh
      have added : values.add e.1 e.2 = .ok (values.insert e.1 e.2) :=
        if_neg fun known => unknown ((SortedMap.contains_iff_mem_keys values e.1).mp known)
      rw [List.foldlM_cons, added, Outcome.ok_bind, List.foldl_cons]
      refine ih _ later fun key mem inserted => ?_
      rcases (SortedMap.mem_keys_insert values e.1 e.2 key).mp inserted with rfl | known
      · exact here mem
      · exact others key mem known

theorem of_entries_once (entries : List (Key × Value α)) (once : (entries.map Prod.fst).Nodup) :
    ofEntries entries = .ok (SortedMap.ofList entries) :=
  fold_add_once entries .empty once fun _ _ impossible => by simp [SortedMap.keys, SortedMap.empty] at impossible

end Values

namespace CameraModel

variable {α : Type} [Scalar α]

theorem value_dimension (model : CameraModel) (camera : Camera α) : (model.value camera).dimension = model.dimension := by
  cases model <;> rfl

end CameraModel

namespace Bundle

section Initial

variable {α : Type} [Scalar α] (bundle : Bundle α) (model : CameraModel)

def initial : Values α := .ofList (bundle.entries model)

theorem initial_keys_once : ((bundle.entries model).map Prod.fst).Nodup := by
  have cameras : (bundle.cameras.mapIdx fun i camera => (Key.camera i, model.value camera)).map Prod.fst =
      (List.range bundle.cameras.length).map Key.camera := List.ext_getElem (by simp) (by simp)
  have points : (bundle.tracks.mapIdx fun j track => (Key.point j, Value.point3 track.point)).map Prod.fst =
      (List.range bundle.tracks.length).map Key.point := List.ext_getElem (by simp) (by simp)
  rw [entries, List.map_append, cameras, points, List.nodup_append]
  refine ⟨List.nodup_range.map ?_, List.nodup_range.map ?_, ?_⟩
  · intro i j same
    exact congrArg Key.index same
  · intro i j same
    exact congrArg Key.index same
  · simp [Key.camera, Key.point]

theorem entries_inserted : Values.ofEntries (bundle.entries model) = .ok (bundle.initial model) :=
  Values.of_entries_once _ (initial_keys_once bundle model)

theorem initial_camera (i : Nat) (camera : Camera α) (found : bundle.cameras[i]? = some camera) :
    (bundle.initial model).get? (.camera i) = some (model.value camera) := by
  refine SortedMap.get_of_list _ (initial_keys_once bundle model) _ _ (List.mem_append_left _ ?_)
  obtain ⟨bound, rfl⟩ := List.getElem?_eq_some_iff.mp found
  exact List.mem_mapIdx.mpr ⟨i, bound, rfl⟩

theorem initial_point (j : Nat) (track : Track α) (found : bundle.tracks[j]? = some track) :
    (bundle.initial model).get? (.point j) = some (.point3 track.point) := by
  refine SortedMap.get_of_list _ (initial_keys_once bundle model) _ _ (List.mem_append_right _ ?_)
  obtain ⟨bound, rfl⟩ := List.getElem?_eq_some_iff.mp found
  exact List.mem_mapIdx.mpr ⟨j, bound, rfl⟩

end Initial

section Build

variable {α : Type} [Scalar α]

open NonlinearFactor in
-- The graph of a bundle: the sightings in order, then the priors.
def graphOf (sightings : Sightings α) (model : CameraModel) (options : BundleOptions α) : Graph α :=
  sightings.sightings.map (sighted model options.pixelSigma)
    ++ options.cameraSigma.toList.map (gauge (.camera 0) (model.value sightings.firstCamera))
    ++ options.pointSigma.toList.map (gauge (.point 0) (.point3 sightings.firstTrack.point))

omit [Scalar α] in
theorem bind_self (f : NonlinearFactor α) : NonlinearFactor.bind f.keys f.factor f.noise f.kind = .ok f := by
  unfold NonlinearFactor.bind
  rw [dif_pos f.noise_dimension, dif_pos f.keys_ne_nil]

theorem of_sigma_ok (dimension : Nat) (sigma : α) (noise : Noise α) (done : Noise.ofSigma dimension sigma = .ok noise) :
    noise = .isotropic dimension sigma := by
  obtain ⟨_, _, made⟩ := (Outcome.bind_ok_iff _ _ _).mp done
  cases made
  rfl

theorem priors_ok (key : Key) (value : Value α) (dimension : Nat) (fits : value.dimension = dimension) (sigma : Option α)
    (graph : List (NonlinearFactor α)) (done : priors key value dimension sigma = .ok graph) :
    graph = sigma.toList.map (NonlinearFactor.gauge key value) := by
  subst fits
  cases sigma with
  | none => cases done; rfl
  | some sigma =>
      obtain ⟨noise, isotropic, rest⟩ := (Outcome.bind_ok_iff _ _ _).mp done
      cases of_sigma_ok _ _ _ isotropic
      have bound := bind_self (NonlinearFactor.gauge key value sigma)
      obtain ⟨factor, made, rest⟩ := (Outcome.bind_ok_iff _ _ _).mp rest
      cases bound.symm.trans made
      cases rest
      rfl

theorem sighted_all (sightings : List (Sighting α)) (model : CameraModel) (sigma : α) :
    (sightings.mapM fun s =>
      NonlinearFactor.bind [.camera s.cameraIndex, .point s.trackIndex] (model.observation s.camera s.pixel)
        (.isotropic 2 sigma) .equality) = .ok (sightings.map (NonlinearFactor.sighted model sigma)) := by
  have each (s : Sighting α) := bind_self (NonlinearFactor.sighted model sigma s)
  exact (congrArg (sightings.mapM ·) (funext each)).trans List.mapM_pure

theorem factors_ok (sightings : Sightings α) (model : CameraModel) (options : BundleOptions α) (graph : Graph α)
    (done : factors sightings model options = .ok graph) : graph = graphOf sightings model options := by
  obtain ⟨noise, isotropic, done⟩ := (Outcome.bind_ok_iff _ _ _).mp done
  obtain ⟨observations, seen, done⟩ := (Outcome.bind_ok_iff _ _ _).mp done
  obtain ⟨camera, first, done⟩ := (Outcome.bind_ok_iff _ _ _).mp done
  obtain ⟨point, second, done⟩ := (Outcome.bind_ok_iff _ _ _).mp done
  cases of_sigma_ok _ _ _ isotropic
  cases priors_ok _ _ _ (model.value_dimension sightings.firstCamera) _ _ first
  cases priors_ok _ _ _ rfl _ _ second
  cases (sighted_all sightings.sightings model options.pixelSigma).symm.trans seen
  cases done
  rfl

theorem of_sigma_succeeds (dimension : Nat) (sigma : α) (usable : Noise.Usable sigma) :
    Noise.ofSigma dimension sigma = .ok (.isotropic dimension sigma) := by
  rw [Noise.ofSigma, (Noise.check_sigma_ok_iff sigma).mpr usable]
  rfl

theorem priors_succeed (key : Key) (value : Value α) (dimension : Nat) (fits : value.dimension = dimension)
    (sigma : Option α) (usable : ∀ s ∈ sigma, Noise.Usable s) :
    priors key value dimension sigma = .ok (sigma.toList.map (NonlinearFactor.gauge key value)) := by
  subst fits
  cases sigma with
  | none => rfl
  | some sigma =>
      rw [priors, of_sigma_succeeds _ _ (usable sigma rfl), Outcome.ok_bind]
      exact congrArg (· >>= fun factor => .ok [factor]) (bind_self (NonlinearFactor.gauge key value sigma))

theorem build_succeeds (bundle : Bundle α) (model : CameraModel) (options : BundleOptions α) (sightings : Sightings α)
    (resolved : bundle.resolve = .ok sightings) (pixel : Noise.Usable options.pixelSigma)
    (camera : ∀ s ∈ options.cameraSigma, Noise.Usable s) (point : ∀ s ∈ options.pointSigma, Noise.Usable s) :
    bundle.build model options = .ok (graphOf sightings model options, bundle.initial model) := by
  rw [build, resolved, Outcome.ok_bind, factors, of_sigma_succeeds 2 _ pixel, Outcome.ok_bind, sighted_all,
    Outcome.ok_bind, priors_succeed _ _ _ (model.value_dimension sightings.firstCamera) _ camera, Outcome.ok_bind,
    priors_succeed _ _ 3 rfl _ point, entries_inserted]
  rfl

theorem build_ok (bundle : Bundle α) (model : CameraModel) (options : BundleOptions α) (built : Graph α × Values α)
    (done : bundle.build model options = .ok built) :
    ∃ sightings, bundle.resolve = .ok sightings ∧ built = (graphOf sightings model options, bundle.initial model) := by
  obtain ⟨sightings, resolved, done⟩ := (Outcome.bind_ok_iff _ _ _).mp done
  obtain ⟨graph, made, done⟩ := (Outcome.bind_ok_iff _ _ _).mp done
  cases factors_ok _ _ _ _ ((Outcome.map_error_ok_iff _ _ _).mp made)
  rw [entries_inserted] at done
  cases done
  exact ⟨sightings, resolved, rfl⟩

omit [Scalar α] in
theorem sightings_of_ok (cameras : List (Camera α)) (j : Nat) (track : Track α) (sightings : List (Sighting α))
    (done : sightingsOf cameras j track = .ok sightings) :
    sightings.length = track.observations.length ∧
      ∀ s ∈ sightings, cameras[s.cameraIndex]? = some s.camera ∧ s.trackIndex = j := by
  refine ⟨((Outcome.map_all_ok_iff _ _ _).mp done).length_eq.symm, fun s mem => ?_⟩
  obtain ⟨⟨index, pixel⟩, _, made⟩ := Outcome.map_all_outputs _ _ _ done s mem
  dsimp only at made
  split at made
  · cases made
  · rename_i camera found
    cases made
    exact ⟨found, rfl⟩

omit [Scalar α] in
theorem sightings_count (cameras : List (Camera α)) (tracks : List (Nat × Track α)) (lists : List (List (Sighting α)))
    (done : tracks.mapM (fun (j, track) => sightingsOf cameras j track) = .ok lists) :
    lists.flatten.length = ((tracks.map Prod.snd).flatMap (·.observations)).length := by
  induction (Outcome.map_all_ok_iff _ _ _).mp done with
  | nil => rfl
  | cons here others ih =>
      have rest := ih ((Outcome.map_all_ok_iff _ _ _).mpr others)
      rw [List.flatten_cons, List.length_append, rest, (sightings_of_ok _ _ _ _ here).1, List.map_cons,
        List.flatMap_cons, List.length_append]

omit [Scalar α] in
/-- What the sightings of a bundle are: one for each observation, with the camera that it names. -/
theorem resolve_ok (bundle : Bundle α) (sightings : Sightings α) (done : bundle.resolve = .ok sightings) :
    bundle.cameras[0]? = some sightings.firstCamera ∧ bundle.tracks[0]? = some sightings.firstTrack ∧
      sightings.sightings.length = bundle.observationCount ∧
      ∀ s ∈ sightings.sightings,
        bundle.cameras[s.cameraIndex]? = some s.camera ∧ s.trackIndex < bundle.tracks.length := by
  unfold resolve at done
  split at done
  · rename_i camera cameras track tracks someCameras someTracks
    obtain ⟨lists, made, done⟩ := (Outcome.bind_ok_iff _ _ _).mp done
    cases done
    refine ⟨by rw [someCameras]; rfl, by rw [someTracks]; rfl, ?_, fun s mem => ?_⟩
    · have each : (bundle.tracks.mapIdx fun j track => (j, track)).map Prod.snd = bundle.tracks :=
        List.ext_getElem (by simp) (by simp)
      rw [sightings_count _ _ _ made, each]
      rfl
    · obtain ⟨list, inside, mem⟩ := List.mem_flatten.mp mem
      obtain ⟨⟨j, track⟩, there, made⟩ := Outcome.map_all_outputs _ _ _ made list inside
      obtain ⟨found, place⟩ := (sightings_of_ok _ _ _ _ made).2 s mem
      obtain ⟨i, bound, same⟩ := List.mem_mapIdx.mp there
      cases same
      exact ⟨found, place.trans_lt bound⟩
  · cases done

end Build

end Bundle

namespace CameraModel

def oriented (r : Vec2 ℝ) : CameraModel → Vec2 ℝ
  | general => r
  | fixedLens => r
  | snavely => ⟨r.x, -r.y⟩

end CameraModel

namespace NonlinearFactor

-- What a model of the camera asks of it: a rotation, whose converted form is exact.
structure Convertible (c : Camera ℝ) : Prop where
  unit : c.pose.Unit
  closed : (SnavelyCamera.ofCamera c).rotation = 0 ∨ Scalar.epsilon < (SnavelyCamera.ofCamera c).rotation.normSquared

theorem check_residual_ok (f : NonlinearFactor ℝ) (residual : List ℝ) (length : residual.length = f.dimension) :
    f.checkResidual residual = .ok () := by
  rw [checkResidual, if_neg (not_not.mpr length), if_pos (all_finite residual)]

theorem sighted_evaluate (model : CameraModel) (s : Sighting ℝ) (convertible : Convertible s.camera) (point : Vec3 ℝ) :
    (model.observation s.camera s.pixel).evaluate [model.value s.camera, .point3 point] .residual =
      match s.camera.project point with
      | .ok pixel => .ok ⟨(model.oriented (pixel - s.pixel)).toList, none⟩
      | .error fault => .error (.cheirality fault) := by
  cases model <;> simp only [CameraModel.observation, CameraModel.value, Factor.cameraProjection, Factor.projection,
    Factor.snavelyProjection, Factor.checkArity, Factor.variableAt, Variable.ofValue?, List.length_cons,
    List.length_nil, List.getElem?_cons_zero, List.getElem?_cons_succ, if_true, Outcome.ok_bind, Factor.reprojection]
  case general => cases s.camera.project point <;> rfl
  case fixedLens => cases s.camera.project point <;> rfl
  case snavely =>
      rw [SnavelyCamera.of_list_to_list]
      dsimp only
      rw [SnavelyCamera.project_of_camera _ convertible.unit _ convertible.closed]
      cases s.camera.project point with
      | error fault => rfl
      | ok pixel =>
          have flipped := SnavelyCamera.measurement_sub pixel s.pixel s.camera.calibration.principalPoint
          simp only [Except.map, Except.mapError, Outcome.ok_bind, Outcome.return_ok, flipped]
          rfl

theorem sighted_residual (model : CameraModel) (sigma : ℝ) (s : Sighting ℝ) (convertible : Convertible s.camera)
    (values : Values ℝ) (point : Vec3 ℝ) (first : values.get? (.camera s.cameraIndex) = some (model.value s.camera))
    (second : values.get? (.point s.trackIndex) = some (.point3 point)) :
    (sighted model sigma s).residual values =
      match s.camera.project point with
      | .ok pixel => .ok (model.oriented (pixel - s.pixel)).toList
      | .error fault =>
          .error (.factor (.keys [.camera s.cameraIndex, .point s.trackIndex]) (.cheirality fault)) := by
  have gathered : (sighted model sigma s).gather values = .ok [model.value s.camera, .point3 point] :=
    (gather_ok_iff _ _ _).mpr (.cons first (.cons second .nil))
  rw [residual, gathered, Outcome.ok_bind, evaluate]
  change (Except.mapError _ ((model.observation s.camera s.pixel).evaluate _ _) >>= _) = _
  rw [sighted_evaluate model s convertible]
  cases s.camera.project point with
  | error fault => rfl
  | ok pixel =>
      have accepted : (sighted model sigma s).checkResidual (model.oriented (pixel - s.pixel)).toList = .ok () :=
        check_residual_ok _ _ (observation_dimension model s.camera s.pixel).symm
      simp only [Except.mapError, Outcome.ok_bind, accepted]
      rfl

theorem gauge_residual (key : Key) (value : Value ℝ) (sigma : ℝ) (values : Values ℝ)
    (known : values.get? key = some value)
    (still : value.localCoordinates? value = some (.ok (List.replicate value.dimension 0))) :
    (gauge key value sigma).residual values = .ok (List.replicate value.dimension 0) := by
  have gathered : (gauge key value sigma).gather values = .ok [value] :=
    (gather_ok_iff _ _ _).mpr (.cons known .nil)
  have evaluated : (gauge key value sigma).evaluate [value] .residual = .ok ⟨List.replicate value.dimension 0, none⟩ := by
    rw [evaluate, gauge, Factor.prior_value_residual _ _ _ still]
    rfl
  have accepted : (gauge key value sigma).checkResidual (List.replicate value.dimension 0) = .ok () :=
    check_residual_ok _ _ (by rw [List.length_replicate]; exact (prior_dimension value).symm)
  rw [residual, gathered, Outcome.ok_bind, evaluated, Outcome.ok_bind, accepted]
  rfl

end NonlinearFactor

theorem CameraModel.local_self (model : CameraModel) (camera : Camera ℝ) (unit : camera.pose.Unit) :
    (model.value camera).localCoordinates? (model.value camera) =
      some (.ok (List.replicate (model.value camera).dimension 0)) := by
  refine Value.local_self _ ?_
  cases model with
  | general => exact unit
  | fixedLens => exact unit
  | snavely => trivial

namespace NonlinearFactor

theorem error_eq (f : NonlinearFactor ℝ) (values : Values ℝ) :
    f.error values = (f.residual values).map fun r => Noise.squaredNorm (f.noise.whiten r) := by
  rw [error, whitened]
  cases f.residual values <;> rfl

theorem gauge_error (key : Key) (value : Value ℝ) (sigma : ℝ) (values : Values ℝ)
    (known : values.get? key = some value)
    (still : value.localCoordinates? value = some (.ok (List.replicate value.dimension 0))) :
    (gauge key value sigma).error values = .ok 0 := by
  rw [error_eq, gauge_residual key value sigma values known still]
  have zeros (n : ℕ) : Block.dot (List.replicate n (0 : ℝ)) (List.replicate n 0) = 0 := by
    rw [dot_eq_sum]
    simp
  have whitened : (gauge key value sigma).noise.whiten (List.replicate value.dimension 0) =
      List.replicate value.dimension 0 := by
    change (List.replicate value.dimension 0).map (· / sigma) = _
    rw [List.map_replicate, zero_div]
  change Except.ok (Noise.squaredNorm (Noise.whiten _ _)) = _
  rw [whitened, Noise.squaredNorm, zeros]

theorem sighted_error (model : CameraModel) (sigma : ℝ) (s : Sighting ℝ) (convertible : Convertible s.camera)
    (values : Values ℝ) (point : Vec3 ℝ) (first : values.get? (.camera s.cameraIndex) = some (model.value s.camera))
    (second : values.get? (.point s.trackIndex) = some (.point3 point)) :
    (sighted model sigma s).error values =
      match s.camera.project point with
      | .ok pixel => .ok (Noise.squaredNorm ((pixel - s.pixel).toList.map (· / sigma)))
      | .error fault =>
          .error (.factor (.keys [.camera s.cameraIndex, .point s.trackIndex]) (.cheirality fault)) := by
  rw [error_eq, sighted_residual model sigma s convertible values point first second]
  cases s.camera.project point with
  | error fault => rfl
  | ok pixel =>
      refine congrArg Except.ok ?_
      change Noise.squaredNorm ((model.oriented (pixel - s.pixel)).toList.map (· / sigma)) = _
      cases model with
      | general => rfl
      | fixedLens => rfl
      | snavely =>
          simp only [CameraModel.oriented, Vec2.toList, List.map_cons, List.map_nil, Noise.squaredNorm, dot_eq_sum,
            neg_div, List.zipWith_cons_cons, List.zipWith_nil_right, neg_mul_neg]

end NonlinearFactor

namespace Bundle

open NonlinearFactor

theorem sighting_found (bundle : Bundle ℝ) (sightings : Sightings ℝ) (resolved : bundle.resolve = .ok sightings)
    (s : Sighting ℝ) (mem : s ∈ sightings.sightings) :
    ∃ point : Vec3 ℝ, ∀ model : CameraModel,
      (bundle.initial model).get? (.camera s.cameraIndex) = some (model.value s.camera) ∧
      (bundle.initial model).get? (.point s.trackIndex) = some (.point3 point) := by
  obtain ⟨camera, track⟩ := (resolve_ok bundle sightings resolved).2.2.2 s mem
  exact ⟨bundle.tracks[s.trackIndex].point, fun model =>
    ⟨initial_camera bundle model _ _ camera, initial_point bundle model _ _ (List.getElem?_eq_getElem track)⟩⟩

theorem equalities_graph_of (sightings : Sightings ℝ) (model : CameraModel) (options : BundleOptions ℝ) :
    (graphOf sightings model options).equalities = graphOf sightings model options := by
  refine List.filter_eq_self.mpr fun f mem => ?_
  simp only [graphOf, List.mem_append, List.mem_map] at mem
  obtain (⟨_, _, rfl⟩ | ⟨_, _, rfl⟩) | ⟨_, _, rfl⟩ := mem <;> rfl

def Gauged (sightings : Sightings ℝ) (model : CameraModel) (key : Key) (value : Value ℝ) : Prop :=
  key = .camera 0 ∧ value = model.value sightings.firstCamera ∨
    key = .point 0 ∧ value = .point3 sightings.firstTrack.point

theorem priors_found (bundle : Bundle ℝ) (sightings : Sightings ℝ) (resolved : bundle.resolve = .ok sightings)
    (convertible : ∀ c ∈ bundle.cameras, Convertible c) (model : CameraModel) (key : Key) (value : Value ℝ)
    (gauged : Gauged sightings model key value) :
    (bundle.initial model).get? key = some value ∧
      value.localCoordinates? value = some (.ok (List.replicate value.dimension 0)) := by
  obtain ⟨camera, track, _, _⟩ := resolve_ok bundle sightings resolved
  rcases gauged with ⟨rfl, rfl⟩ | ⟨rfl, rfl⟩
  · exact ⟨initial_camera bundle model 0 _ camera,
      model.local_self _ (convertible _ (List.mem_of_getElem? camera)).unit⟩
  · exact ⟨initial_point bundle model 0 _ track, congrArg some (Vec3.local_self _)⟩

theorem errors_eq_errors (bundle : Bundle ℝ) (options : BundleOptions ℝ) (sightings : Sightings ℝ)
    (resolved : bundle.resolve = .ok sightings) (convertible : ∀ c ∈ bundle.cameras, Convertible c)
    (model other : CameraModel) :
    (graphOf sightings model options).map (·.error (bundle.initial model)) =
      (graphOf sightings other options).map (·.error (bundle.initial other)) := by
  simp only [graphOf, List.map_append, List.map_map]
  have zero (model : CameraModel) (key : Key) (value : Value ℝ) (sigma : ℝ)
      (gauged : Gauged sightings model key value) :=
    let found := priors_found bundle sightings resolved convertible model key value gauged
    gauge_error key value sigma _ found.1 found.2
  refine congrArg₂ (· ++ ·) (congrArg₂ (· ++ ·) ?_ ?_) ?_
  · refine List.map_congr_left fun s mem => ?_
    obtain ⟨point, found⟩ := sighting_found bundle sightings resolved s mem
    have camera := convertible _ (List.mem_of_getElem? ((resolve_ok bundle sightings resolved).2.2.2 s mem).1)
    exact (sighted_error model _ s camera _ point (found model).1 (found model).2).trans
      (sighted_error other _ s camera _ point (found other).1 (found other).2).symm
  · refine List.map_congr_left fun sigma _ => ?_
    exact (zero model _ _ sigma (.inl ⟨rfl, rfl⟩)).trans (zero other _ _ sigma (.inl ⟨rfl, rfl⟩)).symm
  · refine List.map_congr_left fun sigma _ => ?_
    exact (zero model _ _ sigma (.inr ⟨rfl, rfl⟩)).trans (zero other _ _ sigma (.inr ⟨rfl, rfl⟩)).symm

theorem error_eq_error (bundle : Bundle ℝ) (options : BundleOptions ℝ) (sightings : Sightings ℝ)
    (resolved : bundle.resolve = .ok sightings) (convertible : ∀ c ∈ bundle.cameras, Convertible c)
    (model other : CameraModel) :
    (graphOf sightings model options).error (bundle.initial model) =
      (graphOf sightings other options).error (bundle.initial other) := by
  have mapped (graph : Graph ℝ) (values : Values ℝ) :
      graph.mapM (·.error values) = (graph.map (·.error values)).mapM id := by
    rw [List.mapM_map]
    rfl
  rw [Graph.error, Graph.error, equalities_graph_of, equalities_graph_of, mapped, mapped,
    errors_eq_errors bundle options sightings resolved convertible model other]

theorem factor_of_sighting (sightings : Sightings ℝ) (model : CameraModel) (options : BundleOptions ℝ) (k : ℕ)
    (inside : k < sightings.sightings.length) :
    (graphOf sightings model options)[k]? = some (sighted model options.pixelSigma sightings.sightings[k]) := by
  rw [graphOf, List.append_assoc, List.getElem?_append_left (by simpa using inside), List.getElem?_map,
    List.getElem?_eq_getElem inside]
  rfl

theorem priors_hold (bundle : Bundle ℝ) (options : BundleOptions ℝ) (sightings : Sightings ℝ)
    (resolved : bundle.resolve = .ok sightings) (convertible : ∀ c ∈ bundle.cameras, Convertible c)
    (model : CameraModel) (f : NonlinearFactor ℝ)
    (mem : f ∈ (graphOf sightings model options).drop bundle.observationCount) :
    f.residual (bundle.initial model) = .ok (List.replicate f.dimension 0) := by
  have holds (key : Key) (value : Value ℝ) (sigma : ℝ) (gauged : Gauged sightings model key value) :
      (gauge key value sigma).residual (bundle.initial model) =
        .ok (List.replicate (gauge key value sigma).dimension 0) := by
    obtain ⟨known, still⟩ := priors_found bundle sightings resolved convertible model key value gauged
    rw [gauge_residual key value sigma _ known still]
    exact congrArg (fun n => Except.ok (List.replicate n 0)) (prior_dimension value).symm
  have count := (resolve_ok bundle sightings resolved).2.2.1
  rw [graphOf, List.append_assoc, List.drop_left' (by rw [List.length_map, count]), List.mem_append] at mem
  rcases mem with mem | mem <;> obtain ⟨sigma, _, rfl⟩ := List.mem_map.mp mem
  · exact holds _ _ _ (.inl ⟨rfl, rfl⟩)
  · exact holds _ _ _ (.inr ⟨rfl, rfl⟩)

/-- The three models of a bundle describe the same measurements. At the values that they are built with, the sightings
have the same residuals, with the second image axis turned over in one model, or cannot be seen at the same depth; all
priors hold; and so the three graphs have the same error. -/
theorem models_agree (bundle : Bundle ℝ) (options : BundleOptions ℝ) (general fixed snavely : Graph ℝ × Values ℝ)
    (first : bundle.build .general options = .ok general) (second : bundle.build .fixedLens options = .ok fixed)
    (third : bundle.build .snavely options = .ok snavely) (units : ∀ c ∈ bundle.cameras, c.pose.Unit)
    (closed : ∀ c ∈ bundle.cameras, (SnavelyCamera.ofCamera c).rotation = 0 ∨
      Scalar.epsilon < (SnavelyCamera.ofCamera c).rotation.normSquared) :
    (∀ k < bundle.observationCount, ∃ f g h,
      general.1[k]? = some f ∧ fixed.1[k]? = some g ∧ snavely.1[k]? = some h ∧
      ((∃ r : Vec2 ℝ, f.residual general.2 = .ok [r.x, r.y] ∧ g.residual fixed.2 = .ok [r.x, r.y] ∧
          h.residual snavely.2 = .ok [r.x, -r.y]) ∨
        (∃ fault, f.residual general.2 = .error (.factor (.keys f.keys) (.cheirality fault)) ∧
          g.residual fixed.2 = .error (.factor (.keys g.keys) (.cheirality fault)) ∧
          h.residual snavely.2 = .error (.factor (.keys h.keys) (.cheirality fault))))) ∧
    (∀ f ∈ general.1.drop bundle.observationCount, f.residual general.2 = .ok (List.replicate f.dimension 0)) ∧
    (∀ f ∈ fixed.1.drop bundle.observationCount, f.residual fixed.2 = .ok (List.replicate f.dimension 0)) ∧
    (∀ f ∈ snavely.1.drop bundle.observationCount, f.residual snavely.2 = .ok (List.replicate f.dimension 0)) ∧
    general.1.error general.2 = fixed.1.error fixed.2 ∧ fixed.1.error fixed.2 = snavely.1.error snavely.2 := by
  have convertible : ∀ c ∈ bundle.cameras, Convertible c := fun c mem => ⟨units c mem, closed c mem⟩
  obtain ⟨sightings, resolved, rfl⟩ := build_ok _ _ _ _ first
  obtain ⟨_, again, rfl⟩ := build_ok _ _ _ _ second
  cases resolved.symm.trans again
  obtain ⟨_, again, rfl⟩ := build_ok _ _ _ _ third
  cases resolved.symm.trans again
  have count := (resolve_ok bundle sightings resolved).2.2.1
  have gauges := priors_hold bundle options sightings resolved convertible
  refine ⟨fun k inside => ?_, gauges .general, gauges .fixedLens, gauges .snavely,
    error_eq_error bundle options sightings resolved convertible _ _,
    error_eq_error bundle options sightings resolved convertible _ _⟩
  rw [← count] at inside
  have at_k (model : CameraModel) := factor_of_sighting sightings model options k inside
  refine ⟨_, _, _, at_k .general, at_k .fixedLens, at_k .snavely, ?_⟩
  have mem := List.getElem_mem inside
  obtain ⟨point, found⟩ := sighting_found bundle sightings resolved _ mem
  have camera := convertible _ (List.mem_of_getElem? ((resolve_ok bundle sightings resolved).2.2.2 _ mem).1)
  have residual (model : CameraModel) :=
    sighted_residual model options.pixelSigma _ camera _ point (found model).1 (found model).2
  cases seen : sightings.sightings[k].camera.project point with
  | ok pixel =>
      simp only [seen] at residual
      exact .inl ⟨pixel - sightings.sightings[k].pixel, residual .general, residual .fixedLens, residual .snavely⟩
  | error fault =>
      simp only [seen] at residual
      exact .inr ⟨fault, residual .general, residual .fixedLens, residual .snavely⟩

-- One camera at the origin, which is half a turn away from its converted form.
theorem models_agree_half_turn :
    let camera : Camera ℝ := ⟨⟨⟨⟨1, 0, 0, 0⟩⟩, 0⟩, ⟨2, 0, 0, 10, 20⟩⟩
    let bundle : Bundle ℝ := ⟨[camera], [⟨⟨1, 2, 4⟩, [(0, ⟨10, 22⟩)]⟩]⟩
    let options : BundleOptions ℝ := ⟨1, some 1, some 1⟩
    ∃ general fixed snavely, bundle.build .general options = .ok general ∧
      bundle.build .fixedLens options = .ok fixed ∧ bundle.build .snavely options = .ok snavely ∧
      general.1.error general.2 = fixed.1.error fixed.2 ∧ fixed.1.error fixed.2 = snavely.1.error snavely.2 := by
  intro camera bundle options
  have resolved : bundle.resolve = .ok ⟨camera, ⟨⟨1, 2, 4⟩, [(0, ⟨10, 22⟩)]⟩, [⟨0, 0, camera, ⟨10, 22⟩⟩]⟩ := rfl
  have built (model : CameraModel) := build_succeeds bundle model options _ resolved ⟨rfl, one_pos⟩
    (fun _ mem => by cases mem; exact ⟨rfl, one_pos⟩) (fun _ mem => by cases mem; exact ⟨rfl, one_pos⟩)
  have unit : camera.pose.Unit := Quat.unit_one
  have half : Scalar.epsilon < (SnavelyCamera.ofCamera camera).rotation.normSquared := by
    have turned : SnavelyCamera.turned camera = ⟨0, 1, 0, 0⟩ := by
      ext <;> simp [SnavelyCamera.turned, camera, Quat.conjugate, Quat.mul_def]
    have axis : (⟨0, 1, 0, 0⟩ : Quat ℝ).imaginary.norm = 1 := by
      change Real.sqrt (1 * 1 + 0 * 0 + 0 * 0) = 1
      norm_num
    have angle : (⟨0, 1, 0, 0⟩ : Quat ℝ).halfAngle = Real.pi / 2 := by
      rw [Quat.halfAngle, axis]
      exact Complex.arg_eq_pi_div_two_iff.mpr ⟨abs_zero, one_pos⟩
    rw [SnavelyCamera.rotation_norm_squared camera unit (by rw [turned, axis]; exact one_ne_zero), turned, angle]
    have wide : (1 : ℝ) < (2 * (Real.pi / 2)) ^ 2 := by nlinarith [Real.pi_gt_three]
    exact epsilon_lt_one.trans wide
  have agree := models_agree bundle options _ _ _ (built .general) (built .fixedLens) (built .snavely)
    (by simpa [bundle] using unit) (by simpa [bundle] using .inr half)
  exact ⟨_, _, _, built .general, built .fixedLens, built .snavely, agree.2.2.2.2⟩

end Bundle

end FactorGraph
