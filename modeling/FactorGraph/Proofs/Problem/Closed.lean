import FactorGraph.Proofs.Problem.PoseGraph

set_option autoImplicit false

namespace FactorGraph

variable {α : Type} [Scalar α]

def BundleOptions.priorSigmas (options : BundleOptions α) : List α :=
  options.cameraSigma.toList ++ options.pointSigma.toList

def BundleOptions.sigmas (options : BundleOptions α) : List α := options.pixelSigma :: options.priorSigmas

namespace Bundle

-- What a bundle has to have before anything is built of it.
structure Valid (bundle : Bundle α) : Prop where
  cameras : bundle.cameras ≠ []
  tracks : bundle.tracks ≠ []
  inside : ∀ track ∈ bundle.tracks, ∀ observation ∈ track.observations, observation.1 < bundle.cameras.length

inductive Fault (bundle : Bundle α) : ProblemError α → Prop where
  | empty (missing : bundle.cameras = [] ∨ bundle.tracks = []) :
      Fault bundle (.empty (.bundle bundle.cameras.length bundle.tracks.length))
  | cameraIndex (j index : Nat) (track : Track α) (pixel : Vec2 α) (there : bundle.tracks[j]? = some track)
      (seen : (index, pixel) ∈ track.observations) (beyond : bundle.cameras.length ≤ index) :
      Fault bundle (.cameraIndex j index bundle.cameras.length)

section Resolve

variable (bundle : Bundle α) (model : CameraModel) (options : BundleOptions α)

omit [Scalar α]

theorem resolve_error (e : ProblemError α) (failed : bundle.resolve = .error e) : Fault bundle e := by
  unfold resolve at failed
  split at failed
  · rcases (Outcome.bind_error_iff _ _ _).mp failed with failed | ⟨_, _, impossible⟩
    · obtain ⟨⟨j, track⟩, mem, failed⟩ := Outcome.map_all_error _ _ _ failed
      obtain ⟨i, inside, same⟩ := List.mem_mapIdx.mp mem
      cases same
      obtain ⟨⟨index, pixel⟩, seen, failed⟩ := Outcome.map_all_error _ _ _ failed
      dsimp only at failed
      split at failed
      · rename_i outside
        cases failed
        exact .cameraIndex j index _ pixel (List.getElem?_eq_getElem inside) seen (List.getElem?_eq_none_iff.mp outside)
      · cases failed
    · cases impossible
  · rename_i lacking
    cases failed
    refine .empty ?_
    cases cameras : bundle.cameras with
    | nil => exact .inl rfl
    | cons camera others =>
        cases tracks : bundle.tracks with
        | nil => exact .inr rfl
        | cons track rest => exact (lacking _ _ _ _ cameras tracks).elim

theorem fault_invalid (e : ProblemError α) (fault : Fault bundle e) : ¬ bundle.Valid := by
  intro valid
  cases fault with
  | empty missing => exact missing.elim valid.cameras valid.tracks
  | cameraIndex j index track pixel there seen beyond =>
      exact absurd (valid.inside track (List.mem_of_getElem? there) _ seen) (not_lt.mpr beyond)

theorem resolves_iff : (∃ sightings, bundle.resolve = .ok sightings) ↔ bundle.Valid := by
  constructor
  · rintro ⟨sightings, resolved⟩
    obtain ⟨camera, track, _⟩ := resolve_ok bundle sightings resolved
    refine ⟨fun none => by simp [none] at camera, fun none => by simp [none] at track,
      fun track mem (index, pixel) among => ?_⟩
    obtain ⟨j, inside, rfl⟩ := List.mem_iff_getElem.mp mem
    unfold resolve at resolved
    split at resolved
    · obtain ⟨lists, each, _⟩ := (Outcome.bind_ok_iff _ _ _).mp resolved
      obtain ⟨list, _, made⟩ := Outcome.map_all_inputs _ _ _ each (j, bundle.tracks[j])
        (List.mem_mapIdx.mpr ⟨j, inside, rfl⟩)
      obtain ⟨sighting, _, found⟩ := Outcome.map_all_inputs _ _ _ made (index, pixel) among
      by_contra beyond
      dsimp only at found
      rw [List.getElem?_eq_none (not_lt.mp beyond)] at found
      cases found
    · cases resolved
  · intro valid
    cases resolved : bundle.resolve with
    | ok sightings => exact ⟨sightings, rfl⟩
    | error e => exact absurd valid (fault_invalid bundle e (resolve_error bundle e resolved))

theorem validate_eq : bundle.validate = bundle.resolve.map fun _ => () := by
  rw [validate]
  cases bundle.resolve <;> rfl

theorem validate_ok_iff : bundle.validate = .ok () ↔ bundle.Valid := by
  rw [validate_eq, ← resolves_iff]
  cases bundle.resolve with
  | ok sightings => exact ⟨fun _ => ⟨sightings, rfl⟩, fun _ => rfl⟩
  | error e => exact ⟨nofun, nofun⟩

theorem validate_error (e : ProblemError α) (failed : bundle.validate = .error e) : Fault bundle e := by
  rw [validate_eq] at failed
  cases resolved : bundle.resolve with
  | ok sightings =>
      rw [resolved] at failed
      cases failed
  | error d =>
      rw [resolved] at failed
      cases failed
      exact resolve_error bundle e resolved

end Resolve

section Build

variable (bundle : Bundle α) (model : CameraModel) (options : BundleOptions α)

theorem observation_fits (camera : Camera α) (pixel : Vec2 α) :
    (model.observation camera pixel).Fits [(model.value camera).signature, (.point3, 3)] := by
  cases model with
  | general => exact Factor.camera_projection_fits pixel
  | fixedLens => exact Factor.projection_fits pixel camera.calibration
  | snavely => exact Factor.snavely_projection_fits _

theorem gauge_typed (key : Key) (value : Value α) (sigma : α) (values : Values α)
    (known : values.get? key = some value) :
    (NonlinearFactor.gauge key value sigma).Typed values := by
  refine ⟨[value.signature], .cons ?_ .nil, Factor.prior_fits value⟩
  rw [known]
  rfl

theorem graph_of_typed (sightings : Sightings α) (resolved : bundle.resolve = .ok sightings) :
    Graph.Typed (graphOf sightings model options) (bundle.initial model) := by
  obtain ⟨firstCamera, firstTrack, _, each⟩ := resolve_ok bundle sightings resolved
  intro f mem
  rcases List.mem_append.mp mem with mem | point
  · rcases List.mem_append.mp mem with sighted | camera
    · obtain ⟨s, among, rfl⟩ := List.mem_map.mp sighted
      obtain ⟨camera, track⟩ := each s among
      refine ⟨_, .cons ?_ (.cons ?_ .nil), observation_fits model s.camera s.pixel⟩
      · rw [initial_camera bundle model _ _ camera]
        rfl
      · rw [initial_point bundle model _ _ (List.getElem?_eq_getElem track)]
        rfl
    · obtain ⟨sigma, _, rfl⟩ := List.mem_map.mp camera
      exact gauge_typed _ _ sigma _ (initial_camera bundle model 0 _ firstCamera)
  · obtain ⟨sigma, _, rfl⟩ := List.mem_map.mp point
    exact gauge_typed _ _ sigma _ (initial_point bundle model 0 _ firstTrack)

theorem graph_of_length (sightings : Sightings α) (resolved : bundle.resolve = .ok sightings) :
    (graphOf sightings model options).length = bundle.observationCount + options.priorSigmas.length := by
  have count := (resolve_ok bundle sightings resolved).2.2.1
  simp [graphOf, BundleOptions.priorSigmas, count]

theorem of_sigma_fails (dimension : Nat) (sigma : α) (unusable : ¬ Noise.Usable sigma) :
    Noise.ofSigma dimension sigma = .error (.noise (.sigma sigma)) := by
  rw [Noise.ofSigma, Noise.check_sigma_error sigma unusable]
  rfl

theorem priors_fail (key : Key) (value : Value α) (dimension : Nat) (sigma : α) (unusable : ¬ Noise.Usable sigma) :
    priors key value dimension (some sigma) = .error (.noise (.sigma sigma)) := by
  rw [priors, of_sigma_fails _ sigma unusable]
  rfl

theorem factors_unusable (sightings : Sightings α) (unusable : ∃ sigma ∈ options.sigmas, ¬ Noise.Usable sigma) :
    ∃ sigma ∈ options.sigmas, ¬ Noise.Usable sigma ∧
      factors sightings model options = .error (.noise (.sigma sigma)) := by
  by_cases pixel : Noise.Usable options.pixelSigma
  · rw [factors, of_sigma_succeeds 2 _ pixel, Outcome.ok_bind, sighted_all, Outcome.ok_bind]
    by_cases camera : ∀ sigma ∈ options.cameraSigma, Noise.Usable sigma
    · obtain ⟨sigma, among, bad⟩ := unusable
      have last : options.pointSigma = some sigma := by
        simp only [BundleOptions.sigmas, BundleOptions.priorSigmas, List.mem_cons, List.mem_append,
          Option.mem_toList] at among
        rcases among with rfl | first | last
        · exact absurd pixel bad
        · exact absurd (camera sigma first) bad
        · exact last
      refine ⟨sigma, by simp [BundleOptions.sigmas, BundleOptions.priorSigmas, last], bad, ?_⟩
      rw [priors_succeed _ _ _ (model.value_dimension sightings.firstCamera) _ camera, Outcome.ok_bind, last,
        priors_fail _ _ _ sigma bad]
      rfl
    · obtain ⟨sigma, present⟩ := not_forall.mp camera
      obtain ⟨first, bad⟩ := Classical.not_imp.mp present
      rw [Option.mem_def] at first
      refine ⟨sigma, by simp [BundleOptions.sigmas, BundleOptions.priorSigmas, first], bad, ?_⟩
      rw [first, priors_fail _ _ _ sigma bad]
      rfl
  · exact ⟨options.pixelSigma, List.mem_cons_self, pixel, by rw [factors, of_sigma_fails 2 _ pixel]; rfl⟩

/-- A bundle is refused as its validation refuses it, then for a standard deviation; otherwise a sound graph is
built. -/
theorem build_cases :
    (∀ e, bundle.validate = .error e → bundle.build model options = .error e) ∧
    (bundle.validate = .ok () → (∃ sigma ∈ options.sigmas, ¬ Noise.Usable sigma) →
      ∃ sigma ∈ options.sigmas, ¬ Noise.Usable sigma ∧
        bundle.build model options = .error (.graph (.noise (.sigma sigma)))) ∧
    (bundle.validate = .ok () → (∀ sigma ∈ options.sigmas, Noise.Usable sigma) →
      ∃ graph values, bundle.build model options = .ok (graph, values) ∧
        graph.length = bundle.observationCount + options.priorSigmas.length ∧ Graph.Sound graph values) := by
  rw [validate_eq]
  cases resolved : bundle.resolve with
  | error e =>
      refine ⟨fun d same => ?_, fun accepted => ?_, fun accepted => ?_⟩
      · cases same
        rw [build, resolved]
        rfl
      · cases accepted
      · cases accepted
  | ok sightings =>
      refine ⟨fun e refused => ?_, fun _ unusable => ?_, fun _ usable => ?_⟩
      · cases refused
      · obtain ⟨sigma, among, bad, failed⟩ := factors_unusable model options sightings unusable
        refine ⟨sigma, among, bad, ?_⟩
        rw [build, resolved, Outcome.ok_bind, failed]
        rfl
      · have pixel := usable _ List.mem_cons_self
        have priors (sigma : α) (present : options.cameraSigma = some sigma ∨ options.pointSigma = some sigma) :
            Noise.Usable sigma :=
          usable sigma (List.mem_cons_of_mem _ (by simpa [BundleOptions.priorSigmas] using present))
        refine ⟨_, _, build_succeeds bundle model options sightings resolved pixel (fun s here => priors s (.inl here))
          fun s here => priors s (.inr here), graph_of_length bundle model options sightings resolved, ?_⟩
        exact Graph.typed_sound _ _ (graph_of_typed bundle model options sightings resolved)

end Build

end Bundle

/-- Problems are closed and well typed. A bundle is refused, in each of the camera models, exactly where its validation
refuses it, and otherwise exactly for a standard deviation that is not finite and positive; a pose graph can be built
exactly if it is valid. What is built has a factor for each measurement and each prior that is present, and its graph
fails only at the numbers, wherever updates lead. -/
theorem problems_closed :
    (∀ (bundle : Bundle α) (model : CameraModel) (options : BundleOptions α),
      (bundle.validate = .ok () ↔ bundle.Valid) ∧
      (∀ e, bundle.validate = .error e → bundle.Fault e ∧ bundle.build model options = .error e) ∧
      (bundle.validate = .ok () → (∃ sigma ∈ options.sigmas, ¬ Noise.Usable sigma) →
        ∃ sigma ∈ options.sigmas, ¬ Noise.Usable sigma ∧
          bundle.build model options = .error (.graph (.noise (.sigma sigma)))) ∧
      (bundle.validate = .ok () → (∀ sigma ∈ options.sigmas, Noise.Usable sigma) →
        ∃ graph values, bundle.build model options = .ok (graph, values) ∧
          graph.length = bundle.observationCount + options.priorSigmas.length ∧ Graph.Sound graph values)) ∧
    ∀ poses : PoseGraph α, ((∃ built, poses.build = .ok built) ↔ poses.Valid) ∧
      ∀ graph values, poses.build = .ok (graph, values) → Graph.Sound graph values := by
  refine ⟨fun bundle model options => ?_, fun poses => ⟨⟨?_, poses.build_succeeds⟩, fun graph values done => ?_⟩⟩
  · obtain ⟨refused, unusable, built⟩ := bundle.build_cases model options
    exact ⟨bundle.validate_ok_iff, fun e failed => ⟨bundle.validate_error e failed, refused e failed⟩, unusable, built⟩
  · rintro ⟨built, done⟩
    exact (poses.build_ok built done).1
  · obtain ⟨_, rfl, typed⟩ := poses.build_ok (graph, values) done
    exact Graph.typed_sound graph _ typed

def pointAhead : Bundle Float :=
  ⟨[⟨⟨⟨⟨1.0, 0.0, 0.0, 0.0⟩⟩, ⟨0.0, 0.0, 0.0⟩⟩, ⟨2.0, 0.0, 0.0, 10.0, 20.0⟩⟩],
    [⟨⟨1.0, 2.0, 4.0⟩, [(0, ⟨10.0, 22.0⟩)]⟩]⟩

def backwards : Updates Float := SortedMap.empty.insert (.point 0) [0.0, 0.0, -8.0]

def poseAtRest : PoseGraph Float :=
  ⟨SortedMap.empty.insert 7 ⟨⟨1.0, 2.0⟩, ⟨1.0, 0.0⟩⟩, [⟨7, 7, ⟨⟨0.0, 0.0⟩, ⟨1.0, 0.0⟩⟩, ⟨0.5, 0.5, 0.25⟩⟩]⟩

theorem problems_closed_point_behind :
    (∃ graph values reached e, pointAhead.build .general .standard = .ok (graph, values) ∧ graph.length = 3 ∧
      values.retract backwards = .ok reached ∧ Graph.error graph reached = .error e ∧ e.Momentary) ∧
    ∃ graph values, poseAtRest.build = .ok (graph, values) ∧ Graph.Closed graph values := by
  obtain ⟨bundles, poses⟩ := problems_closed (α := Float)
  obtain ⟨_, _, _, builds⟩ := bundles pointAhead .general .standard
  obtain ⟨possible, sound⟩ := poses poseAtRest
  refine ⟨?_, ?_⟩
  · have usable : ∀ sigma ∈ (BundleOptions.standard : BundleOptions Float).sigmas, Noise.Usable sigma := by
      unfold Noise.Usable
      decide +kernel
    obtain ⟨graph, values, built, count, sound⟩ := builds rfl usable
    obtain ⟨⟨_, _⟩, same, behind⟩ := Outcome.passes_ok
      (fun built => Outcome.passes (fun reached => Outcome.fails (fun _ => true) (Graph.error built.1 reached))
        (built.2.retract backwards)) (pointAhead.build .general .standard) (by decide +kernel)
    cases built.symm.trans same
    obtain ⟨reached, moved, failing⟩ := Outcome.passes_ok _ _ behind
    obtain ⟨e, failed, _⟩ := Outcome.fails_error _ _ failing
    exact ⟨graph, values, reached, e, built, count, moved, failed, sound.error reached (.single ⟨_, moved⟩) e failed⟩
  · have usable : ∀ sigma ∈ ([0.5, 0.5, 0.25] : List Float), Noise.Usable sigma := by
      unfold Noise.Usable
      decide +kernel
    obtain ⟨⟨graph, values⟩, built⟩ := possible.mpr
      ⟨List.cons_ne_nil _ [], fun c mem => by cases List.mem_singleton.mp mem; exact ⟨by decide, by decide⟩,
        fun c mem => by cases List.mem_singleton.mp mem; exact usable⟩
    exact ⟨graph, values, built, (sound graph values built).closed⟩

end FactorGraph
