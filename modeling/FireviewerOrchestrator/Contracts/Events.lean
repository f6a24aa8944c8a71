/-
  The event contract: what the event pipeline is given and what it returns.

  The inputs carry what their validators check as fields: spatial evidence that is projected has its
  method, a valid geometry and its accuracy, and an input has at most one piece of evidence for each of
  its anchors.  How many anchors and pieces of evidence there may be is only checked on what is
  received: an input made from another one is validated again by its references alone
  (`EventPipelineInput.revalidate`).  The records the pipeline itself makes are built by checks that can
  refuse them.
-/
import FireviewerOrchestrator.Contracts.Geometry
import FireviewerOrchestrator.Contracts.Identifiers
import FireviewerOrchestrator.Contracts.OutputV2

set_option linter.unusedVariables false

namespace FireviewerOrchestrator

/-! ## Vocabulary -/

inductive ViewpointOrigin where
  | userPlaced | deviceGps | namedPlace | humanConfirmed
  deriving DecidableEq, Repr

inductive ShotScale where
  | wide | distant | close | tight
  deriving DecidableEq, Repr

inductive ViewProfile where
  | groundWideKnownViewpoint | groundWideNamedViewpoint | groundDistantKnownViewpoint
  | groundCloseKnownViewpoint | groundTightKnownViewpoint
  deriving DecidableEq, Repr

inductive PhenomenonKind where
  | activeFirePoint | visibleFireFront | smokeColumnBase | smokeOrigin | thermalHotspot
  | activityEnvelope | burnedArea | simulation
  deriving DecidableEq, Repr

inductive LocalizationStatus where
  | localized | sector | abstained
  deriving DecidableEq, Repr

inductive LocalizationMethod where
  | cameraRaycast | triangulation | viewpointSector | crossViewRaycast | explicitSourceGeometry
  deriving DecidableEq, Repr

inductive PipelineStatus where
  | needsReview | abstained | failed
  deriving DecidableEq, Repr

inductive EvidenceStatus where
  | projected | insufficientGeometry
  deriving DecidableEq, Repr

/-! ## Inputs -/

/-- Where the picture was taken from, and the direction and width of its view, or neither. -/
structure Viewpoint where
  yawDeg : Option ℚ := none
  fovDeg : Option ℚ := none
  origin : ViewpointOrigin
  yaw_range : ∀ q ∈ yawDeg, 0 ≤ q ∧ q < 360 := by decide
  fov_range : ∀ q ∈ fovDeg, 0 < q ∧ q < 180 := by decide
  orientation_complete : yawDeg.isSome = fovDeg.isSome := by decide

structure ObservedTime where
  startAt : DateTime
  endAt : Option DateTime := none
  start_aware : startAt.aware = true := by decide
  end_follows : ∀ t ∈ endAt, t.aware = true ∧ startAt.micros ≤ t.micros := by decide
  deriving DecidableEq

structure ExternalObservation where
  observationId : String
  lineageFamilyId : String
  conflictsWith : List String := []
  ids_safe : isSafeIdentifier observationId = true ∧ isSafeIdentifier lineageFamilyId = true := by decide
  conflicts_safe : conflictsWith.length ≤ 64 ∧ Pydantic.identifiers conflictsWith = true := by decide

inductive EvidenceAssetKind where
  | image | video | document
  deriving DecidableEq, Repr

structure EvidenceAsset where
  evidenceAssetId : String
  kind : EvidenceAssetKind
  workingFileUrl : Option String := none
  asset_id_safe : isSafeIdentifier evidenceAssetId = true := by decide
  url_bounded : ∀ url ∈ workingFileUrl, 1 ≤ url.length ∧ url.length ≤ 2048 := by decide
  deriving DecidableEq

structure EventCandidateBundle where
  candidateId : String
  viewpoint : Viewpoint
  observedTime : ObservedTime
  shotScale : Option ShotScale := none
  evidenceAssets : List EvidenceAsset := []
  externalObservations : List ExternalObservation := []
  candidate_id_safe : isSafeIdentifier candidateId = true := by decide
  assets_unique : (evidenceAssets.map EvidenceAsset.evidenceAssetId).Nodup := by decide
  assets_bounded : evidenceAssets.length ≤ 20 := by decide
  observations_bounded : externalObservations.length ≤ 256 := by decide

def EventCandidateBundle.evidenceAssetIds (bundle : EventCandidateBundle) : List String :=
  bundle.evidenceAssets.map EvidenceAsset.evidenceAssetId

/-- What an anchor can be of. -/
def anchorPhenomena : List PhenomenonKind := [.activeFirePoint, .visibleFireFront, .smokeColumnBase]

/-- Something a model saw at a point or along a geometry of an image. -/
structure PerceptionAnchor where
  anchorId : String
  evidenceAssetId : String
  phenomenon : PhenomenonKind
  sourcePointNormalized : Option (ℚ × ℚ) := none
  sourceGeometryNormalized : Option JsonFields := none
  modelId : String
  modelRevision : String
  modelScore : Option ℚ := none
  anchor_id_safe : isSafeIdentifier anchorId = true := by decide
  asset_id_safe : isSafeIdentifier evidenceAssetId = true := by decide
  model_named : (1 ≤ modelId.length ∧ modelId.length ≤ 500) ∧
    1 ≤ modelRevision.length ∧ modelRevision.length ≤ 255 := by decide
  score_unit : ∀ q ∈ modelScore, 0 ≤ q ∧ q ≤ 1 := by decide
  phenomenon_allowed : phenomenon ∈ anchorPhenomena := by decide
  one_source : sourcePointNormalized.isSome = !sourceGeometryNormalized.isSome := by decide
  point_normalized : ∀ p ∈ sourcePointNormalized, (0 ≤ p.1 ∧ p.1 ≤ 1) ∧ 0 ≤ p.2 ∧ p.2 ≤ 1 := by decide
  geometry_valid : ∀ g ∈ sourceGeometryNormalized, Geojson.validateGeojsonGeometry g
    (if phenomenon = .visibleFireFront then ["LineString", "MultiLineString"] else ["Point"]) true = .ok ()
    := by simp

/-- What a deterministic spatial stage found out about an anchor. -/
structure SpatialEvidence where
  anchorId : String
  status : EvidenceStatus
  method : Option LocalizationMethod := none
  geometryGeojson : Option JsonFields := none
  horizontalAccuracyM : Option ℚ := none
  directionUncertaintyDeg : Option ℚ := none
  distanceUncertaintyM : Option ℚ := none
  reasonCodes : List String := []
  referenceRevision : Option String := none
  accuracy_range : ∀ q ∈ horizontalAccuracyM, 0 < q ∧ q ≤ 100000 := by decide
  reason_codes_bounded : reasonCodes.length ≤ 32 := by decide
  projected_complete : status = .projected →
    method.isSome = true ∧ geometryGeojson.isSome = true ∧ horizontalAccuracyM.isSome = true := by decide
  projected_valid : status = .projected → ∀ g ∈ geometryGeojson,
    Geojson.validateGeojsonGeometry g Geojson.supportedGeometryTypes false = .ok () := by simp
  insufficient_reason : status = .insufficientGeometry → reasonCodes ≠ [] := by decide

structure EventPipelineInput where
  bundle : EventCandidateBundle
  perceptionAnchors : List PerceptionAnchor := []
  spatialEvidence : List SpatialEvidence := []
  assets_known : ∀ anchor ∈ perceptionAnchors, anchor.evidenceAssetId ∈ bundle.evidenceAssetIds := by decide
  anchor_ids_unique : (perceptionAnchors.map PerceptionAnchor.anchorId).Nodup := by decide
  evidence_unique : (spatialEvidence.map SpatialEvidence.anchorId).Nodup := by decide
  evidence_of_anchors : ∀ evidence ∈ spatialEvidence,
    evidence.anchorId ∈ perceptionAnchors.map PerceptionAnchor.anchorId := by decide

namespace EventPipelineInput

/-- The loop of `validate_references` over the anchors, behind those with the ids `seen`. -/
def checkAnchors (assetIds : List String) : List String → List PerceptionAnchor → Except PyExc Unit
  | _, [] => .ok ()
  | seen, anchor :: rest => do
      Geojson.ensure (anchor.evidenceAssetId ∈ assetIds)
        "perception anchor references an unknown private evidence asset"
      Geojson.ensure (anchor.anchorId ∉ seen) "perception anchor identifiers must be unique"
      checkAnchors assetIds (seen ++ [anchor.anchorId]) rest

/-- `validate_references`. -/
def validateReferences (bundle : EventCandidateBundle) (anchors : List PerceptionAnchor)
    (evidence : List SpatialEvidence) : Except PyExc Unit := do
  checkAnchors bundle.evidenceAssetIds [] anchors
  Geojson.ensure ((evidence.map SpatialEvidence.anchorId).Nodup)
    "only one spatial result is allowed for each anchor"
  Geojson.ensure (evidence.all fun item => item.anchorId ∈ anchors.map PerceptionAnchor.anchorId)
    "spatial evidence references an unknown perception anchor"

theorem checkAnchors_eq_ok {assetIds : List String} : ∀ {seen : List String} {anchors : List PerceptionAnchor},
    checkAnchors assetIds seen anchors = .ok () ↔
      (∀ anchor ∈ anchors, anchor.evidenceAssetId ∈ assetIds) ∧
        (∀ anchor ∈ anchors, anchor.anchorId ∉ seen) ∧ (anchors.map PerceptionAnchor.anchorId).Nodup := by
  intro seen anchors
  induction anchors generalizing seen with
  | nil => simp [checkAnchors]
  | cons anchor anchors ih =>
    rw [checkAnchors, Fallible.check_bind_eq_ok, Fallible.check_bind_eq_ok, ih]
    simp only [Geojson.ensure_eq_ok, decide_eq_true_eq, List.forall_mem_cons, List.map_cons, List.nodup_cons,
      List.mem_append, List.mem_singleton, List.mem_map, not_or, not_exists, not_and]
    constructor
    · rintro ⟨hasset, hid, hassets, hids, hnodup⟩
      exact ⟨⟨hasset, hassets⟩, ⟨hid, fun a ha => (hids a ha).1⟩, fun a ha => (hids a ha).2, hnodup⟩
    · rintro ⟨⟨hasset, hassets⟩, ⟨hid, hids⟩, hother, hnodup⟩
      exact ⟨hasset, hid, hassets, fun a ha => ⟨hids a ha, hother a ha⟩, hnodup⟩

/-- The references hold exactly if the input they belong to can be made. -/
theorem validateReferences_eq_ok {bundle : EventCandidateBundle} {anchors : List PerceptionAnchor}
    {evidence : List SpatialEvidence} : validateReferences bundle anchors evidence = .ok () ↔
      (∀ anchor ∈ anchors, anchor.evidenceAssetId ∈ bundle.evidenceAssetIds) ∧
      (anchors.map PerceptionAnchor.anchorId).Nodup ∧ (evidence.map SpatialEvidence.anchorId).Nodup ∧
      ∀ item ∈ evidence, item.anchorId ∈ anchors.map PerceptionAnchor.anchorId := by
  rw [validateReferences, Fallible.check_bind_eq_ok, Fallible.check_bind_eq_ok, checkAnchors_eq_ok]
  simp only [Geojson.ensure_eq_ok, decide_eq_true_eq, List.all_eq_true, List.not_mem_nil,
    not_false_eq_true, implies_true, true_and, and_assoc]

/-- `EventPipelineInput.model_validate(value.model_copy(update=…))`. -/
def revalidate (bundle : EventCandidateBundle) (anchors : List PerceptionAnchor)
    (evidence : List SpatialEvidence) : Except PyExc EventPipelineInput :=
  match h : validateReferences bundle anchors evidence with
  | .ok () => .ok
      { bundle := bundle
        perceptionAnchors := anchors
        spatialEvidence := evidence
        assets_known := (validateReferences_eq_ok.mp h).1
        anchor_ids_unique := (validateReferences_eq_ok.mp h).2.1
        evidence_unique := (validateReferences_eq_ok.mp h).2.2.1
        evidence_of_anchors := (validateReferences_eq_ok.mp h).2.2.2 }
  | .error e => asValidation "EventPipelineInput" (.error e)

section Revalidate

variable {bundle : EventCandidateBundle} {anchors : List PerceptionAnchor} {evidence : List SpatialEvidence}

/-- Valid references make an input of what they are the references of. -/
theorem revalidate_of_valid (h : validateReferences bundle anchors evidence = .ok ()) :
    ∃ value, revalidate bundle anchors evidence = .ok value ∧ value.bundle = bundle ∧
      value.perceptionAnchors = anchors ∧ value.spatialEvidence = evidence := by
  unfold revalidate
  split
  · exact ⟨_, rfl, rfl, rfl, rfl⟩
  · rename_i e he
    rw [h] at he
    cases he

theorem revalidate_eq_ok {value : EventPipelineInput} (h : revalidate bundle anchors evidence = .ok value) :
    value.bundle = bundle ∧ value.perceptionAnchors = anchors ∧ value.spatialEvidence = evidence := by
  unfold revalidate at h
  split at h
  · obtain rfl := Except.ok.inj h
    exact ⟨rfl, rfl, rfl⟩
  · have hnot := asValidation_eq_ok.mp h
    cases hnot

/-- What is wrong with the references is a `ValueError`, and a `ValidationError` of the input. -/
theorem raisesOnly_revalidate (bundle : EventCandidateBundle) (anchors : List PerceptionAnchor)
    (evidence : List SpatialEvidence) :
    Fallible.RaisesOnly PyExc.IsValidation (revalidate bundle anchors evidence) := by
  have hanchors : ∀ (assetIds seen : List String) (anchors : List PerceptionAnchor),
      Fallible.RaisesOnly PyExc.IsValueError (checkAnchors assetIds seen anchors) := by
    intro assetIds seen anchors
    induction anchors generalizing seen with
    | nil => exact Fallible.raisesOnly_ok _
    | cons anchor anchors ih =>
      exact (Geojson.raisesOnly_ensure _ _).bind fun _ _ =>
        (Geojson.raisesOnly_ensure _ _).bind fun _ _ => ih _
  unfold revalidate
  split
  · exact Fallible.raisesOnly_ok _
  · rename_i e he
    have hraises : Fallible.RaisesOnly PyExc.IsValueError (validateReferences bundle anchors evidence) :=
      (hanchors _ _ _).bind fun _ _ => (Geojson.raisesOnly_ensure _ _).bind fun _ _ =>
        Geojson.raisesOnly_ensure _ _
    exact raisesOnly_asValidation (Fallible.raisesOnly_error.mpr (Or.inl (hraises e he)))

end Revalidate

end EventPipelineInput

/-- A medium that perception gave nothing for. -/
structure PerceptionFailure where
  evidenceAssetId : Option String := none
  reasonCode : String
  modelId : Option String := none
  modelRevision : Option String := none
  asset_safe : ∀ id ∈ evidenceAssetId, isSafeIdentifier id = true := by decide
  reason_safe : isSafeIdentifier reasonCode = true := by decide
  model_named : (∀ id ∈ modelId, 1 ≤ id.length ∧ id.length ≤ 500) ∧
    ∀ revision ∈ modelRevision, 1 ≤ revision.length ∧ revision.length ≤ 255 := by decide

/-- A failure of no model. -/
theorem PerceptionFailure.unnamed : (∀ id ∈ (none : Option String), 1 ≤ id.length ∧ id.length ≤ 500) ∧
    ∀ revision ∈ (none : Option String), 1 ≤ revision.length ∧ revision.length ≤ 255 := ⟨nofun, nofun⟩

/-! ## Outputs -/

/-- A direction, with its angular uncertainty. -/
structure SectorEstimate where
  bearingDeg : ℚ
  angularUncertaintyDeg : ℚ
  bearing_range : 0 ≤ bearingDeg ∧ bearingDeg < 360
  uncertainty_range : 0 < angularUncertaintyDeg ∧ angularUncertaintyDeg ≤ 180

structure LocalizationAttempt where
  attemptId : String
  anchorId : Option String := none
  phenomenon : Option PhenomenonKind := none
  status : LocalizationStatus
  method : Option LocalizationMethod := none
  geometryGeojson : Option JsonFields := none
  sector : Option SectorEstimate := none
  horizontalAccuracyM : Option ℚ := none
  directionUncertaintyDeg : Option ℚ := none
  distanceUncertaintyM : Option ℚ := none
  reasonCodes : List String := []
  modelId : Option String := none
  modelRevision : Option String := none
  referenceRevision : Option String := none
  shadowOnly : Bool := false

namespace LocalizationAttempt

/-- The bounds of the fields and `validate_attempt`. -/
def check (r : LocalizationAttempt) : Except PyExc Unit := do
  Pydantic.validate "LocalizationAttempt"
    [(isSafeIdentifier r.attemptId, "attempt_id"), (Pydantic.optional isSafeIdentifier r.anchorId, "anchor_id"),
      (r.reasonCodes.length ≤ 32, "reason_codes"),
      (r.status = .localized → r.geometryGeojson.isSome, "localized attempts require geometry"),
      (r.status = .sector → r.sector.isSome, "sector attempts require sector parameters"),
      (r.status = .abstained → r.reasonCodes ≠ [], "abstentions require reason codes")]
  match r.geometryGeojson with
  | none => pure ()
  | some geometry =>
      asValidation "LocalizationAttempt"
        (Geojson.validateGeojsonGeometry geometry Geojson.supportedGeometryTypes false)

/-- `LocalizationAttempt(…)`. -/
def build : LocalizationAttempt → Except PyExc LocalizationAttempt := checked check

end LocalizationAttempt

/-- `ProposalPhenomenon`. -/
def proposalPhenomena : List PhenomenonKind := [.activeFirePoint, .visibleFireFront, .smokeOrigin]

structure FireActivityProposal where
  proposalId : String
  attemptId : String
  phenomenon : PhenomenonKind
  observedTime : ObservedTime
  geometryGeojson : JsonFields
  horizontalAccuracyM : ℚ

namespace FireActivityProposal

/-- The geometries a proposal of the phenomenon can have. -/
def allowedTypes (phenomenon : PhenomenonKind) : List String :=
  if phenomenon = .visibleFireFront then ["LineString", "MultiLineString"] else ["Point"]

/-- The bounds of the fields and `validate_proposal_geometry`. -/
def check (r : FireActivityProposal) : Except PyExc Unit := do
  Pydantic.validate "FireActivityProposal"
    [(isSafeIdentifier r.proposalId, "proposal_id"), (isSafeIdentifier r.attemptId, "attempt_id"),
      (r.phenomenon ∈ proposalPhenomena, "phenomenon"),
      (0 < r.horizontalAccuracyM ∧ r.horizontalAccuracyM ≤ 100000, "horizontal_accuracy_m")]
  asValidation "FireActivityProposal"
    (Geojson.validateGeojsonGeometry r.geometryGeojson (allowedTypes r.phenomenon) false)

/-- `FireActivityProposal(…)`. -/
def build : FireActivityProposal → Except PyExc FireActivityProposal := checked check

end FireActivityProposal

structure EventPipelineOutput where
  candidateId : String
  status : PipelineStatus
  viewProfile : Option ViewProfile
  perceptionAnchors : List PerceptionAnchor
  spatialEvidence : List SpatialEvidence
  localizationAttempts : List LocalizationAttempt
  eventProposals : List FireActivityProposal
  independentExternalFamilies : List String
  contradictions : List (String × String)
  reasonCodes : List String

namespace EventPipelineOutput

/-- The identifiers among the fields. -/
def check (r : EventPipelineOutput) : Except PyExc Unit :=
  Pydantic.validate "EventPipelineOutput"
    [(isSafeIdentifier r.candidateId, "candidate_id"),
      (Pydantic.identifiers r.independentExternalFamilies, "independent_external_families"),
      (r.contradictions.all fun pair => isSafeIdentifier pair.1 && isSafeIdentifier pair.2, "contradictions")]

/-- `EventPipelineOutput(…)`. -/
def build : EventPipelineOutput → Except PyExc EventPipelineOutput := checked check

end EventPipelineOutput

end FireviewerOrchestrator
