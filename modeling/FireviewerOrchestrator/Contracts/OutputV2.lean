/-
  The version 2.0 output contract: annotations, spatial proposals, facts, the report draft, and the
  output that closes over them.

  A record is built by `Model.build`, which runs the checks of its validator in their order and
  completes the fields the validator completes.  Records that a stage hands over are already built:
  the models are frozen and an instance is never validated again.
-/
import FireviewerOrchestrator.Contracts.Geometry
import FireviewerOrchestrator.Contracts.InputV2

set_option linter.unusedVariables false

namespace FireviewerOrchestrator

/-- The record, if the checks pass. -/
def checked {α : Type} (check : α → Except PyExc Unit) (record : α) : Except PyExc α := do
  check record
  pure record

namespace Pydantic

/-- A record is valid iff every check holds. -/
theorem validate_eq_ok {model : String} : ∀ {checks : List (Bool × String)},
    validate model checks = .ok () ↔ ∀ check ∈ checks, check.1 = true := by
  intro checks
  induction checks with
  | nil => simp [validate]
  | cons check checks ih =>
    obtain ⟨holds, message⟩ := check
    rw [validate, Fallible.ite_eq_ok, ih, List.forall_mem_cons]

end Pydantic

theorem checked_eq_ok {α : Type} {check : α → Except PyExc Unit} {record built : α} :
    checked check record = .ok built ↔ check record = .ok () ∧ built = record := by
  unfold checked
  rw [Fallible.check_bind_eq_ok, Fallible.pure_eq_ok, eq_comm (a := record)]

/-- What a model makes of the `ValueError` or `AssertionError` its validator raises. -/
def asValidation {α : Type} (model : String) : Except PyExc α → Except PyExc α
  | .error (.raised typeName message) =>
      if typeName = "ValueError" ∨ typeName = "AssertionError" then .error (.validationError model message)
      else .error (.raised typeName message)
  | r => r

theorem asValidation_eq_ok {α : Type} {model : String} {r : Except PyExc α} {a : α} :
    asValidation model r = .ok a ↔ r = .ok a := by
  unfold asValidation
  split
  · split <;> (constructor <;> intro h <;> cases h)
  · exact Iff.rfl

theorem raisesOnly_asValidation {α : Type} {model : String} {r : Except PyExc α}
    (h : Fallible.RaisesOnly (fun e => e.IsValueError ∨ e.IsValidation) r) :
    Fallible.RaisesOnly PyExc.IsValidation (asValidation model r) := by
  intro e he
  cases r with
  | ok a => cases he
  | error e' =>
    rcases h e' rfl with ⟨message, rfl⟩ | ⟨model', message, rfl⟩
    · obtain rfl := Except.error.inj he
      exact ⟨model, message, rfl⟩
    · obtain rfl := Except.error.inj he
      exact ⟨model', message, rfl⟩

theorem raisesOnly_pydanticValidate (model : String) : ∀ checks : List (Bool × String),
    Fallible.RaisesOnly PyExc.IsValidation (Pydantic.validate model checks)
  | [] => Fallible.raisesOnly_ok _
  | (true, _) :: rest => raisesOnly_pydanticValidate model rest
  | (false, message) :: rest => Fallible.raisesOnly_error.mpr ⟨model, message, rfl⟩

theorem raisesOnly_checked {α : Type} {check : α → Except PyExc Unit} {record : α} {P : PyExc → Prop}
    (h : Fallible.RaisesOnly P (check record)) : Fallible.RaisesOnly P (checked check record) :=
  h.bind fun _ _ => Fallible.raisesOnly_ok _

/-! ## Annotations -/

inductive SourceSemanticAnchorV2 where
  | activeFirePoint | visibleFireFrontPoint | visibleFireFront | smokeColumnBase | smokeOriginPoint
  | burnedAreaPolygon
  deriving DecidableEq, Repr

namespace SourceSemanticAnchorV2

def value : SourceSemanticAnchorV2 → String
  | activeFirePoint => "active_fire_point"
  | visibleFireFrontPoint => "visible_fire_front_point"
  | visibleFireFront => "visible_fire_front"
  | smokeColumnBase => "smoke_column_base"
  | smokeOriginPoint => "smoke_origin_point"
  | burnedAreaPolygon => "burned_area_polygon"

/-- The geometries that can mark it. -/
def allowedTypes : SourceSemanticAnchorV2 → List String
  | visibleFireFront => ["LineString", "MultiLineString"]
  | burnedAreaPolygon => ["Polygon", "MultiPolygon"]
  | _ => ["Point"]

end SourceSemanticAnchorV2

inductive V2EvidenceKind where
  | image | frame | satelliteImage
  deriving DecidableEq, Repr

structure SourceAnnotationV2 where
  annotationId : String
  evidenceId : String
  evidenceKind : V2EvidenceKind
  semanticAnchor : SourceSemanticAnchorV2
  sourcePointNormalized : Option (ℚ × ℚ) := none
  sourceGeometryNormalized : Option JsonFields := none
  modelScore : Option ℚ := none

namespace Pydantic

/-- A rational in `[0, 1]`. -/
def isUnit (q : ℚ) : Bool := 0 ≤ q ∧ q ≤ 1

/-- `tuple(float(value) for value in coordinates[:2])` of a valid geometry. -/
def pointOf (geometry : JsonFields) : Except PyExc (Option (ℚ × ℚ)) :=
  if Geojson.geometryType? geometry = some "Point" then do
    match ← Geojson.position true (getField "coordinates" geometry) with
    | x :: y :: _ => pure (some (x, y))
    | _ => pure none
  else pure none

/-- `validate_source_geometry`: a point without a geometry completes it, and conversely. -/
def completeSourceGeometry (r : SourceAnnotationV2) : Except PyExc SourceAnnotationV2 := do
  let geometry ← match r.sourceGeometryNormalized, r.sourcePointNormalized with
    | some geometry, _ => pure geometry
    | none, some (x, y) => pure (Geojson.pointGeometry x y)
    | none, none => .error (.valueError "source annotation requires normalized source geometry")
  Geojson.validateGeojsonGeometry geometry r.semanticAnchor.allowedTypes true
  let point ← pointOf geometry
  match r.sourcePointNormalized with
  | some source =>
      Geojson.ensure point.isSome "source_point_normalized is only compatible with Point geometry"
      Geojson.ensure (point = some source)
        "source point and source geometry must reference the same position"
      pure { r with sourceGeometryNormalized := some geometry }
  | none => pure { r with sourceGeometryNormalized := some geometry, sourcePointNormalized := point }

end Pydantic

/-- `SourceAnnotationV2(…)`. -/
def SourceAnnotationV2.build (r : SourceAnnotationV2) : Except PyExc SourceAnnotationV2 := do
  Pydantic.validate "SourceAnnotationV2"
    [(isSafeIdentifier r.annotationId, "annotation_id"), (isSafeIdentifier r.evidenceId, "evidence_id"),
      (Pydantic.optional Pydantic.isUnit r.modelScore, "model_score")]
  asValidation "SourceAnnotationV2" (Pydantic.completeSourceGeometry r)

/-- Building an annotation completes its point and its geometry, and keeps its name. -/
theorem SourceAnnotationV2.annotationId_of_build {r built : SourceAnnotationV2} (h : r.build = .ok built) :
    built.annotationId = r.annotationId := by
  obtain ⟨-, h⟩ := Fallible.check_bind_eq_ok.mp h
  have h := asValidation_eq_ok.mp h
  -- whichever of the two was given, what follows is the same
  have hkept : ∀ {geometry : JsonFields} {point : Option (ℚ × ℚ)},
      (match r.sourcePointNormalized with
        | some source => do
            Geojson.ensure point.isSome "source_point_normalized is only compatible with Point geometry"
            Geojson.ensure (point = some source)
              "source point and source geometry must reference the same position"
            pure { r with sourceGeometryNormalized := some geometry }
        | none => pure { r with sourceGeometryNormalized := some geometry, sourcePointNormalized := point })
        = Except.ok built → built.annotationId = r.annotationId := by
    intro geometry point h
    split at h
    · obtain ⟨-, h⟩ := Fallible.check_bind_eq_ok.mp h
      obtain ⟨-, h⟩ := Fallible.check_bind_eq_ok.mp h
      obtain rfl := Fallible.pure_eq_ok.mp h
      rfl
    · obtain rfl := Fallible.pure_eq_ok.mp h
      rfl
  unfold Pydantic.completeSourceGeometry at h
  dsimp only at h
  split at h
  · obtain ⟨geometry, -, h⟩ := Fallible.bind_eq_ok.mp h
    obtain ⟨-, h⟩ := Fallible.check_bind_eq_ok.mp h
    obtain ⟨point, -, h⟩ := Fallible.bind_eq_ok.mp h
    exact hkept h
  · obtain ⟨geometry, -, h⟩ := Fallible.bind_eq_ok.mp h
    obtain ⟨-, h⟩ := Fallible.check_bind_eq_ok.mp h
    obtain ⟨point, -, h⟩ := Fallible.bind_eq_ok.mp h
    exact hkept h
  · cases h

/-! ## Spatial proposals -/

inductive SpatialStatus where
  | groundPoint | projectedGeometry | insufficientGeometry
  deriving DecidableEq, Repr

inductive SpatialProposalKindV2 where
  | activeFirePoint | smokeOriginPoint | visibleFireFront | probableActivityEnvelope
  | burnedAreaPolygon | legacyGroundPoint
  deriving DecidableEq, Repr

/-- The geometries a kind of projected geometry can have. -/
def SpatialProposalKindV2.allowedTypes : SpatialProposalKindV2 → List String
  | activeFirePoint | smokeOriginPoint => ["Point"]
  | visibleFireFront => ["LineString", "MultiLineString"]
  | probableActivityEnvelope | burnedAreaPolygon => ["Polygon", "MultiPolygon"]
  | legacyGroundPoint => []

inductive GeometryOrigin where
  | satelliteGeotransform | cameraRaycast | crossViewRaycast | explicitSourceGeometry
  deriving DecidableEq, Repr

structure SpatialProposalV2 where
  proposalId : String
  annotationId : Option String := none
  status : SpatialStatus
  proposalKind : Option SpatialProposalKindV2 := none
  observedAt : Option DateTime := none
  geometryOrigin : Option GeometryOrigin := none
  longitude : Option ℚ := none
  latitude : Option ℚ := none
  altitudeM : Option ℚ := none
  geometryGeojson : Option JsonFields := none
  horizontalAccuracyM : Option ℚ := none
  referenceBundleSha256 : Option String := none
  uncertaintyCodes : List String := []

namespace Pydantic

/-- The status `ground_point`: the legacy point contract. -/
def completeGroundPoint (r : SpatialProposalV2) : Except PyExc SpatialProposalV2 := do
  match r.longitude, r.latitude with
  | some longitude, some latitude => do
      Geojson.ensure (r.annotationId.isSome && r.geometryOrigin.isSome && r.horizontalAccuracyM.isSome
          && r.referenceBundleSha256.isSome) "ground_point requires sourced coordinates and accuracy"
      Geojson.ensure (r.proposalKind = none ∨ r.proposalKind = some .legacyGroundPoint)
        "ground_point is reserved for the legacy point contract"
      let geometry := match r.geometryGeojson with
        | some (field :: fields) => field :: fields
        | _ => Geojson.pointGeometry longitude latitude
      Geojson.validateGeojsonGeometry geometry ["Point"] false
      pure { r with proposalKind := some .legacyGroundPoint, geometryGeojson := some geometry }
  | _, _ => .error (.valueError "ground_point requires sourced coordinates and accuracy")

/-- The point of a projected geometry agrees with the proposal's coordinates and completes them; any
    other geometry has none. -/
def completePoint (r : SpatialProposalV2) (geometry : JsonFields) : Except PyExc SpatialProposalV2 := do
  if Geojson.geometryType? geometry = some "Point" then
    match ← Geojson.position false (getField "coordinates" geometry) with
    | longitude :: latitude :: _ =>
        Geojson.ensure (optional (· = longitude) r.longitude) "point longitude must match geometry_geojson"
        Geojson.ensure (optional (· = latitude) r.latitude) "point latitude must match geometry_geojson"
        pure { r with longitude := some longitude, latitude := some latitude }
    | _ => .error .assertionError
  else
    Geojson.ensure (r.longitude.isNone && r.latitude.isNone && r.altitudeM.isNone)
      "non-point geometries cannot use legacy point coordinates"
    pure r

/-- The status `projected_geometry`. -/
def completeProjectedGeometry (r : SpatialProposalV2) : Except PyExc SpatialProposalV2 :=
  match r.proposalKind, r.geometryGeojson with
  | some kind, some geometry => do
      Geojson.ensure (kind ≠ .legacyGroundPoint && r.geometryOrigin.isSome && r.horizontalAccuracyM.isSome
          && r.referenceBundleSha256.isSome && r.observedAt.isSome)
        "projected_geometry requires kind, geometry, observation time, origin, accuracy and reference"
      Geojson.ensure (r.geometryOrigin = some .explicitSourceGeometry ∨ r.annotationId.isSome)
        "projected media geometry requires a source annotation"
      Geojson.validateGeojsonGeometry geometry kind.allowedTypes false
      completePoint r geometry
  | _, _ => .error (.valueError
      "projected_geometry requires kind, geometry, observation time, origin, accuracy and reference")

/-- The status `insufficient_geometry`: a reason, and no coordinates. -/
def checkInsufficientGeometry (r : SpatialProposalV2) : Except PyExc SpatialProposalV2 := do
  Geojson.ensure (r.proposalKind.isNone && r.geometryOrigin.isNone && r.longitude.isNone
      && r.latitude.isNone && r.altitudeM.isNone && r.geometryGeojson.isNone
      && r.horizontalAccuracyM.isNone) "insufficient_geometry cannot contain projected coordinates"
  Geojson.ensure (!r.uncertaintyCodes.isEmpty) "insufficient_geometry requires an uncertainty code"
  pure r

/-- `validate_projection`. -/
def completeProjection (r : SpatialProposalV2) : Except PyExc SpatialProposalV2 := do
  Geojson.ensure (optional DateTime.aware r.observedAt) "spatial observation time must include a timezone"
  match r.status with
  | .groundPoint => completeGroundPoint r
  | .projectedGeometry => completeProjectedGeometry r
  | .insufficientGeometry => checkInsufficientGeometry r

end Pydantic

/-- `SpatialProposalV2(…)`. -/
def SpatialProposalV2.build (r : SpatialProposalV2) : Except PyExc SpatialProposalV2 := do
  Pydantic.validate "SpatialProposalV2"
    [(isSafeIdentifier r.proposalId, "proposal_id"),
      (Pydantic.optional isSafeIdentifier r.annotationId, "annotation_id"),
      (Pydantic.optional (fun q : ℚ => -180 ≤ q ∧ q ≤ 180) r.longitude, "longitude"),
      (Pydantic.optional (fun q : ℚ => -90 ≤ q ∧ q ≤ 90) r.latitude, "latitude"),
      (Pydantic.optional (fun q : ℚ => 0 < q ∧ q ≤ 100000) r.horizontalAccuracyM, "horizontal_accuracy_m"),
      (Pydantic.optional Pydantic.isSha256 r.referenceBundleSha256, "reference_bundle_sha256"),
      (r.uncertaintyCodes.length ≤ 12 ∧ Pydantic.identifiers r.uncertaintyCodes, "uncertainty_codes")]
  asValidation "SpatialProposalV2" (Pydantic.completeProjection r)

/-! ### What building a proposal keeps -/

/-- The proposal built is the one described, with its kind, geometry and point completed. -/
def SpatialProposalV2.Completes (r p : SpatialProposalV2) : Prop :=
  ∃ kind geometry longitude latitude, p = { r with
    proposalKind := kind, geometryGeojson := geometry, longitude := longitude, latitude := latitude }

namespace Pydantic

variable {r p : SpatialProposalV2}

theorem completeGroundPoint_completes (h : completeGroundPoint r = .ok p) : r.Completes p := by
  unfold completeGroundPoint at h
  split at h
  · simp only [Fallible.check_bind_eq_ok, Fallible.pure_eq_ok] at h
    obtain ⟨-, -, -, rfl⟩ := h
    exact ⟨_, _, r.longitude, r.latitude, rfl⟩
  · cases h

theorem completePoint_completes {geometry : JsonFields} (h : completePoint r geometry = .ok p) :
    r.Completes p := by
  unfold completePoint at h
  split at h
  · obtain ⟨coordinates, -, h⟩ := Fallible.bind_eq_ok.mp h
    split at h
    · simp only [Fallible.check_bind_eq_ok, Fallible.pure_eq_ok] at h
      obtain ⟨-, -, rfl⟩ := h
      exact ⟨r.proposalKind, r.geometryGeojson, _, _, rfl⟩
    · cases h
  · simp only [Fallible.check_bind_eq_ok, Fallible.pure_eq_ok] at h
    obtain ⟨-, rfl⟩ := h
    exact ⟨_, _, _, _, rfl⟩

theorem completeProjectedGeometry_completes (h : completeProjectedGeometry r = .ok p) :
    r.Completes p := by
  unfold completeProjectedGeometry at h
  split at h
  · simp only [Fallible.check_bind_eq_ok] at h
    obtain ⟨-, -, -, h⟩ := h
    exact completePoint_completes h
  · cases h

theorem checkInsufficientGeometry_completes (h : checkInsufficientGeometry r = .ok p) :
    r.Completes p := by
  simp only [checkInsufficientGeometry, Fallible.check_bind_eq_ok, Fallible.pure_eq_ok] at h
  obtain ⟨-, -, rfl⟩ := h
  exact ⟨_, _, _, _, rfl⟩

theorem completeProjection_completes (h : completeProjection r = .ok p) : r.Completes p := by
  obtain ⟨-, h⟩ := Fallible.check_bind_eq_ok.mp h
  split at h
  · exact completeGroundPoint_completes h
  · exact completeProjectedGeometry_completes h
  · exact checkInsufficientGeometry_completes h

end Pydantic

/-- **Frame.**  Building a proposal changes nothing but what its validator completes. -/
theorem SpatialProposalV2.completes_of_build {r p : SpatialProposalV2} (h : r.build = .ok p) :
    r.Completes p := by
  obtain ⟨-, h⟩ := Fallible.check_bind_eq_ok.mp h
  exact Pydantic.completeProjection_completes (asValidation_eq_ok.mp h)

/-- So it still refers to the annotation it was described for. -/
theorem SpatialProposalV2.annotationId_of_build {r p : SpatialProposalV2} (h : r.build = .ok p) :
    p.annotationId = r.annotationId := by
  obtain ⟨kind, geometry, longitude, latitude, rfl⟩ := completes_of_build h
  rfl

theorem SpatialProposalV2.proposalId_of_build {r p : SpatialProposalV2} (h : r.build = .ok p) :
    p.proposalId = r.proposalId := by
  obtain ⟨kind, geometry, longitude, latitude, rfl⟩ := completes_of_build h
  rfl

/-! ## Facts and the report draft -/

inductive FactCategory where
  | fireActivity | burnedArea | resources | evacuation | access | infrastructure | weather | other
  deriving DecidableEq, Repr

inductive FactEvidenceKind where
  | frame | image | satelliteImage | transcriptSegment | articleText | metadata
  deriving DecidableEq, Repr

structure FactProposalV2 where
  factId : String
  inputId : String
  category : FactCategory
  factKey : String
  asOf : DateTime
  evidenceKind : FactEvidenceKind
  evidenceId : String
  certainty : Certainty
  valueText : Option String := none
  summary : String
  deriving DecidableEq, Repr

/-- `FactProposalV2(…)`. -/
def FactProposalV2.build : FactProposalV2 → Except PyExc FactProposalV2 :=
  checked fun r => Pydantic.validate "FactProposalV2"
    [(isSafeIdentifier r.factId, "fact_id"), (isSafeIdentifier r.inputId, "input_id"),
      (isSafeIdentifier r.factKey, "fact_key"), (isSafeIdentifier r.evidenceId, "evidence_id"),
      (Pydantic.optional (fun s : String => 1 ≤ s.length ∧ s.length ≤ 2000) r.valueText, "value_text"),
      (1 ≤ r.summary.length ∧ r.summary.length ≤ 1000, "summary"),
      (r.asOf.aware, "fact as_of must include a timezone"),
      (r.valueText.isSome, "a fact requires exactly one typed value")]

inductive ReportSectionKey where
  | situation | observedActivity | probableActivityZone | resources | impacts | sourcesAndFreshness
  | limitations
  deriving DecidableEq, Repr

structure ReportSectionV2 where
  key : ReportSectionKey
  heading : String
  body : String
  factIds : List String := []
  basisCodes : List String := []
  deriving DecidableEq, Repr

/-- `ReportSectionV2(…)`. -/
def ReportSectionV2.build : ReportSectionV2 → Except PyExc ReportSectionV2 :=
  checked fun r => Pydantic.validate "ReportSectionV2"
    [(1 ≤ r.heading.length ∧ r.heading.length ≤ 120, "heading"),
      (1 ≤ r.body.length ∧ r.body.length ≤ 5000, "body"),
      (r.factIds.length ≤ 200 ∧ Pydantic.identifiers r.factIds, "fact_ids"),
      (r.basisCodes.length ≤ 50 ∧ Pydantic.identifiers r.basisCodes, "basis_codes"),
      (!r.factIds.isEmpty || !r.basisCodes.isEmpty,
        "report sections require a fact or an explicit basis code")]

structure SituationReportDraftV2 where
  title : String
  bodyMarkdown : String
  sections : List ReportSectionV2
  deriving DecidableEq, Repr

/-- `SituationReportDraftV2(…)`. -/
def SituationReportDraftV2.build : SituationReportDraftV2 → Except PyExc SituationReportDraftV2 :=
  checked fun r => Pydantic.validate "SituationReportDraftV2"
    [(1 ≤ r.title.length ∧ r.title.length ≤ 255, "title"),
      (1 ≤ r.bodyMarkdown.length ∧ r.bodyMarkdown.length ≤ 30000, "body_markdown"),
      (1 ≤ r.sections.length ∧ r.sections.length ≤ 12, "sections"),
      ((r.sections.map ReportSectionV2.key).Nodup, "report section keys must be unique"),
      (r.sections.all fun s => s.factIds.Nodup, "report section fact references must be unique")]

/-! ## Items, runs and the output -/

structure WorkerItemResultV2 where
  inputId : String
  transcript : Transcript := {}
  pixelRegions : List PixelRegion := []
  visualEvidenceSelection : List VisualEvidenceSelection := []
  sourceAnnotations : List SourceAnnotationV2 := []
  spatialProposals : List SpatialProposalV2 := []
  factProposals : List FactProposalV2 := []
  explicitPlaces : List ExplicitLiteral := []
  explicitTimes : List ExplicitLiteral := []

namespace WorkerItemResultV2

def annotationIds (r : WorkerItemResultV2) : List String :=
  r.sourceAnnotations.map SourceAnnotationV2.annotationId

/-- `WorkerItemResultV2(…)`. -/
def build : WorkerItemResultV2 → Except PyExc WorkerItemResultV2 :=
  checked fun r => Pydantic.validate "WorkerItemResultV2"
    [(isSafeIdentifier r.inputId, "input_id"), (r.pixelRegions.length ≤ 512, "pixel_regions"),
      (r.visualEvidenceSelection.length ≤ 256, "visual_evidence_selection"),
      (r.sourceAnnotations.length ≤ 512, "source_annotations"),
      (r.spatialProposals.length ≤ 512, "spatial_proposals"),
      (r.factProposals.length ≤ 512, "fact_proposals"),
      (r.explicitPlaces.length ≤ 512, "explicit_places"), (r.explicitTimes.length ≤ 512, "explicit_times"),
      (r.annotationIds.Nodup, "duplicate annotation identifier"),
      ((r.spatialProposals.map SpatialProposalV2.proposalId).Nodup,
        "duplicate spatial proposal identifier"),
      ((r.factProposals.map FactProposalV2.factId).Nodup, "duplicate fact identifier"),
      (r.spatialProposals.all fun p => Pydantic.optional (· ∈ r.annotationIds) p.annotationId,
        "spatial proposal references an unknown annotation"),
      (r.factProposals.all fun f => f.inputId = r.inputId,
        "fact proposal input_id must match its item result")]

end WorkerItemResultV2

structure WorkerModelRunV2 where
  modelRole : WorkerModelRoleV2
  modelId : String
  revision : String
  status : RunStatus
  startedAt : DateTime
  finishedAt : DateTime
  loadMs : Int
  inferenceMs : Int
  peakVramBytes : Option Int := none
  errorCode : Option String := none
  deriving DecidableEq, Repr

/-- `WorkerModelRunV2(…)`. -/
def WorkerModelRunV2.build : WorkerModelRunV2 → Except PyExc WorkerModelRunV2 :=
  checked fun r => Pydantic.validate "WorkerModelRunV2"
    [(0 ≤ r.loadMs, "load_ms"), (0 ≤ r.inferenceMs, "inference_ms"),
      (Pydantic.optional (fun n : Int => 0 ≤ n) r.peakVramBytes, "peak_vram_bytes"),
      (Pydantic.timed r.startedAt r.finishedAt, "model run datetimes must include a timezone"),
      (r.startedAt.micros ≤ r.finishedAt.micros, "model run finish must not precede its start")]

structure WorkerOutputV2 where
  batchId : String
  analysisId : String
  status : OutputStatus
  retryable : Bool
  orchestrationContractDigest : String
  stageTraces : List WorkerStageTraceV2 := []
  modelRuns : List WorkerModelRunV2
  candidateRuns : List WorkerModelCandidateRunV2 := []
  consensusResults : List WorkerConsensusResultV2 := []
  items : List WorkerItemResultV2
  reportDraft : Option SituationReportDraftV2 := none
  validationErrors : List String := []
  bootMs : Int

namespace WorkerOutputV2

/-- `model_role_by_stage`. -/
def modelRoleByStage : StageRole → Option WorkerModelRoleV2
  | .asr => some .asr
  | .fireDetection => some .visualFiltering
  | .visualGrounding => some .visualGrounding
  | .multimodalExtraction => some .multimodalExtraction
  | .firePointing => some .firePointing
  | .burnedArea => some .burnedArea
  | .crossViewRegistration => some .crossViewRegistration
  | _ => none

/-- `candidates_by_id.get(candidate_id)`. -/
def candidate? (r : WorkerOutputV2) (candidateId : String) : Option WorkerModelCandidateRunV2 :=
  r.candidateRuns.find? (·.candidateId = candidateId)

/-- The candidate runs a consensus result accounts for. -/
def coveredIds (result : WorkerConsensusResultV2) : List String :=
  result.candidateIds ++ result.adjudicatorCandidateId.toList

/-- The selected model run is the selected candidate's. -/
def selectionMatches (r : WorkerOutputV2) (result : WorkerConsensusResultV2)
    (selected : WorkerModelCandidateRunV2) : Bool :=
  (modelRoleByStage result.stageRole).any fun role =>
    (r.modelRuns.find? (·.modelRole = role)).any fun run =>
      run.modelId = selected.modelId && run.revision = selected.revision

/-- The body of the loop over the consensus results; `covered` are the candidates accounted for so
    far. -/
def checkConsensus (r : WorkerOutputV2) (covered : List String) (result : WorkerConsensusResultV2) :
    Except PyExc Unit :=
  let adjudicator := result.adjudicatorCandidateId.bind r.candidate?
  let trace := r.stageTraces.find? (·.stageRole = result.stageRole)
  let selected := result.selectedCandidateId.bind r.candidate?
  Pydantic.validate "WorkerOutputV2"
    [(result.candidateIds.all fun id => (r.candidate? id).isSome,
        "consensus references an unknown candidate run"),
      (result.candidateIds.all fun id => Pydantic.optional (·.stageRole = result.stageRole) (r.candidate? id),
        "consensus candidate belongs to another stage"),
      (result.adjudicatorCandidateId.isSome → adjudicator.isSome,
        "consensus references an unknown adjudicator run"),
      (Pydantic.optional (fun c => c.stageRole = result.stageRole ∧ c.modelRole = .consensusJudge) adjudicator,
        "consensus adjudicator has an invalid role"),
      (result.decision = .adjudicated → Pydantic.optional (·.status = .succeeded) adjudicator,
        "an adjudicated consensus requires a successful judge"),
      ((coveredIds result).all (· ∉ covered),
        "a candidate run cannot belong to multiple consensus results"),
      (trace.isSome, "consensus result has no matching stage trace"),
      (result.downstreamAllowed → trace.map (·.status) = some .succeeded,
        "accepted consensus requires a successful stage trace"),
      (¬ result.downstreamAllowed → trace.map (·.status) ≠ some .succeeded,
        "blocked consensus cannot have a successful stage trace"),
      (Pydantic.optional (·.status = .succeeded) selected, "consensus selected an unsuccessful candidate"),
      (Pydantic.optional (r.selectionMatches result) selected,
        "selected model run does not match consensus candidate")]

/-- The loop over the consensus results; it ends with the candidates accounted for. -/
def checkConsensusResults (r : WorkerOutputV2) : List String → List WorkerConsensusResultV2 →
    Except PyExc (List String)
  | covered, [] => pure covered
  | covered, result :: rest => do
      checkConsensus r covered result
      checkConsensusResults r (covered ++ coveredIds result) rest

def candidateIds (r : WorkerOutputV2) : List String :=
  r.candidateRuns.map WorkerModelCandidateRunV2.candidateId

def factIds (r : WorkerOutputV2) : List String :=
  r.items.flatMap fun item => item.factProposals.map FactProposalV2.factId

/-- The bounds of the fields, and what `validate_output_references` checks before its loop. -/
def checkFields (r : WorkerOutputV2) : Except PyExc Unit :=
  Pydantic.validate "WorkerOutputV2"
    [(isSafeIdentifier r.batchId, "batch_id"), (isSafeIdentifier r.analysisId, "analysis_id"),
      (Pydantic.isSha256 r.orchestrationContractDigest, "orchestration_contract_digest"),
      (r.stageTraces.length ≤ 10, "stage_traces"), (r.modelRuns.length ≤ 8, "model_runs"),
      (r.candidateRuns.length ≤ 32, "candidate_runs"), (r.consensusResults.length ≤ 10, "consensus_results"),
      (1 ≤ r.items.length ∧ r.items.length ≤ 32, "items"),
      (r.validationErrors.length ≤ 64, "validation_errors"), (0 ≤ r.bootMs, "boot_ms"),
      (r.status ≠ .failed → r.stageTraces ≠ [], "a non-failed worker v2 output requires stage traces"),
      ((r.stageTraces.map (·.stageRole)).Nodup, "worker v2 output contains duplicate stage roles"),
      ((r.stageTraces.map (·.sequence)).Nodup, "worker v2 output contains duplicate stage sequences"),
      (r.stageTraces.map (·.sequence) = List.range' 1 r.stageTraces.length,
        "worker v2 stage traces must be consecutive and ordered"),
      (r.candidateIds.Nodup, "worker v2 output contains duplicate candidate ids"),
      ((r.consensusResults.map (·.consensusId)).Nodup, "worker v2 output contains duplicate consensus ids"),
      ((r.consensusResults.map (·.stageRole)).Nodup,
        "worker v2 output contains duplicate consensus stages"),
      (r.candidateRuns.isEmpty = r.consensusResults.isEmpty,
        "candidate runs and consensus results must be supplied together"),
      ((r.modelRuns.map (·.modelRole)).Nodup,
        "worker v2 output contains duplicate selected model roles")]

/-- What `validate_output_references` checks after its loop. -/
def checkReferences (r : WorkerOutputV2) (covered : List String) : Except PyExc Unit :=
  Pydantic.validate "WorkerOutputV2"
    [(covered.all (· ∈ r.candidateIds) && r.candidateIds.all (· ∈ covered),
        "every candidate run must be covered by one consensus result"),
      ((r.items.map WorkerItemResultV2.inputId).Nodup,
        "worker v2 output contains duplicate input_id values"),
      (r.factIds.Nodup, "worker v2 output contains duplicate fact identifiers"),
      (Pydantic.optional (fun draft => draft.sections.all fun s => s.factIds.all (· ∈ r.factIds))
        r.reportDraft, "report references an unknown fact")]

/-- The fields and `validate_output_references`. -/
def check (r : WorkerOutputV2) : Except PyExc Unit := do
  checkFields r
  let covered ← checkConsensusResults r [] r.consensusResults
  checkReferences r covered

/-- `WorkerOutputV2(…)`. -/
def build : WorkerOutputV2 → Except PyExc WorkerOutputV2 := checked check

/-- An output that was built names no input twice. -/
theorem input_ids_nodup {r : WorkerOutputV2} (h : check r = .ok ()) :
    (r.items.map WorkerItemResultV2.inputId).Nodup := by
  obtain ⟨-, h⟩ := Fallible.check_bind_eq_ok.mp h
  obtain ⟨covered, -, h⟩ := Fallible.bind_eq_ok.mp h
  simp only [checkReferences, Pydantic.validate_eq_ok, List.forall_mem_cons] at h
  simpa using h.2.1

end WorkerOutputV2

end FireviewerOrchestrator
