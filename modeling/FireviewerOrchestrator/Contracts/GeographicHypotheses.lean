/-
  Geographic hypotheses, the references they are supported by, and the checks that say so.

  A hypothesis names its references by identifier only, and so does a check its evidence.  What the
  point bundles are made of is read here field by field; the rest of a record is carried along.
-/
import FireviewerOrchestrator.Contracts.EventEvidence

set_option linter.unusedVariables false

namespace FireviewerOrchestrator

/-! ## References -/

inductive GeographicReferenceKind where
  | satelliteHotspot | satelliteActiveArea | priorActivePoint | priorFireFront | priorPerimeter
  deriving DecidableEq, Repr

/-- `in {"satellite_hotspot", "satellite_active_area"}`. -/
def GeographicReferenceKind.isSatellite : GeographicReferenceKind → Bool
  | .satelliteHotspot | .satelliteActiveArea => true
  | _ => false

/-- `in {"prior_active_point", "prior_fire_front", "prior_perimeter"}`. -/
def GeographicReferenceKind.isPrior : GeographicReferenceKind → Bool
  | .priorActivePoint | .priorFireFront | .priorPerimeter => true
  | _ => false

structure GeographicReference where
  referenceId : String
  referenceKind : GeographicReferenceKind
  /-- The geometry, the time and the lineage. -/
  record : JsonFields := []
  reference_id_safe : isSafeIdentifier referenceId = true := by decide

structure UploadLocationEvidence where
  locationId : String
  mediaId : String
  /-- The position, the camera and the digest. -/
  record : JsonFields := []
  ids_safe : isSafeIdentifier locationId = true ∧ isSafeIdentifier mediaId = true := by decide

structure PriorFireStateReference where
  stateId : String
  /-- The kind, the time and the artifact. -/
  record : JsonFields := []
  state_id_safe : isSafeIdentifier stateId = true := by decide

/-! ## Hypotheses -/

/-- A score: `ge=0, le=1`. -/
def IsUnit (q : ℚ) : Prop := 0 ≤ q ∧ q ≤ 1

instance (q : ℚ) : Decidable (IsUnit q) := inferInstanceAs (Decidable (_ ∧ _))

structure GeographicScoreBreakdown where
  visual : ℚ
  cameraBearing : ℚ
  terrainVisibility : ℚ
  satellite : ℚ
  temporalAlignment : Option ℚ := none
  historyProgression : Option ℚ := none
  parts_bounds : IsUnit visual ∧ IsUnit cameraBearing ∧ IsUnit terrainVisibility ∧ IsUnit satellite
    := by decide +kernel
  temporal_bounds : ∀ score ∈ temporalAlignment, IsUnit score := by decide +kernel
  history_bounds : ∀ score ∈ historyProgression, IsUnit score := by decide +kernel

inductive Phenomenon where
  | activeFirePoint | smokeOrigin
  deriving DecidableEq, Repr

structure GeographicHypothesis where
  hypothesisId : String
  observationId : String
  mediaId : String
  phenomenon : Phenomenon
  longitude : ℚ
  latitude : ℚ
  horizontalUncertaintyM : ℚ
  score : ℚ
  scoreBreakdown : GeographicScoreBreakdown
  supportingReferenceIds : List String
  ids_safe : isSafeIdentifier hypothesisId = true ∧ isSafeIdentifier observationId = true ∧
    isSafeIdentifier mediaId = true := by decide
  score_bounds : IsUnit score := by decide +kernel
  references_bounded : 1 ≤ supportingReferenceIds.length ∧ supportingReferenceIds.length ≤ 128 := by decide
  references_unique : supportingReferenceIds.Nodup := by decide

structure GeographicHypothesisResultV1 where
  hypotheses : List GeographicHypothesis
  /-- `provider_run.provider_id`. -/
  providerId : String
  /-- `provider_run.provider_version`. -/
  providerVersion : String
  /-- The status, the abstentions and the rest of the run. -/
  record : JsonFields := []
  hypothesis_ids_unique : (hypotheses.map GeographicHypothesis.hypothesisId).Nodup := by decide
  hypotheses_bounded : hypotheses.length ≤ 2048 := by decide

/-! ## Checks -/

inductive CheckType where
  | cameraDistance | cameraBearing | lineOfSight | terrainVisibility | satelliteOverlap
  | temporalAlignment | historyProgression
  deriving DecidableEq, Repr

inductive CheckStatus where
  | supported | contradicted | unknown
  deriving DecidableEq, Repr

structure GeospatialConsistencyCheck where
  checkId : String
  checkType : CheckType
  status : CheckStatus
  score : Option ℚ := none
  reasonCode : String
  evidenceIds : List String
  hardConstraint : Bool := false
  deriving DecidableEq

/-- `GeospatialConsistencyCheck(…)`. -/
def GeospatialConsistencyCheck.build :
    GeospatialConsistencyCheck → Except PyExc GeospatialConsistencyCheck :=
  checked fun r => Pydantic.validate "GeospatialConsistencyCheck"
    [(isSafeIdentifier r.checkId, "check_id"),
      (Pydantic.optional (fun score : ℚ => decide (IsUnit score)) r.score, "score"),
      (isSafeIdentifier r.reasonCode, "reason_code"),
      (1 ≤ r.evidenceIds.length ∧ r.evidenceIds.length ≤ 128 ∧ Pydantic.identifiers r.evidenceIds,
        "evidence_ids"),
      (r.evidenceIds.Nodup, "geospatial check evidence references must be unique"),
      (r.status = .unknown → r.score = none, "an unknown geospatial check cannot carry a score"),
      (r.hardConstraint = true → r.status ≠ .unknown,
        "an unknown geospatial check cannot be a hard constraint")]

theorem GeospatialConsistencyCheck.evidence_nodup {r built : GeospatialConsistencyCheck}
    (h : r.build = .ok built) : built = r ∧ built.evidenceIds.Nodup := by
  obtain ⟨hvalid, rfl⟩ := checked_eq_ok.mp h
  refine ⟨rfl, ?_⟩
  have hall := Pydantic.validate_eq_ok.mp hvalid
  have hnodup := hall
    (decide built.evidenceIds.Nodup, "geospatial check evidence references must be unique") (by simp)
  exact of_decide_eq_true hnodup

/-- What passes its own contract is built as it is. -/
theorem GeospatialConsistencyCheck.build_of_valid {r : GeospatialConsistencyCheck}
    (hid : isSafeIdentifier r.checkId = true) (hreason : isSafeIdentifier r.reasonCode = true)
    (hscore : ∀ score, r.score = some score → IsUnit score)
    (hevidence : 1 ≤ r.evidenceIds.length ∧ r.evidenceIds.length ≤ 128 ∧ Pydantic.identifiers r.evidenceIds)
    (hnodup : r.evidenceIds.Nodup) (hstatus : r.status = .supported) : r.build = .ok r := by
  refine checked_eq_ok.mpr ⟨Pydantic.validate_eq_ok.mpr ?_, rfl⟩
  have hunit : Pydantic.optional (fun score : ℚ => decide (IsUnit score)) r.score = true := by
    cases hr : r.score with
    | none => rfl
    | some score => exact decide_eq_true (hscore score hr)
  simp only [List.forall_mem_cons, hid, hreason, hunit, hstatus, decide_eq_true hevidence,
    decide_eq_true hnodup, true_and]
  simp

/-! ## Durable evidence -/

/-- What the backend keeps of an event, as far as the bundles read it. -/
structure DurableEventEvidence where
  event : EventEvidenceV1
  uploadLocations : List UploadLocationEvidence
  priorFireStates : List PriorFireStateReference
  geographicReferences : List GeographicReference
  sourceRevisionSha256 : String

end FireviewerOrchestrator
