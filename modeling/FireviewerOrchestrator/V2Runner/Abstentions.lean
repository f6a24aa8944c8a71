/-
  Why there is no place: whether the reason an abstention gives is one that holds.

  `_satellite_ground_point` gives up for five reasons, and `_abstention_codes` reconstructs the reason
  from the media type and the camera alone.  For a satellite image it always names the projection, also
  where the projection is supported and the point is missing or off the globe
  (`abstention_reasons_true_iff`).
-/
import FireviewerOrchestrator.SessionRunner.Scripted
import FireviewerOrchestrator.V2Runner.Conversion

set_option linter.unusedVariables false

namespace FireviewerOrchestrator

namespace V2Runner

variable {host : Host} {batch : WorkerInputV2} {item : WorkerBatchItemV2}

/-- **The reasons hold**: each code that names a condition is there only if the condition is. -/
structure TrueReasons (host : Host) (batch : WorkerInputV2) (item : WorkerBatchItemV2)
    (codes : List String) : Prop where
  reference : "reference_bundle_missing" ∈ codes → batch.referenceBundle = none
  projection : "satellite_crs_projection_unsupported" ∈ codes →
    ∃ satellite ∈ item.satellite, normalizedCrs host satellite ∉ supportedCrs
  pose : "camera_pose_missing" ∈ codes → item.camera = none
  position : "camera_position_missing" ∈ codes →
    ∃ camera ∈ item.camera, camera.latitude = none ∨ camera.longitude = none
  orientation : "camera_orientation_missing" ∈ codes → ∃ camera ∈ item.camera, camera.yawDeg = none

/-- The image can be projected: there is a reference, and its projection is supported. -/
def Projectable (host : Host) (batch : WorkerInputV2) (item : WorkerBatchItemV2) : Prop :=
  batch.referenceBundle.isSome = true ∧ ∃ satellite ∈ item.satellite, normalizedCrs host satellite ∈ supportedCrs

/-- Satellite metadata is what makes a satellite image. -/
theorem satellite_isSome_iff : item.satellite.isSome = true ↔ item.mediaType = .satelliteImage := by
  rw [item.satellite_iff_image, decide_eq_true_eq]

/-- The codes of an item that is no satellite image, or has no reference, are true. -/
theorem trueReasons_of_other (h : batch.referenceBundle = none ∨ item.mediaType ≠ .satelliteImage) :
    TrueReasons host batch item (abstentionCodes batch item) := by
  unfold abstentionCodes
  by_cases hreference : batch.referenceBundle = none
  · rw [hreference]
    exact ⟨fun _ => hreference, by simp, by simp, by simp, by simp⟩
  · have hmedia : item.mediaType ≠ .satelliteImage := h.resolve_left hreference
    have hsome : batch.referenceBundle.isNone = false := by
      rw [← Bool.not_eq_true, Option.isNone_iff_eq_none]
      exact hreference
    rw [hsome, if_neg Bool.false_ne_true, if_neg hmedia]
    cases hcamera : item.camera with
    | none => exact ⟨by simp, by simp, fun _ => hcamera, by simp, by simp⟩
    | some camera =>
      by_cases hposition : (camera.latitude.isNone || camera.longitude.isNone) = true
      · simp only [hposition, if_true]
        refine ⟨by simp, by simp, by simp, fun _ => ⟨camera, hcamera, ?_⟩, by simp⟩
        simpa [Option.isNone_iff_eq_none] using hposition
      · simp only [hposition]
        by_cases hyaw : camera.yawDeg.isNone = true
        · simp only [hyaw, if_true]
          refine ⟨by simp, by simp, by simp, by simp, fun _ => ⟨camera, hcamera, ?_⟩⟩
          exact Option.isNone_iff_eq_none.mp hyaw
        · simp only [hyaw]
          exact ⟨by simp, by simp, by simp, by simp, by simp⟩

/-- **The codes are true** unless the image can be projected. -/
theorem trueReasons_iff : TrueReasons host batch item (abstentionCodes batch item) ↔
    ¬ Projectable host batch item := by
  constructor
  · rintro htrue ⟨hreference, satellite, hsatellite, hcrs⟩
    have himage : item.mediaType = .satelliteImage := by
      rw [← satellite_isSome_iff, hsatellite]
      rfl
    have hcodes : abstentionCodes batch item = ["satellite_crs_projection_unsupported"] := by
      unfold abstentionCodes
      rw [← Option.not_isSome, hreference, if_neg (by decide), if_pos himage]
    obtain ⟨satellite', hsatellite', hunsupported⟩ := htrue.projection (by rw [hcodes]; exact List.mem_cons_self)
    obtain rfl := Option.some.inj (hsatellite.symm.trans hsatellite')
    exact hunsupported hcrs
  · intro hnot
    by_cases h : batch.referenceBundle = none ∨ item.mediaType ≠ .satelliteImage
    · exact trueReasons_of_other h
    · push Not at h
      obtain ⟨hreference, himage⟩ := h
      obtain ⟨satellite, hsatellite⟩ := Option.isSome_iff_exists.mp (satellite_isSome_iff.mpr himage)
      have hsome : batch.referenceBundle.isSome = true := Option.isSome_iff_ne_none.mpr hreference
      have hcodes : abstentionCodes batch item = ["satellite_crs_projection_unsupported"] := by
        unfold abstentionCodes
        rw [← Option.not_isSome, hsome, if_neg (by decide), if_pos himage]
      rw [hcodes]
      refine ⟨by simp, fun _ => ⟨satellite, hsatellite, ?_⟩, by simp, by simp, by simp⟩
      exact fun hcrs => hnot ⟨hsome, satellite, hsatellite, hcrs⟩

/-- Where an annotation has no place, its proposal abstains with the item's codes. -/
theorem annotationProposal_abstains {annot : SourceAnnotationV2} {proposal : SpatialProposalV2}
    (hnone : satelliteGroundPoint host batch item annot = .ok none)
    (h : annotationProposal host batch item annot = .ok proposal) :
    proposal.annotationId = some annot.annotationId ∧ proposal.status = .insufficientGeometry ∧
      proposal.uncertaintyCodes = abstentionCodes batch item := by
  unfold annotationProposal at h
  rw [hnone, Fallible.ok_bind] at h
  obtain ⟨kind, geometry, longitude, latitude, rfl⟩ := SpatialProposalV2.completes_of_build h
  exact ⟨rfl, rfl, rfl⟩

/-- **When an abstention's reason holds**: for every annotation that is left without a point, its
    proposal abstains, and its codes are true exactly if the image cannot be projected. -/
theorem abstention_reasons_true_iff {annotations : List SourceAnnotationV2}
    {proposals : List SpatialProposalV2} {i : Nat} {annot : SourceAnnotationV2}
    (hmedia : item.mediaType ≠ .satelliteData)
    (h : spatialProposals host batch item annotations = .ok proposals) (hannot : annotations[i]? = some annot)
    (hnone : satelliteGroundPoint host batch item annot = .ok none) :
    ∃ proposal, proposals[i]? = some proposal ∧ proposal.annotationId = some annot.annotationId ∧
      proposal.status = .insufficientGeometry ∧
      (TrueReasons host batch item proposal.uncertaintyCodes ↔ ¬ Projectable host batch item) := by
  have hnonempty : annotations.isEmpty = false := by
    cases annotations with
    | nil => cases hannot
    | cons _ _ => rfl
  rw [spatialProposals, if_neg hmedia, hnonempty, Bool.false_and, if_neg Bool.false_ne_true] at h
  have hrelated := Fallible.mapM_eq_ok.mp h
  have hlength := hrelated.length_eq
  obtain ⟨hi, hget⟩ := List.getElem?_eq_some_iff.mp hannot
  have hi' : i < proposals.length := by omega
  have hof : annotationProposal host batch item annotations[i] = .ok proposals[i] :=
    (List.forall₂_iff_get.mp hrelated).2 i hi hi'
  rw [hget] at hof
  obtain ⟨hid, hstatus, hcodes⟩ := annotationProposal_abstains hnone hof
  refine ⟨proposals[i], List.getElem?_eq_getElem hi', hid, hstatus, ?_⟩
  rw [hcodes]
  exact trueReasons_iff

/-! ### An image that is off the globe

  Its projection is supported; its geotransform puts every point of it east of 180 degrees. -/

namespace Sample

def offGlobe : WorkerBatchItemV2 :=
  .ofSatelliteImage "satellite-2" "https://media/satellite-2" provenance
    (tile ⟨200, 1 / 1000, 0, 44, 0, -1 / 1000⟩) (by decide)

def offGlobeBatch : WorkerInputV2 where
  batchId := "batch-4"
  batchType := .satelliteMedia
  analysisWindow := window
  referenceBundle := some reference
  items := [offGlobe]

def offGlobeHost : Host := .ofSha256
  (.ofDigests [] "e3b0c44298fc1c149afbf4c8996fb92427ae41e4649b934ca495991b7852b855" emptyText_digest)
  "2026-07-01T12:00:00+00:00"

def smokeAnnotation : SourceAnnotationV2 where
  annotationId := "annotation-1"
  evidenceId := "satellite-2"
  evidenceKind := .satelliteImage
  semanticAnchor := .smokeColumnBase
  sourcePointNormalized := some (1 / 2, 1 / 2)

theorem offGlobe_projectable : Projectable offGlobeHost offGlobeBatch offGlobe :=
  ⟨rfl, _, rfl, by decide⟩

theorem offGlobe_no_point : satelliteGroundPoint offGlobeHost offGlobeBatch offGlobe smokeAnnotation = .ok none := by
  have hreturns : returns (satelliteGroundPoint offGlobeHost offGlobeBatch offGlobe smokeAnnotation)
      Option.isNone = true := by decide +kernel
  obtain ⟨point, hpoint, hnone⟩ := exists_returned hreturns
  rw [hpoint, Option.isNone_iff_eq_none.mp hnone]

end Sample

/-- The account, for the annotation of the image off the globe. -/
theorem abstention_reasons_true_iff_offGlobe :
    ∃ proposals, spatialProposals Sample.offGlobeHost Sample.offGlobeBatch Sample.offGlobe
        [Sample.smokeAnnotation] = .ok proposals ∧
      ∃ proposal, proposals[0]? = some proposal ∧
        proposal.annotationId = some Sample.smokeAnnotation.annotationId ∧
        proposal.status = .insufficientGeometry ∧
        (TrueReasons Sample.offGlobeHost Sample.offGlobeBatch Sample.offGlobe proposal.uncertaintyCodes ↔
          ¬ Projectable Sample.offGlobeHost Sample.offGlobeBatch Sample.offGlobe) := by
  obtain ⟨proposals, h⟩ := exists_ok (r := spatialProposals Sample.offGlobeHost Sample.offGlobeBatch
    Sample.offGlobe [Sample.smokeAnnotation]) (by decide +kernel)
  exact ⟨proposals, h, abstention_reasons_true_iff (by decide) h rfl Sample.offGlobe_no_point⟩

/-- **A supported projection is called unsupported**: the image is in EPSG:4326, its point is off the
    globe, and the abstention blames the projection. -/
theorem supported_projection_blamed :
    ∃ proposals, spatialProposals Sample.offGlobeHost Sample.offGlobeBatch Sample.offGlobe
        [Sample.smokeAnnotation] = .ok proposals ∧
      proposals.map SpatialProposalV2.uncertaintyCodes = [["satellite_crs_projection_unsupported"]] ∧
      ∀ proposal ∈ proposals,
        ¬ TrueReasons Sample.offGlobeHost Sample.offGlobeBatch Sample.offGlobe proposal.uncertaintyCodes := by
  have hreturns : returns (spatialProposals Sample.offGlobeHost Sample.offGlobeBatch Sample.offGlobe
      [Sample.smokeAnnotation]) (fun proposals => decide (proposals.map SpatialProposalV2.uncertaintyCodes
        = [["satellite_crs_projection_unsupported"]])) = true := by decide +kernel
  obtain ⟨proposals, h, hcodes⟩ := exists_returned hreturns
  have hcodes := of_decide_eq_true hcodes
  refine ⟨proposals, h, hcodes, fun proposal hproposal htrue => ?_⟩
  have hmem := List.mem_map_of_mem (f := SpatialProposalV2.uncertaintyCodes) hproposal
  rw [hcodes, List.mem_singleton] at hmem
  obtain ⟨satellite, hsatellite, hunsupported⟩ :=
    htrue.projection (by rw [hmem]; exact List.mem_cons_self)
  obtain ⟨-, satellite', hsatellite', hcrs⟩ := Sample.offGlobe_projectable
  obtain rfl := Option.some.inj (hsatellite.symm.trans hsatellite')
  exact hunsupported hcrs

end V2Runner

end FireviewerOrchestrator
