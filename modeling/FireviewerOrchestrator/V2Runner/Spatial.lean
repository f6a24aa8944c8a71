/-
  Pixels to places: the annotations the conversion makes of grounded regions, and the spatial
  proposals it makes itself, where no earlier stage made any.

  A satellite image projects a point through its geotransform; satellite data are hotspots in GeoJSON
  and are read as they are; every other annotation gets an explicit abstention.
-/
import FireviewerOrchestrator.V2Runner.Text

set_option linter.unusedVariables false

namespace FireviewerOrchestrator

namespace V2Runner

variable (host : Host) (batch : WorkerInputV2) (item : WorkerBatchItemV2)

/-! ## Annotations of the legacy regions -/

/-- `_evidence_kind`. -/
def evidenceKind (evidenceId : String) : V2EvidenceKind :=
  if item.mediaType = .satelliteImage then .satelliteImage
  else if item.frames.any (·.frameId = evidenceId) then .frame
  else .image

/-- The regions whose label names smoke or fire, with the anchor it names. -/
def anchoredRegions (legacyResult : ItemResult) : List (PixelRegion × SourceSemanticAnchorV2) :=
  legacyResult.pixelRegions.filterMap fun region =>
    (semanticAnchor host region.label).map fun anchor => (region, anchor)

/-- The annotation of one region: the middle of its box. -/
def regionAnnotation (region : PixelRegion) (anchor : SourceSemanticAnchorV2) :
    Except PyExc SourceAnnotationV2 :=
  let box := region.bboxNormalized
  SourceAnnotationV2.build
    { annotationId := stableId host.sha256 "ANN" [item.inputId, region.regionId, anchor.value]
      evidenceId := region.evidenceId
      evidenceKind := evidenceKind item region.evidenceId
      semanticAnchor := anchor
      sourcePointNormalized := some ((box.x1 + box.x2) / 2, (box.y1 + box.y2) / 2)
      modelScore := region.modelScore }

/-- `_source_annotations`. -/
def sourceAnnotations (legacyResult : ItemResult) : Except PyExc (List SourceAnnotationV2) :=
  (anchoredRegions host legacyResult).mapM fun entry => regionAnnotation host item entry.1 entry.2

/-! ## Satellite images -/

/-- `_point_proposal_kind`. -/
def pointProposalKind (annot : SourceAnnotationV2) : SpatialProposalKindV2 :=
  match annot.semanticAnchor with
  | .smokeColumnBase | .smokeOriginPoint => .smokeOriginPoint
  | _ => .activeFirePoint

/-- `satellite.crs.upper().replace(" ", "")`. -/
def normalizedCrs (satellite : SatelliteMetadataV2) : String :=
  String.ofList ((host.upper satellite.crs).toList.filter (· ≠ ' '))

def supportedCrs : List String := ["EPSG:4326", "OGC:CRS84", "CRS84"]

/-- The longitude and latitude of a normalized point of the raster. -/
def rasterPosition (satellite : SatelliteMetadataV2) (point : ℚ × ℚ) : ℚ × ℚ :=
  let xPixel := point.1 * satellite.rasterWidthPx
  let yPixel := point.2 * satellite.rasterHeightPx
  let g := satellite.geotransform
  (g.originX + xPixel * g.pixelX + yPixel * g.rotationX,
    g.originY + xPixel * g.rotationY + yPixel * g.pixelY)

/-- `_satellite_ground_point`. -/
def satelliteGroundPoint (annot : SourceAnnotationV2) : Except PyExc (Option SpatialProposalV2) :=
  match item.satellite, batch.referenceBundle, annot.sourcePointNormalized with
  | some satellite, some reference, some point =>
      if normalizedCrs host satellite ∉ supportedCrs then pure none
      else
        let (longitude, latitude) := rasterPosition satellite point
        if -180 ≤ longitude ∧ longitude ≤ 180 ∧ -90 ≤ latitude ∧ latitude ≤ 90 then do
          let proposal ← SpatialProposalV2.build
            { proposalId := stableId host.sha256 "SP" [annot.annotationId, "satellite"]
              annotationId := some annot.annotationId
              status := .projectedGeometry
              proposalKind := some (pointProposalKind annot)
              observedAt := some satellite.acquiredAt
              geometryOrigin := some .satelliteGeotransform
              longitude := some longitude
              latitude := some latitude
              geometryGeojson := some (Geojson.pointGeometry longitude latitude)
              horizontalAccuracyM := some (max (satellite.resolutionM * 2) 1)
              referenceBundleSha256 := some reference.manifestSha256 }
          pure (some proposal)
        else pure none
  | _, _, _ => pure none

/-! ## Abstentions -/

/-- `_abstention_codes`. -/
def abstentionCodes : List String :=
  if batch.referenceBundle.isNone then ["reference_bundle_missing"]
  else if item.mediaType = .satelliteImage then ["satellite_crs_projection_unsupported"]
  else match item.camera with
    | none => ["camera_pose_missing"]
    | some camera =>
        if camera.latitude.isNone || camera.longitude.isNone then ["camera_position_missing"]
        else if camera.yawDeg.isNone then ["camera_orientation_missing"]
        else ["terrain_raycast_unavailable"]

/-- The abstention for one annotation. -/
def annotationAbstention (annot : SourceAnnotationV2) : Except PyExc SpatialProposalV2 :=
  SpatialProposalV2.build
    { proposalId := stableId host.sha256 "SP" [annot.annotationId, "abstain"]
      annotationId := some annot.annotationId
      status := .insufficientGeometry
      observedAt := item.capturedAt
      uncertaintyCodes := abstentionCodes batch item }

/-- The one abstention for a whole item. -/
def itemAbstention (reason code : String) : Except PyExc (List SpatialProposalV2) := do
  let proposal ← SpatialProposalV2.build
    { proposalId := stableId host.sha256 "SP" [item.inputId, reason]
      status := .insufficientGeometry
      uncertaintyCodes := [code] }
  pure [proposal]

/-! ## Hotspots -/

/-- `json.loads`, where what is not JSON is read as `None`. -/
def loadPayload (text : String) : Except PyExc JsonValue :=
  match host.jsonLoads text with
  | .error (.raised typeName message) =>
      if typeName = "JSONDecodeError" then pure .null else .error (.raised typeName message)
  | r => r

/-- The fields of an object. -/
def fields? : JsonValue → Option JsonFields
  | .obj fields => some fields
  | _ => none

/-- `value == text`. -/
def isText (text : String) : JsonValue → Bool
  | .str s => s == text
  | _ => false

/-- The first two coordinates of a feature with a point geometry, when they are numbers. -/
def featureCoordinates (feature : JsonValue) : Option (JsonValue × JsonValue) := do
  let properties ← fields? feature
  let geometry ← fields? (getField "geometry" properties)
  if isText "Point" (getField "type" geometry) then
    match Geojson.items? (getField "coordinates" geometry) with
    | some (first :: second :: _) =>
        if first.isNumber && second.isNumber then some (first, second) else none
    | _ => none
  else none

/-- The position of a feature that counts: its coordinates are inside the declared extent. -/
def featurePosition (bbox : BBoxWgs84) (feature : JsonValue) : Except PyExc (Option (ℚ × ℚ)) :=
  match featureCoordinates feature with
  | none => pure none
  | some (first, second) => do
      let longitude ← first.toFloat
      let latitude ← second.toFloat
      -- no infinity lies between two bounds, and nothing that is not a number
      match longitude.finite?, latitude.finite? with
      | some longitude, some latitude =>
          if bbox.minLon ≤ longitude ∧ longitude ≤ bbox.maxLon ∧ bbox.minLat ≤ latitude ∧
              latitude ≤ bbox.maxLat
          then pure (some (longitude, latitude))
          else pure none
      | _, _ => pure none

/-- The proposal of one feature. -/
def hotspotProposal (hotspot : HotspotMetadataV2) (reference : SpatialReferenceBundleV2) (index : Nat)
    (position : ℚ × ℚ) : Except PyExc SpatialProposalV2 :=
  SpatialProposalV2.build
    { proposalId := stableId host.sha256 "SP" [item.inputId, "hotspot", toString index]
      status := .projectedGeometry
      proposalKind := some .activeFirePoint
      observedAt := some hotspot.acquiredAt
      geometryOrigin := some .explicitSourceGeometry
      longitude := some position.1
      latitude := some position.2
      geometryGeojson := some (Geojson.pointGeometry position.1 position.2)
      horizontalAccuracyM := some hotspot.resolutionM
      referenceBundleSha256 := some reference.manifestSha256 }

/-- The loop body: what becomes of one feature. -/
def hotspotOfFeature (hotspot : HotspotMetadataV2) (reference : SpatialReferenceBundleV2)
    (entry : JsonValue × Nat) : Except PyExc (Option SpatialProposalV2) := do
  match ← featurePosition hotspot.bboxWgs84 entry.1 with
  | none => pure none
  | some position =>
      let proposal ← hotspotProposal host item hotspot reference entry.2 position
      pure (some proposal)

/-- The features of a collection of at most 5000. -/
def collectionFeatures (collection : JsonFields) : Option (List JsonValue) :=
  match getField "features" collection with
  | .arr features => if features.length ≤ 5000 then some features else none
  | _ => none

/-- The payload, when it is a feature collection. -/
def featureCollection (payload : JsonValue) : Option JsonFields :=
  (fields? payload).filter fun collection => isText "FeatureCollection" (getField "type" collection)

/-- What becomes of a payload: a proposal for each feature that counts, or an abstention. -/
def answerPayload (hotspot : HotspotMetadataV2) (reference : SpatialReferenceBundleV2) (payload : JsonValue) :
    Except PyExc (List SpatialProposalV2) :=
  match featureCollection payload with
  | none => itemAbstention host item "invalid-geojson" "hotspot_geojson_invalid"
  | some collection =>
      match collectionFeatures collection with
      | none => itemAbstention host item "feature-count-invalid" "hotspot_feature_count_invalid"
      | some features => do
          let outcomes ← (features.zipIdx 1).mapM (hotspotOfFeature host item hotspot reference)
          let proposals := outcomes.reduceOption
          if proposals.isEmpty then
            itemAbstention host item "no-hotspots" "hotspot_observations_empty"
          else pure proposals

/-- `_hotspot_spatial_proposals`. -/
def hotspotSpatialProposals : Except PyExc (List SpatialProposalV2) :=
  match item.hotspot, item.articleText with
  | some hotspot, some text =>
      match batch.referenceBundle with
      | none => itemAbstention host item "reference-missing" "reference_bundle_missing"
      | some reference => do
          let payload ← loadPayload host text
          answerPayload host item hotspot reference payload
  | _, _ => itemAbstention host item "hotspot-metadata-missing" "hotspot_metadata_missing"

/-! ## The conversion's own proposals -/

/-- The proposal for one annotation: its place on the satellite image, or an abstention. -/
def annotationProposal (annot : SourceAnnotationV2) : Except PyExc SpatialProposalV2 := do
  match ← satelliteGroundPoint host batch item annot with
  | some projected => pure projected
  | none => annotationAbstention host batch item annot

/-- `_spatial_proposals`. -/
def spatialProposals (annotations : List SourceAnnotationV2) : Except PyExc (List SpatialProposalV2) :=
  if item.mediaType = .satelliteData then hotspotSpatialProposals host batch item
  else if annotations.isEmpty && (item.workingFileUrl.isSome || !item.frames.isEmpty) then
    itemAbstention host item "no-anchor" "active_fire_anchor_not_extracted"
  else annotations.mapM (annotationProposal host batch item)

/-! ## No annotation is left without a proposal -/

/-- Every annotation is referred to by one of the proposals. -/
def Covers (proposals : List SpatialProposalV2) (annotations : List SourceAnnotationV2) : Prop :=
  ∀ annot ∈ annotations, ∃ proposal ∈ proposals, proposal.annotationId = some annot.annotationId

section Covers

variable {host batch item}

theorem Covers.nil (proposals : List SpatialProposalV2) : Covers proposals [] :=
  fun _ h => absurd h List.not_mem_nil

theorem covers_append {proposals : List SpatialProposalV2} {as bs : List SourceAnnotationV2} :
    Covers proposals (as ++ bs) ↔ Covers proposals as ∧ Covers proposals bs :=
  List.forall_mem_append

theorem satelliteGroundPoint_annotationId {annot : SourceAnnotationV2} {proposal : SpatialProposalV2}
    (h : satelliteGroundPoint host batch item annot = .ok (some proposal)) :
    proposal.annotationId = some annot.annotationId := by
  unfold satelliteGroundPoint at h
  split at h
  · split at h
    · cases h
    · dsimp only at h
      split at h
      · obtain ⟨built, hbuilt, h⟩ := Fallible.bind_eq_ok.mp h
        obtain rfl : built = proposal := Option.some.inj (Fallible.pure_eq_ok.mp h)
        exact SpatialProposalV2.annotationId_of_build hbuilt
      · cases h
  · cases h

theorem annotationProposal_annotationId {annot : SourceAnnotationV2} {proposal : SpatialProposalV2}
    (h : annotationProposal host batch item annot = .ok proposal) :
    proposal.annotationId = some annot.annotationId := by
  obtain ⟨projected, hprojected, h⟩ := Fallible.bind_eq_ok.mp h
  cases projected with
  | some projected =>
    obtain rfl := Fallible.pure_eq_ok.mp h
    exact satelliteGroundPoint_annotationId hprojected
  | none => exact SpatialProposalV2.annotationId_of_build h

/-- **The conversion's own proposals** leave no annotation out. -/
theorem spatialProposals_covers {annotations : List SourceAnnotationV2} {proposals : List SpatialProposalV2}
    (hmedia : item.mediaType ≠ .satelliteData)
    (h : spatialProposals host batch item annotations = .ok proposals) : Covers proposals annotations := by
  rw [spatialProposals, if_neg hmedia] at h
  split at h
  · rename_i hempty
    have hnil : annotations = [] := List.isEmpty_iff.mp (Bool.and_eq_true_iff.mp hempty).1
    rw [hnil]
    exact Covers.nil proposals
  · intro annot hannot
    obtain ⟨proposal, hproposal, hof⟩ := Fallible.exists_of_mem_input h hannot
    exact ⟨proposal, hproposal, annotationProposal_annotationId hof⟩

end Covers

end V2Runner

end FireviewerOrchestrator
