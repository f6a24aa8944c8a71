/-
  The version 2.0 batch contract.

  Every record carries what its validator checks as fields, as far as the conversion reads the data
  that is checked: an item of satellite data without its hotspot metadata, or a batch that names an
  input twice, cannot be built.
-/
import FireviewerOrchestrator.Contracts.Media
import FireviewerOrchestrator.Contracts.Records

set_option linter.unusedVariables false

namespace FireviewerOrchestrator

/-! ## Where and when -/

inductive BatchType where
  | userMedia | externalMedia | satelliteMedia
  deriving DecidableEq, Repr

/-- A calendar date. -/
structure Date where
  year : Nat
  month : Nat
  day : Nat
  deriving DecidableEq, Repr

/-- A number in at least `width` digits. -/
def zeroPadded (width n : Nat) : String :=
  let digits := Nat.toDigits 10 n
  String.ofList (List.replicate (width - digits.length) '0' ++ digits)

/-- `date.isoformat()`. -/
def Date.isoformat (date : Date) : String :=
  zeroPadded 4 date.year ++ "-" ++ zeroPadded 2 date.month ++ "-" ++ zeroPadded 2 date.day

structure AnalysisWindowV2 where
  analysisId : String
  windowStartAt : DateTime
  windowEndAt : DateTime
  localDate : Date
  analysis_id_safe : isSafeIdentifier analysisId = true := by decide
  datetimes_aware : windowStartAt.aware = true ∧ windowEndAt.aware = true := by decide
  end_follows : windowStartAt.micros < windowEndAt.micros := by decide

/-! ## Provenance -/

inductive SourceTrust where
  | unverified | partner | institutional | operator
  deriving DecidableEq, Repr

def SourceTrust.value : SourceTrust → String
  | unverified => "unverified"
  | partner => "partner"
  | institutional => "institutional"
  | operator => "operator"

inductive SourceKind where
  | authority | emergencyService | satellite | weather | airQuality | context | directory | press
  deriving DecidableEq, Repr

inductive SourceConfidence where
  | aPlus | a | b | lead
  deriving DecidableEq, Repr

def SourceConfidence.value : SourceConfidence → String
  | aPlus => "A+"
  | a => "A"
  | b => "B"
  | lead => "lead"

structure SourceProvenanceV2 where
  sourceKey : String
  sourceReferenceUrl : Option String := none
  attribution : Option String := none
  trust : SourceTrust
  sourcePolicyDomain : Option String := none
  sourceKind : Option SourceKind := none
  sourceConfidence : Option SourceConfidence := none
  source_key_safe : isSafeIdentifier sourceKey = true := by decide
  attribution_bounded : ∀ text ∈ attribution, text.length ≤ 500 := by decide
  policy_domain_bounds : ∀ text ∈ sourcePolicyDomain, 3 ≤ text.length ∧ text.length ≤ 253 := by decide

/-- A source of which only the key and the trust are known. -/
def SourceProvenanceV2.ofKey (sourceKey : String) (trust : SourceTrust)
    (hkey : isSafeIdentifier sourceKey = true) : SourceProvenanceV2 where
  sourceKey := sourceKey
  trust := trust
  source_key_safe := hkey

/-! ## Sensors -/

inductive PoseOrigin where
  | metadata | userDeclared | crossViewEstimate | humanConfirmed
  deriving DecidableEq, Repr

/-- The camera of an image or a video: its position (both coordinates and their origin, or nothing)
    and its heading. -/
structure CameraMetadataV2 where
  latitude : Option ℚ := none
  longitude : Option ℚ := none
  horizontalAccuracyM : Option ℚ := none
  yawDeg : Option ℚ := none
  poseOrigin : Option PoseOrigin := none
  coordinates_together : latitude.isSome = longitude.isSome := by decide
  position_located : horizontalAccuracyM.isSome = true → latitude.isSome = true := by decide
  pose_located : latitude.isSome = poseOrigin.isSome := by decide

/-- `origin_x, pixel_x, rotation_x, origin_y, rotation_y, pixel_y`. -/
structure Geotransform where
  originX : ℚ
  pixelX : ℚ
  rotationX : ℚ
  originY : ℚ
  rotationY : ℚ
  pixelY : ℚ
  deriving DecidableEq, Repr

/-- `min_lon, min_lat, max_lon, max_lat`. -/
structure BBoxWgs84 where
  minLon : ℚ
  minLat : ℚ
  maxLon : ℚ
  maxLat : ℚ
  deriving DecidableEq, Repr

/-- An ordered extent of the globe. -/
def BBoxWgs84.Ordered (b : BBoxWgs84) : Prop :=
  (-180 ≤ b.minLon ∧ b.minLon < b.maxLon ∧ b.maxLon ≤ 180) ∧
    -90 ≤ b.minLat ∧ b.minLat < b.maxLat ∧ b.maxLat ≤ 90

instance (b : BBoxWgs84) : Decidable b.Ordered := inferInstanceAs (Decidable (_ ∧ _))

structure SatelliteMetadataV2 where
  acquiredAt : DateTime
  crs : String
  rasterWidthPx : Nat
  rasterHeightPx : Nat
  geotransform : Geotransform
  resolutionM : ℚ
  acquired_aware : acquiredAt.aware = true := by decide
  raster_bounds : (0 < rasterWidthPx ∧ rasterWidthPx ≤ 500000) ∧
    0 < rasterHeightPx ∧ rasterHeightPx ≤ 500000 := by decide
  resolution_bounds : 0 < resolutionM ∧ resolutionM ≤ 100000 := by decide +kernel

structure HotspotMetadataV2 where
  acquiredAt : DateTime
  resolutionM : ℚ
  bboxWgs84 : BBoxWgs84
  acquired_aware : acquiredAt.aware = true := by decide
  resolution_bounds : 0 < resolutionM ∧ resolutionM ≤ 100000 := by decide +kernel
  bbox_ordered : bboxWgs84.Ordered := by decide +kernel

structure SpatialReferenceBundleV2 where
  manifestSha256 : String
  /-- `working_file_url` of each of `assets`. -/
  assetUrls : List String := []
  manifest_is_sha256 : Pydantic.isSha256 manifestSha256 = true := by decide

/-! ## Batches -/

/-- `media_type in {SATELLITE_IMAGE, SATELLITE_DATA}`. -/
def MediaType.isSatellite : MediaType → Bool
  | .satelliteImage | .satelliteData => true
  | _ => false

structure WorkerBatchItemV2 where
  inputId : String
  mediaType : MediaType
  workingFileUrl : Option String := none
  provenance : SourceProvenanceV2
  capturedAt : Option DateTime := none
  camera : Option CameraMetadataV2 := none
  satellite : Option SatelliteMetadataV2 := none
  hotspot : Option HotspotMetadataV2 := none
  frames : List FrameInput := []
  audioUrl : Option String := none
  articleText : Option String := none
  input_id_safe : isSafeIdentifier inputId = true := by decide
  captured_aware : ∀ t ∈ capturedAt, t.aware = true := by decide
  processable : (workingFileUrl.isSome || !frames.isEmpty || audioUrl.isSome || truthy articleText) = true
    := by decide
  audio_has_url : mediaType = .audio → audioUrl.isSome = true := by decide
  satellite_iff_image : satellite.isSome = decide (mediaType = .satelliteImage) := by decide
  hotspot_iff_data : hotspot.isSome = decide (mediaType = .satelliteData) := by decide
  data_has_text : mediaType = .satelliteData → articleText.isSome = true := by decide
  camera_reserved : camera.isSome = true → mediaType = .image ∨ mediaType = .video := by decide

/-- An image with its file, and nothing else. -/
def WorkerBatchItemV2.ofImage (inputId url : String) (provenance : SourceProvenanceV2)
    (hid : isSafeIdentifier inputId = true) : WorkerBatchItemV2 where
  inputId := inputId
  mediaType := .image
  workingFileUrl := some url
  provenance := provenance
  input_id_safe := hid
  captured_aware := absent_aware
  processable := rfl

/-- A satellite image with its file, and nothing else. -/
def WorkerBatchItemV2.ofSatelliteImage (inputId url : String) (provenance : SourceProvenanceV2)
    (satellite : SatelliteMetadataV2) (hid : isSafeIdentifier inputId = true) : WorkerBatchItemV2 where
  inputId := inputId
  mediaType := .satelliteImage
  workingFileUrl := some url
  provenance := provenance
  satellite := some satellite
  input_id_safe := hid
  captured_aware := absent_aware
  processable := rfl
  satellite_iff_image := rfl

structure WorkerInputV2 where
  batchId : String
  batchType : BatchType
  analysisWindow : AnalysisWindowV2
  referenceBundle : Option SpatialReferenceBundleV2 := none
  items : List WorkerBatchItemV2
  batch_id_safe : isSafeIdentifier batchId = true := by decide
  items_nonempty : items ≠ [] := by simp
  items_bounded : items.length ≤ 32 := by decide
  input_ids_unique : (items.map WorkerBatchItemV2.inputId).Nodup := by decide
  frames_bounded : (items.map fun item => item.frames.length).sum ≤ 256 := by decide
  satellite_apart : ∀ item ∈ items, item.mediaType.isSatellite = decide (batchType = .satelliteMedia)
    := by decide

end FireviewerOrchestrator
