/-
  The version 1.0 batch contract and the per-item result every stage reads and patches.

  A `WorkerInput` carries the checks its validator makes as fields, so a batch with repeated
  `input_id` values, an empty one, or one of more than 32 items cannot be built.
-/
import FireviewerOrchestrator.Contracts.Python

set_option linter.unusedVariables false

namespace FireviewerOrchestrator

/-! ## Inputs -/

inductive MediaType where
  | image | video | audio | article | satelliteImage | satelliteData
  deriving DecidableEq, Repr

inductive LocationOrigin where
  | metadata | userDeclared | explicitSourceGeometry | humanConfirmed
  deriving DecidableEq, Repr

inductive LocationStatus where
  | noLocation | captureLocationOnly | userDeclaredObservationLocation | explicitSourceGeometry
  | humanConfirmedObservationLocation
  deriving DecidableEq, Repr

/-- Where the source media says it was captured: both coordinates and their origin, or nothing. -/
structure InputMetadata where
  capturedAt : Option DateTime := none
  latitude : Option ℚ := none
  longitude : Option ℚ := none
  gpsAccuracyM : Option ℚ := none
  locationOrigin : Option LocationOrigin := none
  coordinates_together : latitude.isSome = longitude.isSome := by decide
  coordinates_sourced : latitude.isSome = locationOrigin.isSome := by decide
  accuracy_located : gpsAccuracyM.isSome = true → latitude.isSome = true := by decide
  deriving DecidableEq

/-- Metadata that say nothing. -/
def InputMetadata.unknown : InputMetadata where
  coordinates_together := absent_together

structure FrameInput where
  frameId : String
  timestampS : ℚ
  workingFileUrl : String
  deriving DecidableEq, Repr

/-- Truth of an optional text: present and not empty. -/
def truthy : Option String → Bool
  | none => false
  | some s => s != ""

structure BatchItem where
  inputId : String
  mediaType : MediaType
  workingFileUrl : Option String := none
  metadata : InputMetadata := {}
  frames : List FrameInput := []
  audioUrl : Option String := none
  articleText : Option String := none
  processable : (workingFileUrl.isSome || !frames.isEmpty || audioUrl.isSome || truthy articleText) = true
    := by decide
  audio_has_url : mediaType = .audio → audioUrl.isSome = true := by decide
  deriving DecidableEq

structure WorkerInput where
  batchId : String
  items : List BatchItem
  items_nonempty : items ≠ [] := by decide
  items_bounded : items.length ≤ 32 := by decide
  input_ids_unique : (items.map BatchItem.inputId).Nodup := by decide
  frames_bounded : (items.map fun item => item.frames.length).sum ≤ 256 := by decide

/-! ## What the stages produce -/

structure TranscriptSegment where
  segmentId : String
  startS : ℚ
  endS : ℚ
  text : String
  uncertain : Bool := false
  deriving DecidableEq, Repr

structure Transcript where
  language : Option String := none
  segments : List TranscriptSegment := []
  deriving DecidableEq, Repr

inductive RegionTask where
  | fireDetection | phraseGrounding | ocr
  deriving DecidableEq, Repr

/-- `bbox_normalized`: `(x1, y1, x2, y2)`. -/
structure BoundingBox where
  x1 : ℚ
  y1 : ℚ
  x2 : ℚ
  y2 : ℚ
  deriving DecidableEq, Repr

structure PixelRegion where
  regionId : String
  evidenceId : String
  label : String
  bboxNormalized : BoundingBox
  task : RegionTask
  modelScore : Option ℚ := none
  deriving DecidableEq, Repr

inductive SelectionReason where
  | singleImage | targetDetection | temporalCoverage | detectorFallback | capacityLimit
  deriving DecidableEq, Repr

structure VisualEvidenceSelection where
  evidenceId : String
  selectedForGrounding : Bool
  selectionReason : SelectionReason
  maxDetectionScore : Option ℚ := none
  deriving DecidableEq, Repr

inductive EvidenceKind where
  | frame | image | transcriptSegment | articleText | metadata
  deriving DecidableEq, Repr

inductive Certainty where
  | directlyVisible | explicitlyWritten | explicitlySpoken
  deriving DecidableEq, Repr

structure FactualObservation where
  type : String
  evidenceKind : EvidenceKind
  evidenceId : String
  regionId : Option String := none
  description : String
  certainty : Certainty
  deriving DecidableEq, Repr

structure ExplicitLiteral where
  literal : String
  evidenceKind : EvidenceKind
  evidenceId : String
  deriving DecidableEq, Repr

structure MetadataResult where
  captureLocationAvailable : Bool
  captureLocationOrigin : Option LocationOrigin := none
  deriving DecidableEq, Repr

/-- The only marker type is `media_capture`. -/
structure GeographicMarkerCandidate where
  geometryOrigin : LocationOrigin
  deriving DecidableEq, Repr

structure ItemResult where
  inputId : String
  metadataResult : MetadataResult
  transcript : Transcript := {}
  pixelRegions : List PixelRegion := []
  visualEvidenceSelection : List VisualEvidenceSelection := []
  factualObservations : List FactualObservation := []
  explicitPlaces : List ExplicitLiteral := []
  explicitTimes : List ExplicitLiteral := []
  locationStatus : LocationStatus
  geographicMarkerCandidate : Option GeographicMarkerCandidate := none
  deriving DecidableEq, Repr

/-- What one adapter call says about one item: each field replaces the item's, or leaves it. -/
structure ItemPatch where
  transcript : Option Transcript := none
  pixelRegions : Option (List PixelRegion) := none
  visualEvidenceSelection : Option (List VisualEvidenceSelection) := none
  factualObservations : Option (List FactualObservation) := none
  explicitPlaces : Option (List ExplicitLiteral) := none
  explicitTimes : Option (List ExplicitLiteral) := none
  deriving DecidableEq, Repr

end FireviewerOrchestrator
