/-
  The stage contracts: what each stage of the orchestration needs, may produce, and is limited to.

  Capabilities are the vocabulary the gates reason in.  A contract carries the checks of its own
  validator as fields; a registry maps each role to at most one contract.
-/
import FireviewerOrchestrator.Contracts.Python
import Mathlib.Data.Finset.Basic
import Mathlib.Data.List.Sort

set_option linter.unusedVariables false

namespace FireviewerOrchestrator

/-! ## Roles, capabilities, policies -/

inductive StageRole where
  | sourceResearch | asr | fireDetection | visualGrounding | multimodalExtraction | firePointing
  | burnedArea | crossViewRegistration | spatialProjection | evidenceFusion | situationReport
  deriving DecidableEq, Repr

def StageRole.value : StageRole → String
  | sourceResearch => "source_research"
  | asr => "asr"
  | fireDetection => "fire_detection"
  | visualGrounding => "visual_grounding"
  | multimodalExtraction => "multimodal_extraction"
  | firePointing => "fire_pointing"
  | burnedArea => "burned_area"
  | crossViewRegistration => "cross_view_registration"
  | spatialProjection => "spatial_projection"
  | evidenceFusion => "evidence_fusion"
  | situationReport => "situation_report"

inductive StageCapability where
  | researchRequest | timeCutoff | networkBroker | sourceCandidates | audioInput | visualInput
  | textInput | transcript | selectedVisual | detectionRegions | groundedRegions
  | factualObservations | firePointPixel | satelliteMultispectral | burnedAreaGeometry
  | explicitAbstention | referenceBundle | spatialMatches | cameraPose | terrainReference
  | spatialProposals | evidenceGraph | reportDraft
  deriving DecidableEq, Repr

namespace StageCapability

def value : StageCapability → String
  | researchRequest => "research_request"
  | timeCutoff => "time_cutoff"
  | networkBroker => "network_broker"
  | sourceCandidates => "source_candidates"
  | audioInput => "audio_input"
  | visualInput => "visual_input"
  | textInput => "text_input"
  | transcript => "transcript"
  | selectedVisual => "selected_visual"
  | detectionRegions => "detection_regions"
  | groundedRegions => "grounded_regions"
  | factualObservations => "factual_observations"
  | firePointPixel => "fire_point_pixel"
  | satelliteMultispectral => "satellite_multispectral"
  | burnedAreaGeometry => "burned_area_geometry"
  | explicitAbstention => "explicit_abstention"
  | referenceBundle => "reference_bundle"
  | spatialMatches => "spatial_matches"
  | cameraPose => "camera_pose"
  | terrainReference => "terrain_reference"
  | spatialProposals => "spatial_proposals"
  | evidenceGraph => "evidence_graph"
  | reportDraft => "report_draft"

/-- Every capability, in the order of its `value`. -/
def byValue : List StageCapability :=
  [audioInput, burnedAreaGeometry, cameraPose, detectionRegions, evidenceGraph, explicitAbstention,
    factualObservations, firePointPixel, groundedRegions, networkBroker, referenceBundle,
    reportDraft, researchRequest, satelliteMultispectral, selectedVisual, sourceCandidates,
    spatialMatches, spatialProposals, terrainReference, textInput, timeCutoff, transcript,
    visualInput]

example : ∀ c : StageCapability, c ∈ byValue := by
  intro c
  cases c <;> decide

example : byValue.Pairwise (fun a b => a.value < b.value) := by decide

/-- `tuple(sorted(capabilities, key=lambda capability: capability.value))`. -/
def ordered (capabilities : Finset StageCapability) : List StageCapability :=
  byValue.filter (· ∈ capabilities)

end StageCapability

/-- What becomes of the session when a stage fails. -/
inductive FailurePolicy where
  | block | continueDegraded | humanReview
  deriving DecidableEq, Repr

/-- Whether a stage asks models, computes, or is the session's own work: only a model can be asked to repair
    its answer (`repairs_are_model`). -/
inductive ExecutionKind where
  | model | deterministic | orchestration
  deriving DecidableEq, Repr

/-! ## Contracts -/

/-- A stage contract.  The first eleven checks are the bounds of its fields, the others its
    validator's. -/
structure StageContract where
  contractId : String
  role : StageRole
  executionKind : ExecutionKind
  modelBinding : Option String := none
  requiredAll : List StageCapability := []
  requiredAny : List StageCapability := []
  produces : List StageCapability
  minimumOutputAny : List StageCapability
  maxInputItems : Nat
  maxOutputItemsPerInput : Nat
  maxWallTimeSeconds : Nat
  maxRepairAttempts : Nat
  failurePolicy : FailurePolicy
  skipWhenNotApplicable : Bool
  downstreamRoles : List StageRole := []
  produces_nonempty : produces ≠ [] := by decide
  minimum_nonempty : minimumOutputAny ≠ [] := by decide
  input_items_bounds : 1 ≤ maxInputItems ∧ maxInputItems ≤ 32 := by decide
  output_items_bounds : 1 ≤ maxOutputItemsPerInput ∧ maxOutputItemsPerInput ≤ 10000 := by decide
  wall_time_bounds : 1 ≤ maxWallTimeSeconds ∧ maxWallTimeSeconds ≤ 7200 := by decide
  repair_bound : maxRepairAttempts ≤ 1 := by decide
  required_all_nodup : requiredAll.Nodup := by decide
  required_any_nodup : requiredAny.Nodup := by decide
  produces_nodup : produces.Nodup := by decide
  minimum_nodup : minimumOutputAny.Nodup := by decide
  downstream_nodup : downstreamRoles.Nodup := by decide
  minimum_produced : ∀ c ∈ minimumOutputAny, c ∈ produces := by decide
  not_own_downstream : role ∉ downstreamRoles := by decide
  binding_iff_model : modelBinding.isSome = true ↔ executionKind = .model := by decide
  repairs_are_model : executionKind ≠ .model → maxRepairAttempts = 0 := by decide
  deriving DecidableEq

/-- The contracts by role, with the digest of their canonical JSON. -/
structure StageContractRegistry where
  contracts : List StageContract
  digest : String
  roles_unique : (contracts.map StageContract.role).Nodup := by decide

namespace StageContractRegistry

/-- The contract of a role, if it has one. -/
def get? (registry : StageContractRegistry) (role : StageRole) : Option StageContract :=
  registry.contracts.find? (·.role = role)

/-- A contract is found under its own role. -/
theorem role_of_get? {registry : StageContractRegistry} {role : StageRole} {contract : StageContract}
    (h : registry.get? role = some contract) : contract.role = role := by
  simpa using List.find?_some h

end StageContractRegistry

/-! ## The packaged contracts the session and the v2 conversion use -/

namespace StageContract

/-- Audio in; a transcript or an explicit abstention out. -/
def asrV1 : StageContract where
  contractId := "stage.asr.v1"
  role := .asr
  executionKind := .model
  modelBinding := some "asr"
  requiredAll := [.audioInput]
  produces := [.transcript, .explicitAbstention]
  minimumOutputAny := [.transcript, .explicitAbstention]
  maxInputItems := 32
  maxOutputItemsPerInput := 10000
  maxWallTimeSeconds := 900
  maxRepairAttempts := 0
  failurePolicy := .continueDegraded
  skipWhenNotApplicable := true
  downstreamRoles := [.multimodalExtraction, .evidenceFusion]

/-- Images in; regions of them, and the images that are worth a closer look, out. -/
def fireDetectionV1 : StageContract where
  contractId := "stage.fire_detection.v1"
  role := .fireDetection
  executionKind := .model
  modelBinding := some "fire_detection"
  requiredAll := [.visualInput]
  produces := [.selectedVisual, .detectionRegions, .explicitAbstention]
  minimumOutputAny := [.selectedVisual, .detectionRegions, .explicitAbstention]
  maxInputItems := 32
  maxOutputItemsPerInput := 256
  maxWallTimeSeconds := 600
  maxRepairAttempts := 0
  failurePolicy := .continueDegraded
  skipWhenNotApplicable := true
  downstreamRoles := [.visualGrounding, .multimodalExtraction, .firePointing]

/-- It looks only at images that were selected before. -/
def visualGroundingV1 : StageContract where
  contractId := "stage.visual_grounding.v1"
  role := .visualGrounding
  executionKind := .model
  modelBinding := some "visual_grounding"
  requiredAll := [.selectedVisual]
  produces := [.groundedRegions, .explicitAbstention]
  minimumOutputAny := [.groundedRegions, .explicitAbstention]
  maxInputItems := 32
  maxOutputItemsPerInput := 256
  maxWallTimeSeconds := 900
  maxRepairAttempts := 0
  failurePolicy := .continueDegraded
  skipWhenNotApplicable := true
  downstreamRoles := [.multimodalExtraction, .firePointing, .evidenceFusion]

/-- Of the model stages here the only one that may be repaired, and the only one that is not skipped where
    it does not apply. -/
def multimodalExtractionV1 : StageContract where
  contractId := "stage.multimodal_extraction.v1"
  role := .multimodalExtraction
  executionKind := .model
  modelBinding := some "multimodal_extraction"
  requiredAny := [.transcript, .textInput, .selectedVisual]
  produces := [.factualObservations, .explicitAbstention]
  minimumOutputAny := [.factualObservations, .explicitAbstention]
  maxInputItems := 32
  maxOutputItemsPerInput := 256
  maxWallTimeSeconds := 1200
  maxRepairAttempts := 1
  failurePolicy := .humanReview
  skipWhenNotApplicable := false
  downstreamRoles := [.evidenceFusion, .situationReport]

/-- Any one of its three inputs is enough. -/
def evidenceFusionV1 : StageContract where
  contractId := "stage.evidence_fusion.v1"
  role := .evidenceFusion
  executionKind := .orchestration
  requiredAny := [.factualObservations, .sourceCandidates, .spatialProposals]
  produces := [.evidenceGraph, .explicitAbstention]
  minimumOutputAny := [.evidenceGraph, .explicitAbstention]
  maxInputItems := 32
  maxOutputItemsPerInput := 1000
  maxWallTimeSeconds := 300
  maxRepairAttempts := 0
  failurePolicy := .humanReview
  skipWhenNotApplicable := false
  downstreamRoles := [.situationReport]

/-- It needs what fusion makes, and nothing comes after it. -/
def situationReportV1 : StageContract where
  contractId := "stage.situation_report.v1"
  role := .situationReport
  executionKind := .orchestration
  requiredAll := [.evidenceGraph]
  produces := [.reportDraft, .explicitAbstention]
  minimumOutputAny := [.reportDraft, .explicitAbstention]
  maxInputItems := 32
  maxOutputItemsPerInput := 1000
  maxWallTimeSeconds := 300
  maxRepairAttempts := 0
  failurePolicy := .humanReview
  skipWhenNotApplicable := false

end StageContract

/-- The registry of these contracts, under the digest their canonical JSON hashes to. -/
def loadStageContractRegistry (digest : String) : StageContractRegistry where
  contracts := [.asrV1, .fireDetectionV1, .visualGroundingV1, .multimodalExtractionV1,
    .evidenceFusionV1, .situationReportV1]
  digest := digest

end FireviewerOrchestrator
