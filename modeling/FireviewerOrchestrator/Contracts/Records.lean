/-
  The records a session leaves behind: model runs, attempts, gates, traces, candidate runs,
  consensus results and the version 1.0 output, with the validators that guard their construction.

  The session is proved correct for ANY validators (`ContractModels` is a parameter of it), since
  what a refused record does to the session does not depend on why it was refused.  `pydantic` is
  the instance the code really uses.
-/
import FireviewerOrchestrator.Contracts.Media
import FireviewerOrchestrator.Contracts.Registry
import FireviewerOrchestrator.Contracts.Stages

set_option linter.unusedVariables false

namespace FireviewerOrchestrator

/-! ## Roles of the pipeline -/

inductive PipelineModelRole where
  | asr | fireDetection | visualGrounding | multimodalExtraction
  deriving DecidableEq, Repr

namespace PipelineModelRole

/-- The role's text in errors and records. -/
def value : PipelineModelRole → String
  | asr => "asr"
  | fireDetection => "fire_detection"
  | visualGrounding => "visual_grounding"
  | multimodalExtraction => "multimodal_extraction"

/-- `StageRole(role)`. -/
def stageRole : PipelineModelRole → StageRole
  | asr => .asr
  | fireDetection => .fireDetection
  | visualGrounding => .visualGrounding
  | multimodalExtraction => .multimodalExtraction

def modelRole : PipelineModelRole → ModelRole
  | asr => .asr
  | fireDetection => .fireDetection
  | visualGrounding => .visualGrounding
  | multimodalExtraction => .multimodalExtraction

/-- Different roles have different stages. -/
theorem stageRole_injective : Function.Injective stageRole := by
  intro a b h
  cases a <;> cases b <;> first | rfl | cases h

end PipelineModelRole

/-- `ROLE_ORDER`. -/
def roleOrder : List PipelineModelRole :=
  [.asr, .fireDetection, .visualGrounding, .multimodalExtraction]

/-- Every role has its turn. -/
theorem mem_roleOrder (role : PipelineModelRole) : role ∈ roleOrder := by
  cases role <;> decide

inductive WorkerModelRoleV2 where
  | asr | visualFiltering | visualGrounding | multimodalExtraction | firePointing | burnedArea
  | crossViewRegistration | consensusJudge
  deriving DecidableEq, Repr

/-- `_model_role_v2`. -/
def modelRoleV2 : PipelineModelRole → WorkerModelRoleV2
  | .asr => .asr
  | .fireDetection => .visualFiltering
  | .visualGrounding => .visualGrounding
  | .multimodalExtraction => .multimodalExtraction

/-! ## Records -/

inductive RunStatus where
  | succeeded | failed | skipped
  deriving DecidableEq, Repr

/-- One attempt at a role, as the session reports it. -/
structure ModelRun where
  modelRole : PipelineModelRole
  modelId : String
  revision : String
  status : RunStatus
  startedAt : DateTime
  finishedAt : DateTime
  loadMs : Int
  inferenceMs : Int
  peakVramBytes : Option Int := none
  errorCode : Option String := none
  deriving DecidableEq, Repr

inductive OutputStatus where
  | succeeded | partialFailure | failed
  deriving DecidableEq, Repr

structure WorkerOutput where
  batchId : String
  status : OutputStatus
  retryable : Bool
  modelRuns : List ModelRun
  items : List ItemResult
  validationErrors : List String := []
  bootMs : Int
  deriving DecidableEq, Repr

abbrev JsonFields := List (String × JsonValue)

/-- One candidate, or one judge, at one stage. -/
structure WorkerModelCandidateRunV2 where
  candidateId : String
  candidateRank : Int
  stageRole : StageRole
  modelRole : WorkerModelRoleV2
  modelId : String
  revision : String
  status : RunStatus
  startedAt : DateTime
  finishedAt : DateTime
  loadMs : Int
  inferenceMs : Int
  peakVramBytes : Option Int := none
  repaired : Bool := false
  outputDigest : Option String := none
  outputPayload : Option JsonFields := none
  errorCode : Option String := none

inductive ConsensusDecision where
  | pass | repair | adjudicated | abstain | humanReview
  deriving DecidableEq, Repr

/-- `ConsensusFailureDecision.value`, read as a consensus decision. -/
def ConsensusFailureDecision.decision : ConsensusFailureDecision → ConsensusDecision
  | abstain => .abstain
  | humanReview => .humanReview

/-- What the candidates of a stage came to. -/
structure WorkerConsensusResultV2 where
  consensusId : String
  stageRole : StageRole
  strategy : ConsensusStrategy
  decision : ConsensusDecision
  candidateIds : List String
  selectedCandidateId : Option String := none
  adjudicatorCandidateId : Option String := none
  reasonCodes : List String
  successfulCandidates : Nat
  requiredSuccessful : Nat
  agreementScore : Option ℚ := none
  agreementThreshold : ℚ
  downstreamAllowed : Bool
  comparisonDigest : String
  comparisonPayload : JsonFields
  evaluatedAt : DateTime

inductive GatePhase where
  | preflight | postflight
  deriving DecidableEq, Repr

inductive GateDecision where
  | proceed | notApplicable | abstain | humanReview | failedRetryable | failedTerminal
  deriving DecidableEq, Repr

/-- `decision in {HUMAN_REVIEW, FAILED_RETRYABLE, FAILED_TERMINAL}`. -/
def GateDecision.degraded : GateDecision → Bool
  | humanReview | failedRetryable | failedTerminal => true
  | _ => false

/-- A gate record; it always gives a reason. -/
structure StageGateRecord where
  role : StageRole
  phase : GatePhase
  decision : GateDecision
  reasonCodes : List String
  availableCapabilities : List StageCapability
  missingCapabilities : List StageCapability := []
  downstreamPossible : Bool
  reason_nonempty : reasonCodes ≠ [] := by simp
  deriving DecidableEq

/-- `record.reason_codes[0]`. -/
def StageGateRecord.reason (record : StageGateRecord) : String :=
  record.reasonCodes.head record.reason_nonempty

/-- A gate as a trace shows it. -/
structure WorkerStageGateV2 where
  phase : GatePhase
  decision : GateDecision
  reasonCodes : List String
  availableCapabilities : List String := []
  missingCapabilities : List String := []
  downstreamPossible : Bool
  deriving DecidableEq, Repr

inductive AttemptKind where
  | initial | repair
  deriving DecidableEq, Repr

structure WorkerStageAttemptV2 where
  attempt : Nat
  kind : AttemptKind
  status : RunStatus
  startedAt : DateTime
  finishedAt : DateTime
  inferenceMs : Int
  peakVramBytes : Option Int := none
  errorCode : Option String := none
  deriving DecidableEq, Repr

/-- The trace of a stage: its gates and its attempts. -/
structure WorkerStageTraceV2 where
  stageRole : StageRole
  contractId : String
  sequence : Nat
  status : RunStatus
  retryable : Bool
  preflight : WorkerStageGateV2
  postflight : Option WorkerStageGateV2 := none
  attempts : List WorkerStageAttemptV2 := []
  deriving DecidableEq, Repr

/-! ## Validators -/

/-- The records' validators and serialisers.  Each check raises or accepts the record as it is. -/
structure ContractModels where
  modelRun : ModelRun → Except PyExc Unit
  stageAttempt : WorkerStageAttemptV2 → Except PyExc Unit
  stageGate : WorkerStageGateV2 → Except PyExc Unit
  stageTrace : WorkerStageTraceV2 → Except PyExc Unit
  candidateRun : WorkerModelCandidateRunV2 → Except PyExc Unit
  consensusResult : WorkerConsensusResultV2 → Except PyExc Unit
  workerOutput : WorkerOutput → Except PyExc Unit
  dumpTranscript : Transcript → Except PyExc JsonValue
  dumpRegion : PixelRegion → Except PyExc JsonValue
  dumpSelection : VisualEvidenceSelection → Except PyExc JsonValue
  dumpObservation : FactualObservation → Except PyExc JsonValue
  dumpLiteral : ExplicitLiteral → Except PyExc JsonValue

/-- No record is refused and nothing fails to serialise. -/
structure ContractModels.Accepting (models : ContractModels) : Prop where
  modelRun : ∀ r, models.modelRun r = .ok ()
  stageAttempt : ∀ r, models.stageAttempt r = .ok ()
  stageGate : ∀ r, models.stageGate r = .ok ()
  stageTrace : ∀ r, models.stageTrace r = .ok ()
  candidateRun : ∀ r, models.candidateRun r = .ok ()
  consensusResult : ∀ r, models.consensusResult r = .ok ()
  workerOutput : ∀ r, models.workerOutput r = .ok ()
  dumpTranscript : ∀ v, ∃ j, models.dumpTranscript v = .ok j
  dumpRegion : ∀ v, ∃ j, models.dumpRegion v = .ok j
  dumpSelection : ∀ v, ∃ j, models.dumpSelection v = .ok j
  dumpObservation : ∀ v, ∃ j, models.dumpObservation v = .ok j
  dumpLiteral : ∀ v, ∃ j, models.dumpLiteral v = .ok j

namespace Pydantic

/-- The first check that does not hold is the record's error. -/
def validate (model : String) : List (Bool × String) → Except PyExc Unit
  | [] => .ok ()
  | (holds, message) :: rest => if holds then validate model rest else .error (.validationError model message)

/-- A check of a field that may be absent. -/
def optional {α : Type} (p : α → Bool) : Option α → Bool
  | none => true
  | some a => p a

/-- `Identifier`, of each. -/
def identifiers (values : List String) : Bool := values.all isSafeIdentifier

/-- `^[a-f0-9]{64}$`. -/
def isSha256 (s : String) : Bool := isHexOfLength 64 s.toList

/-- Both moments have a time zone. -/
def timed (startedAt finishedAt : DateTime) : Bool := startedAt.aware && finishedAt.aware

def modelRun (r : ModelRun) : Except PyExc Unit :=
  validate "ModelRun"
    [(0 ≤ r.loadMs, "load_ms"), (0 ≤ r.inferenceMs, "inference_ms"),
      (optional (fun n : Int => 0 ≤ n) r.peakVramBytes, "peak_vram_bytes")]

def stageAttempt (r : WorkerStageAttemptV2) : Except PyExc Unit :=
  validate "WorkerStageAttemptV2"
    [(1 ≤ r.attempt ∧ r.attempt ≤ 2, "attempt"), (r.status ≠ .skipped, "status"),
      (0 ≤ r.inferenceMs, "inference_ms"),
      (optional (fun n : Int => 0 ≤ n) r.peakVramBytes, "peak_vram_bytes"),
      (optional isSafeIdentifier r.errorCode, "error_code"),
      (timed r.startedAt r.finishedAt, "stage attempt datetimes must include a timezone"),
      (r.startedAt.micros ≤ r.finishedAt.micros, "stage attempt finish must not precede its start"),
      (r.kind = .initial → r.attempt = 1, "the initial stage attempt must be attempt 1"),
      (r.kind = .repair → r.attempt = 2, "a stage repair must be attempt 2"),
      (r.status = .failed → r.errorCode ≠ none, "a failed stage attempt requires an error_code"),
      (r.status = .succeeded → r.errorCode = none,
        "a succeeded stage attempt cannot contain an error_code")]

def stageGate (r : WorkerStageGateV2) : Except PyExc Unit :=
  validate "WorkerStageGateV2"
    [(r.reasonCodes ≠ [] ∧ r.reasonCodes.length ≤ 16 ∧ identifiers r.reasonCodes, "reason_codes"),
      (r.availableCapabilities.length ≤ 32 ∧ identifiers r.availableCapabilities,
        "available_capabilities"),
      (r.missingCapabilities.length ≤ 32 ∧ identifiers r.missingCapabilities, "missing_capabilities"),
      (r.reasonCodes.Nodup ∧ r.availableCapabilities.Nodup ∧ r.missingCapabilities.Nodup,
        "stage gate values must be unique")]

/-- `^stage\.[a-z0-9_]+\.v[0-9]+$` together with the prefix `stage.<role>.v`: a role's name has no
    dot, so what follows the prefix is the version number. -/
def contractIdMatches (role : StageRole) (contractId : String) : Bool :=
  let expected := ("stage." ++ role.value ++ ".v").toList
  let version := contractId.toList.drop expected.length
  contractId.toList.take expected.length == expected && !version.isEmpty && version.all Char.isDigit

def lastStatus (attempts : List WorkerStageAttemptV2) : Option RunStatus :=
  attempts.getLast?.map (·.status)

def stageTrace (r : WorkerStageTraceV2) : Except PyExc Unit :=
  validate "WorkerStageTraceV2"
    [(contractIdMatches r.stageRole r.contractId, "stage trace contract_id must match its stage_role"),
      (1 ≤ r.sequence ∧ r.sequence ≤ 10, "sequence"), (r.attempts.length ≤ 2, "attempts"),
      (r.preflight.phase = .preflight, "stage trace preflight must use the preflight phase"),
      (optional (fun g => g.phase = .postflight) r.postflight,
        "stage trace postflight must use the postflight phase"),
      (r.attempts.map (·.attempt) = List.range' 1 r.attempts.length,
        "stage attempts must be consecutive and ordered"),
      (match r.attempts with
        | [first, repair] => first.status = .failed ∧ repair.kind = .repair
        | _ => true, "a repair requires one failed initial attempt"),
      (r.status = .skipped → r.attempts = [], "a skipped stage cannot contain inference attempts"),
      (r.status = .succeeded → lastStatus r.attempts = some .succeeded,
        "a succeeded stage requires a final successful attempt"),
      (r.status = .failed → r.attempts ≠ [] → lastStatus r.attempts = some .failed,
        "a failed stage cannot end with a successful attempt"),
      (r.retryable = (r.preflight.decision = .failedRetryable ∨
          r.postflight.map (·.decision) = some .failedRetryable),
        "stage retryable must match its gate decisions")]

def candidateRun (digest : JsonFields → String) (r : WorkerModelCandidateRunV2) : Except PyExc Unit :=
  validate "WorkerModelCandidateRunV2"
    [(isSafeIdentifier r.candidateId, "candidate_id"),
      (1 ≤ r.candidateRank ∧ r.candidateRank ≤ 8, "candidate_rank"),
      (1 ≤ r.modelId.length ∧ r.modelId.length ≤ 512, "model_id"),
      (1 ≤ r.revision.length ∧ r.revision.length ≤ 128, "revision"),
      (0 ≤ r.loadMs, "load_ms"), (0 ≤ r.inferenceMs, "inference_ms"),
      (optional (fun n : Int => 0 ≤ n) r.peakVramBytes, "peak_vram_bytes"),
      (optional isSha256 r.outputDigest, "output_digest"),
      (optional isSafeIdentifier r.errorCode, "error_code"),
      (timed r.startedAt r.finishedAt, "candidate run datetimes must include a timezone"),
      (r.startedAt.micros ≤ r.finishedAt.micros, "candidate run finish must not precede its start"),
      (r.status = .succeeded → r.outputPayload.isSome ∧ r.outputDigest.isSome,
        "a successful candidate run requires its private output"),
      (r.status = .succeeded → r.outputPayload.map digest = r.outputDigest,
        "candidate output digest does not match its payload"),
      (r.status = .succeeded → r.errorCode = none,
        "a successful candidate run cannot contain an error"),
      (r.status ≠ .succeeded → r.outputPayload.isNone ∧ r.outputDigest.isNone,
        "an unsuccessful candidate run cannot publish an output"),
      (r.repaired → r.status = .succeeded, "only a successful candidate run can be repaired"),
      (r.status = .failed → r.errorCode ≠ none, "a failed candidate run requires an error code")]

/-- A decision that releases a candidate. -/
def accepted : ConsensusDecision → Bool
  | .pass | .repair | .adjudicated => true
  | _ => false

def consensusResult (digest : JsonFields → String) (r : WorkerConsensusResultV2) : Except PyExc Unit :=
  validate "WorkerConsensusResultV2"
    [(isSafeIdentifier r.consensusId, "consensus_id"),
      (r.candidateIds ≠ [] ∧ r.candidateIds.length ≤ 8 ∧ identifiers r.candidateIds, "candidate_ids"),
      (optional isSafeIdentifier r.selectedCandidateId, "selected_candidate_id"),
      (optional isSafeIdentifier r.adjudicatorCandidateId, "adjudicator_candidate_id"),
      (r.reasonCodes ≠ [] ∧ r.reasonCodes.length ≤ 16 ∧ identifiers r.reasonCodes, "reason_codes"),
      (r.successfulCandidates ≤ 8, "successful_candidates"),
      (1 ≤ r.requiredSuccessful ∧ r.requiredSuccessful ≤ 8, "required_successful"),
      (optional (fun q : ℚ => 0 ≤ q ∧ q ≤ 1) r.agreementScore, "agreement_score"),
      (0 ≤ r.agreementThreshold ∧ r.agreementThreshold ≤ 1, "agreement_threshold"),
      (isSha256 r.comparisonDigest, "comparison_digest"),
      (r.evaluatedAt.aware, "consensus evaluation time must include a timezone"),
      (r.candidateIds.Nodup, "consensus candidate ids must be unique"),
      (optional (fun id => id ∉ r.candidateIds) r.adjudicatorCandidateId,
        "the adjudicator cannot be a stage output candidate"),
      (r.reasonCodes.Nodup, "consensus reason codes must be unique"),
      (r.successfulCandidates ≤ r.candidateIds.length,
        "successful candidate count exceeds evaluated candidates"),
      (r.requiredSuccessful ≤ r.candidateIds.length,
        "required candidate count exceeds evaluated candidates"),
      (digest r.comparisonPayload = r.comparisonDigest,
        "consensus comparison digest does not match its payload"),
      (accepted r.decision → ∃ id ∈ r.candidateIds, r.selectedCandidateId = some id,
        "an accepted consensus requires a selected candidate"),
      (accepted r.decision → r.downstreamAllowed,
        "an accepted consensus must allow downstream execution"),
      (r.decision = .adjudicated → r.adjudicatorCandidateId.isSome,
        "an adjudicated consensus requires its judge run"),
      (accepted r.decision → r.decision ≠ .adjudicated → r.adjudicatorCandidateId.isNone,
        "a direct consensus cannot reference a judge run"),
      (¬ accepted r.decision → r.selectedCandidateId.isNone ∧ ¬ r.downstreamAllowed,
        "a blocked consensus cannot select or release a candidate")]

def workerOutput (r : WorkerOutput) : Except PyExc Unit :=
  validate "WorkerOutput" [(0 ≤ r.bootMs, "boot_ms")]

def dumpTranscript (t : Transcript) : JsonValue :=
  .obj [("language", .ofOptionString t.language),
    ("segments", .arr (t.segments.map fun s => .obj
      [("segment_id", .str s.segmentId), ("start_s", .ofRat s.startS), ("end_s", .ofRat s.endS),
        ("text", .str s.text), ("uncertain", .bool s.uncertain)]))]

/-- The texts of the enumerations, as `model_dump(mode="json")` writes them. -/
def taskValue : RegionTask → String
  | .fireDetection => "fire_detection"
  | .phraseGrounding => "phrase_grounding"
  | .ocr => "ocr"

/-- A score that may be absent. -/
def ofOptionRat : Option ℚ → JsonValue
  | none => .null
  | some q => .ofRat q

def dumpRegion (r : PixelRegion) : JsonValue :=
  .obj [("region_id", .str r.regionId), ("evidence_id", .str r.evidenceId), ("label", .str r.label),
    ("bbox_normalized", .arr ([r.bboxNormalized.x1, r.bboxNormalized.y1, r.bboxNormalized.x2,
      r.bboxNormalized.y2].map .ofRat)),
    ("task", .str (taskValue r.task)), ("model_score", ofOptionRat r.modelScore)]

def reasonValue : SelectionReason → String
  | .singleImage => "single_image"
  | .targetDetection => "target_detection"
  | .temporalCoverage => "temporal_coverage"
  | .detectorFallback => "detector_fallback"
  | .capacityLimit => "capacity_limit"

def dumpSelection (s : VisualEvidenceSelection) : JsonValue :=
  .obj [("evidence_id", .str s.evidenceId), ("selected_for_grounding", .bool s.selectedForGrounding),
    ("selection_reason", .str (reasonValue s.selectionReason)),
    ("max_detection_score", ofOptionRat s.maxDetectionScore)]

def evidenceKindValue : EvidenceKind → String
  | .frame => "frame"
  | .image => "image"
  | .transcriptSegment => "transcript_segment"
  | .articleText => "article_text"
  | .metadata => "metadata"

def certaintyValue : Certainty → String
  | .directlyVisible => "directly_visible"
  | .explicitlyWritten => "explicitly_written"
  | .explicitlySpoken => "explicitly_spoken"

def dumpObservation (o : FactualObservation) : JsonValue :=
  .obj [("type", .str o.type), ("evidence_kind", .str (evidenceKindValue o.evidenceKind)),
    ("evidence_id", .str o.evidenceId), ("region_id", .ofOptionString o.regionId),
    ("description", .str o.description), ("certainty", .str (certaintyValue o.certainty))]

def dumpLiteral (l : ExplicitLiteral) : JsonValue :=
  .obj [("literal", .str l.literal), ("evidence_kind", .str (evidenceKindValue l.evidenceKind)),
    ("evidence_id", .str l.evidenceId)]

end Pydantic

/-- The validators and serialisers of the contracts package, over the digest of canonical JSON. -/
def pydantic (digest : JsonFields → String) : ContractModels where
  modelRun := Pydantic.modelRun
  stageAttempt := Pydantic.stageAttempt
  stageGate := Pydantic.stageGate
  stageTrace := Pydantic.stageTrace
  candidateRun := Pydantic.candidateRun digest
  consensusResult := Pydantic.consensusResult digest
  workerOutput := Pydantic.workerOutput
  dumpTranscript t := .ok (Pydantic.dumpTranscript t)
  dumpRegion r := .ok (Pydantic.dumpRegion r)
  dumpSelection s := .ok (Pydantic.dumpSelection s)
  dumpObservation o := .ok (Pydantic.dumpObservation o)
  dumpLiteral l := .ok (Pydantic.dumpLiteral l)

end FireviewerOrchestrator
