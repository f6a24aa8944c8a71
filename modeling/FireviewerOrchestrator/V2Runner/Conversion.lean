/-
  The two directions of the version 2.0 conversion.

  `toLegacyInput` hands a version 2.0 batch to the sequential session; what the version 1.0 contract
  checks follows from what the version 2.0 contract checked, so it is a total function.
  `fromLegacyOutput` builds the version 2.0 output from the session's result and the executions of
  the pointing, burned-area and spatial stages, which are parameters: any pointing and burned-area
  execution, and any spatial pipeline.

  `Converted` is the account of a conversion that succeeded; what is proved of the output is proved
  from it.
-/
import FireviewerOrchestrator.V2Runner.Report
import FireviewerOrchestrator.V2Runner.Spatial

set_option linter.unusedVariables false

namespace FireviewerOrchestrator

namespace V2Runner

/-! ## To the legacy contract -/

/-- `origin_by_pose.get(…)`.  A cross-view estimate is no capture location of the legacy contract. -/
def originByPose : PoseOrigin → Option LocationOrigin
  | .metadata => some .metadata
  | .userDeclared => some .userDeclared
  | .humanConfirmed => some .humanConfirmed
  | .crossViewEstimate => none

/-- `_legacy_metadata`. -/
def legacyMetadata (item : WorkerBatchItemV2) : InputMetadata :=
  match item.camera with
  | none => { InputMetadata.unknown with capturedAt := item.capturedAt }
  | some camera =>
      match camera.latitude, camera.longitude, camera.poseOrigin.bind originByPose with
      | some latitude, some longitude, some origin =>
          { capturedAt := item.capturedAt
            latitude := some latitude
            longitude := some longitude
            gpsAccuracyM := camera.horizontalAccuracyM
            locationOrigin := some origin
            coordinates_together := rfl
            coordinates_sourced := rfl
            accuracy_located := fun _ => rfl }
      | _, _, _ => { InputMetadata.unknown with capturedAt := item.capturedAt }

/-- Satellite data is text to the legacy stages. -/
def legacyMediaType (mediaType : MediaType) : MediaType :=
  if mediaType = .satelliteData then .article else mediaType

def legacyItem (item : WorkerBatchItemV2) : BatchItem where
  inputId := item.inputId
  mediaType := legacyMediaType item.mediaType
  workingFileUrl := item.workingFileUrl
  metadata := legacyMetadata item
  frames := item.frames
  audioUrl := item.audioUrl
  articleText := item.articleText
  processable := item.processable
  audio_has_url := by
    intro h
    unfold legacyMediaType at h
    split at h
    · cases h
    · exact item.audio_has_url h

theorem map_inputId_legacyItem (items : List WorkerBatchItemV2) :
    (items.map legacyItem).map BatchItem.inputId = items.map WorkerBatchItemV2.inputId := by
  rw [List.map_map]
  rfl

/-- `to_legacy_input`. -/
def toLegacyInput (batch : WorkerInputV2) : WorkerInput where
  batchId := batch.batchId
  items := batch.items.map legacyItem
  items_nonempty := fun h => batch.items_nonempty (List.map_eq_nil_iff.mp h)
  items_bounded := by
    rw [List.length_map]
    exact batch.items_bounded
  input_ids_unique := by
    rw [map_inputId_legacyItem]
    exact batch.input_ids_unique
  frames_bounded := by
    rw [List.map_map]
    exact batch.frames_bounded

/-! ## The executions of the external stages -/

structure FirePointingExecution where
  annotationsByInput : Dict String (List SourceAnnotationV2)
  stageTrace : WorkerStageTraceV2
  modelRun : Option WorkerModelRunV2 := none

structure BurnedAreaExecution where
  annotationsByInput : Dict String (List SourceAnnotationV2)
  proposalsByInput : Dict String (List SpatialProposalV2)
  stageTrace : WorkerStageTraceV2
  modelRun : Option WorkerModelRunV2 := none

structure SpatialPipelineExecution where
  proposalsByInput : Dict String (List SpatialProposalV2)
  stageTraces : List WorkerStageTraceV2
  modelRuns : List WorkerModelRunV2 := []

/-- `spatial_pipeline.project`: the batch, the annotations of each input, the first sequence number. -/
abbrev SpatialPipeline :=
  WorkerInputV2 → Dict String (List SourceAnnotationV2) → Nat → Except PyExc SpatialPipelineExecution

variable (host : Host) (batch : WorkerInputV2) (pointing : Option FirePointingExecution)
  (burned : Option BurnedAreaExecution) (spatial : Option SpatialPipelineExecution)

/-! ## Annotations -/

/-- `fire_pointing_execution.annotations_by_input.get(input_id, ())`. -/
def pointedAnnotations (inputId : String) : List SourceAnnotationV2 :=
  (pointing.bind fun execution => execution.annotationsByInput.get? inputId).getD []

/-- `burned_area_execution.annotations_by_input.get(input_id, ())`. -/
def burnedAreaAnnotations (inputId : String) : List SourceAnnotationV2 :=
  (burned.bind fun execution => execution.annotationsByInput.get? inputId).getD []

/-- `pointed_annotations or legacy_annotations`. -/
def pointedOrLegacy (inputId : String) (legacyAnnotations : List SourceAnnotationV2) :
    List SourceAnnotationV2 :=
  if (pointedAnnotations pointing inputId).isEmpty then legacyAnnotations
  else pointedAnnotations pointing inputId

/-- `source_by_id[input_id]`. -/
def sourceById (inputId : String) : Except PyExc WorkerBatchItemV2 :=
  match batch.items.find? (·.inputId = inputId) with
  | some item => pure item
  | none => .error (.keyError inputId)

/-- An entry of `prepared`. -/
structure PreparedItem where
  legacyResult : ItemResult
  source : WorkerBatchItemV2
  annotations : List SourceAnnotationV2

def prepareItem (legacyResult : ItemResult) : Except PyExc PreparedItem := do
  let source ← sourceById batch legacyResult.inputId
  let legacyAnnotations ← sourceAnnotations host source legacyResult
  pure
    { legacyResult := legacyResult
      source := source
      annotations := burnedAreaAnnotations burned source.inputId
        ++ pointedOrLegacy pointing source.inputId legacyAnnotations }

/-- `annotations_by_input`. -/
def annotationsByInput (prepared : List PreparedItem) : Dict String (List SourceAnnotationV2) :=
  Dict.ofPairs (prepared.map fun p => (p.source.inputId, p.annotations))

/-! ## Items -/

/-- The proposals an earlier stage made for the input: `burned_area_proposals or …`. -/
def earlierProposals (inputId : String) : Option (List SpatialProposalV2) :=
  match burned.bind fun execution => execution.proposalsByInput.get? inputId with
  | some (proposal :: proposals) => some (proposal :: proposals)
  | _ => spatial.bind fun execution => execution.proposalsByInput.get? inputId

/-- The proposals of an item. -/
def itemProposals (p : PreparedItem) : Except PyExc (List SpatialProposalV2) :=
  if p.source.mediaType = .satelliteData then hotspotSpatialProposals host batch p.source
  else match earlierProposals burned spatial p.source.inputId with
    | some proposals => pure proposals
    | none => spatialProposals host batch p.source p.annotations

def resultItem (p : PreparedItem) : Except PyExc WorkerItemResultV2 := do
  let proposals ← itemProposals host batch burned spatial p
  let facts ← factProposals host batch p.source p.legacyResult
  WorkerItemResultV2.build
    { inputId := p.source.inputId
      transcript := p.legacyResult.transcript
      pixelRegions := p.legacyResult.pixelRegions
      visualEvidenceSelection := p.legacyResult.visualEvidenceSelection
      sourceAnnotations := p.annotations
      spatialProposals := proposals
      factProposals := facts
      explicitPlaces := p.legacyResult.explicitPlaces
      explicitTimes := p.legacyResult.explicitTimes }

/-! ## Model runs -/

def modelRunV2 (run : ModelRun) : Except PyExc WorkerModelRunV2 :=
  WorkerModelRunV2.build
    { modelRole := modelRoleV2 run.modelRole
      modelId := run.modelId
      revision := run.revision
      status := run.status
      startedAt := run.startedAt
      finishedAt := run.finishedAt
      loadMs := run.loadMs
      inferenceMs := run.inferenceMs
      peakVramBytes := run.peakVramBytes
      errorCode := run.errorCode }

/-- The runs of the external stages. -/
def externalRuns : List WorkerModelRunV2 :=
  (pointing.bind (·.modelRun)).toList ++ (burned.bind (·.modelRun)).toList
    ++ (spatial.map (·.modelRuns)).getD []

/-! ## Traces -/

/-- `load_stage_contract_registry()[StageRole(role)]`. -/
def packagedContract (role : StageRole) : Except PyExc StageContract :=
  match (loadStageContractRegistry "").get? role with
  | some contract => pure contract
  | none => .error (.keyError role.value)

/-- `_orchestration_trace`: a stage of the orchestration itself, which succeeds. -/
def orchestrationTrace (clock : StageClock) (role : StageRole) (sequence : Nat)
    (availableBefore availableAfter : List String) : Except PyExc WorkerStageTraceV2 := do
  let contract ← packagedContract role
  let preflight ← checked Pydantic.stageGate
    { phase := .preflight
      decision := .proceed
      reasonCodes := ["requirements_satisfied"]
      availableCapabilities := availableBefore
      downstreamPossible := true }
  let postflight ← checked Pydantic.stageGate
    { phase := .postflight
      decision := .proceed
      reasonCodes := ["output_contract_satisfied"]
      availableCapabilities := availableAfter
      downstreamPossible := true }
  let attempt ← checked Pydantic.stageAttempt
    { attempt := 1
      kind := .initial
      status := .succeeded
      startedAt := { micros := clock.startedAt, aware := true }
      finishedAt := { micros := clock.finishedAt, aware := true }
      inferenceMs := elapsedMs clock.started clock.finished }
  checked Pydantic.stageTrace
    { stageRole := role
      contractId := contract.contractId
      sequence := sequence
      status := .succeeded
      retryable := false
      preflight := preflight
      postflight := some postflight
      attempts := [attempt] }

/-- `evidence_available`. -/
def evidenceAvailable (items : List WorkerItemResultV2) : Bool :=
  items.any fun item =>
    !item.sourceAnnotations.isEmpty || !item.spatialProposals.isEmpty || !item.factProposals.isEmpty

/-- The traces of fusion and report, numbered after the `count` traces before them. -/
def orchestrationTraces (items : List WorkerItemResultV2) (count : Nat) :
    Except PyExc (List WorkerStageTraceV2) := do
  let available := evidenceAvailable items
  let fusion ← orchestrationTrace host.fusionClock .evidenceFusion (count + 1)
    (if available then ["factual_observations", "spatial_proposals"] else ["explicit_abstention"])
    (if available then ["evidence_graph"] else ["explicit_abstention"])
  let situationReport ← orchestrationTrace host.reportClock .situationReport (count + 2)
    ["evidence_graph"] ["report_draft"]
  pure [fusion, situationReport]

/-- `traces_before_spatial`. -/
def tracesBeforeSpatial (stageTraces : List WorkerStageTraceV2) : List WorkerStageTraceV2 :=
  stageTraces ++ (pointing.map (·.stageTrace)).toList ++ (burned.map (·.stageTrace)).toList

/-- The traces of the spatial pipeline. -/
def spatialTraces : List WorkerStageTraceV2 := (spatial.map (·.stageTraces)).getD []

/-! ## From the legacy output -/

/-- A failed stage takes `succeeded` away. -/
def downgrade (trace : Option WorkerStageTraceV2) (status : OutputStatus) : OutputStatus :=
  if trace.any (·.status = .failed) && status = .succeeded then .partialFailure else status

/-- The status of the output. -/
def convertedStatus (legacyStatus : OutputStatus) : OutputStatus :=
  downgrade (burned.map (·.stageTrace)) (downgrade (pointing.map (·.stageTrace)) legacyStatus)

/-- `spatial_pipeline.project(…)`, when there is a pipeline. -/
def projectSpatial (pipeline : Option SpatialPipeline) (annotations : Dict String (List SourceAnnotationV2))
    (sequenceStart : Nat) : Except PyExc (Option SpatialPipelineExecution) :=
  match pipeline with
  | none => pure none
  | some project => do
      let execution ← project batch annotations sequenceStart
      pure (some execution)

/-- The record that `from_legacy_output` hands to the contract of the output. -/
def assembled (legacy : WorkerOutput) (stageTraces : List WorkerStageTraceV2)
    (candidateRuns : List WorkerModelCandidateRunV2) (consensusResults : List WorkerConsensusResultV2)
    (contractDigest : String) (pipeline : Option SpatialPipeline) : Except PyExc WorkerOutputV2 := do
  let prepared ← legacy.items.mapM (prepareItem host batch pointing burned)
  let before := tracesBeforeSpatial pointing burned stageTraces
  let spatial ← projectSpatial batch pipeline (annotationsByInput prepared) (before.length + 1)
  let items ← prepared.mapM (resultItem host batch burned spatial)
  let runs ← legacy.modelRuns.mapM modelRunV2
  let traces := before ++ spatialTraces spatial
  let orchestration ← orchestrationTraces host items traces.length
  let draft ← report host batch items
  pure
    { batchId := batch.batchId
      analysisId := batch.analysisWindow.analysisId
      status := convertedStatus pointing burned legacy.status
      retryable := legacy.retryable
      orchestrationContractDigest := contractDigest
      stageTraces := traces ++ orchestration
      modelRuns := runs ++ externalRuns pointing burned spatial
      candidateRuns := candidateRuns
      consensusResults := consensusResults
      items := items
      reportDraft := some draft
      validationErrors := legacy.validationErrors
      bootMs := legacy.bootMs }

/-- `from_legacy_output`. -/
def fromLegacyOutput (legacy : WorkerOutput) (stageTraces : List WorkerStageTraceV2)
    (candidateRuns : List WorkerModelCandidateRunV2) (consensusResults : List WorkerConsensusResultV2)
    (contractDigest : String) (pipeline : Option SpatialPipeline) : Except PyExc WorkerOutputV2 := do
  let record ← assembled host batch pointing burned legacy stageTraces candidateRuns consensusResults contractDigest
    pipeline
  WorkerOutputV2.build record

/-! ## The account of a conversion -/

/-- **What a conversion that succeeded went through**: the items it prepared, what the spatial
    pipeline returned, and the output these add up to. -/
structure Converted (legacy : WorkerOutput) (stageTraces : List WorkerStageTraceV2)
    (pipeline : Option SpatialPipeline) (prepared : List PreparedItem) (out : WorkerOutputV2) : Prop where
  prepared_eq : legacy.items.mapM (prepareItem host batch pointing burned) = .ok prepared
  spatial_eq : projectSpatial batch pipeline (annotationsByInput prepared)
    ((tracesBeforeSpatial pointing burned stageTraces).length + 1) = .ok spatial
  items_eq : prepared.mapM (resultItem host batch burned spatial) = .ok out.items
  traces_eq : ∃ orchestration,
    orchestrationTraces host out.items
      (tracesBeforeSpatial pointing burned stageTraces ++ spatialTraces spatial).length = .ok orchestration ∧
    out.stageTraces = tracesBeforeSpatial pointing burned stageTraces ++ spatialTraces spatial ++ orchestration
  status_eq : out.status = convertedStatus pointing burned legacy.status
  retryable_eq : out.retryable = legacy.retryable
  input_ids_nodup : (out.items.map WorkerItemResultV2.inputId).Nodup

section Account

variable {host batch pointing burned spatial} {legacy : WorkerOutput} {stageTraces : List WorkerStageTraceV2}
  {candidateRuns : List WorkerModelCandidateRunV2} {consensusResults : List WorkerConsensusResultV2}
  {contractDigest : String} {pipeline : Option SpatialPipeline} {prepared : List PreparedItem}
  {out : WorkerOutputV2}

theorem converted_of_ok (h : fromLegacyOutput host batch pointing burned legacy stageTraces candidateRuns
    consensusResults contractDigest pipeline = .ok out) :
    ∃ prepared spatial, Converted host batch pointing burned spatial legacy stageTraces pipeline prepared out := by
  obtain ⟨record, hrecord, h⟩ := Fallible.bind_eq_ok.mp h
  obtain ⟨hvalid, rfl⟩ := checked_eq_ok.mp h
  obtain ⟨prepared, hprepared, hrecord⟩ := Fallible.bind_eq_ok.mp hrecord
  obtain ⟨spatial, hspatial, hrecord⟩ := Fallible.bind_eq_ok.mp hrecord
  obtain ⟨items, hitems, hrecord⟩ := Fallible.bind_eq_ok.mp hrecord
  obtain ⟨runs, -, hrecord⟩ := Fallible.bind_eq_ok.mp hrecord
  obtain ⟨orchestration, horchestration, hrecord⟩ := Fallible.bind_eq_ok.mp hrecord
  obtain ⟨draft, -, hrecord⟩ := Fallible.bind_eq_ok.mp hrecord
  obtain rfl := Fallible.pure_eq_ok.mp hrecord
  exact ⟨prepared, spatial, hprepared, hspatial, hitems, ⟨orchestration, horchestration, rfl⟩, rfl, rfl,
    WorkerOutputV2.input_ids_nodup hvalid⟩

/-- The source of a result is the one item of the batch with its id. -/
theorem sourceById_eq_ok {inputId : String} {source : WorkerBatchItemV2} :
    sourceById batch inputId = .ok source ↔ source ∈ batch.items ∧ source.inputId = inputId := by
  unfold sourceById
  constructor
  · intro h
    split at h
    · rename_i found hfind
      obtain rfl := Fallible.pure_eq_ok.mp h
      exact ⟨List.mem_of_find?_eq_some hfind, by simpa using List.find?_some hfind⟩
    · cases h
  · rintro ⟨hmem, rfl⟩
    split
    · rename_i found hfind
      have hid : found.inputId = source.inputId := by simpa using List.find?_some hfind
      have hsame : found = source :=
        List.inj_on_of_nodup_map batch.input_ids_unique (List.mem_of_find?_eq_some hfind) hmem hid
      rw [hsame]
      rfl
    · rename_i hnone
      exact absurd (List.find?_eq_none.mp hnone source hmem) (by simp)

/-- A prepared item has its source, and the annotations of the burned-area stage before those pointed
    at or grounded. -/
theorem prepareItem_ok {result : ItemResult} {p : PreparedItem}
    (h : prepareItem host batch pointing burned result = .ok p) :
    p.legacyResult = result ∧ p.source ∈ batch.items ∧ p.source.inputId = result.inputId ∧
      ∃ legacyAnnotations, sourceAnnotations host p.source result = .ok legacyAnnotations ∧
        p.annotations = burnedAreaAnnotations burned p.source.inputId
          ++ pointedOrLegacy pointing p.source.inputId legacyAnnotations := by
  obtain ⟨source, hsource, h⟩ := Fallible.bind_eq_ok.mp h
  obtain ⟨legacyAnnotations, hlegacy, h⟩ := Fallible.bind_eq_ok.mp h
  obtain rfl := Fallible.pure_eq_ok.mp h
  obtain ⟨hmem, hid⟩ := sourceById_eq_ok.mp hsource
  exact ⟨rfl, hmem, hid, legacyAnnotations, hlegacy, rfl⟩

/-- The item of a prepared one: its annotations as they are, and the proposals chosen for it. -/
theorem resultItem_ok {p : PreparedItem} {item : WorkerItemResultV2}
    (h : resultItem host batch burned spatial p = .ok item) :
    item.inputId = p.source.inputId ∧ item.sourceAnnotations = p.annotations ∧
      itemProposals host batch burned spatial p = .ok item.spatialProposals := by
  obtain ⟨proposals, hproposals, h⟩ := Fallible.bind_eq_ok.mp h
  obtain ⟨facts, -, h⟩ := Fallible.bind_eq_ok.mp h
  obtain ⟨-, rfl⟩ := checked_eq_ok.mp h
  exact ⟨rfl, rfl, hproposals⟩

/-- An orchestration stage succeeds, and has nothing to retry. -/
structure OrchestrationTraced (role : StageRole) (sequence : Nat) (trace : WorkerStageTraceV2) : Prop where
  role_eq : trace.stageRole = role
  sequence_eq : trace.sequence = sequence
  succeeded : trace.status = .succeeded
  not_retryable : trace.retryable = false

theorem orchestrationTrace_ok {clock : StageClock} {role : StageRole} {sequence : Nat}
    {before after : List String} {trace : WorkerStageTraceV2}
    (h : orchestrationTrace clock role sequence before after = .ok trace) : OrchestrationTraced role sequence trace := by
  obtain ⟨contract, -, h⟩ := Fallible.bind_eq_ok.mp h
  obtain ⟨preflight, -, h⟩ := Fallible.bind_eq_ok.mp h
  obtain ⟨postflight, -, h⟩ := Fallible.bind_eq_ok.mp h
  obtain ⟨attempt, -, h⟩ := Fallible.bind_eq_ok.mp h
  obtain ⟨-, rfl⟩ := checked_eq_ok.mp h
  exact ⟨rfl, rfl, rfl, rfl⟩

/-- The two traces of the converter, behind the `count` before them. -/
theorem orchestrationTraces_ok {items : List WorkerItemResultV2} {count : Nat}
    {traces : List WorkerStageTraceV2} (h : orchestrationTraces host items count = .ok traces) :
    ∃ fusion situationReport, traces = [fusion, situationReport] ∧
      OrchestrationTraced .evidenceFusion (count + 1) fusion ∧
      OrchestrationTraced .situationReport (count + 2) situationReport := by
  obtain ⟨fusion, hfusion, h⟩ := Fallible.bind_eq_ok.mp h
  obtain ⟨situationReport, hreport, h⟩ := Fallible.bind_eq_ok.mp h
  obtain rfl := Fallible.pure_eq_ok.mp h
  exact ⟨fusion, situationReport, rfl, orchestrationTrace_ok hfusion, orchestrationTrace_ok hreport⟩

/-- Neither fails, or is to be retried. -/
theorem succeeded_of_orchestrationTraces {items : List WorkerItemResultV2} {count : Nat}
    {traces : List WorkerStageTraceV2} (h : orchestrationTraces host items count = .ok traces) :
    ∀ trace ∈ traces, trace.status = .succeeded ∧ trace.retryable = false := by
  obtain ⟨fusion, situationReport, rfl, hfusion, hreport⟩ := orchestrationTraces_ok h
  intro trace htrace
  rcases List.mem_pair.mp htrace with rfl | rfl
  · exact ⟨hfusion.succeeded, hfusion.not_retryable⟩
  · exact ⟨hreport.succeeded, hreport.not_retryable⟩

end Account

/-! ## A batch of one item

  What the small conversions of this development share: the window, the reference bundle, and the
  traces of stages that were skipped or succeeded. -/

namespace Sample

def noon : DateTime := { micros := 1782907200000000, aware := true }

theorem noon_aware : noon.aware = true := rfl

def window : AnalysisWindowV2 where
  analysisId := "analysis-1"
  windowStartAt := { micros := 1782820800000000, aware := true }
  windowEndAt := noon
  localDate := { year := 2026, month := 7, day := 1 }

def reference : SpatialReferenceBundleV2 where
  manifestSha256 := "05b3abf2579a5eb66403cd78be557fd860633a1fe2103c7642030defe32c657f"

def contractDigest : String := "b094db7ce2f99cbcbde7ec178a6754bac666e2192f076807acbd70d49ddd0559"

def provenance : SourceProvenanceV2 := .ofKey "citizen" .unverified (by decide)

/-- A tile of 512 by 512 points of ten meters, at noon. -/
def tile (geotransform : Geotransform) : SatelliteMetadataV2 where
  acquiredAt := noon
  crs := "EPSG:4326"
  rasterWidthPx := 512
  rasterHeightPx := 512
  geotransform := geotransform
  resolutionM := 10
  acquired_aware := noon_aware

/-- A gate of a stage that leaves the door open. -/
def gate (phase : GatePhase) (decision : GateDecision) (reason : String) : WorkerStageGateV2 where
  phase := phase
  decision := decision
  reasonCodes := [reason]
  downstreamPossible := decision ≠ .failedRetryable

def skippedTrace (role : StageRole) (sequence : Nat) (decision : GateDecision) (reason : String) :
    WorkerStageTraceV2 where
  stageRole := role
  contractId := "stage." ++ role.value ++ ".v1"
  sequence := sequence
  status := .skipped
  retryable := false
  preflight := gate .preflight decision reason

def attempt (errorCode : Option String) : WorkerStageAttemptV2 where
  attempt := 1
  kind := .initial
  status := if errorCode.isSome then .failed else .succeeded
  startedAt := noon
  finishedAt := noon
  inferenceMs := 0
  errorCode := errorCode

def succeededTrace (role : StageRole) (sequence : Nat) : WorkerStageTraceV2 where
  stageRole := role
  contractId := "stage." ++ role.value ++ ".v1"
  sequence := sequence
  status := .succeeded
  retryable := false
  preflight := gate .preflight .proceed "requirements_satisfied"
  postflight := some (gate .postflight .proceed "minimum_output_satisfied")
  attempts := [attempt none]

end Sample

end V2Runner

end FireviewerOrchestrator
