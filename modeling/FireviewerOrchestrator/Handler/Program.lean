/-
  `handle_job`: one job, from the mapping it comes in to its response.

  Four branches, by the schema the input asks for.  Each takes the lock of the GPU session in its own
  way: a lab probe waits for it; an event, a research run and a batch answer without it when it is held.
  Each also has its own exceptions that it turns into a response: the handlers are written here as the
  source has them, around as much of the branch as the source has them around.
-/
import FireviewerOrchestrator.EventPipeline.Run
import FireviewerOrchestrator.Handler.Perception

set_option linter.unusedVariables false

namespace FireviewerOrchestrator

namespace Handler

open Guarded

/-! ## The input -/

/-- `raw_input.get("schema_version", "1.0")`, if that is a text. -/
def requestedSchema (raw : JsonFields) : Option String :=
  match raw.lookup "schema_version" with
  | none => some "1.0"
  | some (.str schema) => some schema
  | some _ => none

/-- `raw_input.get(key, "INVALID")`, if that is a text, and `"INVALID"` otherwise. -/
def textOrInvalid (key : String) (raw : JsonFields) : String :=
  match raw.lookup key with
  | some (.str text) => text
  | _ => "INVALID"

/-- `_event_candidate_id`. -/
def eventCandidateId (raw : JsonFields) : String :=
  match getField "bundle" raw with
  | .obj bundle => match getField "candidate_id" bundle with
    | .str candidateId => candidateId
    | _ => "INVALID"
  | _ => "INVALID"

section

variable (d : Deployment) (injected : Injected) (raw : JsonFields)

/-- `_event_validation_codes`. -/
def eventValidationCodes (e : PyExc) : List String :=
  match (d.validators.errors e).map fun error =>
      "event_input_invalid:" ++ ".".intercalate error.1 ++ ":" ++ error.2 with
  | [] => ["event_input_invalid"]
  | codes => codes

/-! ## Factories and adapters -/

/-- `_runtime_factory`. -/
def runtimeFactory (settings : WorkerSettings) : Job Factory :=
  if d.vars.lower (d.vars.getenvOr "FW_ENABLE_TRANSFORMERS_RUNTIME" "false").toList ≠ "true".toList then
    pure .unavailable
  else do
    Code.call (q := .createTransformersFactory settings) id
    pure .ofTransformers

/-- `_runtime_fire_pointing_adapter`. -/
def runtimeFirePointingAdapter (factory : Factory) : Job (Option PerceptionAdapter) :=
  if factory.transformers then do
    let registry ← lift (Models.buildRegistry d.vars d.files)
    match registry.get? .firePointing with
    | none => pure none
    | some spec => do
        Code.call (q := .createFirePointing factory spec) id
        pure (some ⟨spec⟩)
  else pure none

/-- `_runtime_event_perception_adapter`, which does the same under another type. -/
def runtimeEventPerceptionAdapter (factory : Factory) : Job (Option PerceptionAdapter) :=
  runtimeFirePointingAdapter d factory

/-- `_runtime_burned_area_adapter`. -/
def runtimeBurnedAreaAdapter (factory : Factory) : Job (Option ModelSpec) :=
  if factory.transformers then do
    let registry ← lift (Models.buildRegistry d.vars d.files)
    match registry.get? .burnedArea with
    | none => .raise (.py (.keyError "burned_area"))
    | some spec => do
        Code.call (q := .createBurnedArea factory spec) id
        pure (some spec)
  else pure none

/-- `spatial_pipeline or _runtime_spatial_pipeline(adapter_factory)`. -/
def resolvedSpatialPipeline (factory : Factory) : Job (Option V2Runner.SpatialPipeline) :=
  if injected.spatialPipeline || factory.transformers then do
    let pipeline ← Code.call (q := .spatialPipeline factory) id
    pure (some pipeline)
  else pure none

/-! ## A lab probe -/

/-- `JudgeCandidate(c.candidate_id, …)`. -/
def probeCandidate (candidate : ProbeCandidate) : JudgeCandidate where
  candidateId := candidate.candidateId
  modelId := "controlled_integration_probe"
  revision := "lab-v1"
  outputPayload := candidate.outputPayload

/-- `run_probe`. -/
def runProbe (factory : Factory) : Job ProbeResult := do
  lift (if d.jsonBytes raw > 64000 then .error (.valueError "lab_probe_too_large") else pure ())
  let request ← lift (d.validators.probe raw)
  Code.call (q := .createConsensusJudge factory Models.consensusJudge) id
  let started ← perfCounter
  Code.finallyDo (do
    Code.call (q := .loadJudge) id
    let loaded ← perfCounter
    let verdict ← Code.call (q := .adjudicate request.batch request.stageRole
      (request.candidates.map probeCandidate) request.comparison) id
    pure
      { stackId := d.stackId
        stackDigest := d.stackDigest
        loadMs := roundToHundredths (1000 * (loaded - started))
        verdict := verdict.outputPayload })
    (Code.call (q := .unloadJudge) id)

/-- The branch of the lab probes, which handles nothing. -/
def handleProbe : Job Response := do
  let settings ← .ofExcept (WorkerSettings.fromEnvironment d.vars)
  Code.withLock unlocked do
    let factory ← runtimeFactory d settings
    let result ← runProbe d raw factory
    pure (.probe result)

/-! ## An event -/

/-- `event_pipeline_enabled`. -/
def eventPipelineEnabled : Bool :=
  d.vars.lower (d.vars.strip (d.vars.getenvOr "FV_AGENT_EVENT_PIPELINE_ENABLED" "false").toList)
    = "true".toList

/-- What an event that failed is answered with. -/
def failedEvent (reasonCodes : List String) : EventPipelineOutput where
  candidateId := eventCandidateId raw
  status := .failed
  viewProfile := none
  perceptionAnchors := []
  spatialEvidence := []
  localizationAttempts := []
  eventProposals := []
  independentExternalFamilies := []
  contradictions := []
  reasonCodes := reasonCodes

/-- The settings, where they are looked at, and the failures of the working URLs. -/
def checkedWorkingUrls (request : EventPipelineInput) :
    Except JobExc (Option WorkerSettings × List PerceptionFailure) :=
  if eventHasWorkingUrls request then
    match WorkerSettings.fromEnvironment d.vars with
    | .error (.configurationError _) =>
        .ok (none, (request.bundle.evidenceAssets.filter (·.workingFileUrl.isSome)).map (urlFailure unconfigured))
    | .error e => .error e
    | .ok settings => do
        let failures ← (validateEventWorkingUrls d.vars.toUrllib request settings.allowedMediaHosts).mapError .py
        pure (some settings, failures)
  else .ok (none, [])

/-- The factory a job goes on with: the one it was given, or a new one if images have to be looked at. -/
def eventFactory (requiresInference : Bool) (settings : Option WorkerSettings) : Job (Option Factory) :=
  match injected.factory, settings with
  | some factory, _ => pure (some factory)
  | none, some settings =>
      if requiresInference then do
        let factory ← runtimeFactory d settings
        pure (some factory)
      else pure none
  | none, none => pure none

/-- The adapter a job goes on with. -/
def eventAdapter (factory : Option Factory) : Job (Option PerceptionAdapter) :=
  match injected.eventPerceptionAdapter, factory with
  | some adapter, _ => pure (some adapter)
  | none, some factory => runtimeEventPerceptionAdapter d factory
  | none, none => pure none

/-- Perception with the lock, where there is an adapter and something for it to look at. -/
def perceiveEvent (request : EventPipelineInput) (urlFailures : List PerceptionFailure)
    (factory : Option Factory) (adapter : Option PerceptionAdapter) :
    Job (EventPipelineInput × List PerceptionFailure) :=
  if eventRequiresImageInference request urlFailures && adapter.isSome then
    .tryAcquire fun
      | false => runEventImagePerception d.host.sha256 request none urlFailures gpuSessionAlreadyActive
      | true => thenRelease (match factory with
        | none => .raise (.py .assertionError)
        | some factory => inJobScope factory
            (runEventImagePerception d.host.sha256 request adapter urlFailures modelUnavailable))
  else runEventImagePerception d.host.sha256 request adapter urlFailures modelUnavailable

/-- What is done with the request that is left: perception, and the pipeline. -/
def locateEvent (settings : Option WorkerSettings) (urlFailures : List PerceptionFailure)
    (request : EventPipelineInput) : Job EventPipelineOutput := do
  let factory ← eventFactory d injected (eventRequiresImageInference request urlFailures) settings
  let adapter ← eventAdapter d injected factory
  let (enriched, failures) ← perceiveEvent d request urlFailures factory adapter
  lift (EventPipeline.run d.host.sha256 enriched failures)

/-- The event, up to its result. -/
def analyseEvent : Job EventPipelineOutput := do
  let request ← lift (d.validators.event raw)
  let (settings, urlFailures) ← .ofExcept (checkedWorkingUrls d request)
  let request ← lift (withoutRejected (invalidAssets urlFailures) request)
  locateEvent d injected settings urlFailures request

/-- `except ValidationError` of the event branch. -/
def eventHandler : JobExc → Option (Job EventPipelineOutput)
  | .py (.validationError model message) =>
      some (pure (failedEvent raw (eventValidationCodes d (.validationError model message))))
  | _ => none

/-- The branch of the events. -/
def handleEvent : Job Response :=
  if eventPipelineEnabled d then do
    let output ← (analyseEvent d injected raw).tryExcept (eventHandler d raw)
    pure (.event output)
  else pure (.event (failedEvent raw ["event_pipeline_disabled"]))

/-! ## A research run -/

/-- `_research_failure`, at the reading of its clock. -/
def researchFailureAt (errorCode detail : String) (retryable : Bool) (reading : Int) :
    Except PyExc ResearchOutput := do
  let registry ← Models.buildRegistry d.vars d.files
  match registry.get? .sourceResearch with
  | none => .error (.keyError "source_research")
  | some spec =>
      (ResearchOutput.failed (textOrInvalid "research_id" raw) spec reading errorCode detail retryable).build

/-- `_research_failure`. -/
def researchFailure (errorCode detail : String) (retryable : Bool) : Job ResearchOutput := do
  let reading ← now
  lift (researchFailureAt d raw errorCode detail retryable reading)

/-- The run, or the answer that the session is held. -/
def isolatedResearch : Job ResearchOutput := do
  let research ← lift (d.validators.research raw)
  .tryAcquire fun
    | false => researchFailure d raw "gpu_session_already_active" "worker:gpu_session_already_active" true
    | true => thenRelease (Code.call (q := .runIsolatedResearch research) id)

/-- The `except` clauses of the research branch, in their order. -/
def researchHandler (e : JobExc) : Option (Job ResearchOutput) :=
  match e with
  | .researchServiceError code detail => some (researchFailure d raw code detail true)
  | .py (.registryError _) | .py (.validationError _ _) =>
      some (researchFailure d raw "research_input_invalid" ("input:" ++ e.typeName ++ ":" ++ e.text) false)
  | _ =>
      if e.isException then
        some (researchFailure d raw "research_worker_unhandled_exception"
          ("research:" ++ e.typeName ++ ":" ++ e.text) true)
      else none

/-- The branch of the research runs. -/
def handleResearch : Job Response := do
  let output ← (isolatedResearch d raw).tryExcept (researchHandler d raw)
  pure (.research output)

end

/-! ## A batch -/

/-- A batch in the version it came in. -/
inductive Batch where
  | v1 (batch : WorkerInput)
  | v2 (batch : WorkerInputV2)

/-- The batch as the session takes it. -/
def Batch.legacy : Batch → WorkerInput
  | v1 batch => batch
  | v2 batch => V2Runner.toLegacyInput batch

section

variable (d : Deployment) (injected : Injected) (raw : JsonFields)

def isV2 : Bool := requestedSchema raw = some "2.0"

/-- The batch, validated. -/
def readBatch : Except PyExc Batch :=
  if isV2 raw then (d.validators.batchV2 raw).map .v2 else (d.validators.batch raw).map .v1

/-- Its URLs are allowed. -/
def checkBatchUrls (settings : WorkerSettings) : Batch → Except PyExc Unit
  | .v1 batch => MediaUrls.validateInternalUrls d.vars.toUrllib settings.allowedMediaHosts
      (batch.items.map BatchItem.urls)
  | .v2 batch => MediaUrls.validateV2InternalUrls d.vars.toUrllib settings.allowedMediaHosts batch

/-- `factory or _runtime_factory(settings)`. -/
def batchFactory (settings : WorkerSettings) : Job Factory :=
  match injected.factory with
  | some factory => pure factory
  | none => runtimeFactory d settings

/-- `SessionRunner(registry=registry, adapter_factory=…, boot_ms=BOOT_READY_MS)`. -/
def sessionRunner (groups : Dict ModelRole ModelGroupSpec) : Except PyExc SessionRunner :=
  SessionRunner.init (groups.mapValues fun _ => .group) d.bootReadyMs
    (loadStageContractRegistry d.contractDigest)

/-- The answer that the session is held. -/
def busyBatch (runner : SessionRunner) (batch : Batch) : FailedBatch where
  schemaVersion := match batch with
    | .v1 _ => "1.0"
    | .v2 _ => "2.0"
  batchId := batch.legacy.batchId
  retryable := true
  validationErrors := ["worker:gpu_session_already_active"]
  bootMs := d.bootReadyMs
  v2 := match batch with
    | .v1 _ => none
    | .v2 batch => some (.str batch.analysisWindow.analysisId, runner.contracts.digest)

/-- The stages behind the session, and the conversion of everything. -/
def convertBatch (factory : Factory) (batch : WorkerInputV2) (execution : SessionRunner.SessionRunResult) :
    Job WorkerOutputV2 := do
  let pointingAdapter ← runtimeFirePointingAdapter d factory
  let pointing ← Code.call (q := .runFirePointing batch execution.output pointingAdapter
    (execution.stageTraces.length + 1)) id
  let burnedAreaAdapter ← runtimeBurnedAreaAdapter d factory
  let burnedArea ← Code.call (q := .runBurnedArea batch burnedAreaAdapter
    (execution.stageTraces.length + 2)) id
  let pipeline ← resolvedSpatialPipeline injected factory
  lift (V2Runner.fromLegacyOutput d.host batch (some pointing) (some burnedArea) execution.output
    execution.stageTraces execution.candidateRuns execution.consensusResults execution.contractDigest pipeline)

/-- What is done with the lock. -/
def executeBatch (factory : Factory) (runner : SessionRunner) (batch : Batch) : Job Response := do
  let execution ← Code.call (q := .runSession factory runner batch.legacy) id
  match batch with
  | .v1 _ => pure (.batch execution.output)
  | .v2 batch => do
      let output ← convertBatch d injected factory batch execution
      pure (.batchV2 output)

/-- The batch, up to its response. -/
def runBatch : Job Response := do
  let settings ← .ofExcept (WorkerSettings.fromEnvironment d.vars)
  let batch ← lift (readBatch d raw)
  lift (checkBatchUrls d settings batch)
  let groups ← lift (Models.buildModelGroupRegistry d.vars d.files)
  let factory ← batchFactory d injected settings
  let runner ← lift (sessionRunner d groups)
  .tryAcquire fun
    | false => pure (.failedBatch (busyBatch d runner batch))
    | true => thenRelease (inJobScope factory (executeBatch d injected factory runner batch))

/-- `window.get("analysis_id", "INVALID")`, if there is a window. -/
def requestedAnalysis : JsonValue :=
  match getField "analysis_window" raw with
  | .obj window => (window.lookup "analysis_id").getD (.str "INVALID")
  | _ => .str "INVALID"

/-- What a batch that was refused is answered with. -/
def refusedBatch (e : JobExc) : FailedBatch where
  schemaVersion := if isV2 raw then "2.0" else "1.0"
  batchId := textOrInvalid "batch_id" raw
  retryable := false
  validationErrors := ["input:" ++ e.typeName ++ ":" ++ e.text]
  bootMs := d.bootReadyMs
  v2 := if isV2 raw then some (requestedAnalysis raw, d.contractDigest) else none

/-- The exceptions a batch is refused with. -/
def isRefusal : JobExc → Bool
  | .configurationError _ | .py (.outputValidationError _) | .py (.registryError _)
  | .py (.validationError _ _) => true
  | _ => false

/-- The branch of the batches. -/
def handleBatch : Job Response :=
  (runBatch d injected raw).tryExcept fun e =>
    if isRefusal e then some (pure (.failedBatch (refusedBatch d raw e))) else none

/-! ## A job -/

/-- The answer to a job without an input. -/
def missingInput : FailedBatch where
  schemaVersion := "1.0"
  batchId := "INVALID"
  retryable := false
  validationErrors := ["input:missing_or_not_an_object"]
  bootMs := d.bootReadyMs

/-- The branches. -/
inductive Branch where
  | probe | event | research | batch
  deriving DecidableEq, Repr

/-- Which branch an input goes to. -/
def branchOf : Branch :=
  if requestedSchema raw = some "lab-bonsai-integration-1"
      ∧ d.vars.getenv "FW_ENABLE_LAB_PROBES" = some "true" then .probe
  else if requestedSchema raw = some "event-2.0" then .event
  else if requestedSchema raw = some "research-1.0" then .research
  else .batch

/-- The input, handled by its branch. -/
def handleInput : Job Response :=
  match branchOf d raw with
  | .probe => handleProbe d raw
  | .event => handleEvent d injected raw
  | .research => handleResearch d raw
  | .batch => handleBatch d injected raw

/-- **`handle_job`.** -/
def handleJob (job : JsonFields) : Job Response :=
  match getField "input" job with
  | .obj raw => handleInput d injected raw
  | _ => pure (.failedBatch (missingInput d))

end

end Handler

end FireviewerOrchestrator
