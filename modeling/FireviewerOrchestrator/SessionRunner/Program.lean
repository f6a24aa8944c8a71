/-
  `SessionRunner.run_with_trace`, line by line.

  The local variables of a Python function are a structure (`CandidateLocals`, `AdjudicatorLocals`,
  `Session`), because the handlers and `finally` blocks read what was assigned before an exception.
  `try … except … else` is `capture` and a match on how the guarded block ended; `try … finally` is
  `finallyDo`; building a contract record is its validator's check.

  A stage's iteration returns its own variables (`StageReport`); the loop ignores them, and the
  properties of a stage are stated about them.
-/
import FireviewerOrchestrator.SessionRunner.Environment

set_option linter.unusedVariables false

namespace FireviewerOrchestrator

namespace SessionRunner

open Traced Prog

/-! ## Local variables and results -/

/-- `_CandidateExecution`. -/
structure CandidateExecution where
  candidate : ModelCandidateSpec
  run : ModelRun
  candidateRun : WorkerModelCandidateRunV2
  results : Option (Dict String ItemResult)
  attempts : List WorkerStageAttemptV2
  repaired : Bool

/-- `_AdjudicatorExecution`. -/
structure AdjudicatorExecution where
  candidateRun : WorkerModelCandidateRunV2
  verdict : Option ConsensusJudgeVerdict

structure SessionRunResult where
  output : WorkerOutput
  gateRecords : List StageGateRecord
  stageTraces : List WorkerStageTraceV2
  candidateRuns : List WorkerModelCandidateRunV2
  consensusResults : List WorkerConsensusResultV2
  contractDigest : String

/-- The variables of `_execute_candidate` that its handlers can see. -/
structure CandidateLocals where
  loadMs : Int := 0
  inferenceMs : Int := 0
  peakVram : Option Int := none
  errorCode : Option String := none
  status : RunStatus := .failed
  stageAttempts : List WorkerStageAttemptV2 := []
  candidateResults : Option (Dict String ItemResult) := none
  outputPayload : Option JsonFields := none
  repaired : Bool := false

/-- The variables of `_execute_adjudicator` that its handlers can see. -/
structure AdjudicatorLocals (A : Type) where
  status : RunStatus := .failed
  errorCode : Option String := none
  loadMs : Int := 0
  inferenceMs : Int := 0
  peakVram : Option Int := none
  repaired : Bool := false
  verdict : Option ConsensusJudgeVerdict := none
  outputPayload : Option JsonFields := none
  adapter : Option A := none

/-- The accumulating variables of `_run_with_trace`. -/
structure Session where
  results : Dict String ItemResult
  runs : List ModelRun := []
  errors : List String := []
  gateRecords : List StageGateRecord := []
  stageTraces : List WorkerStageTraceV2 := []
  candidateRuns : List WorkerModelCandidateRunV2 := []
  consensusResults : List WorkerConsensusResultV2 := []

/-- The variables of one iteration of the stage loop, as it leaves them. -/
structure StageReport where
  preflight : StageGateRecord
  postflight : Option StageGateRecord := none
  run : ModelRun
  trace : WorkerStageTraceV2
  executions : List CandidateExecution := []
  adjudication : Option AdjudicatorExecution := none
  evaluation : Option ConsensusEvaluation := none
  consensus : Option WorkerConsensusResultV2 := none

/-- `f"{value}"` of an optional text. -/
def formatted (value : Option String) : String := value.getD "None"

variable {ω A σ : Type} (env : Environment ω A)

/-! ## Clocks, memory, records -/

/-- `_now()`. -/
def now : Prog ω σ PyExc (Event A) DateTime := do
  let micros ← ask env.utcNow
  pure { micros := micros, aware := true }

def perfCounter : Prog ω σ PyExc (Event A) ℚ := ask env.perfCounter

def peakVramBytes : Prog ω σ PyExc (Event A) (Option Int) := call env.memory.peakVramBytes

def release (adapter : A) : Prog ω σ PyExc (Event A) Unit :=
  observe (fun _ => .release adapter) (call (env.memory.release adapter))

/-- Build a record: its validator accepts it or raises. -/
def construct {ρ : Type} (check : ρ → Except PyExc Unit) (record : ρ) : Prog ω σ PyExc (Event A) ρ := do
  ofExcept (check record)
  pure record

/-! ## One candidate -/

section Candidate

variable (role : PipelineModelRole) (candidate : ModelCandidateSpec) (batch : WorkerInput)
  (baseResults : Dict String ItemResult) (maxRepairAttempts : Nat)

/-- `stage_attempts.append(WorkerStageAttemptV2(…))`. -/
def appendAttempt (attempt : Nat) (kind : AttemptKind) (status : RunStatus) (startedAt : DateTime)
    (inferenceMs : Int) (errorCode : Option String) : Prog ω CandidateLocals PyExc (Event A) Unit := do
  let finishedAt ← now env
  let peak ← peakVramBytes env
  let record ← construct env.models.stageAttempt
    { attempt := attempt, kind := kind, status := status, startedAt := startedAt,
      finishedAt := finishedAt, inferenceMs := inferenceMs, peakVramBytes := peak,
      errorCode := errorCode }
  modify fun l => { l with stageAttempts := l.stageAttempts ++ [record] }

/-- `adapter.infer(batch.items, {input_id: _as_patch(result) …}[, correction=True])`. -/
def infer (adapter : A) (correction : Bool) :
    Prog ω CandidateLocals PyExc (Event A) (Dict String ItemPatch) :=
  observe (.infer adapter correction (asPatches baseResults))
    (call (env.adapter.infer adapter batch.items (asPatches baseResults) correction))

/-- `candidate_results = _validated_candidates(batch, base_results, patches)`. -/
def assignValidated (patches : Dict String ItemPatch) : Prog ω CandidateLocals PyExc (Event A) Unit := do
  let results ← ofExcept (validatedCandidates env.validateItemResult batch baseResults patches)
  modify fun l => { l with candidateResults := some results }

/-- A guarded inference block: ask, wait for the device, note the time, validate the answer. -/
def attemptInference (adapter : A) (correction : Bool)
    (noteTime : Prog ω CandidateLocals PyExc (Event A) Unit) :
    Prog ω CandidateLocals PyExc (Event A) (Dict String ItemPatch) :=
  observe (fun ended => .attempt adapter correction (ended.map fun _ => ())) do
    let patches ← infer env batch baseResults adapter correction
    call env.synchronizeCuda
    noteTime
    assignValidated env batch baseResults patches
    pure patches

/-- The initial block sets `inference_ms` before the answer is validated. -/
def initialInference (adapter : A) (inferStarted : ℚ) :
    Prog ω CandidateLocals PyExc (Event A) (Dict String ItemPatch) :=
  attemptInference env batch baseResults adapter false do
    let finished ← perfCounter env
    modify fun l => { l with inferenceMs := elapsedMs inferStarted finished }

/-- The correction's time is only added by its handlers. -/
def correctionInference (adapter : A) : Prog ω CandidateLocals PyExc (Event A) (Dict String ItemPatch) :=
  attemptInference env batch baseResults adapter true (pure ())

/-- `except (ModelOutputError, OutputValidationError)` of the initial inference: one correction, if
    the contract allows it. -/
def repair (adapter : A) (inferStartedAt : DateTime) (inferStarted : ℚ) (refusal : PyExc) :
    Prog ω CandidateLocals PyExc (Event A) (Dict String ItemPatch) := do
  let refused ← perfCounter env
  let initialInferenceMs := elapsedMs inferStarted refused
  modify fun l => { l with inferenceMs := initialInferenceMs }
  appendAttempt env 1 .initial .failed inferStartedAt initialInferenceMs (some "invalid_model_output")
  if maxRepairAttempts < 1 then raise refusal
  else do
    let correctionStartedAt ← now env
    let correctionStarted ← perfCounter env
    let ended ← capture (correctionInference env batch baseResults adapter)
    match ended with
    | .error e =>
        if e.isException then do
          let failed ← perfCounter env
          modify fun l => { l with inferenceMs := l.inferenceMs + elapsedMs correctionStarted failed }
          appendAttempt env 2 .repair .failed correctionStartedAt (elapsedMs correctionStarted failed)
            (some (if e.isRefusedOutput then "invalid_model_output" else "model_runtime_error"))
          raise e
        else raise e
    | .ok patches => do
        let corrected ← perfCounter env
        modify fun l =>
          { l with inferenceMs := l.inferenceMs + elapsedMs correctionStarted corrected, repaired := true }
        appendAttempt env 2 .repair .succeeded correctionStartedAt (elapsedMs correctionStarted corrected)
          none
        pure patches

/-- The initial inference with its handlers and `else` branch. -/
def inferWithRepair (adapter : A) : Prog ω CandidateLocals PyExc (Event A) (Dict String ItemPatch) := do
  let inferStartedAt ← now env
  let inferStarted ← perfCounter env
  let ended ← capture (initialInference env batch baseResults adapter inferStarted)
  match ended with
  | .error e =>
      if e.isRefusedOutput then
        repair env batch baseResults maxRepairAttempts adapter inferStartedAt inferStarted e
      else if e.isException then do
        let failed ← perfCounter env
        let initialInferenceMs := elapsedMs inferStarted failed
        modify fun l => { l with inferenceMs := initialInferenceMs }
        appendAttempt env 1 .initial .failed inferStartedAt initialInferenceMs (some "model_runtime_error")
        raise e
      else raise e
  | .ok patches => do
      let l ← get
      appendAttempt env 1 .initial .succeeded inferStartedAt l.inferenceMs none
      pure patches

/-- The body of the outer `try`. -/
def candidateBody (adapter : A) (loadStarted : ℚ) : Prog ω CandidateLocals PyExc (Event A) Unit := do
  call env.memory.resetPeak
  observe (.load adapter) (call (env.adapter.load adapter))
  call env.synchronizeCuda
  let loaded ← perfCounter env
  modify fun l => { l with loadMs := elapsedMs loadStarted loaded }
  let patches ← inferWithRepair env batch baseResults maxRepairAttempts adapter
  let payload ← ofExcept (candidatePayload env.models patches)
  modify fun l => { l with outputPayload := some payload, status := .succeeded }

/-- The outer `except` clauses, around the body. -/
def guardedCandidate (adapter : A) (loadStarted : ℚ) : Prog ω CandidateLocals PyExc (Event A) Unit := do
  let ended ← capture (candidateBody env batch baseResults maxRepairAttempts adapter loadStarted)
  match ended with
  | .ok _ => pure ()
  | .error e =>
      if e.isRefusedOutput then modify fun l => { l with errorCode := some "invalid_model_output" }
      else if e.isException then modify fun l => { l with errorCode := some "model_runtime_error" }
      else raise e

/-- The outer `finally`. -/
def closeCandidate (adapter : A) : Prog ω CandidateLocals PyExc (Event A) Unit := do
  let peak ← peakVramBytes env
  modify fun l => { l with peakVram := peak }
  release env adapter

def candidateModelRun (startedAt finishedAt : DateTime) (l : CandidateLocals) : ModelRun where
  modelRole := role
  modelId := candidate.spec.modelId
  revision := candidate.spec.revision
  status := l.status
  startedAt := startedAt
  finishedAt := finishedAt
  loadMs := l.loadMs
  inferenceMs := l.inferenceMs
  peakVramBytes := l.peakVram
  errorCode := l.errorCode

def candidateRunRecord (startedAt finishedAt : DateTime) (l : CandidateLocals) : WorkerModelCandidateRunV2 where
  candidateId := candidate.candidateId
  candidateRank := candidate.rank
  stageRole := role.stageRole
  modelRole := modelRoleV2 role
  modelId := candidate.spec.modelId
  revision := candidate.spec.revision
  status := l.status
  startedAt := startedAt
  finishedAt := finishedAt
  loadMs := l.loadMs
  inferenceMs := l.inferenceMs
  peakVramBytes := l.peakVram
  repaired := l.repaired
  outputDigest := l.outputPayload.map env.jsonDigest
  outputPayload := l.outputPayload
  errorCode := l.errorCode

/-- `_execute_candidate`.  The adapter is created BEFORE the `try`. -/
def executeCandidate : Prog ω σ PyExc (Event A) CandidateExecution :=
  scope ({} : CandidateLocals) do
    let startedAt ← now env
    let adapter ← observe (.create role candidate) (call (env.factory.create candidate.spec))
    let loadStarted ← perfCounter env
    finallyDo (guardedCandidate env batch baseResults maxRepairAttempts adapter loadStarted)
      (closeCandidate env adapter)
    let finishedAt ← now env
    let l ← get
    let run ← construct env.models.modelRun (candidateModelRun role candidate startedAt finishedAt l)
    let candidateRun ←
      construct env.models.candidateRun (candidateRunRecord env role candidate startedAt finishedAt l)
    pure { candidate := candidate, run := run, candidateRun := candidateRun,
           results := l.candidateResults, attempts := l.stageAttempts, repaired := l.repaired }

end Candidate

/-! ## The judge -/

section Adjudicator

variable (role : PipelineModelRole) (adjudicator : ModelCandidateSpec) (batch : WorkerInput)
  (candidates : List JudgeCandidate) (comparisonPayload : JsonFields)

def adjudicate (adapter : A) (correction : Bool) :
    Prog ω (AdjudicatorLocals A) PyExc (Event A) ConsensusJudgeVerdict :=
  observe (.adjudicate adapter correction)
    (call (env.adapter.adjudicate adapter batch role candidates comparisonPayload correction))

/-- The judge's verdict, with one correction after a `ModelOutputError`. -/
def askVerdict (adapter : A) : Prog ω (AdjudicatorLocals A) PyExc (Event A) ConsensusJudgeVerdict := do
  let inferStarted ← perfCounter env
  let ended ← capture (adjudicate env role batch candidates comparisonPayload adapter false)
  match ended with
  | .error e =>
      if e.isModelOutput then do
        let failed ← perfCounter env
        let correctionStarted ← perfCounter env
        let verdict ← adjudicate env role batch candidates comparisonPayload adapter true
        modify fun l => { l with verdict := some verdict }
        let corrected ← perfCounter env
        modify fun l =>
          { l with inferenceMs := elapsedMs inferStarted failed + elapsedMs correctionStarted corrected,
                   repaired := true }
        pure verdict
      else raise e
  | .ok verdict => do
      modify fun l => { l with verdict := some verdict }
      let finished ← perfCounter env
      modify fun l => { l with inferenceMs := elapsedMs inferStarted finished }
      pure verdict

/-- The body of the judge's `try`: here the adapter is created inside it. -/
def adjudicatorBody : Prog ω (AdjudicatorLocals A) PyExc (Event A) Unit := do
  let create ← match env.factory.createConsensusJudge with
    | none => raise (.runtimeError "adapter factory does not provide a consensus judge")
    | some create => pure create
  let adapter ← observe (.createJudge role adjudicator) (call (create adjudicator.spec))
  modify fun l => { l with adapter := some adapter }
  call env.memory.resetPeak
  let loadStarted ← perfCounter env
  observe (.load adapter) (call (env.adapter.load adapter))
  call env.synchronizeCuda
  let loaded ← perfCounter env
  modify fun l => { l with loadMs := elapsedMs loadStarted loaded }
  let verdict ← askVerdict env role batch candidates comparisonPayload adapter
  call env.synchronizeCuda
  modify fun l => { l with outputPayload := some verdict.outputPayload, status := .succeeded }

def guardedAdjudicator : Prog ω (AdjudicatorLocals A) PyExc (Event A) Unit := do
  let ended ← capture (adjudicatorBody env role adjudicator batch candidates comparisonPayload)
  match ended with
  | .ok _ => pure ()
  | .error e =>
      if e.isModelOutput then modify fun l => { l with errorCode := some "invalid_model_output" }
      else if e.isException then modify fun l => { l with errorCode := some "model_runtime_error" }
      else raise e

def closeAdjudicator : Prog ω (AdjudicatorLocals A) PyExc (Event A) Unit := do
  let peak ← peakVramBytes env
  modify fun l => { l with peakVram := peak }
  let l ← get
  match l.adapter with
  | none => pure ()
  | some adapter => release env adapter

def adjudicatorRunRecord (startedAt finishedAt : DateTime) (l : AdjudicatorLocals A) :
    WorkerModelCandidateRunV2 where
  candidateId := adjudicator.candidateId
  candidateRank := adjudicator.rank
  stageRole := role.stageRole
  modelRole := .consensusJudge
  modelId := adjudicator.spec.modelId
  revision := adjudicator.spec.revision
  status := l.status
  startedAt := startedAt
  finishedAt := finishedAt
  loadMs := l.loadMs
  inferenceMs := l.inferenceMs
  peakVramBytes := l.peakVram
  repaired := l.repaired
  outputDigest := l.outputPayload.map env.jsonDigest
  outputPayload := l.outputPayload
  errorCode := l.errorCode

/-- `_execute_adjudicator`. -/
def executeAdjudicator : Prog ω σ PyExc (Event A) AdjudicatorExecution :=
  scope ({} : AdjudicatorLocals A) do
    let startedAt ← now env
    finallyDo (guardedAdjudicator env role adjudicator batch candidates comparisonPayload)
      (closeAdjudicator env)
    let l ← get
    let finishedAt ← now env
    let candidateRun ← construct env.models.candidateRun
      (adjudicatorRunRecord env role adjudicator startedAt finishedAt l)
    pure { candidateRun := candidateRun, verdict := l.verdict }

end Adjudicator

/-! ## One stage -/

section Stage

variable (runner : SessionRunner) (batch : WorkerInput) (sequence : Nat) (role : PipelineModelRole)

def addError (error : String) : Prog ω Session PyExc (Event A) Unit :=
  modify fun s => { s with errors := s.errors ++ [error] }

/-- `gate_records.append(record)`. -/
def appendGate (record : StageGateRecord) : Prog ω Session PyExc (Event A) Unit := do
  modify fun s => { s with gateRecords := s.gateRecords ++ [record] }
  emit (.gate record)

/-- `runs.append(ModelRun(…, status="skipped", …))` of a stage that did not execute. -/
def appendSkippedRun (model : Option ModelSpec) (moment : DateTime) (errorCode : Option String) :
    Prog ω Session PyExc (Event A) ModelRun := do
  let run ← construct env.models.modelRun
    { modelRole := role
      modelId := (model.map ModelSpec.modelId).getD "unconfigured"
      revision := (model.map ModelSpec.revision).getD "unconfigured"
      status := .skipped, startedAt := moment, finishedAt := moment, loadMs := 0, inferenceMs := 0,
      errorCode := errorCode }
  modify fun s => { s with runs := s.runs ++ [run] }
  pure run

/-- The gate of a trace, if the stage has one. -/
def constructGate (record : Option StageGateRecord) :
    Prog ω Session PyExc (Event A) (Option WorkerStageGateV2) :=
  match record with
  | none => pure none
  | some record => do
      let gate ← construct env.models.stageGate (traceGate record)
      pure (some gate)

/-- `stage_traces.append(WorkerStageTraceV2(…))`. -/
def appendTrace (status : RunStatus) (retryable : Bool) (preflight : StageGateRecord)
    (postflight : Option StageGateRecord) (attempts : List WorkerStageAttemptV2) :
    Prog ω Session PyExc (Event A) WorkerStageTraceV2 := do
  let preGate ← construct env.models.stageGate (traceGate preflight)
  let postGate ← constructGate env postflight
  let trace ← construct env.models.stageTrace
    { stageRole := (runner.contract role).role, contractId := (runner.contract role).contractId,
      sequence := sequence, status := status, retryable := retryable, preflight := preGate,
      postflight := postGate, attempts := attempts }
  modify fun s => { s with stageTraces := s.stageTraces ++ [trace] }
  pure trace

/-- The error code of a stage its preflight kept from starting. -/
def preflightErrorCode (preflight : StageGateRecord) : Option String :=
  if preflight.decision = .notApplicable then none else some ("gate_" ++ preflight.reason)

/-- `group.candidates[0].spec if group is not None else None`. -/
def primarySpec (group : Option ModelGroupSpec) : Option ModelSpec :=
  group.bind fun g => g.candidates.head?.map ModelCandidateSpec.spec

/-- The branch of a stage whose preflight is not PROCEED. -/
def skipStage (preflight : StageGateRecord) : Prog ω Session PyExc (Event A) StageReport := do
  let moment ← now env
  match preflightErrorCode preflight with
  | none => pure ()
  | some code => addError (role.value ++ ":" ++ code)
  let run ← appendSkippedRun env role (primarySpec (runner.group? role)) moment
    (preflightErrorCode preflight)
  let trace ← appendTrace env runner sequence role .skipped
    (preflight.decision = .failedRetryable) preflight none []
  pure { preflight := preflight, run := run, trace := trace }

def missingModelErrorCode (role : PipelineModelRole) : String :=
  if role = .fireDetection then "checkpoint_not_configured" else "model_not_configured"

/-- The branch of a stage no model is configured for. -/
def unconfiguredStage (preflight : StageGateRecord) (before : Finset StageCapability) :
    Prog ω Session PyExc (Event A) StageReport := do
  addError (role.value ++ ":" ++ missingModelErrorCode role)
  let moment ← now env
  let run ← appendSkippedRun env role none moment (some (missingModelErrorCode role))
  let postflight := StageGateEngine.postflight (runner.contract role) before before .skipped
    (some (missingModelErrorCode role)) 0 0
  appendGate postflight
  let trace ← appendTrace env runner sequence role .skipped false preflight (some postflight) []
  pure { preflight := preflight, postflight := some postflight, run := run, trace := trace }

/-- The cascade stops at a first candidate that is enough on its own. -/
def cascadeSettled (group : ModelGroupSpec) (executions : List CandidateExecution)
    (execution : CandidateExecution) : Bool :=
  decide (group.strategy = .cascade) && decide (executions.length = 1) &&
    match execution.results with
    | none => false
    | some results =>
        decide (group.minimumSuccessful = 1) && decide (group.minimumAgreeing = 1) &&
          !group.alwaysChallenge && !env.consensus.candidateRequiresChallenge role results

/-- `for candidate in group.candidates: …`, from the executions already made. -/
def executeCandidates (group : ModelGroupSpec) (baseResults : Dict String ItemResult)
    (executions : List CandidateExecution) :
    List ModelCandidateSpec → Prog ω Session PyExc (Event A) (List CandidateExecution)
  | [] => pure executions
  | candidate :: rest => do
      let execution ← executeCandidate env role candidate batch baseResults
        (runner.contract role).maxRepairAttempts
      modify fun s => { s with candidateRuns := s.candidateRuns ++ [execution.candidateRun] }
      if execution.run.status = .failed then
        addError (role.value ++ ":" ++ candidate.candidateId ++ ":" ++ formatted execution.run.errorCode)
      if cascadeSettled env role group (executions ++ [execution]) execution then
        pure (executions ++ [execution])
      else executeCandidates group baseResults (executions ++ [execution]) rest

/-- `successful`. -/
def successfulCandidates (executions : List CandidateExecution) : List SuccessfulCandidate :=
  executions.filterMap fun execution =>
    match execution.results with
    | some results =>
        if execution.run.status = .succeeded then
          some { candidateId := execution.candidate.candidateId, results := results,
                 repaired := execution.repaired }
        else none
    | none => none

/-- `judge_candidates`. -/
def judgeCandidates (executions : List CandidateExecution) : List JudgeCandidate :=
  executions.filterMap fun execution =>
    match execution.candidateRun.outputPayload with
    | some payload =>
        if execution.run.status = .succeeded then
          some { candidateId := execution.candidate.candidateId, modelId := execution.candidate.spec.modelId,
                 revision := execution.candidate.spec.revision, outputPayload := payload }
        else none
    | none => none

/-- The evaluation of a stage whose judge gave no verdict. -/
def adjudicatorFailed (group : ModelGroupSpec) (evaluation : ConsensusEvaluation)
    (errorCode : Option String) : ConsensusEvaluation where
  decision := group.disagreementDecision.decision
  selectedCandidateId := none
  agreementScore := evaluation.agreementScore
  reasonCodes := ["adjudicator_failed"]
  downstreamAllowed := false
  comparisonPayload := JsonValue.setField "adjudication"
    (.obj [("status", .str "failed"), ("error_code", .ofOptionString errorCode)])
    evaluation.comparisonPayload

/-- `if evaluation.requires_adjudication: …`. -/
def adjudicateStage (group : ModelGroupSpec) (executions : List CandidateExecution)
    (evaluation : ConsensusEvaluation) :
    Prog ω Session PyExc (Event A) (ConsensusEvaluation × Option AdjudicatorExecution) :=
  if evaluation.requiresAdjudication then
    match group.adjudicator with
    | none => raise .assertionError
    | some adjudicator => do
        let adjudication ← executeAdjudicator env role adjudicator batch (judgeCandidates executions)
          evaluation.comparisonPayload
        modify fun s => { s with candidateRuns := s.candidateRuns ++ [adjudication.candidateRun] }
        match adjudication.verdict with
        | some verdict => do
            let evaluation' ← ofExcept (env.consensus.applyAdjudication evaluation verdict
              ((successfulCandidates executions).map (·.candidateId))
              group.adjudicationConfidenceThreshold group.disagreementDecision)
            pure (evaluation', some adjudication)
        | none => do
            addError ("consensus:" ++ role.value ++ ":adjudicator:"
              ++ formatted adjudication.candidateRun.errorCode)
            pure (adjudicatorFailed group evaluation adjudication.candidateRun.errorCode,
              some adjudication)
  else pure (evaluation, none)

/-- `consensus_results.append(WorkerConsensusResultV2(…))`. -/
def appendConsensus (group : ModelGroupSpec) (executions : List CandidateExecution)
    (evaluation : ConsensusEvaluation) (adjudicatorCandidateId : Option String) :
    Prog ω Session PyExc (Event A) WorkerConsensusResultV2 := do
  let evaluatedAt ← now env
  let record ← construct env.models.consensusResult
    { consensusId := "consensus:" ++ role.value
      stageRole := role.stageRole
      strategy := group.strategy
      decision := evaluation.decision
      candidateIds := executions.map (·.candidate.candidateId)
      selectedCandidateId := evaluation.selectedCandidateId
      adjudicatorCandidateId := adjudicatorCandidateId
      reasonCodes := evaluation.reasonCodes
      successfulCandidates := (successfulCandidates executions).length
      requiredSuccessful := group.minimumSuccessful
      agreementScore := evaluation.agreementScore
      agreementThreshold := group.agreementThreshold
      downstreamAllowed := evaluation.downstreamAllowed
      comparisonDigest := env.jsonDigest evaluation.comparisonPayload
      comparisonPayload := evaluation.comparisonPayload
      evaluatedAt := evaluatedAt }
  modify fun s => { s with consensusResults := s.consensusResults ++ [record] }
  pure record

/-- `selected`: the execution the evaluation names, if any. -/
def selectedExecution (executions : List CandidateExecution) (evaluation : ConsensusEvaluation) :
    Option CandidateExecution :=
  executions.find? fun execution => some execution.candidate.candidateId == evaluation.selectedCandidateId

/-- What a stage comes to: the map it leaves, its run, status, error code, attempts and error. -/
structure Settlement where
  results : Dict String ItemResult
  run : ModelRun
  status : RunStatus
  errorCode : Option String
  attempts : List WorkerStageAttemptV2
  error : Option String

/-- The execution whose map the stage adopts, with that map. -/
def adopted (executions : List CandidateExecution) (evaluation : ConsensusEvaluation) :
    Option (CandidateExecution × Dict String ItemResult) :=
  if evaluation.downstreamAllowed then
    (selectedExecution executions evaluation).bind fun execution =>
      execution.results.map fun results => (execution, results)
  else none

/-- `reason_codes[0]`. -/
def firstReason : List String → Except PyExc String
  | [] => .error .indexError
  | reason :: _ => .ok reason

/-- The `if evaluation.downstream_allowed and selected is not None …` of a stage. -/
def settle (results : Dict String ItemResult) (executions : List CandidateExecution)
    (evaluation : ConsensusEvaluation) : Except PyExc Settlement :=
  match adopted executions evaluation with
  | some (selected, selectedResults) =>
      .ok { results := selectedResults, run := selected.run, status := .succeeded, errorCode := none,
            attempts := selected.attempts, error := none }
  | none =>
      match executions with
      | [] => .error .indexError
      | representative :: _ => do
          let reason ← firstReason evaluation.reasonCodes
          let error := some ("consensus:" ++ role.value ++ ":" ++ reason)
          if (successfulCandidates executions).isEmpty then
            pure { results := results, run := representative.run, status := .failed,
                   errorCode := representative.run.errorCode, attempts := representative.attempts,
                   error := error }
          else
            pure { results := results
                   run := { representative.run with
                     status := .failed, errorCode := some ("consensus_" ++ reason) }
                   status := .failed, errorCode := some ("consensus_" ++ reason), attempts := [],
                   error := error }

/-- `if gate_error not in errors: errors.append(gate_error)`, for a degraded postflight. -/
def withGateError (postflight : StageGateRecord) (errors : List String) : List String :=
  let gateError := "gate:" ++ role.value ++ ":" ++ postflight.reason
  if postflight.decision.degraded = true ∧ gateError ∉ errors then errors ++ [gateError] else errors

section GateError

variable {role : PipelineModelRole} {postflight : StageGateRecord} {errors : List String}

theorem subset_withGateError : errors ⊆ withGateError role postflight errors := by
  intro entry hentry
  unfold withGateError
  dsimp only
  split
  · exact List.mem_append_left _ hentry
  · exact hentry

/-- A record that degrades a stage is entered. -/
theorem gate_mem_withGateError (h : postflight.decision.degraded = true) :
    "gate:" ++ role.value ++ ":" ++ postflight.reason ∈ withGateError role postflight errors := by
  unfold withGateError
  dsimp only
  split
  · exact List.mem_append_right _ (List.mem_singleton_self _)
  · rename_i hnot
    by_contra habsent
    exact hnot ⟨h, habsent⟩

end GateError

/-- The end of a stage that executed: adopt or not, then let the postflight gate judge it. -/
def concludeStage (preflight : StageGateRecord) (before : Finset StageCapability) (stageStarted : ℚ)
    (executions : List CandidateExecution) (evaluation : ConsensusEvaluation)
    (adjudication : Option AdjudicatorExecution) (consensus : WorkerConsensusResultV2) :
    Prog ω Session PyExc (Event A) StageReport := do
  let s ← get
  let settlement ← ofExcept (settle role s.results executions evaluation)
  modify fun s =>
    { s with results := settlement.results, errors := s.errors ++ settlement.error.toList,
             runs := s.runs ++ [settlement.run] }
  let after := deriveCapabilities batch settlement.results
  let finished ← perfCounter env
  let postflight := StageGateEngine.postflight (runner.contract role) before after settlement.status
    settlement.errorCode (finished - stageStarted) (maximumStageOutputItems role settlement.results)
  appendGate postflight
  let trace ← appendTrace env runner sequence role settlement.status
    (postflight.decision = .failedRetryable) preflight (some postflight) settlement.attempts
  modify fun s => { s with errors := withGateError role postflight s.errors }
  pure { preflight := preflight, postflight := some postflight, run := settlement.run, trace := trace,
         executions := executions, adjudication := adjudication, evaluation := some evaluation,
         consensus := some consensus }

/-- The branch of a stage that executes its group's candidates. -/
def executeStage (preflight : StageGateRecord) (before : Finset StageCapability) (group : ModelGroupSpec) :
    Prog ω Session PyExc (Event A) StageReport := do
  let stageStarted ← perfCounter env
  let s ← get
  let executions ← executeCandidates env runner batch role group s.results [] group.candidates
  let evaluation ← ofExcept (env.consensus.evaluateConsensus role group (successfulCandidates executions))
  let (evaluation, adjudication) ← adjudicateStage env batch role group executions evaluation
  let consensus ← appendConsensus env role group executions evaluation
    (adjudication.bind fun _ => group.adjudicator.map (·.candidateId))
  concludeStage env runner batch sequence role preflight before stageStarted executions evaluation
    adjudication consensus

/-- One iteration of `for sequence, role in enumerate(ROLE_ORDER, start=1)`. -/
def runStage : Prog ω Session PyExc (Event A) StageReport := do
  let s ← get
  let before := deriveCapabilities batch s.results
  let preflight := StageGateEngine.preflight (runner.contract role) before batch.items.length
  appendGate preflight
  if preflight.decision ≠ .proceed then skipStage env runner sequence role preflight
  else match runner.group? role with
    | none => unconfiguredStage env runner sequence role preflight before
    | some group => executeStage env runner batch sequence role preflight before group

end Stage

/-! ## The session -/

variable (runner : SessionRunner) (batch : WorkerInput)

/-- `enumerate(ROLE_ORDER, start=1)`. -/
def numberedRoles : List (Nat × PipelineModelRole) :=
  [(1, .asr), (2, .fireDetection), (3, .visualGrounding), (4, .multimodalExtraction)]

def Session.start : Session where
  results := initialResults batch

/-- Some stage skipped with an error code, or some gate record degraded. -/
def incomplete (runs : List ModelRun) (gateRecords : List StageGateRecord) : Bool :=
  (runs.any fun run => decide (run.status = .skipped) && truthy run.errorCode)
    || gateRecords.any fun record => record.decision.degraded

def overallStatus (runs : List ModelRun) (gateRecords : List StageGateRecord) : OutputStatus :=
  let succeeded := runs.countP fun run => run.status = .succeeded
  let failed := runs.countP fun run => run.status = .failed
  if failed = 0 && !incomplete runs gateRecords then .succeeded
  else if succeeded ≠ 0 || incomplete runs gateRecords then .partialFailure
  else .failed

/-- `results[item.input_id] for item in batch.items`. -/
def collectItems (results : Dict String ItemResult) : List BatchItem → Except PyExc (List ItemResult)
  | [] => .ok []
  | item :: rest =>
      match results.get? item.inputId with
      | none => .error (.keyError item.inputId)
      | some result => (collectItems results rest).map (result :: ·)

/-- The end of `_run_with_trace`: the verdict and the output. -/
def finishSession : Prog ω Session PyExc (Event A) SessionRunResult := do
  let s ← get
  let items ← ofExcept (collectItems s.results batch.items)
  let output ← construct env.models.workerOutput
    { batchId := batch.batchId
      status := overallStatus s.runs s.gateRecords
      retryable := s.gateRecords.any fun record => record.decision = .failedRetryable
      modelRuns := s.runs
      items := items
      validationErrors := s.errors
      bootMs := runner.bootMs }
  pure { output := output, gateRecords := s.gateRecords, stageTraces := s.stageTraces,
         candidateRuns := s.candidateRuns, consensusResults := s.consensusResults,
         contractDigest := runner.contracts.digest }

/-- The stage loop's body. -/
def stageBody (entry : Nat × PipelineModelRole) : Prog ω Session PyExc (Event A) StageReport :=
  runStage env runner batch entry.1 entry.2

/-- `_run_with_trace`. -/
def runLoop : Prog ω Session PyExc (Event A) SessionRunResult := do
  forEach numberedRoles (stageBody env runner batch)
  finishSession env runner batch

/-- `run_with_trace`. -/
def runWithTrace : Prog ω Unit PyExc (Event A) SessionRunResult :=
  finallyDo (scope (Session.start batch) (runLoop env runner batch))
    (observe (fun _ => .finalizeJob) (call env.memory.finalizeJob))

/-- The iterations of a session's stage loop, started in a world. -/
def stagePasses (w : ω) : List (Pass ω Session PyExc (Event A) StageReport (Nat × PipelineModelRole)) :=
  passes (stageBody env runner batch) numberedRoles w (Session.start batch)

end SessionRunner

end FireviewerOrchestrator
