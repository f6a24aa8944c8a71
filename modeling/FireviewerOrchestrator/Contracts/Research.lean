/-
  The research contract, as far as the job handler reads and makes it.

  A request is only passed on, so of it only its identifier matters.  A response is also made by the
  handler itself, where a research run failed: `ResearchOutput.build` may refuse it, and does so exactly
  if the identifier is not a safe one (`failed_build`).
-/
import FireviewerOrchestrator.Contracts.OutputV2

set_option linter.unusedVariables false

namespace FireviewerOrchestrator

structure ResearchInput where
  researchId : String
  research_id_safe : isSafeIdentifier researchId = true := by decide

structure ResearchModelRun where
  modelId : String
  revision : String
  status : RunStatus
  startedAt : DateTime
  finishedAt : DateTime
  loadMs : Int
  inferenceMs : Int
  peakVramBytes : Option Int := none
  errorCode : Option String := none
  deriving DecidableEq, Repr

structure ResearchCandidate where
  candidateId : String
  deriving DecidableEq, Repr

structure ResearchOutput where
  researchId : String
  status : OutputStatus
  retryable : Bool
  modelRun : ResearchModelRun
  queries : List String := []
  candidates : List ResearchCandidate := []
  validationErrors : List String := []
  deriving DecidableEq, Repr

namespace ResearchOutput

/-- The bounds of the fields and `validate_output`. -/
def check (r : ResearchOutput) : Except PyExc Unit :=
  Pydantic.validate "ResearchOutputV1"
    [(isSafeIdentifier r.researchId, "research_id"), (0 ≤ r.modelRun.loadMs, "load_ms"),
      (0 ≤ r.modelRun.inferenceMs, "inference_ms"),
      (Pydantic.optional (fun n : Int => 0 ≤ n) r.modelRun.peakVramBytes, "peak_vram_bytes"),
      (r.queries.length ≤ 100, "queries"), (r.candidates.length ≤ 500, "candidates"),
      (r.validationErrors.length ≤ 100, "validation_errors"),
      (r.candidates.all fun candidate => isSafeIdentifier candidate.candidateId, "candidate_id"),
      ((r.candidates.map ResearchCandidate.candidateId).Nodup, "research candidate ids must be unique")]

/-- `ResearchOutputV1.model_validate(…)`. -/
def build : ResearchOutput → Except PyExc ResearchOutput := checked check

/-- The first `limit` characters of a text. -/
def truncated (limit : Nat) (text : String) : String := String.ofList (text.toList.take limit)

/-- The output of a research run that failed. -/
def failed (researchId : String) (spec : ModelSpec) (now : Int) (errorCode detail : String)
    (retryable : Bool) : ResearchOutput where
  researchId := researchId
  status := .failed
  retryable := retryable
  modelRun :=
    { modelId := spec.modelId
      revision := spec.revision
      status := .failed
      startedAt := { micros := now, aware := true }
      finishedAt := { micros := now, aware := true }
      loadMs := 0
      inferenceMs := 0
      errorCode := some (truncated 128 errorCode) }
  validationErrors := [truncated 1000 detail]

variable {researchId errorCode detail : String} {spec : ModelSpec} {now : Int} {retryable : Bool}

/-- **A failure can be told exactly of what has a safe identifier.** -/
theorem failed_build (researchId : String) (spec : ModelSpec) (now : Int) (errorCode detail : String)
    (retryable : Bool) : (failed researchId spec now errorCode detail retryable).build
      = if isSafeIdentifier researchId = true then
          .ok (failed researchId spec now errorCode detail retryable)
        else .error (.validationError "ResearchOutputV1" "research_id") := by
  unfold build checked check
  cases hsafe : isSafeIdentifier researchId with
  | false =>
    show (Pydantic.validate _ ((isSafeIdentifier researchId, _) :: _) >>= _) = _
    rw [hsafe]
    rfl
  | true =>
    have hpasses : Pydantic.validate "ResearchOutputV1"
        [(isSafeIdentifier researchId, "research_id"), (true, "load_ms"), (true, "inference_ms"),
          (true, "peak_vram_bytes"), (true, "queries"), (true, "candidates"), (true, "validation_errors"),
          (true, "candidate_id"), (true, "research candidate ids must be unique")] = .ok () := by
      rw [hsafe]
      rfl
    show (Pydantic.validate _ _ >>= _) = _
    rw [if_pos rfl]
    exact congrArg (fun r : Except PyExc Unit => r >>= fun _ =>
      (pure (failed researchId spec now errorCode detail retryable) : Except PyExc ResearchOutput)) hpasses

end ResearchOutput

end FireviewerOrchestrator
