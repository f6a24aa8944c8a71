/-
  What a job runs against: the deployment of the worker, the components that are injected, and the
  questions it asks of everything that is not the handler.

  A job is a program of `Library/Guarded`.  Models, factories, the research service and the session are
  reached through questions alone, so a statement about a job is one about every behaviour of theirs.
  The contract's validators are parameters of the deployment: what they accept is a record of the
  contract, and what they refuse they may refuse with any exception.
-/
import FireviewerOrchestrator.Contracts.Configuration
import FireviewerOrchestrator.Contracts.Events
import FireviewerOrchestrator.Contracts.MediaUrls
import FireviewerOrchestrator.Contracts.Research
import FireviewerOrchestrator.Library.Outcomes
import FireviewerOrchestrator.V2Runner.Sequences

set_option linter.unusedVariables false

namespace FireviewerOrchestrator

/-- The value of the enumeration. -/
def OutputStatus.value : OutputStatus → String
  | succeeded => "succeeded"
  | partialFailure => "partial_failure"
  | failed => "failed"

def PipelineStatus.value : PipelineStatus → String
  | needsReview => "needs_review"
  | abstained => "abstained"
  | failed => "failed"

namespace Handler

open Guarded

/-! ## Components -/

/-- An adapter factory, as far as the handler tells factories apart. -/
structure Factory where
  /-- `isinstance(factory, TransformersAdapterFactory)`. -/
  transformers : Bool
  /-- `isinstance(factory, ScopedAdapterFactory)`. -/
  jobScoped : Bool
  deriving DecidableEq, Repr

/-- `UnavailableAdapterFactory()`. -/
def Factory.unavailable : Factory := ⟨false, false⟩

/-- `TransformersAdapterFactory(…)`, whose `job_scope` opens the media cache. -/
def Factory.ofTransformers : Factory := ⟨true, true⟩

/-- An `EventPerceptionAdapter` or a `FirePointingAdapter`. -/
structure PerceptionAdapter where
  spec : ModelSpec

inductive EventPointSemantic where
  | activeFirePoint | visibleFireFrontPoint | smokeOriginPoint
  deriving DecidableEq, Repr

def EventPointSemantic.value : EventPointSemantic → String
  | activeFirePoint => "active_fire_point"
  | visibleFireFrontPoint => "visible_fire_front_point"
  | smokeOriginPoint => "smoke_origin_point"

/-- What the event adapter sees: a point of the image. -/
structure EventPerceptionPoint where
  semanticAnchor : EventPointSemantic
  sourcePointNormalized : ℚ × ℚ
  modelScore : Option ℚ := none
  point_normalized : (0 ≤ sourcePointNormalized.1 ∧ sourcePointNormalized.1 ≤ 1) ∧
    0 ≤ sourcePointNormalized.2 ∧ sourcePointNormalized.2 ≤ 1
  score_unit : ∀ q ∈ modelScore, 0 ≤ q ∧ q ≤ 1 := by decide

/-- The stages whose judge a lab probe can ask. -/
inductive ProbeRole where
  | sourceResearch | fireDetection | visualGrounding
  deriving DecidableEq, Repr

structure ProbeCandidate where
  candidateId : String
  outputPayload : JsonFields

structure JudgeProbe where
  batch : WorkerInput
  stageRole : ProbeRole
  candidates : List ProbeCandidate
  comparison : JsonFields
  candidates_bounded : 2 ≤ candidates.length ∧ candidates.length ≤ 3

/-- What the caller of `handle_job` gives it besides the job. -/
structure Injected where
  factory : Option Factory := none
  /-- Whether there is a `spatial_pipeline`. -/
  spatialPipeline : Bool := false
  eventPerceptionAdapter : Option PerceptionAdapter := none

/-! ## The deployment -/

/-- `model_validate` of the contracts a job is read with. -/
structure Validators where
  event : JsonFields → Except PyExc EventPipelineInput
  research : JsonFields → Except PyExc ResearchInput
  batch : JsonFields → Except PyExc WorkerInput
  batchV2 : JsonFields → Except PyExc WorkerInputV2
  probe : JsonFields → Except PyExc JudgeProbe
  /-- `exc.errors(…)`: the location and the type of each error. -/
  errors : PyExc → List (List String × String)
  /-- What is accepted has the identifier it was given. -/
  research_id_kept : ∀ raw request, research raw = .ok request →
    raw.lookup "research_id" = some (.str request.researchId)
  /-- What is refused is refused with an `Exception`. -/
  research_refuses : ∀ raw e, research raw = .error e → e.isException = true

structure Deployment where
  vars : Variables
  files : FileSystem
  host : Host
  validators : Validators
  /-- The digest of the packaged stage contracts. -/
  contractDigest : String
  /-- `BOOT_READY_MS`. -/
  bootReadyMs : Int
  /-- `load_mvp_stack().stack_id` and `mvp_stack_digest()`. -/
  stackId : String
  stackDigest : String
  /-- `len(json.dumps(raw_input).encode())`. -/
  jsonBytes : JsonFields → Nat

/-! ## Questions -/

/-- What a job asks of the outside, with all that it tells it. -/
inductive Question where
  | now
  | perfCounter
  | createTransformersFactory (settings : WorkerSettings)
  | createFirePointing (factory : Factory) (spec : ModelSpec)
  | createBurnedArea (factory : Factory) (spec : ModelSpec)
  | createConsensusJudge (factory : Factory) (spec : ModelSpec)
  | enterScope (factory : Factory)
  | exitScope (factory : Factory)
  | loadAdapter (adapter : PerceptionAdapter)
  | inferEventImage (adapter : PerceptionAdapter) (evidenceAssetId : String) (workingFileUrl : Option String)
  | unloadAdapter (adapter : PerceptionAdapter)
  | loadJudge
  | adjudicate (batch : WorkerInput) (stageRole : ProbeRole) (candidates : List JudgeCandidate)
      (comparison : JsonFields)
  | unloadJudge
  | runIsolatedResearch (research : ResearchInput)
  | runSession (factory : Factory) (runner : SessionRunner) (batch : WorkerInput)
  | runFirePointing (batch : WorkerInputV2) (output : WorkerOutput) (adapter : Option PerceptionAdapter)
      (sequence : Nat)
  | runBurnedArea (batch : WorkerInputV2) (adapter : Option ModelSpec) (sequence : Nat)
  | spatialPipeline (factory : Factory)

/-- What comes back: a reading of a clock, or a result that may be an exception. -/
def Answer : Question → Type
  | .now => Int
  | .perfCounter => ℚ
  | .createTransformersFactory _ | .createFirePointing _ _ | .createBurnedArea _ _
  | .createConsensusJudge _ _ | .enterScope _ | .exitScope _ | .loadAdapter _ | .unloadAdapter _
  | .loadJudge | .unloadJudge => Except JobExc Unit
  | .inferEventImage _ _ _ => Except JobExc (List EventPerceptionPoint)
  | .adjudicate _ _ _ _ => Except JobExc ConsensusJudgeVerdict
  | .runIsolatedResearch _ => Except JobExc ResearchOutput
  | .runSession _ _ _ => Except JobExc SessionRunner.SessionRunResult
  | .runFirePointing _ _ _ _ => Except JobExc V2Runner.FirePointingExecution
  | .runBurnedArea _ _ _ => Except JobExc V2Runner.BurnedAreaExecution
  -- a pipeline is what it does
  | .spatialPipeline _ => Except JobExc V2Runner.SpatialPipeline

/-- A part of a job. -/
abbrev Job (α : Type) := Code Question Answer JobExc α

/-! ## Responses -/

/-- What a batch that was not run is answered with. -/
structure FailedBatch where
  schemaVersion : String
  batchId : String
  retryable : Bool
  validationErrors : List String
  bootMs : Int
  /-- `analysis_id` and `orchestration_contract_digest`, in the second version. -/
  v2 : Option (JsonValue × String) := none

structure ProbeResult where
  stackId : String
  stackDigest : String
  loadMs : ℚ
  verdict : JsonFields

inductive Response where
  | failedBatch (envelope : FailedBatch)
  | batch (output : WorkerOutput)
  | batchV2 (output : WorkerOutputV2)
  | event (output : EventPipelineOutput)
  | research (output : ResearchOutput)
  | probe (result : ProbeResult)

/-- `response.get("status")`.  The result of a lab probe has none. -/
def Response.status? : Response → Option String
  | failedBatch _ => some "failed"
  | batch output => some output.status.value
  | batchV2 output => some output.status.value
  | event output => some output.status.value
  | research output => some output.status.value
  | probe _ => none

/-! ## Small programs -/

section

variable {α : Type}

def now : Job Int := .ask .now fun reading => pure reading

def perfCounter : Job ℚ := .ask .perfCounter fun reading => pure reading

/-- The contracts and the pipelines raise the exceptions that are no classes of the handler's. -/
def lift (result : Except PyExc α) : Job α := .done (result.mapError .py)

/-- `except Exception`, behind an answer: the value, unless an `Exception` was raised. -/
def attempted : Except JobExc α → Job (Option α)
  | .ok a => pure (some a)
  | .error e => if e.isException then pure none else .raise e

/-- `try: … except Exception: …` around one question. -/
def attempt (q : Question) (result : Answer q → Except JobExc α) : Job (Option α) :=
  .ask q fun answer => attempted (result answer)

/-- What releasing a lock that nobody holds raises. -/
def unlocked : JobExc := .py (.runtimeError "release unlocked lock")

/-- `try: … finally: _GPU_SESSION_LOCK.release()`. -/
def thenRelease (c : Job α) : Job α := c.finallyDo (.releaseLock unlocked)

/-- `with adapter_factory_job_scope(factory): …`. -/
def inJobScope (factory : Factory) (c : Job α) : Job α :=
  if factory.jobScoped then do
    Code.call (q := .enterScope factory) id
    c.finallyDo (Code.call (q := .exitScope factory) id)
  else c

end

section Rules

variable {α : Type} {permitted : ∀ q, Answer q → Prop} {asked : Question → Prop} {E : JobExc → Prop}

theorem yields_lift {P : α → Prop} {result : Except PyExc α} (hok : ∀ a, result = .ok a → P a)
    (herror : ∀ e, result = .error e → E (.py e)) : Yields permitted E P (lift result) := by
  cases result with
  | ok a => exact yields_done (hok a rfl)
  | error e => exact yields_done (herror e rfl)

theorem ends_lift {result : Except PyExc α} {a : α} (h : Ends permitted (lift result) (.ok a)) :
    result = .ok a := by
  cases result with
  | ok a' =>
    obtain ⟨⟩ := h
    rfl
  | error e => cases h

theorem yields_now : Yields permitted E (fun _ => True) now := by
  rintro r ⟨reading, -, rfl⟩
  exact trivial

theorem asksOnly_attempt {q : Question} {r : Answer q → Except JobExc α} (h : asked q) :
    AsksOnly asked (attempt q r) := by
  refine ⟨h, fun answer => ?_⟩
  show AsksOnly asked (attempted (r answer))
  unfold attempted
  split
  · exact asksOnly_pure
  · split <;> exact asksOnly_done

/-- An attempt only raises what is no `Exception`. -/
theorem yields_attempt {q : Question} {r : Answer q → Except JobExc α}
    (h : ∀ answer, permitted q answer → ∀ e, r answer = .error e → e.isException = true ∨ E e) :
    Yields permitted E (fun _ => True) (attempt q r) := by
  rintro ended ⟨answer, hanswer, hended⟩
  have hattempted : Yields permitted E (fun _ => True) (attempted (r answer)) := by
    unfold attempted
    split
    · exact yields_pure trivial
    · rename_i e he
      split
      · exact yields_pure trivial
      · rename_i hnot
        exact yields_raise ((h answer hanswer e he).resolve_left hnot)
  exact hattempted ended hended

end Rules

/-- `round(x, 2)`. -/
def roundToHundredths (x : ℚ) : ℚ := roundHalfEven (x * 100) / 100

end Handler

end FireviewerOrchestrator
