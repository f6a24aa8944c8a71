/-
  The GPU session is one at a time, whatever jobs run side by side.

  Every job keeps the discipline of the lock (`keeps_handleJob`): models are only asked for anything
  inside, and what it acquired it has released when it ends.  `orderly_of_run` makes of this what holds
  of any number of jobs in any interleaving.

  A job that is refused the lock says so, with one exception: an event that brings its own anchors needs
  no model, and is answered in full.
-/
import FireviewerOrchestrator.Handler.Program

set_option linter.unusedVariables false

namespace FireviewerOrchestrator

namespace Handler

open Guarded

/-! ## What needs the lock -/

/-- The question opens a job's resources, makes or uses an adapter, or runs a session or a stage.  Only
    the clocks and the factory's constructor are no such question. -/
def OfModels : Question → Prop
  | .now | .perfCounter | .createTransformersFactory _ => False
  | _ => True

/-- **The discipline**: such a question is only asked with the lock. -/
def Allowed (u : Stage) (q : Question) : Prop := OfModels q → u = .inside

/-! ## The response of a branch, from how it ended -/

section

variable (d : Deployment) (injected : Injected) (raw : JsonFields)

/-- The event branch's response. -/
def eventResult : Except JobExc EventPipelineOutput → Except JobExc Response
  | .ok output => .ok (.event output)
  | .error (.py (.validationError model message)) =>
      .ok (.event (failedEvent raw (eventValidationCodes d (.validationError model message))))
  | .error e => .error e

/-- The batch branch's response. -/
def batchResult : Except JobExc Response → Except JobExc Response
  | .ok response => .ok response
  | .error e => if isRefusal e then .ok (.failedBatch (refusedBatch d raw e)) else .error e

theorem handleEvent_eq (henabled : eventPipelineEnabled d = true) : handleEvent d injected raw
    = (analyseEvent d injected raw).andThen fun r => .done (eventResult d raw r) := by
  unfold handleEvent
  rw [if_pos henabled]
  show ((analyseEvent d injected raw).andThen _).andThen _ = _
  rw [Code.andThen_andThen]
  refine congrArg (fun k => (analyseEvent d injected raw).andThen k) (funext fun r => ?_)
  match r with
  | .ok output => rfl
  | .error (.py (.validationError _ _)) => rfl
  | .error (.configurationError _) | .error (.researchServiceError _ _) => rfl
  | .error (.py (.modelOutputError _)) | .error (.py (.outputValidationError _))
  | .error (.py (.registryError _)) | .error (.py (.raised _ _)) | .error (.py (.exit _)) => rfl

/-- The research branch's response: an exception that is handled becomes one as well. -/
def researchResponse (r : Except JobExc ResearchOutput) : Job Response :=
  (match r with
    | .ok output => .done (.ok output)
    | .error e => (researchHandler d raw e).getD (.done (.error e))) >>= fun output => pure (.research output)

theorem handleResearch_eq : handleResearch d raw
    = (isolatedResearch d raw).andThen (researchResponse d raw) := by
  show ((isolatedResearch d raw).andThen _).andThen _ = _
  rw [Code.andThen_andThen]
  refine congrArg (fun k => (isolatedResearch d raw).andThen k) (funext fun r => ?_)
  cases r with
  | ok output => rfl
  | error e => rfl

theorem handleBatch_eq : handleBatch d injected raw
    = (runBatch d injected raw).andThen fun r => .done (batchResult d raw r) := by
  refine congrArg (fun k => (runBatch d injected raw).andThen k) (funext fun r => ?_)
  cases r with
  | ok response => rfl
  | error e =>
    show ((if isRefusal e then some _ else none).getD _) = Code.done (if isRefusal e then _ else _)
    cases isRefusal e with
    | true => rfl
    | false => rfl

end

/-! ## What the parts ask -/

section Asks

variable {α : Type} {d : Deployment} {injected : Injected} {raw : JsonFields} {asked : Question → Prop}

theorem asksOnly_now : AsksOnly asked now ↔ asked .now := ⟨fun h => h.1, fun h => ⟨h, fun _ => trivial⟩⟩

theorem asksOnly_runtimeFactory {settings : WorkerSettings}
    (h : asked (.createTransformersFactory settings)) : AsksOnly asked (runtimeFactory d settings) := by
  unfold runtimeFactory
  split
  · exact asksOnly_pure
  · exact (asksOnly_call h).bind fun _ => asksOnly_pure

/-- **No pointing adapter is ever made**: the registry pins no model for it. -/
theorem asksOnly_runtimeFirePointingAdapter (factory : Factory) :
    AsksOnly asked (runtimeFirePointingAdapter d factory) := by
  unfold runtimeFirePointingAdapter
  split
  · refine asksOnly_lift_bind fun registry hregistry => ?_
    rw [(Models.buildRegistry_get? hregistry).1]
    exact asksOnly_pure
  · exact asksOnly_pure

theorem asksOnly_inJobScope (factory : Factory) (h : ∀ q, asked q) {c : Job α} (hc : AsksOnly asked c) :
    AsksOnly asked (inJobScope factory c) := by
  unfold inJobScope
  split
  · exact (asksOnly_call (h _)).bind fun _ => hc.finallyDo (asksOnly_call (h _))
  · exact hc

theorem asksOnly_runProbe (factory : Factory) (h : ∀ q, asked q) : AsksOnly asked (runProbe d raw factory) := by
  refine asksOnly_lift.bind fun _ => asksOnly_lift.bind fun request => (asksOnly_call (h _)).bind fun _ => ?_
  refine AsksOnly.bind ⟨h _, fun _ => trivial⟩ fun started => AsksOnly.finallyDo ?_ (asksOnly_call (h _))
  refine (asksOnly_call (h _)).bind fun _ => AsksOnly.bind ⟨h _, fun _ => trivial⟩ fun loaded => ?_
  exact (asksOnly_call (h _)).bind fun _ => asksOnly_pure

theorem asksOnly_researchFailure (errorCode detail : String) (retryable : Bool) (h : asked .now) :
    AsksOnly asked (researchFailure d raw errorCode detail retryable) :=
  (asksOnly_now.mpr h).bind fun reading => asksOnly_lift

theorem asksOnly_executeBatch (factory : Factory) (runner : SessionRunner) (batch : Batch) (h : ∀ q, asked q) :
    AsksOnly asked (executeBatch d injected factory runner batch) := by
  refine (asksOnly_call (h _)).bind fun execution => ?_
  cases batch with
  | v1 batch => exact asksOnly_pure
  | v2 batch =>
    refine AsksOnly.bind ?_ fun output => asksOnly_pure
    refine (asksOnly_runtimeFirePointingAdapter factory).bind fun pointingAdapter => ?_
    refine (asksOnly_call (h _)).bind fun pointing => AsksOnly.bind ?_ fun burnedAreaAdapter => ?_
    · unfold runtimeBurnedAreaAdapter
      split
      · refine asksOnly_lift.bind fun registry => ?_
        split
        · exact asksOnly_done
        · exact (asksOnly_call (h _)).bind fun _ => asksOnly_pure
      · exact asksOnly_pure
    · refine (asksOnly_call (h _)).bind fun burnedArea => AsksOnly.bind ?_ fun pipeline => asksOnly_lift
      unfold resolvedSpatialPipeline
      split
      · exact (asksOnly_call (h _)).bind fun _ => asksOnly_pure
      · exact asksOnly_pure

end Asks

/-! ## What a job that is refused the lock says -/

/-- A research run says that the session is held, if the models can be read at all. -/
def BusyResearch (d : Deployment) (result : Except JobExc Response) : Prop :=
  ∀ registry, Models.buildRegistry d.vars d.files = .ok registry → ∃ output, result = .ok (.research output) ∧
    output.status = .failed ∧ output.retryable = true ∧
    output.modelRun.errorCode = some "gpu_session_already_active"

def BusyBatch (d : Deployment) (raw : JsonFields) (result : Except JobExc Response) : Prop :=
  ∃ runner batch, readBatch d raw = .ok batch ∧ result = .ok (.failedBatch (busyBatch d runner batch))

/-- An event without anchors, once those of rejected assets are gone, says that the session is held.  One
    with anchors needs no model, and has the result of its own anchors. -/
def BusyEvent (d : Deployment) (raw : JsonFields) (result : Except JobExc Response) : Prop :=
  ∃ request settings urlFailures value, d.validators.event raw = .ok request ∧
    checkedWorkingUrls d request = .ok (settings, urlFailures) ∧
    withoutRejected (invalidAssets urlFailures) request = .ok value ∧
    (value.perceptionAnchors = [] →
      ∃ output, result = .ok (.event output) ∧ "gpu_session_already_active" ∈ output.reasonCodes) ∧
    (value.perceptionAnchors ≠ [] →
      result = eventResult d raw ((EventPipeline.run d.host.sha256 value urlFailures).mapError .py))

/-- **The answer to a job that finds the lock held.**  A lab probe waits instead. -/
def BusyAnswer (d : Deployment) (job : JsonFields) (result : Except JobExc Response) : Prop :=
  ∃ raw, getField "input" job = .obj raw ∧ match branchOf d raw with
    | .probe => False
    | .event => BusyEvent d raw result
    | .research => BusyResearch d result
    | .batch => BusyBatch d raw result

/-! ## The discipline of a job -/

section Discipline

variable {α β : Type} {d : Deployment} {injected : Injected} {raw : JsonFields}

/-- Answers of any kind. -/
def anything (q : Question) (answer : Answer q) : Prop := True

/-- How a job may end: without the lock, and as `busy` if it was refused it. -/
def Released (busy : Except JobExc α → Prop) (u : Stage) (result : Except JobExc α) : Prop :=
  u ≠ .inside ∧ (u = .refused → busy result)

theorem released_fresh {busy : Except JobExc α → Prop} (result : Except JobExc α) :
    Released busy .fresh result := ⟨by decide, fun h => by cases h⟩

theorem released_finished {busy : Except JobExc α → Prop} (result : Except JobExc α) :
    Released busy .finished result := ⟨by decide, fun h => by cases h⟩

theorem released_refused {busy : Except JobExc α → Prop} {result : Except JobExc α} (h : busy result) :
    Released busy .refused result := ⟨by decide, fun _ => h⟩

variable {busy : Except JobExc α → Prop}

/-- A beginning that needs no lock. -/
theorem keeps_fresh_bind {c : Job β} {f : β → Job α} (hc : AsksOnly (fun q => ¬ OfModels q) c)
    (hf : ∀ b, Ends anything c (.ok b) → Keeps anything Allowed (Released busy) .fresh (f b)) :
    Keeps anything Allowed (Released busy) .fresh (c >>= f) :=
  hc.keeps_bind (fun q hq h => absurd h hq) hf fun e => released_fresh _

/-- What is done with the lock, and its release. -/
theorem keeps_thenRelease {P : Stage → Except JobExc α → Prop} {c : Job α} (hc : AsksOnly (fun _ => True) c)
    (hP : ∀ r, P .finished r) : Keeps anything Allowed P .inside (thenRelease c) := by
  refine keeps_finallyDo.mpr (hc.keeps (fun q _ _ => rfl) fun r _ => keeps_releaseLock.mpr ⟨rfl, ?_⟩)
  exact hP r

/-- What is said without the lock. -/
theorem keeps_refused {c : Job α} (hc : AsksOnly (fun q => ¬ OfModels q) c)
    (hbusy : ∀ r, Ends anything c r → busy r) : Keeps anything Allowed (Released busy) .refused c :=
  hc.keeps (fun q hq h => absurd h hq) fun r hr => released_refused (hbusy r hr)

end Discipline

section Branches

variable {d : Deployment} {injected : Injected} {raw : JsonFields}

/-- A lab probe waits for the lock. -/
theorem keeps_handleProbe {busy : Except JobExc Response → Prop} :
    Keeps anything Allowed (Released busy) .fresh (handleProbe d raw) := by
  refine keeps_fresh_bind asksOnly_done fun settings _ => keeps_withLock.mpr ⟨rfl, ?_⟩
  have hasks : AsksOnly (fun _ => True) (do
      let factory ← runtimeFactory d settings
      let result ← runProbe d raw factory
      pure (.probe result) : Job Response) :=
    (asksOnly_runtimeFactory trivial).bind fun factory =>
      (asksOnly_runProbe factory fun _ => trivial).bind fun _ => asksOnly_pure
  exact hasks.keeps (fun q _ _ => rfl) fun r _ => ⟨rfl, released_finished _⟩

/-- Perception takes the lock where it needs a model, and what follows is the pipeline's run. -/
theorem keeps_perceiveEvent {request value : EventPipelineInput} {settings : Option WorkerSettings}
    {urlFailures : List PerceptionFailure} (hrequest : d.validators.event raw = .ok request)
    (hurls : checkedWorkingUrls d request = .ok (settings, urlFailures))
    (hvalue : withoutRejected (invalidAssets urlFailures) request = .ok value) (factory : Option Factory)
    (adapter : Option PerceptionAdapter) :
    Keeps anything Allowed (Released fun r => BusyEvent d raw (eventResult d raw r)) .fresh
      (perceiveEvent d value urlFailures factory adapter >>= fun out =>
        lift (EventPipeline.run d.host.sha256 out.1 out.2)) := by
  unfold perceiveEvent
  by_cases hneeds : (eventRequiresImageInference value urlFailures && adapter.isSome) = true
  · rw [if_pos hneeds]
    refine ⟨rfl, ?_, ?_⟩
    · -- with the lock
      refine keeps_andThen.mpr (keeps_thenRelease ?_ ?_)
      · cases factory with
        | none => exact asksOnly_done
        | some factory =>
          exact asksOnly_inJobScope factory (fun _ => trivial)
            ((asksOnly_perception _ _ _).mono fun _ _ => trivial)
      · rintro (e | out)
        · exact released_finished _
        · exact released_finished _
    · -- without it the pipeline runs on what the request brought
      obtain ⟨failures, hperception, hgiven, hnone⟩ :=
        @perception_without_adapter d.host.sha256 value urlFailures gpuSessionAlreadyActive
      show Keeps anything Allowed _ .refused ((runEventImagePerception d.host.sha256 value none urlFailures
        gpuSessionAlreadyActive).andThen _)
      rw [hperception]
      refine released_refused ⟨request, settings, urlFailures, value, hrequest, hurls, hvalue, ?_, ?_⟩
      · intro hanchors
        obtain ⟨failure, hfailure, hcode⟩ := hnone hanchors (Bool.and_eq_true_iff.mp hneeds).1
        obtain ⟨out, hout⟩ := @EventPipeline.exists_run_of_no_anchors d.host.sha256 value failures hanchors
        refine ⟨out, ?_, ?_⟩
        · show eventResult d raw ((EventPipeline.run d.host.sha256 value failures).mapError .py) = _
          rw [hout]
          rfl
        · have hcodes := (EventPipeline.failure_accounted hout hfailure).2
          rw [hcode] at hcodes
          exact hcodes
      · intro hanchors
        rw [← hgiven hanchors]
  · rw [if_neg hneeds]
    refine keeps_fresh_bind ((asksOnly_perception adapter urlFailures modelUnavailable).mono ?_)
      fun out _ => released_fresh _
    rintro q ⟨hadapter, hrequires⟩
    exact absurd (Bool.and_eq_true_iff.mpr ⟨hrequires, hadapter⟩) hneeds

/-- An event. -/
theorem keeps_handleEvent : Keeps anything Allowed (Released (BusyEvent d raw)) .fresh
    (handleEvent d injected raw) := by
  cases henabled : eventPipelineEnabled d with
  | false =>
    unfold handleEvent
    rw [if_neg (by simp [henabled])]
    exact released_fresh _
  | true =>
    rw [handleEvent_eq d injected raw henabled]
    refine keeps_andThen.mpr ?_
    show Keeps anything Allowed (Released fun r => BusyEvent d raw (eventResult d raw r)) .fresh
      (analyseEvent d injected raw)
    refine keeps_fresh_bind asksOnly_lift fun request hrequest => ?_
    refine keeps_fresh_bind asksOnly_done fun checked hchecked => ?_
    refine keeps_fresh_bind asksOnly_lift fun value hvalue => ?_
    refine keeps_fresh_bind ?_ fun factory _ => keeps_fresh_bind ?_ fun adapter _ => ?_
    · unfold eventFactory
      split
      · exact asksOnly_pure
      · split
        · exact (asksOnly_runtimeFactory id).bind fun _ => asksOnly_pure
        · exact asksOnly_pure
      · exact asksOnly_pure
    · unfold eventAdapter
      split
      · exact asksOnly_pure
      · exact asksOnly_runtimeFirePointingAdapter _
      · exact asksOnly_pure
    · exact keeps_perceiveEvent (ends_lift hrequest) hchecked (ends_lift hvalue) factory adapter

/-- **A research failure can be told** where the models can be read, of a safe identifier. -/
theorem researchFailureAt_eq_ok {errorCode detail : String} {retryable : Bool} {reading : Int}
    {registry : Models.Registry} (hregistry : Models.buildRegistry d.vars d.files = .ok registry)
    (hsafe : isSafeIdentifier (textOrInvalid "research_id" raw) = true) :
    researchFailureAt d raw errorCode detail retryable reading
      = .ok (.failed (textOrInvalid "research_id" raw) Models.sourceResearch reading errorCode detail retryable) := by
  unfold researchFailureAt
  rw [hregistry, Fallible.ok_bind, (Models.buildRegistry_get? hregistry).2.1]
  show ResearchOutput.build _ = _
  rw [ResearchOutput.failed_build, if_pos hsafe]

theorem yields_researchFailure {permitted : ∀ q, Answer q → Prop} {E : JobExc → Prop}
    {errorCode detail : String} {retryable : Bool} {registry : Models.Registry}
    (hregistry : Models.buildRegistry d.vars d.files = .ok registry)
    (hsafe : isSafeIdentifier (textOrInvalid "research_id" raw) = true) :
    Yields permitted E (fun output => ∃ reading, output =
        .failed (textOrInvalid "research_id" raw) Models.sourceResearch reading errorCode detail retryable)
      (researchFailure d raw errorCode detail retryable) := by
  refine yields_now.bind fun reading _ => ?_
  rw [researchFailureAt_eq_ok hregistry hsafe]
  exact yields_done ⟨reading, rfl⟩

/-- What is accepted keeps its identifier, which is a safe one. -/
theorem research_id_safe {research : ResearchInput} (h : d.validators.research raw = .ok research) :
    isSafeIdentifier (textOrInvalid "research_id" raw) = true := by
  unfold textOrInvalid
  rw [d.validators.research_id_kept raw research h]
  exact research.research_id_safe

/-- A research run. -/
theorem keeps_handleResearch : Keeps anything Allowed (Released (BusyResearch d)) .fresh
    (handleResearch d raw) := by
  have hhandler : ∀ e, AsksOnly (fun q => ¬ OfModels q)
      ((researchHandler d raw e).getD (.done (.error e))) := by
    intro e
    unfold researchHandler
    split
    · exact asksOnly_researchFailure _ _ _ id
    · exact asksOnly_researchFailure _ _ _ id
    · exact asksOnly_researchFailure _ _ _ id
    · split
      · exact asksOnly_researchFailure _ _ _ id
      · exact asksOnly_done
  -- whatever the branch ends with outside the lock, its response asks for nothing but the time
  have hresponse : ∀ r, AsksOnly (fun q => ¬ OfModels q) (researchResponse d raw r) := by
    rintro (e | output)
    · exact (hhandler e).bind fun _ => asksOnly_pure
    · exact asksOnly_pure
  rw [handleResearch_eq]
  refine keeps_andThen.mpr ?_
  unfold isolatedResearch
  cases hresearch : d.validators.research raw with
  | error e => exact (hresponse _).keeps (fun q hq h => absurd h hq) fun r _ => released_fresh _
  | ok research =>
    refine ⟨rfl, ?_, ?_⟩
    · refine keeps_thenRelease (asksOnly_call trivial) fun r => ?_
      exact (hresponse r).keeps (fun q hq h => absurd h hq) fun r _ => released_finished _
    · refine (asksOnly_researchFailure _ _ _ (id : ¬ OfModels .now)).keeps (fun q hq h => absurd h hq)
        fun r hr => keeps_refused (hresponse r) fun result hresult => ?_
      intro registry hregistry
      have hfailed := yields_researchFailure (E := fun _ => False) hregistry (research_id_safe hresearch) r hr
      cases r with
      | error e => exact hfailed.elim
      | ok output =>
        obtain ⟨reading, rfl⟩ := hfailed
        obtain rfl : .ok (.research _) = result := hresult
        exact ⟨_, rfl, rfl, rfl, rfl⟩

/-- A batch. -/
theorem keeps_handleBatch : Keeps anything Allowed (Released (BusyBatch d raw)) .fresh
    (handleBatch d injected raw) := by
  rw [handleBatch_eq]
  refine keeps_andThen.mpr ?_
  show Keeps anything Allowed (Released fun r => BusyBatch d raw (batchResult d raw r)) .fresh
    (runBatch d injected raw)
  refine keeps_fresh_bind asksOnly_done fun settings _ => ?_
  refine keeps_fresh_bind asksOnly_lift fun batch hbatch => ?_
  refine keeps_fresh_bind asksOnly_lift fun _ _ => keeps_fresh_bind asksOnly_lift fun groups _ => ?_
  refine keeps_fresh_bind ?_ fun factory _ => keeps_fresh_bind asksOnly_lift fun runner _ => ⟨rfl, ?_, ?_⟩
  · unfold batchFactory
    split
    · exact asksOnly_pure
    · exact asksOnly_runtimeFactory id
  · exact keeps_thenRelease (asksOnly_inJobScope factory (fun _ => trivial)
      (asksOnly_executeBatch factory runner batch fun _ => trivial)) fun r => released_finished _
  · exact released_refused ⟨runner, batch, ends_lift hbatch, rfl⟩

/-- **Every job keeps the discipline.** -/
theorem keeps_handleJob (d : Deployment) (injected : Injected) (job : JsonFields) :
    Keeps anything Allowed (Released (BusyAnswer d job)) .fresh (handleJob d injected job) := by
  unfold handleJob
  split
  · rename_i raw hraw
    have himp : ∀ busy : Except JobExc Response → Prop, (∀ r, busy r → BusyAnswer d job r) →
        Keeps anything Allowed (Released busy) .fresh (handleInput d injected raw) →
        Keeps anything Allowed (Released (BusyAnswer d job)) .fresh (handleInput d injected raw) :=
      fun busy hbusy h => h.mono (fun _ _ ha => ha) (fun _ _ hq => hq) fun v r hr =>
        ⟨hr.1, fun hv => hbusy r (hr.2 hv)⟩
    unfold handleInput at himp ⊢
    cases hbranch : branchOf d raw with
    | probe =>
      rw [hbranch] at himp
      exact himp (fun _ => False) (fun r h => h.elim) keeps_handleProbe
    | event =>
      rw [hbranch] at himp
      exact himp _ (fun r h => ⟨raw, hraw, by rw [hbranch]; exact h⟩) keeps_handleEvent
    | research =>
      rw [hbranch] at himp
      exact himp _ (fun r h => ⟨raw, hraw, by rw [hbranch]; exact h⟩) keeps_handleResearch
    | batch =>
      rw [hbranch] at himp
      exact himp _ (fun r h => ⟨raw, hraw, by rw [hbranch]; exact h⟩) keeps_handleBatch
  · exact released_fresh _

end Branches

/-! ## Any number of jobs -/

/-- A call of `handle_job`. -/
structure Call where
  deployment : Deployment
  injected : Injected := {}
  job : JsonFields

def Call.code (call : Call) : Job Response := handleJob call.deployment call.injected call.job

/-- The calls before any of them has begun, with the lock free. -/
def start {θ : Type} (calls : θ → Call) : System θ Question Answer JobExc Response where
  code i := (calls i).code

/-- **The GPU session is one at a time.**  However many calls there are, and however their steps and the
    answers to their questions come: they exclude each other, each releases what it acquired and
    nothing else, and who is refused asks no model and gives a `BusyAnswer`. -/
theorem session_exclusive {θ : Type} [DecidableEq θ] (calls : θ → Call) {ls : List (θ × Act Question)}
    {s : System θ Question Answer JobExc Response}
    (hrun : Transition.Run (Step anything) (start calls) ls s) :
    Orderly OfModels (fun i => BusyAnswer (calls i).deployment (calls i).job) ls s := by
  refine orderly_of_run ?_ rfl hrun
  intro i
  exact keeps_handleJob (calls i).deployment (calls i).injected (calls i).job

/-! ## An event that needs no model -/

/-- The response says that the session is held. -/
def Response.saysBusy : Response → Bool
  | failedBatch envelope => "worker:gpu_session_already_active" ∈ envelope.validationErrors
  | research output => output.modelRun.errorCode = some "gpu_session_already_active"
  | event output => "gpu_session_already_active" ∈ output.reasonCodes
  | _ => false

/-- An accepted request is located once what its rejected assets brought is gone. -/
theorem analyseEvent_eq {d : Deployment} {injected : Injected} {raw : JsonFields}
    {request value : EventPipelineInput} {settings : Option WorkerSettings}
    {urlFailures : List PerceptionFailure} (hrequest : d.validators.event raw = .ok request)
    (hurls : checkedWorkingUrls d request = .ok (settings, urlFailures))
    (hvalue : withoutRejected (invalidAssets urlFailures) request = .ok value) :
    analyseEvent d injected raw = locateEvent d injected settings urlFailures value := by
  unfold analyseEvent
  rw [hrequest]
  show (Code.ofExcept (checkedWorkingUrls d request) >>= fun checked =>
    lift (withoutRejected (invalidAssets checked.2) request) >>= fun request =>
      locateEvent d injected checked.1 checked.2 request) = _
  rw [hurls]
  show (lift (withoutRejected (invalidAssets urlFailures) request) >>= fun request =>
    locateEvent d injected settings urlFailures request) = _
  rw [hvalue]
  rfl

/-- An event that comes to the lock with anchors of its own has their result, if it is refused. -/
theorem handleEvent_refused (d : Deployment) (injected : Injected) (raw : JsonFields)
    {request : EventPipelineInput} (value : EventPipelineInput) {settings : Option WorkerSettings}
    {urlFailures : List PerceptionFailure} {factory : Factory} {adapter : PerceptionAdapter}
    (henabled : eventPipelineEnabled d = true) (hrequest : d.validators.event raw = .ok request)
    (hurls : checkedWorkingUrls d request = .ok (settings, urlFailures))
    (hvalue : withoutRejected (invalidAssets urlFailures) request = .ok value)
    (hfactory : injected.factory = some factory) (hadapter : injected.eventPerceptionAdapter = some adapter)
    (hrequires : eventRequiresImageInference value urlFailures = true)
    (hanchors : value.perceptionAnchors ≠ []) :
    ∃ next, handleEvent d injected raw = .tryAcquire next ∧
      next false = .done (eventResult d raw ((EventPipeline.run d.host.sha256 value urlFailures).mapError .py)) := by
  have hneeds : (eventRequiresImageInference value urlFailures && (some adapter).isSome) = true := by
    rw [hrequires]
    rfl
  have hperception : runEventImagePerception d.host.sha256 value none urlFailures gpuSessionAlreadyActive
      = pure (value, urlFailures) := if_pos hanchors
  rw [handleEvent_eq d injected raw henabled, analyseEvent_eq hrequest hurls hvalue]
  unfold locateEvent eventFactory eventAdapter
  rw [hfactory, hadapter]
  show ∃ next, ((perceiveEvent d value urlFailures (some factory) (some adapter)).andThen _).andThen _ = _ ∧ _
  unfold perceiveEvent
  rw [if_pos hneeds]
  refine ⟨_, rfl, ?_⟩
  show ((runEventImagePerception d.host.sha256 value none urlFailures gpuSessionAlreadyActive).andThen _).andThen _
    = _
  rw [hperception]
  rfl

namespace Sample

/-- The variables that are set. -/
def environment (set : List (String × String)) : Variables where
  toTextTables := .ascii
  getenv name := set.lookup name

/-- No file is there. -/
def files : FileSystem where
  pathText := id
  pathExists _ := false
  isDir _ := false
  isFile _ := false
  digest _ := ""

/-- A research request is its identifier. -/
def readResearch (raw : JsonFields) : Except PyExc ResearchInput :=
  match raw.lookup "research_id" with
  | some (.str researchId) =>
      if h : isSafeIdentifier researchId = true then .ok ⟨researchId, h⟩
      else .error (.validationError "ResearchInputV1" "research_id")
  | _ => .error (.validationError "ResearchInputV1" "research_id")

/-- Validators that read every event as this one, and no batch. -/
def validators (event : EventPipelineInput) : Validators where
  event _ := .ok event
  research := readResearch
  batch _ := .error (.validationError "WorkerInput" "items")
  batchV2 _ := .error (.validationError "WorkerInputV2" "items")
  probe _ := .error (.validationError "JudgeProbe" "batch")
  errors _ := []
  research_id_kept := by
    intro raw request h
    unfold readResearch at h
    split at h
    · rename_i researchId hlookup
      split at h
      · obtain rfl := Except.ok.inj h
        exact hlookup
      · cases h
    · cases h
  research_refuses := by
    intro raw e h
    unfold readResearch at h
    split at h
    · split at h
      · cases h
      · obtain rfl := Except.error.inj h
        rfl
    · obtain rfl := Except.error.inj h
      rfl

def digests : Sha256 := .ofDigests [] "e3b0c44298fc1c149afbf4c8996fb92427ae41e4649b934ca495991b7852b855"
  emptyText_digest

/-- A worker with these variables that reads every event as this one. -/
def deployment (set : List (String × String)) (event : EventPipelineInput) : Deployment where
  vars := environment set
  files := files
  host := .ofSha256 digests "2026-07-01T12:00:00+00:00"
  validators := validators event
  contractDigest := V2Runner.Sample.contractDigest
  bootReadyMs := 12
  stackId := "stack-1"
  stackDigest := "digest-1"
  jsonBytes _ := 0

/-- The pipeline is enabled, and one media host allowed. -/
def enabled : List (String × String) :=
  [("FW_ALLOWED_MEDIA_HOSTS", "media.example"), ("FV_AGENT_EVENT_PIPELINE_ENABLED", "true")]

def bundle : EventCandidateBundle :=
  { EventPipeline.Sample.bundle with
    shotScale := none
    evidenceAssets := [{ EventPipeline.Sample.photo with
                         workingFileUrl := some "https://media.example/1.jpg", url_bounded := by decide }]
    assets_unique := by decide
    assets_bounded := by decide }

/-- An image that brings its anchor. -/
def anchored : EventPipelineInput where
  bundle := bundle
  perceptionAnchors := [EventPipeline.Sample.anchor .activeFirePoint (by decide)]
  assets_known := by
    intro anchor hanchor
    obtain rfl := List.mem_singleton.mp hanchor
    exact List.mem_singleton.mpr rfl
  anchor_ids_unique := List.nodup_singleton _

def input (fields : JsonFields) : JsonFields := [("input", .obj fields)]

/-- A research run, and an event that has a factory and an adapter. -/
def calls : Bool → Call
  | true =>
    { deployment := deployment enabled anchored
      job := input [("schema_version", .str "research-1.0"), ("research_id", .str "research-1")] }
  | false =>
    { deployment := deployment enabled anchored
      injected :=
        { factory := some .unavailable, eventPerceptionAdapter := some ⟨Models.sourceResearch⟩ }
      job := input [("schema_version", .str "event-2.0")] }

/-- The event is refused while the research run holds the lock. -/
def log : List (Bool × Act Question) := [(true, .acquired), (false, .refused)]

end Sample

/-- The research run takes the lock, the event is refused it and ends with the result of its anchor, which
    says nothing of a session that is held. -/
theorem exists_unmentioned : ∃ s response, Transition.Run (Step anything) (start Sample.calls) Sample.log s ∧
    s.code false = .done (.ok response) ∧ response.saysBusy = false := by
  -- the working URL is allowed, and the pipeline has an answer
  have hchecked : returns (checkedWorkingUrls (Sample.deployment Sample.enabled Sample.anchored) Sample.anchored)
      (fun checked => checked.2.isEmpty) = true := by decide
  obtain ⟨⟨settings, urlFailures⟩, hurls, hnone⟩ := exists_returned hchecked
  obtain rfl : urlFailures = [] := List.isEmpty_iff.mp hnone
  have hran : returns (EventPipeline.run Sample.digests Sample.anchored [])
      (fun out => !(Response.event out).saysBusy) = true := by decide
  obtain ⟨out, hout, hsaid⟩ := exists_returned hran
  obtain ⟨next, hcode, hrefused⟩ := handleEvent_refused (Sample.deployment Sample.enabled Sample.anchored)
    (Sample.calls false).injected [("schema_version", .str "event-2.0")] Sample.anchored
    (by decide) rfl hurls rfl rfl rfl (by decide) (by decide)
  have hend : next false = .done (.ok (.event out)) := by
    rw [hrefused]
    show Code.done (eventResult _ _ ((EventPipeline.run Sample.digests Sample.anchored []).mapError .py)) = _
    rw [hout]
    rfl
  have hresearch : ∃ next, (start Sample.calls).code true = .tryAcquire next := ⟨_, rfl⟩
  obtain ⟨started, hstarted⟩ := hresearch
  have htaken : ∃ s, Step anything (start Sample.calls) (true, .acquired) s ∧ s.holder ≠ none ∧
      s.code false = .tryAcquire next := by
    refine ⟨_, .taken hstarted rfl, nofun, ?_⟩
    show Function.update (start Sample.calls).code true (started true) false = .tryAcquire next
    rw [Function.update_of_ne (by decide)]
    exact hcode
  obtain ⟨s, hacquired, hheld, hwaiting⟩ := htaken
  refine ⟨_, .event out, .cons hacquired (.single (.refused hwaiting hheld)), ?_, by simpa using hsaid⟩
  show Function.update s.code false (next false) false = _
  rw [Function.update_self, hend]

/-- A refused call need not say so. -/
theorem refused_unmentioned : ¬ ∀ (calls : Bool → Call) (ls : List (Bool × Act Question))
    (s : System Bool Question Answer JobExc Response) (i : Bool) (result : Except JobExc Response),
    Transition.Run (Step anything) (start calls) ls s → (i, Act.refused) ∈ ls → s.code i = .done result →
      ∃ response, result = .ok response ∧ response.saysBusy = true := by
  intro h
  obtain ⟨s, response, hrun, hdone, hsaid⟩ := exists_unmentioned
  obtain ⟨response', heq, hsaid'⟩ := h Sample.calls Sample.log s false _ hrun (.tail _ (.head _)) hdone
  obtain rfl := Except.ok.inj heq
  rw [hsaid] at hsaid'
  cases hsaid'

/-- The run that `exists_unmentioned` is about. -/
theorem session_exclusive_sample : ∃ s : System Bool Question Answer JobExc Response,
    (false, Act.refused) ∈ Sample.log ∧
    Orderly OfModels (fun i => BusyAnswer (Sample.calls i).deployment (Sample.calls i).job) Sample.log s := by
  obtain ⟨s, response, hrun, hdone, hsaid⟩ := exists_unmentioned
  exact ⟨s, .tail _ (.head _), session_exclusive Sample.calls hrun⟩

end Handler

end FireviewerOrchestrator
