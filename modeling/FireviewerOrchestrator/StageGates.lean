/-
  The stage gates: which capabilities a batch and its results offer, whether a stage may start
  (`preflight`), and what became of one that ran or was skipped (`postflight`).

  Both gates are total functions of the contract and of what is measured around the stage.  After
  each definition stand the facts the session's proofs use, so that no later proof unfolds a gate:
  when a preflight lets a stage start, and which postflight decisions each status can lead to.
-/
import FireviewerOrchestrator.Contracts.Records
import FireviewerOrchestrator.Library.Dict

set_option linter.unusedVariables false

namespace FireviewerOrchestrator

open StageCapability (ordered)

/-! ## Capabilities -/

def addIf (holds : Bool) (capability : StageCapability) : Finset StageCapability :=
  if holds then {capability} else ∅

@[simp] theorem mem_addIf {holds : Bool} {c capability : StageCapability} :
    c ∈ addIf holds capability ↔ holds = true ∧ c = capability := by
  cases holds <;> simp [addIf]

/-- What the inputs themselves offer. -/
def inputCapabilities (batch : WorkerInput) : Finset StageCapability :=
  addIf (batch.items.any fun item => item.audioUrl.isSome) .audioInput
    ∪ addIf (batch.items.any fun item => item.workingFileUrl.isSome || !item.frames.isEmpty) .visualInput
    ∪ addIf (batch.items.any fun item => truthy item.articleText) .textInput

/-- What the released results of one item add. -/
def resultCapabilities (result : ItemResult) : Finset StageCapability :=
  addIf (!result.transcript.segments.isEmpty) .transcript
    ∪ addIf (result.visualEvidenceSelection.any (·.selectedForGrounding)) .selectedVisual
    ∪ addIf (result.pixelRegions.any (·.task == .fireDetection)) .detectionRegions
    ∪ addIf (result.pixelRegions.any fun r => r.task == .phraseGrounding || r.task == .ocr) .groundedRegions
    ∪ addIf (!result.factualObservations.isEmpty) .factualObservations

def deriveCapabilities (batch : WorkerInput) (results : Dict String ItemResult) : Finset StageCapability :=
  results.values.foldl (fun capabilities result => capabilities ∪ resultCapabilities result)
    (inputCapabilities batch)

namespace StageGateEngine

/-! ## Preflight -/

def missingRequirements (contract : StageContract) (capabilities : Finset StageCapability) :
    List StageCapability :=
  ordered ((contract.requiredAll.toFinset \ capabilities) ∪
    (if !contract.requiredAny.isEmpty && !contract.requiredAny.any (· ∈ capabilities)
      then contract.requiredAny.toFinset else ∅))

/-- The input without which a stage has nothing to work on. -/
def directInput : StageRole → Option StageCapability
  | .asr => some .audioInput
  | .fireDetection => some .visualInput
  | .visualGrounding => some .visualInput
  | .firePointing => some .visualInput
  | _ => none

def isNotApplicable (role : StageRole) (capabilities : Finset StageCapability) : Bool :=
  match directInput role with
  | none => false
  | some input => input ∉ capabilities

def preflight (contract : StageContract) (capabilities : Finset StageCapability) (inputItems : Nat) :
    StageGateRecord :=
  if contract.maxInputItems < inputItems then
    { role := contract.role, phase := .preflight, decision := .failedTerminal,
      reasonCodes := ["stage_input_limit_exceeded"],
      availableCapabilities := ordered capabilities, downstreamPossible := false }
  else if missingRequirements contract capabilities = [] then
    { role := contract.role, phase := .preflight, decision := .proceed,
      reasonCodes := ["requirements_satisfied"],
      availableCapabilities := ordered capabilities, downstreamPossible := true }
  else if contract.skipWhenNotApplicable && isNotApplicable contract.role capabilities then
    { role := contract.role, phase := .preflight, decision := .notApplicable,
      reasonCodes := ["no_applicable_input"],
      availableCapabilities := ordered capabilities,
      missingCapabilities := missingRequirements contract capabilities, downstreamPossible := true }
  else
    { role := contract.role, phase := .preflight,
      decision := match contract.failurePolicy with
        | .humanReview => .humanReview
        | .block => .failedTerminal
        | .continueDegraded => .abstain,
      reasonCodes := ["required_capability_missing"],
      availableCapabilities := ordered capabilities,
      missingCapabilities := missingRequirements contract capabilities,
      downstreamPossible := contract.failurePolicy ≠ .block }

variable {contract : StageContract} {capabilities before after : Finset StageCapability} {inputItems : Nat}

@[simp] theorem preflight_role : (preflight contract capabilities inputItems).role = contract.role := by
  unfold preflight
  split
  · rfl
  · split
    · rfl
    · split <;> rfl

@[simp] theorem preflight_phase : (preflight contract capabilities inputItems).phase = .preflight := by
  unfold preflight
  split
  · rfl
  · split
    · rfl
    · split <;> rfl

/-- **When a stage may start**: within its input limit and with its requirements met. -/
theorem preflight_proceed_iff :
    (preflight contract capabilities inputItems).decision = .proceed ↔
      inputItems ≤ contract.maxInputItems ∧ missingRequirements contract capabilities = [] := by
  unfold preflight
  split
  · rename_i hlimit
    simp only [reduceCtorEq, false_iff, not_and]
    intro hle
    omega
  · rename_i hlimit
    split
    · rename_i hmissing
      simp only [true_iff]
      exact ⟨by omega, hmissing⟩
    · rename_i hmissing
      split
      · simp [hmissing]
      · simp only [hmissing, and_false, iff_false]
        cases contract.failurePolicy <;> simp

/-- A stage that starts leaves the door open to the next ones. -/
theorem preflight_proceed_downstream
    (h : (preflight contract capabilities inputItems).decision = .proceed) :
    (preflight contract capabilities inputItems).downstreamPossible = true := by
  obtain ⟨hlimit, hmissing⟩ := preflight_proceed_iff.mp h
  rw [preflight, if_neg (by omega), if_pos hmissing]

/-- A preflight never asks for a retry. -/
theorem preflight_not_retryable :
    (preflight contract capabilities inputItems).decision ≠ .failedRetryable := by
  unfold preflight
  split
  · simp
  · split
    · simp
    · split
      · simp
      · cases contract.failurePolicy <;> simp

/-! ## Postflight -/

/-- `value or default` on an optional text. -/
def orDefault (value : Option String) (default : String) : String :=
  if truthy value then value.getD default else default

/-- A new capability the contract counts as output. -/
def producedMinimum (contract : StageContract) (before after : Finset StageCapability) : Bool :=
  contract.minimumOutputAny.any fun c => c ∈ after \ before

def postflight (contract : StageContract) (before after : Finset StageCapability) (status : RunStatus)
    (errorCode : Option String) (elapsedSeconds : ℚ) (maximumOutputItems : Nat) : StageGateRecord :=
  match status with
  | .failed =>
      { role := contract.role, phase := .postflight,
        decision := if errorCode = some "model_runtime_error" then .failedRetryable else .failedTerminal,
        reasonCodes := [orDefault errorCode "stage_failed"],
        availableCapabilities := ordered after,
        downstreamPossible := contract.failurePolicy ≠ .block }
  | .skipped =>
      { role := contract.role, phase := .postflight,
        decision := if truthy errorCode then .abstain else .notApplicable,
        reasonCodes := [orDefault errorCode "stage_skipped"],
        availableCapabilities := ordered after, downstreamPossible := true }
  | .succeeded =>
      if (contract.maxWallTimeSeconds : ℚ) < elapsedSeconds then
        { role := contract.role, phase := .postflight, decision := .failedRetryable,
          reasonCodes := ["stage_wall_time_exceeded"],
          availableCapabilities := ordered after, downstreamPossible := false }
      else if contract.maxOutputItemsPerInput < maximumOutputItems then
        { role := contract.role, phase := .postflight, decision := .failedTerminal,
          reasonCodes := ["stage_output_limit_exceeded"],
          availableCapabilities := ordered after, downstreamPossible := false }
      else if producedMinimum contract before after then
        { role := contract.role, phase := .postflight, decision := .proceed,
          reasonCodes := ["minimum_output_satisfied"],
          availableCapabilities := ordered after, downstreamPossible := true }
      else
        { role := contract.role, phase := .postflight,
          decision := if contract.failurePolicy = .humanReview then .humanReview else .abstain,
          reasonCodes := ["minimum_output_missing"],
          availableCapabilities := ordered after,
          missingCapabilities := contract.minimumOutputAny,
          downstreamPossible := contract.failurePolicy ≠ .block }

variable {status : RunStatus} {errorCode : Option String} {elapsedSeconds : ℚ} {maximumOutputItems : Nat}

@[simp] theorem postflight_role :
    (postflight contract before after status errorCode elapsedSeconds maximumOutputItems).role
      = contract.role := by
  cases status <;> simp only [postflight]
  split
  · rfl
  · split
    · rfl
    · split <;> rfl

@[simp] theorem postflight_phase :
    (postflight contract before after status errorCode elapsedSeconds maximumOutputItems).phase
      = .postflight := by
  cases status <;> simp only [postflight]
  split
  · rfl
  · split
    · rfl
    · split <;> rfl

@[simp] theorem postflight_failed_decision :
    (postflight contract before after .failed errorCode elapsedSeconds maximumOutputItems).decision
      = if errorCode = some "model_runtime_error" then .failedRetryable else .failedTerminal := rfl

@[simp] theorem postflight_failed_reason :
    (postflight contract before after .failed errorCode elapsedSeconds maximumOutputItems).reason
      = orDefault errorCode "stage_failed" := rfl

@[simp] theorem postflight_skipped_decision :
    (postflight contract before after .skipped errorCode elapsedSeconds maximumOutputItems).decision
      = if truthy errorCode then .abstain else .notApplicable := rfl

/-- A failed stage's record is always one of the two failures. -/
theorem postflight_failed_degraded :
    (postflight contract before after .failed errorCode elapsedSeconds maximumOutputItems).decision.degraded
      = true := by
  rw [postflight_failed_decision]
  split <;> rfl

theorem postflight_skipped_not_degraded :
    (postflight contract before after .skipped errorCode elapsedSeconds maximumOutputItems).decision.degraded
      = false := by
  rw [postflight_skipped_decision]
  split <;> rfl

/-- **What rejects a stage that succeeded**: its wall time, with a retry, or its output size, without. -/
theorem postflight_succeeded_rejection
    (h : (postflight contract before after .succeeded errorCode elapsedSeconds maximumOutputItems).decision
        = .failedRetryable ∨
      (postflight contract before after .succeeded errorCode elapsedSeconds maximumOutputItems).decision
        = .failedTerminal) :
    ((contract.maxWallTimeSeconds : ℚ) < elapsedSeconds ∧
      (postflight contract before after .succeeded errorCode elapsedSeconds maximumOutputItems).decision
        = .failedRetryable ∧
      (postflight contract before after .succeeded errorCode elapsedSeconds maximumOutputItems).reasonCodes
        = ["stage_wall_time_exceeded"]) ∨
    (contract.maxOutputItemsPerInput < maximumOutputItems ∧
      (postflight contract before after .succeeded errorCode elapsedSeconds maximumOutputItems).decision
        = .failedTerminal ∧
      (postflight contract before after .succeeded errorCode elapsedSeconds maximumOutputItems).reasonCodes
        = ["stage_output_limit_exceeded"]) := by
  by_cases hwall : (contract.maxWallTimeSeconds : ℚ) < elapsedSeconds
  · refine Or.inl ⟨hwall, ?_, ?_⟩
    · simp only [postflight, if_pos hwall]
    · simp only [postflight, if_pos hwall]
  · by_cases hsize : contract.maxOutputItemsPerInput < maximumOutputItems
    · refine Or.inr ⟨hsize, ?_, ?_⟩
      · simp only [postflight, if_neg hwall, if_pos hsize]
      · simp only [postflight, if_neg hwall, if_pos hsize]
    · exfalso
      simp only [postflight, if_neg hwall, if_neg hsize] at h
      by_cases hproduced : producedMinimum contract before after = true
      · simp [hproduced] at h
      · simp only [hproduced] at h
        by_cases hpolicy : contract.failurePolicy = .humanReview
        · simp [hpolicy] at h
        · simp [hpolicy] at h

end StageGateEngine

end FireviewerOrchestrator
