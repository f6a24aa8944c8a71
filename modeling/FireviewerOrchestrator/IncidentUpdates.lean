/-
  The enrichment plan of one piece of temporal evidence.

  `planIncidentEnrichment` looks at admissibility, enrichment, observation time and observations, in
  that order, and the second of its branches hands back the stored steps as they are.  `plan_cases` says
  once which plan is made where.  The plans the function makes itself keep all the rules of `SafePlan`;
  a stored one does exactly when its own steps do (`plan_safe_iff`), since nothing looks at them.
-/
import Mathlib.Data.List.Basic

set_option linter.unusedVariables false

namespace FireviewerOrchestrator

namespace IncidentUpdates

/-! ## Evidence -/

inductive Component where
  | vision | ocr | transcription | geolocation | supervisor | fusion
  deriving DecidableEq, Repr

inductive StepStatus where
  | required | completed | notApplicable | blocked
  deriving DecidableEq, Repr

structure ProcessingStep where
  component : Component
  status : StepStatus
  reason : String
  reason_bounded : 1 ≤ reason.length ∧ reason.length ≤ 256 := by decide
  deriving DecidableEq

inductive Admissibility where
  | pending | admitted | rejected | withdrawn
  deriving DecidableEq, Repr

inductive EnrichmentState where
  | pending | completed | abstained | failed
  deriving DecidableEq, Repr

def EnrichmentState.value : EnrichmentState → String
  | .pending => "pending"
  | .completed => "completed"
  | .abstained => "abstained"
  | .failed => "failed"

inductive MediaKind where
  | geometry | image | video | text | audio | satellite
  deriving DecidableEq, Repr

inductive TimePrecision where
  | instant | interval | unknown
  deriving DecidableEq, Repr

/-- Instants are microseconds; all of them are aware and in UTC. -/
structure SpatialObservation where
  observationId : String
  observedAt : Int
  observedEndAt : Option Int := none
  deriving DecidableEq, Repr

/-- `TemporalEvidence`, as its validator leaves it: observations settle a pending enrichment, an
    abstention has none and a completion has some, and only evidence of unknown time is not dated.
    Of the stored steps nothing is asked but that they are steps. -/
structure TemporalEvidence where
  mediaKind : MediaKind
  admissibility : Admissibility := .pending
  timePrecision : TimePrecision := .instant
  observedAt : Option Int := none
  observedUntil : Option Int := none
  observations : List SpatialObservation := []
  needsHumanReview : Bool := false
  enrichmentState : EnrichmentState := .pending
  processing : List ProcessingStep := []
  settled : observations ≠ [] → enrichmentState ≠ .pending := by decide
  abstained_empty : enrichmentState = .abstained → observations = [] := by decide
  completed_nonempty : enrichmentState = .completed → observations ≠ [] := by decide
  dated_iff : observedAt.isSome = true ↔ timePrecision ≠ .unknown := by decide
  unknown_empty : timePrecision = .unknown → observations = [] := by decide
  until_iff : observedUntil.isSome = true ↔ timePrecision = .interval := by decide
  interval_ordered : ∀ start ∈ observedAt, ∀ finish ∈ observedUntil, start < finish := by decide
  observation_ids_unique : (observations.map SpatialObservation.observationId).Nodup := by decide
  observations_inside : ∀ item ∈ observations, ∀ start ∈ observedAt,
    start ≤ item.observedAt ∧
      item.observedEndAt.getD item.observedAt ≤ observedUntil.getD start := by decide

/-! ## The plan -/

section Plan

variable (evidence : TemporalEvidence)

/-- `admissibility in {"withdrawn", "rejected"}`. -/
def TemporalEvidence.Retired : Prop :=
  evidence.admissibility = .withdrawn ∨ evidence.admissibility = .rejected

/-- `enrichment_state in {"abstained", "failed"}`. -/
def TemporalEvidence.Ended : Prop :=
  evidence.enrichmentState = .abstained ∨ evidence.enrichmentState = .failed

instance : Decidable evidence.Retired :=
  inferInstanceAs (Decidable (evidence.admissibility = .withdrawn ∨ evidence.admissibility = .rejected))

instance : Decidable evidence.Ended :=
  inferInstanceAs (Decidable (evidence.enrichmentState = .abstained ∨ evidence.enrichmentState = .failed))

def replayStep : ProcessingStep where
  component := .fusion
  status := .required
  reason := "replay_without_proof"

def blockedByEnrichment (state : EnrichmentState) : ProcessingStep where
  component := .fusion
  status := .blocked
  reason := "enrichment_" ++ state.value
  reason_bounded := by cases state <;> decide

def blockedByTime : ProcessingStep where
  component := .fusion
  status := .blocked
  reason := "observation_time_unknown"

/-- What the medium asks for while there are no observations. -/
def mediaSteps : List ProcessingStep :=
  match evidence.mediaKind with
  | .image | .video | .satellite =>
      [{ component := .vision, status := .required, reason := "visual_observations_missing" }]
  | .audio => [{ component := .transcription, status := .required, reason := "audio_requires_text" }]
  | .geometry | .text => []

/-- The steps up to the places. -/
def spatialSteps : List ProcessingStep :=
  if evidence.observations.isEmpty then
    mediaSteps evidence ++
      [{ component := .geolocation, status := .required, reason := "spatial_observations_missing" }]
  else
    [{ component := .vision, status := .notApplicable, reason := "spatial_observations_available" },
      { component := .geolocation, status := .notApplicable, reason := "spatial_observations_available" }]

def supervisorStep : ProcessingStep :=
  if evidence.needsHumanReview then
    { component := .supervisor, status := .required, reason := "ambiguous_evidence" }
  else { component := .supervisor, status := .notApplicable, reason := "no_ambiguity_declared" }

def fusionStep : ProcessingStep :=
  if evidence.observations ≠ [] ∧ evidence.admissibility = .admitted then
    { component := .fusion, status := .required, reason := "admitted_spatial_evidence" }
  else { component := .fusion, status := .blocked, reason := "awaiting_admitted_spatial_evidence" }

/-- `plan_incident_enrichment`. -/
def planIncidentEnrichment : List ProcessingStep :=
  if evidence.Retired then [replayStep]
  else if evidence.Ended then
    if evidence.processing.isEmpty then [blockedByEnrichment evidence.enrichmentState]
    else evidence.processing
  else if evidence.observedAt.isNone then [blockedByTime]
  else spatialSteps evidence ++ [supervisorStep evidence, fusionStep evidence]

end Plan

/-! ## The rules -/

section Rules

variable (evidence : TemporalEvidence)

/-- Evidence that fusion may be required for. -/
def Fusible : Prop :=
  evidence.admissibility = .admitted ∧ evidence.observations ≠ [] ∧ evidence.observedAt.isSome = true

/-- What a plan may ask for. -/
structure SafePlan (plan : List ProcessingStep) : Prop where
  nonempty : plan ≠ []
  /-- Retired evidence asks for the replay, and for no other component. -/
  retired : evidence.Retired → (∃ step ∈ plan, step.component = .fusion ∧ step.status = .required) ∧
    ∀ step ∈ plan, step.status = .required → step.component = .fusion
  /-- Nothing is asked for while the time is unknown. -/
  undated : ¬evidence.Retired → evidence.observedAt = none → ∀ step ∈ plan, step.status ≠ .required
  /-- Fusion is asked for as a replay, or of evidence that is ready for it. -/
  fusion : ∀ step ∈ plan, step.component = .fusion → step.status = .required →
    evidence.Retired ∨ Fusible evidence

/-- A step that may be required of evidence that is not retired. -/
def MayBeRequired (step : ProcessingStep) : Prop :=
  evidence.observedAt.isSome = true ∧ (step.component = .fusion → Fusible evidence)

/-- **The condition**: where the stored steps would be handed back, those of them that are required may be. -/
def StoredStepsAllowed : Prop :=
  ¬evidence.Retired → evidence.Ended → ∀ step ∈ evidence.processing, step.status = .required →
    MayBeRequired evidence step

variable {evidence}

variable (evidence) in
/-- Which plan is made where. -/
theorem plan_cases :
    (evidence.Retired ∧ planIncidentEnrichment evidence = [replayStep]) ∨
    (¬evidence.Retired ∧ evidence.Ended ∧ evidence.processing = [] ∧
      planIncidentEnrichment evidence = [blockedByEnrichment evidence.enrichmentState]) ∨
    (¬evidence.Retired ∧ evidence.Ended ∧ evidence.processing ≠ [] ∧
      planIncidentEnrichment evidence = evidence.processing) ∨
    (¬evidence.Retired ∧ ¬evidence.Ended ∧ evidence.observedAt = none ∧
      planIncidentEnrichment evidence = [blockedByTime]) ∨
    (¬evidence.Retired ∧ ¬evidence.Ended ∧ evidence.observedAt.isSome = true ∧
      planIncidentEnrichment evidence =
        spatialSteps evidence ++ [supervisorStep evidence, fusionStep evidence]) := by
  unfold planIncidentEnrichment
  by_cases hretired : evidence.Retired
  · exact Or.inl ⟨hretired, if_pos hretired⟩
  · rw [if_neg hretired]
    by_cases hended : evidence.Ended
    · rw [if_pos hended]
      by_cases hstored : evidence.processing = []
      · exact Or.inr (Or.inl ⟨hretired, hended, hstored, by simp [hstored]⟩)
      · exact Or.inr (Or.inr (Or.inl ⟨hretired, hended, hstored, by simp [hstored]⟩))
    · rw [if_neg hended]
      cases htime : evidence.observedAt with
      | none => exact Or.inr (Or.inr (Or.inr (Or.inl ⟨hretired, hended, rfl, rfl⟩)))
      | some start => exact Or.inr (Or.inr (Or.inr (Or.inr ⟨hretired, hended, rfl, rfl⟩)))

/-- Before the last two steps there is no fusion. -/
theorem not_fusion_of_spatialSteps {step : ProcessingStep} (h : step ∈ spatialSteps evidence) :
    step.component ≠ .fusion := by
  unfold spatialSteps mediaSteps at h
  split at h
  · rcases List.mem_append.mp h with hmedia | hplace
    · split at hmedia <;> simp at hmedia <;> simp [hmedia]
    · simp at hplace
      simp [hplace]
  · simp at h
    rcases h with rfl | rfl <;> decide

/-- The plan of dated evidence requires fusion of evidence that is ready for it only. -/
theorem fusion_of_dated {step : ProcessingStep} (hdated : evidence.observedAt.isSome = true)
    (h : step ∈ spatialSteps evidence ++ [supervisorStep evidence, fusionStep evidence])
    (hfusion : step.component = .fusion) (hrequired : step.status = .required) : Fusible evidence := by
  rcases List.mem_append.mp h with hspatial | hlast
  · exact absurd hfusion (not_fusion_of_spatialSteps hspatial)
  · rcases List.mem_cons.mp hlast with rfl | hlast
    · unfold supervisorStep at hfusion
      split at hfusion <;> cases hfusion
    · obtain rfl := List.mem_singleton.mp hlast
      unfold fusionStep at hrequired
      split at hrequired
      · rename_i hready
        exact ⟨hready.2, hready.1, hdated⟩
      · cases hrequired

/-- A plan of one step that is not required is safe for evidence that is not retired. -/
theorem safePlan_singleton {step : ProcessingStep} (hretired : ¬evidence.Retired)
    (hstatus : step.status ≠ .required) : SafePlan evidence [step] where
  nonempty := List.cons_ne_nil step []
  retired h := absurd h hretired
  undated _ _ := by
    intro other hother
    obtain rfl := List.mem_singleton.mp hother
    exact hstatus
  fusion := by
    intro other hother hfusion hrequired
    obtain rfl := List.mem_singleton.mp hother
    exact absurd hrequired hstatus

/-- The stored steps make a safe plan exactly when each of them that is required may be. -/
theorem safePlan_stored_iff (hretired : ¬evidence.Retired) (hstored : evidence.processing ≠ []) :
    SafePlan evidence evidence.processing ↔
      ∀ step ∈ evidence.processing, step.status = .required → MayBeRequired evidence step := by
  constructor
  · intro h step hstep hrequired
    constructor
    · cases htime : evidence.observedAt with
      | none => exact absurd hrequired (h.undated hretired htime step hstep)
      | some start => rfl
    · intro hfusion
      exact (h.fusion step hstep hfusion hrequired).resolve_left hretired
  · intro h
    refine ⟨hstored, fun hr => absurd hr hretired, ?_, ?_⟩
    · intro _ htime step hstep hrequired
      have hdated := (h step hstep hrequired).1
      rw [htime] at hdated
      cases hdated
    · intro step hstep hfusion hrequired
      exact Or.inr ((h step hstep hrequired).2 hfusion)

end Rules

/-- **A plan keeps the rules exactly when the stored steps that would be handed back do.**  No branch but
    that one can break them: it returns `processing` before the observation time is looked at. -/
theorem plan_safe_iff (evidence : TemporalEvidence) :
    SafePlan evidence (planIncidentEnrichment evidence) ↔ StoredStepsAllowed evidence := by
  rcases plan_cases evidence with ⟨hretired, hplan⟩ | ⟨hretired, hended, hstored, hplan⟩ |
    ⟨hretired, hended, hstored, hplan⟩ | ⟨hretired, hended, htime, hplan⟩ |
    ⟨hretired, hended, hdated, hplan⟩ <;> rw [hplan]
  · have hsafe : SafePlan evidence [replayStep] := by
      refine ⟨List.cons_ne_nil _ _, ?_, fun h => absurd hretired h, fun _ _ _ _ => Or.inl hretired⟩
      intro _
      refine ⟨⟨replayStep, List.mem_singleton_self _, rfl, rfl⟩, ?_⟩
      intro step hstep hrequired
      obtain rfl := List.mem_singleton.mp hstep
      rfl
    exact ⟨fun _ h => absurd hretired h, fun _ => hsafe⟩
  · have hallowed : StoredStepsAllowed evidence := by
      intro _ _ step hstep
      rw [hstored] at hstep
      cases hstep
    exact ⟨fun _ => hallowed, fun _ => safePlan_singleton hretired StepStatus.noConfusion⟩
  · rw [safePlan_stored_iff hretired hstored]
    exact ⟨fun h _ _ => h, fun h => h hretired hended⟩
  · exact ⟨fun _ _ h => absurd h hended, fun _ => safePlan_singleton hretired StepStatus.noConfusion⟩
  · have hsafe : SafePlan evidence
        (spatialSteps evidence ++ [supervisorStep evidence, fusionStep evidence]) := by
      refine ⟨by simp, fun h => absurd h hretired, ?_, ?_⟩
      · intro _ htime
        rw [htime] at hdated
        cases hdated
      · exact fun step hstep hfusion hrequired => Or.inr (fusion_of_dated hdated hstep hfusion hrequired)
    exact ⟨fun _ _ h => absurd h hended, fun _ => hsafe⟩

/-- An abstention of unknown time, with a plan of an earlier revision. -/
def staleEvidence : TemporalEvidence where
  mediaKind := .image
  admissibility := .pending
  timePrecision := .unknown
  enrichmentState := .abstained
  processing :=
    [{ component := .vision, status := .required, reason := "visual_observations_missing" },
      { component := .fusion, status := .required, reason := "admitted_spatial_evidence" }]

/-- Its steps are still required, the fusion among them. -/
theorem stale_plan_unsafe : planIncidentEnrichment staleEvidence = staleEvidence.processing ∧
    ¬SafePlan staleEvidence (planIncidentEnrichment staleEvidence) := by
  refine ⟨by decide, ?_⟩
  intro h
  have hretired : ¬staleEvidence.Retired := by decide
  exact h.undated hretired rfl
    { component := .vision, status := .required, reason := "visual_observations_missing" } (by decide) rfl

end IncidentUpdates

end FireviewerOrchestrator
