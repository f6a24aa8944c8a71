/-
  The aggregate of a version 2.0 output: its retry flag, its status and its stage traces.

  A session aggregates its own traces.  The conversion appends the traces of three further stages and
  of its own two, but takes the retry flag over as it is, and lets only the pointing and the
  burned-area stage take `succeeded` away.  So the output aggregates its traces exactly when the
  further stages ask for no retry the session does not ask for, and the spatial stages fail only
  where the output does not succeed anyway (`aggregatesTraces_iff`).
-/
import FireviewerOrchestrator.SessionRunner.Verdict
import FireviewerOrchestrator.V2Runner.Conversion

set_option linter.unusedVariables false

namespace FireviewerOrchestrator

namespace V2Runner

open SessionRunner

/-- The traces of the stages between the session and the orchestration's own. -/
def externalTraces (pointing : Option FirePointingExecution) (burned : Option BurnedAreaExecution)
    (spatial : Option SpatialPipelineExecution) : List WorkerStageTraceV2 :=
  (pointing.map (·.stageTrace)).toList ++ (burned.map (·.stageTrace)).toList ++ spatialTraces spatial

/-- The external stages add nothing that the session's flag and the two downgrades do not show. -/
structure ExternalStagesAgree (legacyStatus : OutputStatus) (stageTraces : List WorkerStageTraceV2)
    (pointing : Option FirePointingExecution) (burned : Option BurnedAreaExecution)
    (spatial : Option SpatialPipelineExecution) : Prop where
  retry_known : (∃ trace ∈ externalTraces pointing burned spatial, trace.retryable = true) →
    ∃ trace ∈ stageTraces, trace.retryable = true
  spatial_failure_known : legacyStatus = .succeeded →
    (∀ execution ∈ pointing, execution.stageTrace.status ≠ .failed) →
    (∀ execution ∈ burned, execution.stageTrace.status ≠ .failed) →
    ∀ trace ∈ spatialTraces spatial, trace.status ≠ .failed

section Aggregates

variable {host : Host} {batch : WorkerInputV2} {pointing : Option FirePointingExecution}
  {burned : Option BurnedAreaExecution} {spatial : Option SpatialPipelineExecution} {legacy : WorkerOutput}
  {stageTraces : List WorkerStageTraceV2} {pipeline : Option SpatialPipeline}
  {prepared : List PreparedItem} {out : WorkerOutputV2}

/-! ## The status -/

theorem downgrade_eq_succeeded {trace : Option WorkerStageTraceV2} {status : OutputStatus} :
    downgrade trace status = .succeeded ↔ status = .succeeded ∧ ∀ t ∈ trace, t.status ≠ .failed := by
  cases trace with
  | none => simp [downgrade]
  | some t =>
    by_cases hfailed : t.status = .failed
    · by_cases hs : status = .succeeded
      · simp [downgrade, hfailed, hs]
      · simp [downgrade, hs]
    · simp [downgrade, hfailed]

/-- `succeeded` survives when neither of the two stages failed. -/
theorem convertedStatus_eq_succeeded {status : OutputStatus} :
    convertedStatus pointing burned status = .succeeded ↔ status = .succeeded ∧
      (∀ execution ∈ pointing, execution.stageTrace.status ≠ .failed) ∧
      ∀ execution ∈ burned, execution.stageTrace.status ≠ .failed := by
  rw [convertedStatus, downgrade_eq_succeeded, downgrade_eq_succeeded, and_assoc]
  simp

/-! ## The traces -/

/-- The traces of the output: the session's, the external ones, and two that have nothing to say. -/
theorem Converted.stageTraces_eq
    (h : Converted host batch pointing burned spatial legacy stageTraces pipeline prepared out) :
    ∃ orchestration, (∀ trace ∈ orchestration, trace.status = .succeeded ∧ trace.retryable = false) ∧
      out.stageTraces = stageTraces ++ externalTraces pointing burned spatial ++ orchestration := by
  obtain ⟨orchestration, horchestration, heq⟩ := h.traces_eq
  refine ⟨orchestration, succeeded_of_orchestrationTraces horchestration, ?_⟩
  rw [heq, tracesBeforeSpatial, externalTraces]
  simp only [List.append_assoc]

theorem Converted.exists_retryable
    (h : Converted host batch pointing burned spatial legacy stageTraces pipeline prepared out) :
    (∃ trace ∈ out.stageTraces, trace.retryable = true) ↔
      (∃ trace ∈ stageTraces, trace.retryable = true) ∨
        ∃ trace ∈ externalTraces pointing burned spatial, trace.retryable = true := by
  obtain ⟨orchestration, hsilent, heq⟩ := h.stageTraces_eq
  have hnone : ¬ ∃ trace ∈ orchestration, trace.retryable = true := by
    rintro ⟨trace, htrace, hretry⟩
    rw [(hsilent trace htrace).2] at hretry
    cases hretry
  rw [heq]
  simp only [List.mem_append, or_and_right, exists_or, hnone, or_false]

theorem Converted.none_failed
    (h : Converted host batch pointing burned spatial legacy stageTraces pipeline prepared out) :
    (∀ trace ∈ out.stageTraces, trace.status ≠ .failed) ↔
      (∀ trace ∈ stageTraces, trace.status ≠ .failed) ∧
        ∀ trace ∈ externalTraces pointing burned spatial, trace.status ≠ .failed := by
  obtain ⟨orchestration, hsilent, heq⟩ := h.stageTraces_eq
  have hnone : ∀ trace ∈ orchestration, trace.status ≠ .failed := by
    intro trace htrace hfailed
    rw [(hsilent trace htrace).1] at hfailed
    cases hfailed
  rw [heq, List.forall_mem_append, List.forall_mem_append]
  exact ⟨And.left, fun hboth => ⟨hboth, hnone⟩⟩

/-! ## When the output aggregates its traces -/

/-- Over a session that aggregates its own. -/
theorem Converted.aggregates_iff
    (h : Converted host batch pointing burned spatial legacy stageTraces pipeline prepared out)
    (hlegacy : AggregatesTraces legacy.retryable legacy.status stageTraces) :
    AggregatesTraces out.retryable out.status out.stageTraces ↔
      ExternalStagesAgree legacy.status stageTraces pointing burned spatial := by
  constructor
  · intro haggregates
    refine ⟨fun hexternal => ?_, fun hstatus hpointing hburned => ?_⟩
    · have hretry := haggregates.retryable_iff.mpr (h.exists_retryable.mpr (Or.inr hexternal))
      rw [h.retryable_eq] at hretry
      exact hlegacy.retryable_iff.mp hretry
    · have hsucceeded : out.status = .succeeded := by
        rw [h.status_eq, convertedStatus_eq_succeeded]
        exact ⟨hstatus, hpointing, hburned⟩
      have hnone := (h.none_failed.mp (haggregates.none_failed hsucceeded)).2
      exact (List.forall_mem_append.mp hnone).2
  · intro hagree
    refine ⟨?_, fun hsucceeded => ?_⟩
    · rw [h.retryable_eq, h.exists_retryable, hlegacy.retryable_iff]
      constructor
      · exact Or.inl
      · rintro (hsession | hexternal)
        · exact hsession
        · exact hagree.retry_known hexternal
    · rw [h.status_eq, convertedStatus_eq_succeeded] at hsucceeded
      obtain ⟨hstatus, hpointing, hburned⟩ := hsucceeded
      refine h.none_failed.mpr ⟨hlegacy.none_failed hstatus, ?_⟩
      have hfurther : ∀ trace ∈ (pointing.map (·.stageTrace)).toList ++ (burned.map (·.stageTrace)).toList,
          trace.status ≠ .failed := by
        intro trace htrace
        rcases List.mem_append.mp htrace with htrace | htrace
        · obtain ⟨execution, hexecution, rfl⟩ := Option.map_eq_some_iff.mp (Option.mem_toList.mp htrace)
          exact hpointing execution hexecution
        · obtain ⟨execution, hexecution, rfl⟩ := Option.map_eq_some_iff.mp (Option.mem_toList.mp htrace)
          exact hburned execution hexecution
      exact List.forall_mem_append.mpr
        ⟨hfurther, hagree.spatial_failure_known hstatus hpointing hburned⟩

variable (host batch pointing burned legacy stageTraces pipeline) in
/-- What the spatial pipeline returns when the conversion calls it. -/
def spatialExecution : Except PyExc (Option SpatialPipelineExecution) := do
  let prepared ← legacy.items.mapM (prepareItem host batch pointing burned)
  projectSpatial batch pipeline (annotationsByInput prepared)
    ((tracesBeforeSpatial pointing burned stageTraces).length + 1)

theorem exists_spatialExecution {candidateRuns : List WorkerModelCandidateRunV2}
    {consensusResults : List WorkerConsensusResultV2} {contractDigest : String}
    (hout : fromLegacyOutput host batch pointing burned legacy stageTraces candidateRuns consensusResults
      contractDigest pipeline = .ok out) :
    ∃ spatial, spatialExecution host batch pointing burned legacy stageTraces pipeline = .ok spatial := by
  obtain ⟨prepared, spatial, h⟩ := converted_of_ok hout
  exact ⟨spatial, Fallible.bind_eq_ok.mpr ⟨prepared, h.prepared_eq, h.spatial_eq⟩⟩

/-- The account of a conversion, with the spatial execution the pipeline returned in it. -/
theorem converted_of_spatial {candidateRuns : List WorkerModelCandidateRunV2}
    {consensusResults : List WorkerConsensusResultV2} {contractDigest : String}
    (hout : fromLegacyOutput host batch pointing burned legacy stageTraces candidateRuns consensusResults
      contractDigest pipeline = .ok out)
    (hspatial : spatialExecution host batch pointing burned legacy stageTraces pipeline = .ok spatial) :
    ∃ prepared, Converted host batch pointing burned spatial legacy stageTraces pipeline prepared out := by
  obtain ⟨prepared, spatial', h⟩ := converted_of_ok hout
  have heq : spatial' = spatial := by
    unfold spatialExecution at hspatial
    rw [h.prepared_eq] at hspatial
    exact Except.ok.inj (h.spatial_eq.symm.trans hspatial)
  rw [heq] at h
  exact ⟨prepared, h⟩

variable {ω A : Type} {env : Environment ω A} {runner : SessionRunner} {legacyBatch : WorkerInput} {w : ω}
  {session : SessionRunResult} {candidateRuns : List WorkerModelCandidateRunV2}
  {consensusResults : List WorkerConsensusResultV2} {contractDigest : String}

/-- **When a version 2.0 output aggregates its stage traces.**  For every session that returned and
    every execution of the external stages: exactly when these ask for no retry that the session's
    traces do not ask for, and no spatial stage failed while the session, the pointing and the
    burned-area stage did not. -/
theorem aggregatesTraces_iff
    (hsession : (runWithTrace env runner legacyBatch w ()).result = .ok session)
    (hspatial : spatialExecution host batch pointing burned session.output session.stageTraces pipeline
      = .ok spatial)
    (hout : fromLegacyOutput host batch pointing burned session.output session.stageTraces candidateRuns
      consensusResults contractDigest pipeline = .ok out) :
    AggregatesTraces out.retryable out.status out.stageTraces ↔
      ExternalStagesAgree session.output.status session.stageTraces pointing burned spatial := by
  obtain ⟨final, hdone⟩ := runWithTrace_ok hsession
  obtain ⟨prepared, hconverted⟩ := converted_of_spatial hout hspatial
  exact hconverted.aggregates_iff (session_aggregates hdone)

end Aggregates

/-! ### A reference that cannot be fetched

  One image of smoke, taken with no pose.  The session succeeds; the spatial stages try to register
  the image against the reference and fail to fetch it. -/

namespace Sample

theorem imageId_safe : isSafeIdentifier "image-1" = true := by decide

def image : WorkerBatchItemV2 := .ofImage "image-1" "https://media/image-1" provenance imageId_safe

def imageBatch : WorkerInputV2 where
  batchId := "batch-1"
  batchType := .userMedia
  analysisWindow := window
  referenceBundle := some reference
  items := [image]

def smokeRegion : PixelRegion where
  regionId := "image-1:region:0001"
  evidenceId := "image-1"
  label := "smoke"
  bboxNormalized := ⟨1 / 10, 1 / 10, 1 / 2, 1 / 2⟩
  task := .phraseGrounding
  modelScore := some (4 / 5)

def smokeObservation : FactualObservation where
  type := "smoke_visible"
  evidenceKind := .image
  evidenceId := "image-1"
  description := "Fumée visible."
  certainty := .directlyVisible

def imagePatches (modelId : String) : Dict String ItemPatch :=
  if modelId = "fire_detection" then
    .ofPairs [("image-1", { visualEvidenceSelection := some [⟨"image-1", true, .singleImage, none⟩] })]
  else if modelId = "visual_grounding" then .ofPairs [("image-1", { pixelRegions := some [smokeRegion] })]
  else if modelId = "multimodal_extraction" then
    .ofPairs [("image-1", { factualObservations := some [smokeObservation] })]
  else .empty

/-- Every model answers. -/
def imageScript : Script where
  infer modelId _ := .ok (imagePatches modelId)

def fullRunner : SessionRunner :=
  (SessionRunner.init FireviewerOrchestrator.Sample.fullRegistry 12
    (loadStageContractRegistry contractDigest)).toOption.get (by decide +kernel)

/-- The session of the image. -/
def imageSession : Except PyExc SessionRunResult :=
  (runWithTrace (imageScript.environment (pydantic FireviewerOrchestrator.Sample.digest)
    FireviewerOrchestrator.Sample.digest) fullRunner (toLegacyInput imageBatch) 0 ()).result

def imageDigests : Sha256 := .ofDigests
  [("image-1\x1fimage-1:region:0001\x1fsmoke_column_base",
      "4192f5c5731554bd6d0b3213fb2b2acbacf8cf339c3a1314c872e2cf865bdba1"),
    ("image-1\x1f1\x1fsmoke_visible\x1fFumée visible.",
      "c14efd1f6185c13c35304ce398ec71fdfc8876d676b58c217fc3bf555d973ebb"),
    ("ANN-4192f5c5731554bd6d0b3213\x1fabstain\x1fcamera_pose_missing",
      "219d91fffb9ef6af897ae743a6a5ba101870af27212db6ba78d454b0d46febf5")]
  "e3b0c44298fc1c149afbf4c8996fb92427ae41e4649b934ca495991b7852b855" (by decide +kernel)

def imageHost : Host := .ofSha256 imageDigests "2026-07-01T12:00:00+00:00"

/-- There is no pointing model. -/
def noPointing : FirePointingExecution where
  annotationsByInput := .empty
  stageTrace := skippedTrace .firePointing 5 .humanReview "fire_pointing_model_unavailable"

/-- No product has the six bands. -/
def noBurnedArea : BurnedAreaExecution where
  annotationsByInput := .empty
  proposalsByInput := .empty
  stageTrace := skippedTrace .burnedArea 6 .notApplicable "no_compatible_multispectral_product"

def fetchFailed (sequence : Nat) : WorkerStageTraceV2 where
  stageRole := .crossViewRegistration
  contractId := "stage.cross_view_registration.v1"
  sequence := sequence
  status := .failed
  retryable := true
  preflight := gate .preflight .proceed "requirements_satisfied"
  postflight := some (gate .postflight .failedRetryable "reference_fetch_failed")
  attempts := [attempt (some "reference_fetch_failed")]

def poseMissing (annot : SourceAnnotationV2) : SpatialProposalV2 where
  proposalId := stableId imageDigests "SP" [annot.annotationId, "abstain", "camera_pose_missing"]
  annotationId := some annot.annotationId
  status := .insufficientGeometry
  uncertaintyCodes := ["camera_pose_missing"]

/-- The spatial pipeline of an image without a pose, whose reference cannot be fetched. -/
def fetchFails : SpatialPipeline := fun _ annotations sequence => .ok
  { proposalsByInput := annotations.mapValues fun _ entries => entries.map poseMissing
    stageTraces := [fetchFailed sequence, succeededTrace .spatialProjection (sequence + 1)] }

/-- The conversion of a session of the image. -/
def convertImage (session : SessionRunResult) : Except PyExc WorkerOutputV2 :=
  fromLegacyOutput imageHost imageBatch (some noPointing) (some noBurnedArea) session.output session.stageTraces
    session.candidateRuns session.consensusResults session.contractDigest (some fetchFails)

/-- Succeeded and not to be retried, with a failed trace that is. -/
def hidesFailure (out : WorkerOutputV2) : Bool :=
  decide (out.status = .succeeded) && !out.retryable &&
    out.stageTraces.any fun trace => decide (trace.status = .failed) && trace.retryable

theorem exists_converted : ∃ session out, imageSession = .ok session ∧ convertImage session = .ok out ∧
    hidesFailure out = true := by
  obtain ⟨session, hsession, htest⟩ : ∃ session, imageSession = .ok session ∧
      returns (convertImage session) hidesFailure = true := exists_returned (by decide +kernel)
  obtain ⟨out, hout, hhides⟩ := exists_returned htest
  exact ⟨session, out, hsession, hout, hhides⟩

end Sample

/-- **A failure that the output does not show**: the session succeeds, the reference cannot be fetched,
    and the output is a success that nobody has to retry. -/
theorem not_aggregatesTraces_fetchFails :
    ∃ session out, Sample.imageSession = .ok session ∧ Sample.convertImage session = .ok out ∧
      out.status = .succeeded ∧ out.retryable = false ∧
      (∃ trace ∈ out.stageTraces, trace.status = .failed ∧ trace.retryable = true) ∧
      ¬ AggregatesTraces out.retryable out.status out.stageTraces := by
  obtain ⟨session, out, hsession, hout, hhides⟩ := Sample.exists_converted
  simp only [Sample.hidesFailure, Bool.and_eq_true, decide_eq_true_eq, Bool.not_eq_true',
    List.any_eq_true] at hhides
  obtain ⟨⟨hstatus, hretryable⟩, trace, htrace, hfailed, hretry⟩ := hhides
  refine ⟨session, out, hsession, hout, hstatus, hretryable, ⟨trace, htrace, hfailed, hretry⟩, ?_⟩
  intro haggregates
  exact haggregates.none_failed hstatus trace htrace hfailed

/-- The conversion of that session: whether it aggregates its traces is decided by the external stages. -/
theorem aggregatesTraces_iff_fetchFails :
    ∃ session spatial out, Sample.imageSession = .ok session ∧ Sample.convertImage session = .ok out ∧
      spatialExecution Sample.imageHost Sample.imageBatch (some Sample.noPointing) (some Sample.noBurnedArea)
        session.output session.stageTraces (some Sample.fetchFails) = .ok spatial ∧
      (AggregatesTraces out.retryable out.status out.stageTraces ↔ ExternalStagesAgree session.output.status
        session.stageTraces (some Sample.noPointing) (some Sample.noBurnedArea) spatial) := by
  obtain ⟨session, out, hsession, hout, -⟩ := Sample.exists_converted
  obtain ⟨spatial, hspatial⟩ := exists_spatialExecution hout
  exact ⟨session, spatial, out, hsession, hout, hspatial, aggregatesTraces_iff hsession hspatial hout⟩

end V2Runner

end FireviewerOrchestrator
