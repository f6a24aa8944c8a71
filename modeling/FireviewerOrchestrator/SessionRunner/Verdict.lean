/-
  The verdict of a session: `succeeded`, `partial_failure` or `failed`.

  The verdict is computed from the runs of the four stages and from all gate records.  The two agree
  in one direction only: a stage whose run failed always has a postflight record that rejects it
  (`failed_run_rejected`), so a session with a failed run is incomplete, and the branch that would
  call it `failed` is never taken (`status_ne_failed`).
-/
import FireviewerOrchestrator.SessionRunner.Scripted
import FireviewerOrchestrator.SessionRunner.Session

set_option linter.unusedVariables false

namespace FireviewerOrchestrator

/-- The environment decides with the repository's consensus functions. -/
def Environment.RunsConsensus {ω A : Type} (env : Environment ω A) : Prop :=
  ∃ compare, env.consensus = consensusFunctions compare

namespace SessionRunner

open Traced Prog

/-! ## The verdict, of any runs and records -/

section Overall

variable {runs : List ModelRun} {gateRecords : List StageGateRecord}

/-- Complete: no stage was skipped with an error code, and no record is degraded. -/
theorem incomplete_eq_false : incomplete runs gateRecords = false ↔
    (∀ run ∈ runs, run.status = .skipped → truthy run.errorCode = false) ∧
      ∀ record ∈ gateRecords, record.decision.degraded = false := by
  rw [incomplete, Bool.or_eq_false_iff, List.any_eq_false, List.any_eq_false]
  constructor
  · rintro ⟨hruns, hrecords⟩
    refine ⟨?_, fun record hrecord => by simpa using hrecords record hrecord⟩
    intro run hrun hskipped
    have h := hruns run hrun
    simpa [hskipped] using h
  · rintro ⟨hruns, hrecords⟩
    refine ⟨?_, fun record hrecord => by simpa using hrecords record hrecord⟩
    intro run hrun h
    simp only [Bool.and_eq_true, decide_eq_true_eq] at h
    have hfalse := hruns run hrun h.1
    rw [h.2] at hfalse
    cases hfalse

theorem countP_failed_eq_zero : (runs.countP fun run => run.status = .failed) = 0 ↔
    ∀ run ∈ runs, run.status ≠ .failed := by
  rw [List.countP_eq_zero]
  simp

theorem overallStatus_eq_succeeded : overallStatus runs gateRecords = .succeeded ↔
    (∀ run ∈ runs, run.status ≠ .failed) ∧ incomplete runs gateRecords = false := by
  rw [← countP_failed_eq_zero]
  unfold overallStatus
  dsimp only
  split
  · rename_i h
    simpa using h
  · rename_i h
    split
    · simpa using h
    · simpa using h

/-- An incomplete session is never `failed`. -/
theorem overallStatus_ne_failed (h : incomplete runs gateRecords = true) :
    overallStatus runs gateRecords ≠ .failed := by
  unfold overallStatus
  simp [h]

/-- `failed` needs a failed run. -/
theorem exists_failed_of_overallStatus (h : overallStatus runs gateRecords = .failed) :
    ∃ run ∈ runs, run.status = .failed := by
  by_contra hno
  have hnone : ∀ run ∈ runs, run.status ≠ .failed := fun run hrun hfailed => hno ⟨run, hrun, hfailed⟩
  cases hincomplete : incomplete runs gateRecords with
  | true => exact overallStatus_ne_failed hincomplete h
  | false =>
    rw [overallStatus_eq_succeeded.mpr ⟨hnone, hincomplete⟩] at h
    cases h

end Overall

/-! ## How a stage's run ends -/

variable {ω A : Type} {env : Environment ω A} {runner : SessionRunner} {batch : WorkerInput}

section Executed

variable {role : PipelineModelRole} {s s' : Session} {report : StageReport} {es : List (Event A)}
  {group : ModelGroupSpec} {logged : List (CandidateExecution × List (Event A))}
  {judgeLog : List (Event A)} {first evaluation : ConsensusEvaluation} {t : Settlement}
  {elapsedSeconds : ℚ}

/-- What the consensus functions let through is a successful candidate. -/
theorem ExecutedStage.selected_successful
    (h : ExecutedStage env runner batch role s report s' es group logged judgeLog first evaluation t
      elapsedSeconds) (hconsensus : env.RunsConsensus) (hallowed : evaluation.downstreamAllowed = true) :
    ∃ c ∈ successfulCandidates report.executions, evaluation.selectedCandidateId = some c.candidateId := by
  obtain ⟨compare, henv⟩ := hconsensus
  have hfirst := h.evaluated
  have hadjudicated := h.adjudicated
  generalize report.adjudication = adjudication at hadjudicated
  rw [henv] at hfirst
  cases hadjudicated with
  | direct => exact ((Consensus.evaluateConsensus_wellFormed hfirst).selected hallowed).2
  | verdict hrequires _ _ _ happly =>
    rw [henv] at happly
    obtain ⟨resolved, hok, -, -, hselected⟩ := Consensus.applyAdjudication_cases first _
      ((successfulCandidates report.executions).map (·.candidateId)) group.adjudicationConfidenceThreshold
      group.disagreementDecision hrequires
    obtain rfl : resolved = evaluation := Except.ok.inj (hok.symm.trans happly)
    obtain ⟨id, hid, hsome⟩ := hselected hallowed
    obtain ⟨c, hc, rfl⟩ := List.mem_map.mp hid
    exact ⟨c, hc, hsome⟩
  | failed => cases hallowed

/-- **A stage's run and its trace agree**: what is adopted succeeded, and nothing else did. -/
theorem ExecutedStage.run_status
    (h : ExecutedStage env runner batch role s report s' es group logged judgeLog first evaluation t
      elapsedSeconds) (hconsensus : env.RunsConsensus) : report.run.status = t.status := by
  rw [h.run_eq]
  rcases settle_cases h.settled with
    ⟨x, m, hadopted, -, hrun, hstatus, -⟩ |
    ⟨-, -, hstatus, representative, rest, reason, hexecutions, -, -, hrun⟩
  · -- the execution found under the selected id is the successful one: ids are distinct
    obtain ⟨hallowed, hx, hid, -⟩ := adopted_eq_some hadopted
    obtain ⟨c, hc, hselected⟩ := h.selected_successful hconsensus hallowed
    obtain ⟨y, hy, results, -, hsucceeded, rfl⟩ := mem_successfulCandidates.mp hc
    have hsame : x = y := by
      have hids := h.candidates.ids_nodup (group_valid h.group_eq)
      refine List.inj_on_of_nodup_map hids hx hy ?_
      exact Option.some.inj (hid.symm.trans hselected)
    rw [hrun, hstatus, hsame, hsucceeded]
  · rw [hstatus]
    rcases hrun with ⟨hnone, hrun, -⟩ | ⟨-, -, hrun, -⟩
    · rw [hrun]
      have hmem : representative ∈ report.executions := by
        rw [hexecutions]
        exact List.mem_cons_self
      obtain ⟨log, -, hdone⟩ := h.candidates.done_of_mem hmem
      rcases hdone.verdict with ⟨hsucceeded, -, hsome, -⟩ | ⟨hfailed, -⟩
      · -- a representative that succeeded would be among the successful candidates
        obtain ⟨results, hresults⟩ := Option.isSome_iff_exists.mp hsome
        have hc := mem_successfulCandidates.mpr ⟨representative, hmem, results, hresults, hsucceeded, rfl⟩
        rw [hnone] at hc
        cases hc
      · exact hfailed
    · rw [hrun]

theorem ExecutedStage.status_cases
    (h : ExecutedStage env runner batch role s report s' es group logged judgeLog first evaluation t
      elapsedSeconds) : t.status = .succeeded ∨ t.status = .failed := by
  rcases settle_cases h.settled with ⟨x, m, -, -, -, hstatus, -⟩ | ⟨-, -, hstatus, -⟩
  · exact Or.inl hstatus
  · exact Or.inr hstatus

end Executed

/-! ## The verdict of a session -/

section Session

variable {w : ω} {final : Session} {result : SessionRunResult}

/-- A stage whose run failed has a postflight record that rejects it. -/
theorem failed_run_rejected (hconsensus : env.RunsConsensus) {sequence : Nat} {role : PipelineModelRole}
    {s s' : Session} {report : StageReport} {es : List (Event A)}
    (h : StageDone env runner batch sequence role s report s' es) (hfailed : report.run.status = .failed) :
    ∃ record ∈ report.postflight, record.decision.degraded = true := by
  cases h.outcome with
  | skipped _ _ _ hstatus =>
    rw [hstatus] at hfailed
    cases hfailed
  | unconfigured _ _ _ _ hstatus =>
    rw [hstatus] at hfailed
    cases hfailed
  | @executed _ group logged judgeLog first evaluation t elapsed hx =>
    refine ⟨_, hx.postflight_eq, ?_⟩
    have hstatus : t.status = .failed := (hx.run_status hconsensus).symm.trans hfailed
    rw [stagePostflight, hstatus]
    exact StageGateEngine.postflight_failed_degraded

/-- So the verdict is never `failed`. -/
theorem status_ne_failed (h : SessionDone env runner batch w final result)
    (hconsensus : env.RunsConsensus) : result.output.status ≠ .failed := by
  intro hstatus
  rw [h.result_of.status_eq] at hstatus
  obtain ⟨run, hrun, hfailed⟩ := exists_failed_of_overallStatus hstatus
  rw [← h.result_of.runs_eq, h.modelRuns_eq] at hrun
  obtain ⟨report, hreport, rfl⟩ := List.mem_map.mp hrun
  obtain ⟨p, hp, -, hdone⟩ := h.pass_of_report hreport
  obtain ⟨record, hrecord, hdegraded⟩ := failed_run_rejected hconsensus hdone hfailed
  -- its postflight record is among the session's, which makes the session incomplete
  have hmem : record ∈ final.gateRecords := by
    rw [← h.result_of.gates_eq, h.gateRecords_eq]
    refine List.mem_flatMap.mpr ⟨report, hreport, List.mem_cons_of_mem _ ?_⟩
    rw [Option.mem_def.mp hrecord]
    exact List.mem_singleton_self _
  have hincomplete : incomplete final.runs final.gateRecords = true := by
    rw [incomplete, Bool.or_eq_true]
    exact Or.inr (List.any_eq_true.mpr ⟨record, hmem, hdegraded⟩)
  exact overallStatus_ne_failed hincomplete hstatus

/-! ## The verdict and the traces -/

/-- What a verdict and a retry flag are wanted to say of the stage traces beside them. -/
structure AggregatesTraces (retryable : Bool) (status : OutputStatus) (traces : List WorkerStageTraceV2) :
    Prop where
  retryable_iff : retryable = true ↔ ∃ trace ∈ traces, trace.retryable = true
  none_failed : status = .succeeded → ∀ trace ∈ traces, trace.status ≠ .failed

/-- A stage's trace asks for a retry exactly when one of its records does. -/
theorem trace_retryable_iff {sequence : Nat} {role : PipelineModelRole} {s s' : Session}
    {report : StageReport} {es : List (Event A)}
    (h : StageDone env runner batch sequence role s report s' es) : report.trace.retryable = true ↔
      ∃ record ∈ report.preflight :: report.postflight.toList, record.decision = .failedRetryable := by
  have hpre : report.preflight.decision ≠ .failedRetryable := by
    rw [h.preflight_eq]
    exact StageGateEngine.preflight_not_retryable
  simp only [List.exists_mem_cons_iff, hpre, false_or, Option.mem_toList]
  cases h.outcome with
  | skipped _ hpost _ _ _ htrace =>
    rw [htrace.2, hpost]
    simp [hpre]
  | unconfigured _ _ hpost _ _ _ htrace =>
    rw [htrace.2, hpost]
    simp only [Bool.false_eq_true, Option.some.injEq, exists_eq_left', false_iff,
      StageGateEngine.postflight_skipped_decision]
    split <;> simp
  | @executed _ group logged judgeLog first evaluation t elapsed hx =>
    rw [hx.retryable_eq, hx.postflight_eq]
    simp

/-- A stage with a failed trace has a postflight record that rejects it. -/
theorem failed_trace_rejected {sequence : Nat} {role : PipelineModelRole} {s s' : Session}
    {report : StageReport} {es : List (Event A)}
    (h : StageDone env runner batch sequence role s report s' es) (hfailed : report.trace.status = .failed) :
    ∃ record ∈ report.postflight, record.decision.degraded = true := by
  cases h.outcome with
  | skipped _ _ _ _ _ htrace =>
    rw [htrace.1] at hfailed
    cases hfailed
  | unconfigured _ _ _ _ _ _ htrace =>
    rw [htrace.1] at hfailed
    cases hfailed
  | @executed _ group logged judgeLog first evaluation t elapsed hx =>
    refine ⟨_, hx.postflight_eq, ?_⟩
    rw [stagePostflight, hx.status_eq.symm.trans hfailed]
    exact StageGateEngine.postflight_failed_degraded

/-- **A session aggregates its traces**, in every run that returned. -/
theorem session_aggregates (h : SessionDone env runner batch w final result) :
    AggregatesTraces result.output.retryable result.output.status result.stageTraces where
  retryable_iff := by
    rw [h.result_of.retryable_eq, ← h.result_of.gates_eq, h.gateRecords_eq, h.stageTraces_eq,
      List.any_eq_true]
    constructor
    · rintro ⟨record, hrecord, hretry⟩
      obtain ⟨report, hreport, hmem⟩ := List.mem_flatMap.mp hrecord
      obtain ⟨p, -, -, hdone⟩ := h.pass_of_report hreport
      refine ⟨report.trace, List.mem_map.mpr ⟨report, hreport, rfl⟩, ?_⟩
      exact (trace_retryable_iff hdone).mpr ⟨record, hmem, of_decide_eq_true hretry⟩
    · rintro ⟨trace, htrace, hretry⟩
      obtain ⟨report, hreport, rfl⟩ := List.mem_map.mp htrace
      obtain ⟨p, -, -, hdone⟩ := h.pass_of_report hreport
      obtain ⟨record, hrecord, hdecision⟩ := (trace_retryable_iff hdone).mp hretry
      exact ⟨record, List.mem_flatMap.mpr ⟨report, hreport, hrecord⟩, decide_eq_true hdecision⟩
  none_failed := by
    intro hsucceeded trace htrace hfailed
    rw [h.stageTraces_eq] at htrace
    obtain ⟨report, hreport, rfl⟩ := List.mem_map.mp htrace
    obtain ⟨p, -, -, hdone⟩ := h.pass_of_report hreport
    obtain ⟨record, hrecord, hdegraded⟩ := failed_trace_rejected hdone hfailed
    -- its postflight record is degraded, and a session that succeeded has none
    rw [h.result_of.status_eq, overallStatus_eq_succeeded, incomplete_eq_false, ← h.result_of.gates_eq,
      h.gateRecords_eq] at hsucceeded
    have hmem : record ∈ report.preflight :: report.postflight.toList :=
      List.mem_cons_of_mem _ (Option.mem_toList.mpr hrecord)
    have hnot := hsucceeded.2.2 record (List.mem_flatMap.mpr ⟨report, hreport, hmem⟩)
    rw [hnot] at hdegraded
    cases hdegraded

/-- A code that a skipped stage has is not the empty text. -/
theorem truthy_of_skipped (hconsensus : env.RunsConsensus) {sequence : Nat} {role : PipelineModelRole}
    {s s' : Session} {report : StageReport} {es : List (Event A)}
    (h : StageDone env runner batch sequence role s report s' es) (hskipped : report.run.status = .skipped) :
    truthy report.run.errorCode = report.run.errorCode.isSome := by
  cases h.outcome with
  | skipped _ _ _ _ hcode =>
    rw [hcode, preflightErrorCode]
    split
    · rfl
    · simp [truthy]
  | unconfigured _ _ _ _ _ hcode =>
    rw [hcode, missingModelErrorCode]
    split
    · rfl
    · rfl
  | executed _ hx =>
    have hstatus := hx.run_status hconsensus
    rw [hskipped] at hstatus
    rcases hx.status_cases with ht | ht
    · rw [ht] at hstatus
      cases hstatus
    · rw [ht] at hstatus
      cases hstatus

/-- What a verdict is wanted to say of the stages' runs and of the gates. -/
structure VerdictTells (result : SessionRunResult) : Prop where
  succeeded : result.output.status = .succeeded ↔
    (∀ run ∈ result.output.modelRuns, run.status ≠ .failed) ∧
      (∀ run ∈ result.output.modelRuns, run.status = .skipped → run.errorCode = none) ∧
      ∀ record ∈ result.gateRecords, record.decision.degraded = false
  failed : (∃ run ∈ result.output.modelRuns, run.status = .failed) →
    (∀ run ∈ result.output.modelRuns, run.status ≠ .succeeded ∧ run.status ≠ .skipped) →
    result.output.status = .failed
  otherwise : result.output.status ≠ .succeeded →
    ¬ ((∃ run ∈ result.output.modelRuns, run.status = .failed) ∧
      ∀ run ∈ result.output.modelRuns, run.status ≠ .succeeded ∧ run.status ≠ .skipped) →
    result.output.status = .partialFailure

/-- `succeeded` says what it should, in every session. -/
theorem status_eq_succeeded (h : SessionDone env runner batch w final result)
    (hconsensus : env.RunsConsensus) : result.output.status = .succeeded ↔
      (∀ run ∈ result.output.modelRuns, run.status ≠ .failed) ∧
        (∀ run ∈ result.output.modelRuns, run.status = .skipped → run.errorCode = none) ∧
        ∀ record ∈ result.gateRecords, record.decision.degraded = false := by
  rw [h.result_of.status_eq, overallStatus_eq_succeeded, incomplete_eq_false, ← h.result_of.gates_eq,
    ← h.result_of.runs_eq]
  have hcodes : ∀ run ∈ result.output.modelRuns, run.status = .skipped →
      (truthy run.errorCode = false ↔ run.errorCode = none) := by
    intro run hrun hskipped
    rw [h.modelRuns_eq] at hrun
    obtain ⟨report, hreport, rfl⟩ := List.mem_map.mp hrun
    obtain ⟨p, -, -, hdone⟩ := h.pass_of_report hreport
    rw [truthy_of_skipped hconsensus hdone hskipped, Option.isSome_eq_false_iff, Option.isNone_iff_eq_none]
  constructor
  · rintro ⟨hnone, hskipped, hgates⟩
    exact ⟨hnone, fun run hrun hs => (hcodes run hrun hs).mp (hskipped run hrun hs), hgates⟩
  · rintro ⟨hnone, hskipped, hgates⟩
    exact ⟨hnone, fun run hrun hs => (hcodes run hrun hs).mpr (hskipped run hrun hs), hgates⟩

/-- **When the verdict tells.**  Exactly when the stages do not all fail: a session whose four stages
    all failed is called a partial failure, for `failed` is never given. -/
theorem verdictTells_iff (hconsensus : env.RunsConsensus)
    (hresult : (runWithTrace env runner batch w ()).result = .ok result) :
    VerdictTells result ↔ ∃ run ∈ (sessionEnd env runner batch w).runs, run.status ≠ .failed := by
  obtain ⟨final, h⟩ := runWithTrace_ok hresult
  have hnever := status_ne_failed h hconsensus
  have hruns : (sessionEnd env runner batch w).runs = result.output.modelRuns := by
    rw [← h.final_eq, h.result_of.runs_eq]
  rw [hruns]
  constructor
  · intro htells
    by_contra hall
    -- all four stages failed, so the verdict would have to be the one that is never given
    have hfailed : ∀ run ∈ result.output.modelRuns, run.status = .failed := by
      intro run hrun
      by_contra hne
      exact hall ⟨run, hrun, hne⟩
    refine hnever (htells.failed ?_ ?_)
    · obtain ⟨run, hrun⟩ := h.exists_run
      exact ⟨run, hrun, hfailed run hrun⟩
    · intro run hrun
      rw [hfailed run hrun]
      exact ⟨by decide, by decide⟩
  · rintro ⟨run, hrun, hne⟩
    refine ⟨status_eq_succeeded h hconsensus, ?_, ?_⟩
    · intro _ hothers
      obtain ⟨hsucceeded, hskipped⟩ := hothers run hrun
      cases hstatus : run.status with
      | succeeded => exact absurd hstatus hsucceeded
      | failed => exact absurd hstatus hne
      | skipped => exact absurd hstatus hskipped
    · intro hsucceeded _
      cases hstatus : result.output.status with
      | succeeded => exact absurd hstatus hsucceeded
      | partialFailure => rfl
      | failed => exact absurd hstatus hnever

/-- The recognizer failed, the others did not: the verdict tells. -/
theorem verdictTells_iff_asrFails :
    ∃ result, (runWithTrace (Sample.asrFails.environment acceptingModels Sample.digest) Sample.runner
        Sample.batch 0 ()).result = .ok result ∧
      (VerdictTells result ↔ ∃ run ∈ (sessionEnd (Sample.asrFails.environment acceptingModels Sample.digest)
        Sample.runner Sample.batch 0).runs, run.status ≠ .failed) := by
  obtain ⟨result, hresult⟩ := exists_ok (r := (runWithTrace (Sample.asrFails.environment acceptingModels
    Sample.digest) Sample.runner Sample.batch 0 ()).result) (by decide +kernel)
  exact ⟨result, hresult, verdictTells_iff ⟨_, rfl⟩ hresult⟩

/-- All four stages failed, and the verdict is a partial failure. -/
def allFailedPartially (result : SessionRunResult) : Bool :=
  decide (result.output.status = .partialFailure) && decide (result.output.modelRuns ≠ []) &&
    result.output.modelRuns.all fun run => decide (run.status = .failed)

/-- **Four failed stages** under contracts that let each of them start: no model can be loaded, and
    the session is called a partial failure. -/
theorem not_verdictTells_nothingLoads :
    ∃ result, (runWithTrace (Sample.nothingLoads.environment (pydantic Sample.digest) Sample.digest)
        Sample.fullRunner Sample.batch 0 ()).result = .ok result ∧
      (∀ run ∈ result.output.modelRuns, run.status = .failed) ∧
      result.output.status = .partialFailure ∧ ¬ VerdictTells result := by
  obtain ⟨result, hresult, hall⟩ : ∃ result, (runWithTrace (Sample.nothingLoads.environment
      (pydantic Sample.digest) Sample.digest) Sample.fullRunner Sample.batch 0 ()).result = .ok result ∧
      allFailedPartially result = true := exists_returned (by decide +kernel)
  simp only [allFailedPartially, Bool.and_eq_true, decide_eq_true_eq, List.all_eq_true] at hall
  obtain ⟨⟨hstatus, hsome⟩, hfailed⟩ := hall
  refine ⟨result, hresult, hfailed, hstatus, ?_⟩
  intro htells
  obtain ⟨run, hmem⟩ := List.exists_mem_of_ne_nil _ hsome
  have hwanted := htells.failed ⟨run, hmem, hfailed run hmem⟩ (by
    intro other hother
    rw [hfailed other hother]
    exact ⟨by decide, by decide⟩)
  rw [hstatus] at hwanted
  cases hwanted

end Session

end SessionRunner

end FireviewerOrchestrator
