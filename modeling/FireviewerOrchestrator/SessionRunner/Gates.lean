/-
  What the stage gates enforce in a session, and what they only record.

  A stage is started by one thing: its own preflight, evaluated on the batch and on the evidence
  released so far (`creations_gated`).  The flag `downstream_possible` of an earlier stage's record
  is not consulted, so a rejected stage does not by itself keep a later one from starting; what it
  failed to release does.

  A postflight record judges a stage after its evidence was adopted or not.  `rejected_stage` follows
  every way a stage can be rejected: a stage that failed adopted nothing, and one that succeeded but
  overran its wall time or its output size keeps what it adopted, and is reported as rejected.
-/
import FireviewerOrchestrator.SessionRunner.Brackets
import FireviewerOrchestrator.SessionRunner.Verdict

set_option linter.unusedVariables false

namespace FireviewerOrchestrator

/-- The record of a gate. -/
def Event.gateRecord {A : Type} : Event A → Option StageGateRecord
  | .gate record => some record
  | _ => none

namespace SessionRunner

open Traced Prog Transition

variable {ω A : Type} {env : Environment ω A} {runner : SessionRunner} {batch : WorkerInput}

/-! ## Who starts a stage -/

/-- The one stage comes before the other in the order of a session. -/
def Precedes (earlier later : StageRole) : Prop :=
  (roleOrder.map PipelineModelRole.stageRole).idxOf earlier
    < (roleOrder.map PipelineModelRole.stageRole).idxOf later

instance (earlier later : StageRole) : Decidable (Precedes earlier later) :=
  inferInstanceAs (Decidable (_ < _))

/-- Behind a record that rules out what is downstream, no adapter of a later stage is created. -/
def DownstreamEnforced (log : List (Event A)) : Prop :=
  ∀ record ∈ log.filterMap Event.gateRecord, record.downstreamPossible = false →
    ∀ role ∈ log.filterMap Event.creationRole, ¬ Precedes record.role role.stageRole

instance (log : List (Event A)) : Decidable (DownstreamEnforced log) :=
  inferInstanceAs (Decidable (∀ record ∈ _, _ → ∀ role ∈ _, _))

/-- **The flag is not enforced.**  The recognizer overruns its wall time, which rules out what is
    downstream; the detector's adapter is created all the same. -/
theorem not_downstreamEnforced_slow :
    ¬ DownstreamEnforced (runWithTrace (Sample.slow.environment (pydantic Sample.digest) Sample.digest)
      Sample.runner Sample.batch 0 ()).events := by
  decide +kernel

variable (runner batch) in
/-- A stage's own preflight, on the evidence released before it. -/
def ownPreflight (role : PipelineModelRole) (results : Dict String ItemResult) : StageGateRecord :=
  StageGateEngine.preflight (runner.contract role) (deriveCapabilities batch results) batch.items.length

/-- The stage began with its own preflight, and created adapters only if that let it start. -/
structure StageGated (runner : SessionRunner) (batch : WorkerInput) (role : PipelineModelRole)
    (results : Dict String ItemResult) (es : List (Event A)) : Prop where
  first : es.head? = some (.gate (ownPreflight runner batch role results))
  creations : ∀ e ∈ es, ∀ created, e.creationRole = some created →
    created = role ∧ LetsStart role (ownPreflight runner batch role results) ∧
      batch.items.length ≤ (runner.contract role).maxInputItems ∧
      StageGateEngine.missingRequirements (runner.contract role) (deriveCapabilities batch results) = []

/-- At the last stage of a session, or behind it. -/
def AtLast (role : PipelineModelRole) : Phase A → Prop
  | .between later => later = [role] ∨ later = []
  | .opened stage | .holding stage _ _ | .judging stage _ _ => stage.role = role ∧ stage.later = []
  | .finalized => True

theorem atLast_step {plan : Plan} {role : PipelineModelRole} {u v : Phase A} {e : Event A}
    (hstep : Step plan u e v) (hu : AtLast role u) : AtLast role v := by
  cases hstep with
  | skip =>
    rcases hu with hu | hu
    · exact Or.inr (List.cons.inj hu).2
    · cases hu
  | start =>
    rcases hu with hu | hu
    · exact List.cons.inj hu
    · cases hu
  | conclude => exact Or.inr hu.2
  | finalize => trivial
  | _ => exact hu

/-- From before the last stage, all creations are that stage's. -/
theorem creations_of_last {plan : Plan} {role : PipelineModelRole} {es : List (Event A)} {v : Phase A}
    (h : Run (Step plan) (.between [role]) es v) :
    ∀ e ∈ es, ∀ created, e.creationRole = some created → created = role := by
  intro e he created hcreated
  obtain ⟨before, after, rfl⟩ := List.append_of_mem he
  obtain ⟨t, t', hbefore, hstep, -⟩ := h.at_label
  have hlast : AtLast role t :=
    Run.invariant (I := AtLast role) (fun _ _ _ hstep hu => atLast_step hstep hu) hbefore (Or.inl rfl)
  obtain ⟨stage, hstage, rfl⟩ := role_of_creation hstep hcreated
  cases t with
  | between => cases hstage
  | finalized => cases hstage
  | opened =>
    cases hstage
    exact hlast.1
  | holding =>
    cases hstage
    exact hlast.1
  | judging =>
    cases hstage
    exact hlast.1

/-- Every iteration of the stage loop is gated, however it ends. -/
theorem stageBody_gated (i : Nat × PipelineModelRole) (s : Session) :
    Sat (stageBody env runner batch i) s fun _ _ es => StageGated runner batch i.2 s.results es := by
  have hrun : Sat (stageBody env runner batch i) s fun _ _ es =>
      ∃ v, Run (Step (planOf runner)) (.between [i.2]) es v := by
    have hfollows : SessionFollows env runner (.between [i.2]) (stageBody env runner batch i)
        (· = .between []) := runStage_follows []
    refine (hfollows s).mono ?_
    intro r s' es h
    cases r with
    | ok report =>
      obtain ⟨v, -, hv⟩ := h
      exact ⟨v, hv⟩
    | error e =>
      obtain ⟨v, -, hv⟩ := h
      exact ⟨v, hv⟩
  have hgate : Sat (stageBody env runner batch i) s fun _ _ es => ∃ rest,
      es = .gate (ownPreflight runner batch i.2 s.results) :: rest ∧
        ((ownPreflight runner batch i.2 s.results).decision = .proceed ∨ rest = []) := by
    unfold stageBody runStage
    refine Sat.get_bind (Sat.bind (appendGate_sat _ s) ?_ ?_)
    · rintro _ s₁ _ ⟨-, -, rfl⟩
      by_cases hdecision : (ownPreflight runner batch i.2 s.results).decision = .proceed
      · intro w
        exact ⟨_, rfl, Or.inl hdecision⟩
      · -- a stage that does not start adds no event to its gate record
        have hskip : Silent (skipStage env runner i.1 i.2 (ownPreflight runner batch i.2 s.results)) :=
          skipStage_silent _
        simp only [ownPreflight] at hdecision hskip
        simp only [ne_eq, hdecision, not_false_iff, if_true]
        refine (hskip s₁).mono ?_
        intro r s' es hes
        exact ⟨es, rfl, Or.inr hes⟩
    · rintro _ _ _ ⟨h, -⟩
      cases h
  refine (hrun.and hgate).mono ?_
  rintro r s' es ⟨⟨v, hv⟩, rest, rfl, hrest⟩
  refine ⟨rfl, ?_⟩
  intro e he created hcreated
  have hrole := creations_of_last hv e he created hcreated
  rcases hrest with hdecision | rfl
  · have hlimits := StageGateEngine.preflight_proceed_iff.mp hdecision
    refine ⟨hrole, ⟨?_, StageGateEngine.preflight_phase, hdecision,
      StageGateEngine.preflight_proceed_downstream hdecision⟩, hlimits.1, hlimits.2⟩
    rw [ownPreflight, StageGateEngine.preflight_role, contract_role]
  · obtain rfl := List.mem_singleton.mp he
    cases hcreated

variable (env runner batch) in
/-- Every stage of the run is gated, and the stages' events are all there are. -/
def CreationsGated (w : ω) : Prop :=
  (runWithTrace env runner batch w ()).events
      = (stagePasses env runner batch w).flatMap Pass.events ++ [.finalizeJob] ∧
    ∀ p ∈ stagePasses env runner batch w,
      StageGated runner batch (stageRoleOf p) p.before.results p.events

/-- **What is enforced.**  Whether a run returns or raises, an adapter is only created in a stage whose
    own preflight, on the evidence released before it, proceeds: within the input limit, nothing
    missing, and downstream possible. -/
theorem creations_gated (w : ω) : CreationsGated env runner batch w :=
  ⟨runWithTrace_events w, passes_sat stageBody_gated numberedRoles w (Session.start batch)⟩

/-! ## What a rejected stage leaves -/

/-- The record rejects the stage it judges. -/
def Rejects (record : StageGateRecord) : Prop :=
  record.decision = .failedRetryable ∨ record.decision = .failedTerminal

instance (record : StageGateRecord) : Decidable (Rejects record) := inferInstanceAs (Decidable (_ ∨ _))

variable (env runner batch) in
/-- A stage its postflight rejects releases nothing and is not reported as succeeded. -/
def RejectedReleasesNothing (w : ω) : Prop :=
  ∀ p ∈ stagePasses env runner batch w, ∀ report, p.Returned report →
    ∀ record ∈ report.postflight, Rejects record → p.after.results = p.before.results ∧
      report.run.status ≠ .succeeded ∧ report.trace.status ≠ .succeeded

def segmentsOf (results : Dict String ItemResult) : List TranscriptSegment :=
  results.values.flatMap fun result => result.transcript.segments

/-- The stage is rejected after it succeeded, and has released a transcript. -/
def releasedAnyway (p : StagePass ω A) (report : StageReport) : Bool :=
  report.postflight.any (fun record => decide (Rejects record)) &&
    decide (report.run.status = .succeeded) && decide (report.trace.status = .succeeded) &&
    decide (segmentsOf p.after.results ≠ segmentsOf p.before.results)

/-- **A rejected transcript is released.**  The recognizer overruns its wall time: its stage is
    rejected, and yet its run and trace succeeded and its segments are in the map. -/
theorem not_rejectedReleasesNothing_slow :
    ¬ RejectedReleasesNothing (Sample.slow.environment (pydantic Sample.digest) Sample.digest)
      Sample.runner Sample.batch 0 := by
  intro h
  have hreleased : (stagePasses (Sample.slow.environment (pydantic Sample.digest) Sample.digest)
      Sample.runner Sample.batch 0).any (fun p => p.values.any (releasedAnyway p)) = true := by
    decide +kernel
  obtain ⟨p, hp, hvalues⟩ := List.any_eq_true.mp hreleased
  obtain ⟨report, hreport, hanyway⟩ := List.any_eq_true.mp hvalues
  simp only [releasedAnyway, Bool.and_eq_true, decide_eq_true_eq, Option.any_eq_true] at hanyway
  obtain ⟨⟨⟨⟨record, hrecord, hrejects⟩, -⟩, -⟩, hsegments⟩ := hanyway
  have hunchanged := (h p hp report (Pass.mem_values.mp hreport) record hrecord hrejects).1
  rw [hunchanged] at hsegments
  exact hsegments rfl

/-- A stage that succeeded is rejected for its wall time, to be retried, or for its output size. -/
def LimitExceeded (record : StageGateRecord) : Prop :=
  (record.decision = .failedRetryable ∧ record.reasonCodes = ["stage_wall_time_exceeded"]) ∨
    (record.decision = .failedTerminal ∧ record.reasonCodes = ["stage_output_limit_exceeded"])

theorem Rejects.degraded {record : StageGateRecord} (h : Rejects record) : record.decision.degraded = true := by
  rcases h with h | h
  · rw [h]
    rfl
  · rw [h]
    rfl

/-- The stage released the results of the execution its evaluation selected. -/
def KeepsSelected (report : StageReport) (results : Dict String ItemResult) : Prop :=
  ∃ evaluation ∈ report.evaluation, evaluation.downstreamAllowed = true ∧
    ∃ x ∈ report.executions, evaluation.selectedCandidateId = some x.candidate.candidateId ∧
      x.results = some results

section Rejected

variable {w : ω} {final : Session} {result : SessionRunResult} {role : PipelineModelRole}
  {record : StageGateRecord}

/-- What a rejected stage did, read off its account alone. -/
theorem rejected_outcome (hconsensus : env.RunsConsensus) {sequence : Nat} {s s' : Session}
    {report : StageReport} {es : List (Event A)}
    (h : StageDone env runner batch sequence role s report s' es) (hrecord : report.postflight = some record)
    (hrejects : Rejects record) :
    "gate:" ++ role.value ++ ":" ++ record.reason ∈ s'.errors ∧
      report.trace.retryable = decide (record.decision = .failedRetryable) ∧
      ((s'.results = s.results ∧ report.run.status = .failed ∧ report.trace.status = .failed) ∨
        (LimitExceeded record ∧ report.run.status = .succeeded ∧ report.trace.status = .succeeded ∧
          KeepsSelected report s'.results)) := by
  cases h.outcome with
  | skipped _ hpost =>
    rw [hpost] at hrecord
    cases hrecord
  | unconfigured _ _ hpost =>
    rw [hpost] at hrecord
    cases hrecord
    have hdegraded := hrejects.degraded
    rw [StageGateEngine.postflight_skipped_not_degraded] at hdegraded
    cases hdegraded
  | @executed _ group logged judgeLog first evaluation t elapsed hx =>
    obtain rfl : stagePostflight runner batch role s.results t elapsed = record :=
      Option.some.inj (hx.postflight_eq.symm.trans hrecord)
    have hrun := hx.run_status hconsensus
    have herror : "gate:" ++ role.value ++ ":"
        ++ (stagePostflight runner batch role s.results t elapsed).reason ∈ s'.errors := by
      rw [hx.errors_eq]
      exact gate_mem_withGateError hrejects.degraded
    refine ⟨herror, hx.retryable_eq, ?_⟩
    rcases settle_cases hx.settled with
      ⟨x, m, hadopted, hresults, -, hstatus, -⟩ | ⟨-, hresults, hstatus, -⟩
    · -- it succeeded: only a limit can have rejected it, and what it adopted stays
      refine Or.inr ⟨?_, hrun.trans hstatus, hx.status_eq.trans hstatus, ?_⟩
      · unfold stagePostflight at hrejects ⊢
        rw [hstatus] at hrejects ⊢
        rcases StageGateEngine.postflight_succeeded_rejection hrejects with
          ⟨-, hdecision, hreason⟩ | ⟨-, hdecision, hreason⟩
        · exact Or.inl ⟨hdecision, hreason⟩
        · exact Or.inr ⟨hdecision, hreason⟩
      · obtain ⟨hallowed, hmem, hselected, hxresults⟩ := adopted_eq_some hadopted
        refine ⟨evaluation, hx.evaluation_eq, hallowed, x, hmem, hselected, ?_⟩
        rw [hxresults, hx.results_eq, hresults]
    · refine Or.inl ⟨?_, hrun.trans hstatus, hx.status_eq.trans hstatus⟩
      rw [hx.results_eq, hresults]

/-- **A rejected stage**, in a session that returned.  The rejection is reported whatever it was: in
    the gate records, in the errors, in the verdict and, if it may be retried, in the retryable flag.
    A stage that failed releases nothing; one that overran a limit keeps what its selected candidate
    produced. -/
theorem rejected_stage (hconsensus : env.RunsConsensus)
    (hresult : (runWithTrace env runner batch w ()).result = .ok result) {p : StagePass ω A}
    (hp : p ∈ stagePasses env runner batch w) {report : StageReport} (hreport : p.Returned report)
    (hrecord : report.postflight = some record) (hrejects : Rejects record) :
    ((p.after.results = p.before.results ∧ report.run.status = .failed ∧ report.trace.status = .failed) ∨
        (LimitExceeded record ∧ report.run.status = .succeeded ∧ report.trace.status = .succeeded ∧
          KeepsSelected report p.after.results)) ∧
      record ∈ result.gateRecords ∧
      "gate:" ++ (stageRoleOf p).value ++ ":" ++ record.reason ∈ result.output.validationErrors ∧
      result.output.status = .partialFailure ∧
      (record.decision = .failedRetryable → report.trace.retryable = true ∧ result.output.retryable = true) := by
  obtain ⟨final, h⟩ := runWithTrace_ok hresult
  have hdone := stageDone_of_mem hp hreport
  obtain ⟨herror, hretry, houtcome⟩ := rejected_outcome hconsensus hdone hrecord hrejects
  have hgate : record ∈ result.gateRecords := by
    rw [h.gateRecords_eq]
    refine List.mem_flatMap.mpr ⟨report, SessionDone.report_of_pass hp hreport, ?_⟩
    rw [hrecord]
    exact List.mem_cons_of_mem _ (List.mem_singleton_self _)
  refine ⟨houtcome, hgate, ?_, ?_, ?_⟩
  · rw [h.result_of.errors_eq]
    refine h.linked.eventually (I := fun s => _ ∈ s.errors) ?_ p hp herror
    intro q hq hbefore
    obtain ⟨other, -, hother⟩ := h.stageDone hq
    exact hother.errors_subset hbefore
  · cases hstatus : result.output.status with
    | succeeded =>
      have hcomplete := ((status_eq_succeeded h hconsensus).mp hstatus).2.2 record hgate
      rw [hrejects.degraded] at hcomplete
      cases hcomplete
    | partialFailure => rfl
    | failed => exact absurd hstatus (status_ne_failed h hconsensus)
  · intro hretryable
    refine ⟨?_, ?_⟩
    · rw [hretry, hretryable]
      rfl
    · rw [h.result_of.retryable_eq, ← h.result_of.gates_eq, List.any_eq_true]
      exact ⟨record, hgate, by simp [hretryable]⟩

/-- The recognizer's stage overruns its wall time: rejected, reported, and its transcript kept. -/
theorem rejected_stage_slow :
    ∃ result p report record, (runWithTrace (Sample.slow.environment acceptingModels Sample.digest)
        Sample.runner Sample.batch 0 ()).result = .ok result ∧
      p ∈ stagePasses (Sample.slow.environment acceptingModels Sample.digest) Sample.runner Sample.batch 0 ∧
      p.Returned report ∧ report.postflight = some record ∧ Rejects record ∧
      ((p.after.results = p.before.results ∧ report.run.status = .failed ∧ report.trace.status = .failed) ∨
        (LimitExceeded record ∧ report.run.status = .succeeded ∧ report.trace.status = .succeeded ∧
          KeepsSelected report p.after.results)) ∧
      result.output.status = .partialFailure := by
  obtain ⟨result, hresult⟩ := exists_ok (r := (runWithTrace (Sample.slow.environment acceptingModels
    Sample.digest) Sample.runner Sample.batch 0 ()).result) (by decide +kernel)
  have hreleased : (stagePasses (Sample.slow.environment acceptingModels Sample.digest)
      Sample.runner Sample.batch 0).any (fun p => p.values.any (releasedAnyway p)) = true := by
    decide +kernel
  obtain ⟨p, hp, hvalues⟩ := List.any_eq_true.mp hreleased
  obtain ⟨report, hreport, hanyway⟩ := List.any_eq_true.mp hvalues
  simp only [releasedAnyway, Bool.and_eq_true, decide_eq_true_eq, Option.any_eq_true] at hanyway
  obtain ⟨⟨⟨⟨record, hrecord, hrejects⟩, -⟩, -⟩, -⟩ := hanyway
  have hreturned := Pass.mem_values.mp hreport
  have hstage := rejected_stage ⟨_, rfl⟩ hresult hp hreturned hrecord hrejects
  exact ⟨result, p, report, record, hresult, hp, hreturned, hrecord, hrejects, hstage.1, hstage.2.2.2.1⟩

end Rejected

end SessionRunner

end FireviewerOrchestrator
