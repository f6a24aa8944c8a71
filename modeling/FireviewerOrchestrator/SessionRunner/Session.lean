/-
  A whole session: its stages in order, and the result they add up to.

  `stageReports` are the accounts of the stages of a run, in order.  `SessionDone` says that a run
  that returned went through the four stages, each as `StageDone` describes it and each from the
  session the one before left, and that every list of the result is the stages' entries in order.
  `runWithTrace_ok` proves it; the properties of a session are proved from it alone.
-/
import FireviewerOrchestrator.SessionRunner.Stage

set_option linter.unusedVariables false

namespace FireviewerOrchestrator

namespace SessionRunner

open Traced Prog

variable {ω A : Type} {env : Environment ω A} {runner : SessionRunner} {batch : WorkerInput}

abbrev StagePass (ω A : Type) :=
  Pass ω Session PyExc (Event A) StageReport (Nat × PipelineModelRole)

/-- The stage's role. -/
def stageRoleOf (p : StagePass ω A) : PipelineModelRole := p.index.2

variable (env runner batch) in
/-- The accounts of the stages of the run started in `w`, in order. -/
def stageReports (w : ω) : List StageReport := (stagePasses env runner batch w).flatMap Pass.values

/-! ## The stages of a run -/

/-- What every pass of the stage loop satisfies. -/
def StageFact (env : Environment ω A) (runner : SessionRunner) (batch : WorkerInput)
    (i : Nat × PipelineModelRole) (s : Session) (r : Except PyExc StageReport) (s' : Session)
    (es : List (Event A)) : Prop :=
  match r with
  | .ok report => StageDone env runner batch i.1 i.2 s report s' es
  | .error _ => env.Contained → CreateRaised es

theorem stageBody_sat (i : Nat × PipelineModelRole) (s : Session) :
    Sat (stageBody env runner batch i) s (StageFact env runner batch i s) := runStage_sat s

theorem stageFact_of_mem {w : ω} {p : StagePass ω A} (hp : p ∈ stagePasses env runner batch w) :
    StageFact env runner batch p.index p.before p.outcome.result p.after p.events :=
  passes_sat stageBody_sat numberedRoles w (Session.start batch) p hp

/-- Every pass that did not raise has its account. -/
theorem stageDone_of_mem {w : ω} {p : StagePass ω A} (hp : p ∈ stagePasses env runner batch w)
    {report : StageReport} (h : p.Returned report) :
    StageDone env runner batch p.index.1 p.index.2 p.before report p.after p.events := by
  have hfact := stageFact_of_mem hp
  unfold Pass.Returned at h
  rw [h] at hfact
  exact hfact

/-- In a contained environment a pass only raises if a creation did. -/
theorem createRaised_of_error {w : ω} {p : StagePass ω A} (hp : p ∈ stagePasses env runner batch w)
    {e : PyExc} (h : p.outcome.result = .error e) (hc : env.Contained) : CreateRaised p.events := by
  have hfact := stageFact_of_mem hp
  rw [h] at hfact
  exact hfact hc

/-! ## The end of a run -/

theorem collectItems_eq {results : Dict String ItemResult} : ∀ {items : List BatchItem}
    {out : List ItemResult}, collectItems results items = .ok out →
    out.map some = items.map fun item => results.get? item.inputId := by
  intro items
  induction items with
  | nil =>
    rintro out ⟨rfl⟩
    rfl
  | cons item items ih =>
    intro out h
    rw [collectItems] at h
    cases hget : results.get? item.inputId with
    | none => simp [hget] at h
    | some result =>
      rw [hget] at h
      cases hrest : collectItems results items with
      | error e => simp [hrest, Except.map] at h
      | ok rest =>
        simp only [hrest, Except.map] at h
        cases h
        simp [hget, ih hrest]

theorem collectItems_ok {results : Dict String ItemResult} : ∀ {items : List BatchItem},
    (∀ item ∈ items, item.inputId ∈ results.keys) → ∃ out, collectItems results items = .ok out := by
  intro items
  induction items with
  | nil => exact fun _ => ⟨[], rfl⟩
  | cons item items ih =>
    intro h
    obtain ⟨out, hout⟩ := ih fun item hitem => h item (List.mem_cons_of_mem _ hitem)
    rw [collectItems]
    cases hget : results.get? item.inputId with
    | none => exact absurd (h item List.mem_cons_self) (Dict.get?_eq_none.mp hget)
    | some result => exact ⟨result :: out, by simp [hout, Except.map]⟩

/-- The result a session's last state adds up to. -/
structure ResultOf (runner : SessionRunner) (batch : WorkerInput) (s : Session)
    (result : SessionRunResult) : Prop where
  items_eq : result.output.items.map some = batch.items.map fun item => s.results.get? item.inputId
  batchId_eq : result.output.batchId = batch.batchId
  status_eq : result.output.status = overallStatus s.runs s.gateRecords
  retryable_eq : result.output.retryable = s.gateRecords.any fun record => record.decision = .failedRetryable
  runs_eq : result.output.modelRuns = s.runs
  errors_eq : result.output.validationErrors = s.errors
  gates_eq : result.gateRecords = s.gateRecords
  traces_eq : result.stageTraces = s.stageTraces
  candidateRuns_eq : result.candidateRuns = s.candidateRuns
  consensus_eq : result.consensusResults = s.consensusResults
  digest_eq : result.contractDigest = runner.contracts.digest

theorem finishSession_sat (env : Environment ω A) (runner : SessionRunner) (batch : WorkerInput)
    (s : Session) : Sat (finishSession env runner batch) s fun r _ es => es = [] ∧ match r with
      | .ok result => ResultOf runner batch s result
      | .error _ => (∀ item ∈ batch.items, item.inputId ∈ s.results.keys) → ¬ env.models.Accepting := by
  unfold finishSession
  refine Sat.get_bind (Sat.ofExcept_bind (fun items hitems => ?_) fun e he => ⟨rfl, fun hkeys => ?_⟩)
  · refine construct_bind (Sat.pure ⟨rfl, ?_⟩) fun e he => ⟨rfl, fun _ h => ?_⟩
    · exact ⟨collectItems_eq hitems, rfl, rfl, rfl, rfl, rfl, rfl, rfl, rfl, rfl, rfl⟩
    · rw [h.workerOutput] at he
      cases he
  · obtain ⟨out, hout⟩ := collectItems_ok hkeys
    rw [hout] at he
    cases he

/-! ## The whole run -/

variable (env runner batch) in
/-- The session after its stages: what the verdict and the output are made of. -/
def sessionEnd (w : ω) : Session :=
  (forEach numberedRoles (stageBody env runner batch) w (Session.start batch)).locals

/-- **What a run that returned went through.** -/
structure SessionDone (env : Environment ω A) (runner : SessionRunner) (batch : WorkerInput) (w : ω)
    (final : Session) (result : SessionRunResult) : Prop where
  final_eq : final = sessionEnd env runner batch w
  indices : (stagePasses env runner batch w).map Pass.index = numberedRoles
  returned : ∀ p ∈ stagePasses env runner batch w, ∃ report, p.Returned report
  linked : Linked (Session.start batch) (stagePasses env runner batch w) final
  result_of : ResultOf runner batch final result

/-- The log of a run: its stages', then the job's finalization. -/
theorem runWithTrace_events (w : ω) : (runWithTrace env runner batch w ()).events
    = (stagePasses env runner batch w).flatMap Pass.events ++ [.finalizeJob] := by
  have hloop : (runLoop env runner batch w (Session.start batch)).events
      = (stagePasses env runner batch w).flatMap Pass.events := by
    unfold runLoop
    cases hr : (forEach numberedRoles (stageBody env runner batch) w (Session.start batch)).result with
    | ok u =>
      rw [bind_of_ok hr, forEach_events_eq, (finishSession_sat env runner batch _ _).1, List.append_nil]
      rfl
    | error e =>
      rw [bind_of_error hr, forEach_events_eq]
      rfl
  unfold runWithTrace
  rw [finallyDo_events, ← hloop]
  rfl

theorem runLoop_ok {w : ω} {result : SessionRunResult}
    (h : (runLoop env runner batch w (Session.start batch)).result = .ok result) :
    ∃ final, SessionDone env runner batch w final result := by
  unfold runLoop at h
  cases hr : (forEach numberedRoles (stageBody env runner batch) w (Session.start batch)).result with
  | error e =>
    rw [bind_of_error hr] at h
    cases h
  | ok u =>
    rw [bind_of_ok hr] at h
    obtain ⟨hindices, hreturned, hlinked⟩ := forEach_ok _ _ _ hr
    refine ⟨sessionEnd env runner batch w, rfl, hindices, hreturned, hlinked, ?_⟩
    have hfinish := (finishSession_sat env runner batch
      (forEach numberedRoles (stageBody env runner batch) w (Session.start batch)).locals
      (forEach numberedRoles (stageBody env runner batch) w (Session.start batch)).world).2
    rw [h] at hfinish
    exact hfinish

/-- **A run that returns** went through the four stages. -/
theorem runWithTrace_ok {w : ω} {result : SessionRunResult}
    (h : (runWithTrace env runner batch w ()).result = .ok result) :
    ∃ final, SessionDone env runner batch w final result := by
  unfold runWithTrace at h
  rw [finallyDo_result] at h
  split at h
  · exact runLoop_ok h
  · cases h

namespace SessionDone

variable {w : ω} {final : Session} {result : SessionRunResult}

theorem stageDone (h : SessionDone env runner batch w final result) {p : StagePass ω A}
    (hp : p ∈ stagePasses env runner batch w) : ∃ report, p.Returned report ∧
      StageDone env runner batch p.index.1 p.index.2 p.before report p.after p.events := by
  obtain ⟨report, hreport⟩ := h.returned p hp
  exact ⟨report, hreport, stageDone_of_mem hp hreport⟩

/-- A report is that of one of the passes. -/
theorem pass_of_report (h : SessionDone env runner batch w final result) {report : StageReport}
    (hr : report ∈ stageReports env runner batch w) : ∃ p ∈ stagePasses env runner batch w,
      p.Returned report ∧ StageDone env runner batch p.index.1 p.index.2 p.before report p.after p.events := by
  obtain ⟨p, hp, hmem⟩ := List.mem_flatMap.mp hr
  obtain ⟨report', hreport', hdone⟩ := h.stageDone hp
  rw [Pass.values_of_returned hreport', List.mem_singleton] at hmem
  subst hmem
  exact ⟨p, hp, hreport', hdone⟩

theorem report_of_pass {p : StagePass ω A} (hp : p ∈ stagePasses env runner batch w) {report : StageReport}
    (h : p.Returned report) : report ∈ stageReports env runner batch w :=
  List.mem_flatMap.mpr ⟨p, hp, by rw [Pass.values_of_returned h]; exact List.mem_singleton_self _⟩

/-- A log of the session to which each stage appends a function of its account is, at the end, those
    entries in order. -/
theorem log_eq (h : SessionDone env runner batch w final result) {κ : Type} (log : Session → List κ)
    (new : StageReport → List κ) (hstart : log (Session.start batch) = [])
    (hstep : ∀ sequence role s report s' es, StageDone env runner batch sequence role s report s' es →
      log s' = log s ++ new report) : log final = (stageReports env runner batch w).flatMap new := by
  have htelescope := h.linked.telescope log (fun p => p.values.flatMap new) (by
    intro p hp
    obtain ⟨report, hreport, hdone⟩ := h.stageDone hp
    rw [Pass.values_of_returned hreport, List.flatMap_singleton]
    exact hstep _ _ _ _ _ _ hdone)
  rw [hstart, List.nil_append] at htelescope
  rw [htelescope, stageReports, List.flatMap_assoc]

/-- One model run per stage, in order. -/
theorem modelRuns_eq (h : SessionDone env runner batch w final result) :
    result.output.modelRuns = (stageReports env runner batch w).map StageReport.run := by
  rw [h.result_of.runs_eq, h.log_eq Session.runs (fun r => [r.run]) rfl fun _ _ _ _ _ _ hd => hd.runs_eq]
  exact List.map_eq_flatMap.symm

theorem exists_run (h : SessionDone env runner batch w final result) :
    ∃ run, run ∈ result.output.modelRuns := by
  obtain ⟨p, hp, -⟩ : ∃ p ∈ stagePasses env runner batch w, p.index = (1, .asr) := by
    have hfirst : (1, PipelineModelRole.asr) ∈ (stagePasses env runner batch w).map Pass.index := by
      rw [h.indices]
      exact List.mem_cons_self
    exact List.mem_map.mp hfirst
  obtain ⟨report, hreport, -⟩ := h.stageDone hp
  exact ⟨report.run, by rw [h.modelRuns_eq]; exact List.mem_map.mpr ⟨report, report_of_pass hp hreport, rfl⟩⟩

/-- One trace per stage, in order. -/
theorem stageTraces_eq (h : SessionDone env runner batch w final result) :
    result.stageTraces = (stageReports env runner batch w).map StageReport.trace := by
  rw [h.result_of.traces_eq,
    h.log_eq Session.stageTraces (fun r => [r.trace]) rfl fun _ _ _ _ _ _ hd => hd.traces_eq]
  exact List.map_eq_flatMap.symm

/-- The gate records of the stages, in order. -/
theorem gateRecords_eq (h : SessionDone env runner batch w final result) :
    result.gateRecords = (stageReports env runner batch w).flatMap
      fun r => r.preflight :: r.postflight.toList := by
  rw [h.result_of.gates_eq]
  exact h.log_eq Session.gateRecords _ rfl fun _ _ _ _ _ _ hd => hd.gates_eq

theorem candidateRuns_eq (h : SessionDone env runner batch w final result) :
    result.candidateRuns = (stageReports env runner batch w).flatMap fun r =>
      r.executions.map CandidateExecution.candidateRun
        ++ r.adjudication.toList.map AdjudicatorExecution.candidateRun := by
  rw [h.result_of.candidateRuns_eq]
  exact h.log_eq Session.candidateRuns _ rfl fun _ _ _ _ _ _ hd => by
    rw [hd.candidateRuns_eq, List.append_assoc]

theorem consensusResults_eq (h : SessionDone env runner batch w final result) :
    result.consensusResults = (stageReports env runner batch w).flatMap fun r => r.consensus.toList := by
  rw [h.result_of.consensus_eq]
  exact h.log_eq Session.consensusResults _ rfl fun _ _ _ _ _ _ hd => hd.consensus_eq

end SessionDone

end SessionRunner

end FireviewerOrchestrator
