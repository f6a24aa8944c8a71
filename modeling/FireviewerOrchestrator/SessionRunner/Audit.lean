/-
  The records a session leaves behind, beside each other.

  A stage writes to five lists from different places: its model run, its trace, its gate records, its
  candidate runs and its consensus result.  `session_records_agree` says what each of them says of the
  others.  `session_names_degradation` adds the list of errors: nothing that went wrong at a stage is
  left out of it, and no gate is entered in it twice.

  Both are read off the account of one stage (`StageDone`), found back in the lists of the session by
  the stage's role (`exists_report`).
-/
import FireviewerOrchestrator.Library.Fallible
import FireviewerOrchestrator.SessionRunner.Results
import FireviewerOrchestrator.SessionRunner.Verdict

set_option linter.unusedVariables false

namespace FireviewerOrchestrator

namespace SessionRunner

open Traced Prog

variable {ω A : Type} {env : Environment ω A} {runner : SessionRunner} {batch : WorkerInput} {w : ω}
  {final : Session} {result : SessionRunResult}

/-! ## Entries by stage -/

section Tagged

variable {ι ρ κ : Type} {R : ι → ρ → Prop} {keys : List ι} {reports : List ρ} {tag : κ → ι}

/-- The report of a key stands alone among those of the others. -/
theorem exists_split (h : List.Forall₂ R keys reports) (hn : keys.Nodup) {i : ι} (hi : i ∈ keys) :
    ∃ before report after, reports = before ++ report :: after ∧ R i report ∧
      ∀ other ∈ before ++ after, ∃ j, j ≠ i ∧ R j other := by
  induction h with
  | nil => cases hi
  | @cons j report keys reports hreport hrest ih =>
    rw [List.nodup_cons] at hn
    rcases List.mem_cons.mp hi with rfl | hi
    · refine ⟨[], report, reports, rfl, hreport, ?_⟩
      intro other hother
      obtain ⟨k, hk, hR⟩ := Fallible.exists_of_forall₂_right hrest hother
      exact ⟨k, fun heq => hn.1 (heq ▸ hk), hR⟩
    · obtain ⟨before, found, after, rfl, hfound, hothers⟩ := ih hn.2 hi
      refine ⟨report :: before, found, after, rfl, hfound, ?_⟩
      intro other hother
      rcases List.mem_cons.mp hother with rfl | hother
      · exact ⟨j, fun heq => hn.1 (heq ▸ hi), hreport⟩
      · exact hothers other hother

/-- Entries that carry the key of the report they come from are found back by it. -/
theorem filter_flatMap_split [DecidableEq ι] {before after : List ρ} {report : ρ} {i : ι} (f : ρ → List κ)
    (htag : ∀ j r, R j r → ∀ x ∈ f r, tag x = j) (hreport : R i report)
    (hothers : ∀ other ∈ before ++ after, ∃ j, j ≠ i ∧ R j other) :
    ((before ++ report :: after).flatMap f).filter (fun x => tag x = i) = f report := by
  have hnone : ∀ rs : List ρ, (∀ other ∈ rs, other ∈ before ++ after) →
      (rs.flatMap f).filter (fun x => tag x = i) = [] := by
    intro rs hrs
    rw [List.filter_eq_nil_iff]
    intro x hx heq
    obtain ⟨r, hr, hmem⟩ := List.mem_flatMap.mp hx
    obtain ⟨j, hj, hR⟩ := hothers r (hrs r hr)
    exact hj ((htag j r hR x hmem).symm.trans (of_decide_eq_true heq))
  have hall : (f report).filter (fun x => tag x = i) = f report := by
    rw [List.filter_eq_self]
    intro x hx
    exact decide_eq_true (htag i report hreport x hx)
  rw [List.flatMap_append, List.flatMap_cons, List.filter_append, List.filter_append, hall,
    hnone before fun other hother => List.mem_append_left _ hother,
    hnone after fun other hother => List.mem_append_right _ hother, List.nil_append, List.append_nil]

end Tagged

/-! ## The accounts of the stages -/

/-- Some iteration of the stage loop, at this place, went as the report says. -/
def ReportOf (env : Environment ω A) (runner : SessionRunner) (batch : WorkerInput)
    (i : Nat × PipelineModelRole) (report : StageReport) : Prop :=
  ∃ s s' es, StageDone env runner batch i.1 i.2 s report s' es

/-- Each iteration returned one report, so the reports stand in the order of the iterations. -/
theorem forall₂_values : ∀ {ps : List (StagePass ω A)},
    (∀ p ∈ ps, ∃ report, p.Returned report ∧ ReportOf env runner batch p.index report) →
    List.Forall₂ (ReportOf env runner batch) (ps.map Pass.index) (ps.flatMap Pass.values) := by
  intro ps
  induction ps with
  | nil => exact fun _ => .nil
  | cons p ps ih =>
    intro h
    obtain ⟨report, hreport, hdone⟩ := h p List.mem_cons_self
    rw [List.map_cons, List.flatMap_cons, Pass.values_of_returned hreport]
    exact .cons hdone (ih fun q hq => h q (List.mem_cons_of_mem _ hq))

/-- **One report for each stage**, in the order of the stages. -/
theorem SessionDone.reports (h : SessionDone env runner batch w final result) :
    List.Forall₂ (ReportOf env runner batch) numberedRoles (stageReports env runner batch w) := by
  rw [← h.indices]
  refine forall₂_values ?_
  intro p hp
  obtain ⟨report, hreport, hdone⟩ := h.stageDone hp
  exact ⟨report, hreport, _, _, _, hdone⟩

/-! ## What a stage writes -/

section Stage

variable {sequence : Nat} {role : PipelineModelRole} {s s' : Session} {report : StageReport}
  {es : List (Event A)}

/-- The gate records of a stage. -/
def StageReport.gates (report : StageReport) : List StageGateRecord :=
  report.preflight :: report.postflight.toList

/-- The candidate runs of a stage: its candidates', then its judge's. -/
def StageReport.allRuns (report : StageReport) : List WorkerModelCandidateRunV2 :=
  report.executions.map CandidateExecution.candidateRun
    ++ report.adjudication.toList.map AdjudicatorExecution.candidateRun

/-- A trace is of the role of its stage, since the contract that it is written from is. -/
theorem StageDone.trace_role (h : StageDone env runner batch sequence role s report s' es) :
    report.trace.stageRole = role.stageRole := by
  rw [h.trace_eq]
  exact runner.contract_role role

/-- The number of a trace is the place of its stage. -/
theorem StageDone.trace_sequence (h : StageDone env runner batch sequence role s report s' es) :
    report.trace.sequence = sequence := by
  rw [h.trace_eq]
  rfl

/-- A postflight record is written exactly after a preflight that lets the stage start. -/
theorem StageDone.postflight_iff (h : StageDone env runner batch sequence role s report s' es) :
    report.postflight.isSome = true ↔ report.preflight.decision = .proceed := by
  cases h.outcome with
  | skipped hdecision hpost =>
    rw [hpost]
    simp [hdecision]
  | unconfigured hdecision _ hpost =>
    rw [hpost]
    simp [hdecision]
  | executed hdecision hx =>
    rw [hx.postflight_eq]
    simp [hdecision]

/-- The first gate record is a preflight record of the stage's role. -/
theorem StageDone.preflight_role (h : StageDone env runner batch sequence role s report s' es) :
    report.preflight.role = role.stageRole ∧ report.preflight.phase = .preflight := by
  rw [h.preflight_eq, StageGateEngine.preflight_role, runner.contract_role]
  exact ⟨rfl, StageGateEngine.preflight_phase⟩

/-- A second one, if there is one, is a postflight record of the same role. -/
theorem StageDone.postflight_role (h : StageDone env runner batch sequence role s report s' es) :
    ∀ record ∈ report.postflight, record.role = role.stageRole ∧ record.phase = .postflight := by
  intro record hrecord
  cases h.outcome with
  | skipped _ hpost =>
    rw [hpost] at hrecord
    cases hrecord
  | unconfigured _ _ hpost =>
    rw [hpost] at hrecord
    obtain rfl := Option.some.inj hrecord
    rw [StageGateEngine.postflight_role, runner.contract_role]
    exact ⟨rfl, StageGateEngine.postflight_phase⟩
  | executed _ hx =>
    rw [hx.postflight_eq] at hrecord
    obtain rfl := Option.some.inj hrecord
    unfold stagePostflight
    rw [StageGateEngine.postflight_role, runner.contract_role]
    exact ⟨rfl, StageGateEngine.postflight_phase⟩

/-- So the gate records of a stage are found by its role. -/
theorem StageDone.gates_role (h : StageDone env runner batch sequence role s report s' es) :
    ∀ record ∈ report.gates, record.role = role.stageRole := by
  intro record hrecord
  rcases List.mem_cons.mp hrecord with rfl | hrecord
  · exact h.preflight_role.1
  · exact (h.postflight_role record (Option.mem_toList.mp hrecord)).1

/-- The judge's run, if there is one. -/
theorem Adjudicated.record {group : ModelGroupSpec} {executions : List CandidateExecution}
    {first evaluation : ConsensusEvaluation} {x : Option AdjudicatorExecution}
    (h : Adjudicated env role group executions first evaluation x es) :
    ((x.bind fun _ => group.adjudicator.map (·.candidateId)).isSome = x.isSome) ∧
      ∀ judge ∈ x, judge.candidateRun.stageRole = role.stageRole ∧
        judge.candidateRun.modelRole = .consensusJudge := by
  cases h with
  | direct => exact ⟨rfl, by simp⟩
  | verdict _ hadjudicator hdone =>
    refine ⟨by simp [hadjudicator], ?_⟩
    rintro judge ⟨⟩
    exact ⟨hdone.record_stage, hdone.record_role⟩
  | failed _ hadjudicator hdone =>
    refine ⟨by simp [hadjudicator], ?_⟩
    rintro judge ⟨⟩
    exact ⟨hdone.record_stage, hdone.record_role⟩

/-- No stage is the judge's: a candidate's run is never taken for one of a judge. -/
theorem modelRoleV2_ne_judge (role : PipelineModelRole) : modelRoleV2 role ≠ .consensusJudge := by
  cases role <;> decide

/-- The runs of a stage are of its role, and tell candidates and judge apart. -/
theorem StageDone.runs_role (h : StageDone env runner batch sequence role s report s' es) :
    (∀ x ∈ report.executions, x.candidateRun.stageRole = role.stageRole ∧
        x.candidateRun.modelRole ≠ .consensusJudge ∧ x.candidateRun.candidateId = x.candidate.candidateId ∧
        x.candidateRun.status = x.run.status) ∧
      ∀ judge ∈ report.adjudication, judge.candidateRun.stageRole = role.stageRole ∧
        judge.candidateRun.modelRole = .consensusJudge := by
  cases h.outcome with
  | skipped _ _ _ _ _ _ _ hnone =>
    rw [hnone.1, hnone.2.1]
    exact ⟨by simp, by simp⟩
  | unconfigured _ _ _ _ _ _ _ _ hnone =>
    rw [hnone.1, hnone.2.1]
    exact ⟨by simp, by simp⟩
  | executed _ hx =>
    refine ⟨?_, hx.adjudicated.record.2⟩
    intro x hmem
    obtain ⟨log, -, hdone⟩ := hx.candidates.done_of_mem hmem
    refine ⟨hdone.record_stage, ?_, hdone.record_id, hdone.record_status⟩
    rw [hdone.record_role]
    exact modelRoleV2_ne_judge role

/-- The runs of a stage are found by its role, the judge's among them. -/
theorem StageDone.allRuns_role (h : StageDone env runner batch sequence role s report s' es) :
    ∀ run ∈ report.allRuns, run.stageRole = role.stageRole := by
  intro run hrun
  rcases List.mem_append.mp hrun with hrun | hrun
  · obtain ⟨x, hx, rfl⟩ := List.mem_map.mp hrun
    exact (h.runs_role.1 x hx).1
  · obtain ⟨judge, hjudge, rfl⟩ := List.mem_map.mp hrun
    exact (h.runs_role.2 judge (Option.mem_toList.mp hjudge)).1

/-- The candidates' runs among a stage's. -/
theorem StageDone.filter_candidates (h : StageDone env runner batch sequence role s report s' es) :
    report.allRuns.filter (fun run => run.modelRole ≠ .consensusJudge)
      = report.executions.map CandidateExecution.candidateRun := by
  have hall : (report.executions.map CandidateExecution.candidateRun).filter
      (fun run => run.modelRole ≠ .consensusJudge)
      = report.executions.map CandidateExecution.candidateRun := by
    rw [List.filter_eq_self]
    intro run hrun
    obtain ⟨x, hx, rfl⟩ := List.mem_map.mp hrun
    exact decide_eq_true (h.runs_role.1 x hx).2.1
  have hnone : (report.adjudication.toList.map AdjudicatorExecution.candidateRun).filter
      (fun run => run.modelRole ≠ .consensusJudge) = [] := by
    rw [List.filter_eq_nil_iff]
    intro run hrun hne
    obtain ⟨judge, hjudge, rfl⟩ := List.mem_map.mp hrun
    exact of_decide_eq_true hne (h.runs_role.2 judge (Option.mem_toList.mp hjudge)).2
  rw [StageReport.allRuns, List.filter_append, hall, hnone, List.append_nil]

/-- A judge's run is there exactly if there was a judge. -/
theorem StageDone.exists_judge_iff (h : StageDone env runner batch sequence role s report s' es) :
    (∃ run ∈ report.allRuns, run.modelRole = .consensusJudge) ↔ report.adjudication.isSome = true := by
  constructor
  · rintro ⟨run, hrun, hrole⟩
    rcases List.mem_append.mp hrun with hrun | hrun
    · obtain ⟨x, hx, rfl⟩ := List.mem_map.mp hrun
      exact absurd hrole (h.runs_role.1 x hx).2.1
    · obtain ⟨judge, hjudge, -⟩ := List.mem_map.mp hrun
      rw [Option.mem_toList.mp hjudge]
      rfl
  · intro hsome
    obtain ⟨judge, hjudge⟩ := Option.isSome_iff_exists.mp hsome
    refine ⟨judge.candidateRun, List.mem_append_right _ ?_, (h.runs_role.2 judge hjudge).2⟩
    exact List.mem_map_of_mem (Option.mem_toList.mpr hjudge)

/-- The consensus result of a stage is of its role. -/
theorem StageDone.consensus_role (h : StageDone env runner batch sequence role s report s' es) :
    ∀ record ∈ report.consensus.toList, record.stageRole = role.stageRole := by
  intro record hrecord
  cases h.outcome with
  | skipped _ _ _ _ _ _ _ hnone =>
    rw [hnone.2.2.2] at hrecord
    cases hrecord
  | unconfigured _ _ _ _ _ _ _ _ hnone =>
    rw [hnone.2.2.2] at hrecord
    cases hrecord
  | executed _ hx =>
    obtain ⟨record', hconsensus, hstage, -⟩ := hx.consensus_eq
    rw [hconsensus] at hrecord
    obtain rfl := List.mem_singleton.mp hrecord
    exact hstage

/-- A consensus is reached exactly where a configured stage starts. -/
theorem StageDone.consensus_iff (h : StageDone env runner batch sequence role s report s' es) :
    report.consensus.isSome = true ↔
      report.preflight.decision = .proceed ∧ (runner.group? role).isSome = true := by
  cases h.outcome with
  | skipped hdecision _ _ _ _ _ _ hnone =>
    rw [hnone.2.2.2]
    simp [hdecision]
  | unconfigured _ hgroup _ _ _ _ _ _ hnone =>
    rw [hnone.2.2.2, hgroup]
    simp
  | executed hdecision hx =>
    obtain ⟨record, hconsensus, -⟩ := hx.consensus_eq
    rw [hconsensus, hx.group_eq]
    simp [hdecision]

/-- What a consensus result says of the candidates, the judge and the outcome of its stage. -/
theorem StageDone.consensus_says (h : StageDone env runner batch sequence role s report s' es)
    (hconsensus : env.RunsConsensus) : ∀ record ∈ report.consensus,
      record.candidateIds = report.executions.map (fun x => x.candidate.candidateId) ∧
      (∃ group, runner.group? role = some group ∧ record.candidateIds <+: group.candidateIds) ∧
      record.adjudicatorCandidateId.isSome = report.adjudication.isSome ∧
      (report.trace.status = .succeeded ↔ record.downstreamAllowed = true ∧
        ∃ x ∈ report.executions, x.run.status = .succeeded ∧
          record.selectedCandidateId = some x.candidate.candidateId) := by
  intro record hrecord
  cases h.outcome with
  | skipped _ _ _ _ _ _ _ hnone =>
    rw [hnone.2.2.2] at hrecord
    cases hrecord
  | unconfigured _ _ _ _ _ _ _ _ hnone =>
    rw [hnone.2.2.2] at hrecord
    cases hrecord
  | @executed _ group logged judgeLog first evaluation t elapsed hx =>
    obtain ⟨record', hsome, -, -, hallowed, hselected, hids, hjudge⟩ := hx.consensus_eq
    rw [hsome] at hrecord
    obtain rfl := Option.some.inj hrecord
    refine ⟨hids, ⟨group, hx.group_eq, ?_⟩, ?_, ?_⟩
    · have hprefix := hx.candidates.in_order.map ModelCandidateSpec.candidateId
      rw [hids, hx.candidates.executions_eq, List.nil_append, List.map_map]
      rwa [List.map_map] at hprefix
    · rw [hjudge]
      exact hx.adjudicated.record.1
    · rw [hx.status_eq, hallowed, hselected]
      constructor
      · intro hsucceeded
        rcases settle_cases hx.settled with ⟨x, m, hadopted, -, hrun, -⟩ | ⟨-, -, hfailed, -⟩
        · obtain ⟨hallowed, hmem, hid, -⟩ := adopted_eq_some hadopted
          refine ⟨hallowed, x, hmem, ?_, hid⟩
          rw [← hrun, ← hx.run_eq, hx.run_status hconsensus, hsucceeded]
        · rw [hsucceeded] at hfailed
          cases hfailed
      · rintro ⟨hallowed, x, hmem, hsucceeded, hid⟩
        obtain ⟨log, -, hdone⟩ := hx.candidates.done_of_mem hmem
        have hcarries : x.results.isSome = true := by
          rcases hdone.verdict with hverdict | hverdict
          · exact hverdict.2.2.1
          · rw [hsucceeded] at hverdict
            cases hverdict.1
        obtain ⟨m, hm⟩ := Option.isSome_iff_exists.mp hcarries
        have hadopted := adopted_of_releases (hx.candidates.ids_nodup (group_valid hx.group_eq)) hmem hm
          hallowed hid
        rcases settle_cases hx.settled with ⟨-, -, -, -, -, hstatus, -⟩ | ⟨hnone, -⟩
        · exact hstatus
        · rw [hadopted] at hnone
          cases hnone

/-- A stage without a consensus result executed nothing, and did not succeed. -/
theorem StageDone.without_consensus (h : StageDone env runner batch sequence role s report s' es)
    (hnone : report.consensus = none) : report.allRuns = [] ∧ report.trace.status ≠ .succeeded := by
  unfold StageReport.allRuns
  cases h.outcome with
  | skipped _ _ _ _ _ htrace _ hnothing =>
    rw [hnothing.1, hnothing.2.1, htrace.1]
    exact ⟨rfl, by decide⟩
  | unconfigured _ _ _ _ _ _ htrace _ hnothing =>
    rw [hnothing.1, hnothing.2.1, htrace.1]
    exact ⟨rfl, by decide⟩
  | executed _ hx =>
    obtain ⟨record, hconsensus, -⟩ := hx.consensus_eq
    rw [hnone] at hconsensus
    cases hconsensus

/-- The run and the trace of a stage have one status. -/
theorem StageDone.run_status (h : StageDone env runner batch sequence role s report s' es)
    (hconsensus : env.RunsConsensus) : report.run.status = report.trace.status := by
  cases h.outcome with
  | skipped _ _ _ hstatus _ htrace => rw [hstatus, htrace.1]
  | unconfigured _ _ _ _ hstatus _ htrace => rw [hstatus, htrace.1]
  | executed _ hx => rw [hx.run_status hconsensus, hx.status_eq]

end Stage

/-! ## The records agree -/

section Agree

variable (result : SessionRunResult) (role : PipelineModelRole)

/-- The entries of the session's four lists that carry the role. -/
def gatesOf : List StageGateRecord := result.gateRecords.filter (·.role = role.stageRole)

def tracesOf : List WorkerStageTraceV2 := result.stageTraces.filter (·.stageRole = role.stageRole)

/-- The runs of the stage's candidates and of its judge. -/
def candidateRunsOf : List WorkerModelCandidateRunV2 :=
  result.candidateRuns.filter (·.stageRole = role.stageRole)

def consensusOf : List WorkerConsensusResultV2 :=
  result.consensusResults.filter (·.stageRole = role.stageRole)

/-- What a consensus result says of the stage it is of: of its candidates' runs `runs`, in order, of
    its judge, and of the status of its trace. -/
structure ConsensusSays (runner : SessionRunner) (trace : WorkerStageTraceV2)
    (record : WorkerConsensusResultV2) : Prop where
  candidates : record.candidateIds =
    ((candidateRunsOf result role).filter (fun run => run.modelRole ≠ .consensusJudge)).map (·.candidateId)
  ranked : ∃ group, runner.group? role = some group ∧ record.candidateIds <+: group.candidateIds
  judged : record.adjudicatorCandidateId.isSome = true ↔
    ∃ run ∈ candidateRunsOf result role, run.modelRole = .consensusJudge
  succeeded : trace.status = .succeeded ↔ record.downstreamAllowed = true ∧
    ∃ run ∈ candidateRunsOf result role, run.modelRole ≠ .consensusJudge ∧ run.status = .succeeded ∧
      record.selectedCandidateId = some run.candidateId

/-- What the records of one stage say of each other. -/
structure StageRecordsAgree (runner : SessionRunner) : Prop where
  /-- One preflight record, and a postflight record exactly if that lets the stage start. -/
  gates : ∃ preflight postflight, gatesOf result role = preflight :: Option.toList postflight ∧
    preflight.phase = .preflight ∧ (∀ record ∈ postflight, record.phase = .postflight) ∧
    (postflight.isSome = true ↔ preflight.decision = .proceed) ∧
    ((consensusOf result role).length = if preflight.decision = .proceed ∧ (runner.group? role).isSome then 1
      else 0)
  /-- One trace, which asks for a retry exactly if a record does. -/
  trace : ∃ trace, tracesOf result role = [trace] ∧
    (trace.retryable = true ↔ ∃ record ∈ gatesOf result role, record.decision = .failedRetryable) ∧
    (consensusOf result role = [] → candidateRunsOf result role = [] ∧ trace.status ≠ .succeeded) ∧
    ∀ record ∈ consensusOf result role, ConsensusSays result role runner trace record

/-- **What the records of a session say of each other.** -/
structure RecordsAgree (runner : SessionRunner) : Prop where
  run_roles : result.output.modelRuns.map ModelRun.modelRole = roleOrder
  trace_roles : result.stageTraces.map (·.stageRole) = roleOrder.map PipelineModelRole.stageRole
  sequences : result.stageTraces.map (·.sequence) = [1, 2, 3, 4]
  statuses : result.stageTraces.map (·.status) = result.output.modelRuns.map ModelRun.status
  stages : ∀ role, StageRecordsAgree result role runner

end Agree

/-- The report of a stage is found back in the session's lists by its role. -/
theorem exists_report (h : SessionDone env runner batch w final result) (role : PipelineModelRole) :
    ∃ sequence report, ReportOf env runner batch (sequence, role) report ∧
      report ∈ stageReports env runner batch w ∧ gatesOf result role = report.gates ∧
      tracesOf result role = [report.trace] ∧ candidateRunsOf result role = report.allRuns ∧
      consensusOf result role = report.consensus.toList := by
  have hroles : List.Forall₂ (fun role report => ∃ sequence, ReportOf env runner batch (sequence, role) report)
      (numberedRoles.map Prod.snd) (stageReports env runner batch w) := by
    rw [List.forall₂_map_left_iff]
    exact h.reports.imp fun i report hreport => ⟨i.1, hreport⟩
  obtain ⟨before, report, after, hsplit, ⟨sequence, hreport⟩, hothers⟩ :=
    exists_split hroles (by decide) (mem_roleOrder role)
  refine ⟨sequence, report, hreport, by rw [hsplit]; simp, ?_⟩
  -- every list of the session is made of the reports' entries, which carry their stage
  have hfilter : ∀ {κ : Type} (f : StageReport → List κ) (tag : κ → StageRole),
      (∀ sequence role s report s' es, StageDone env runner batch sequence role s report s' es →
        ∀ x ∈ f report, tag x = role.stageRole) →
      ((stageReports env runner batch w).flatMap f).filter (fun x => tag x = role.stageRole) = f report := by
    intro κ f tag htag
    rw [hsplit]
    refine filter_flatMap_split (R := fun stage report => ∃ role, stage = role.stageRole ∧
      ∃ sequence, ReportOf env runner batch (sequence, role) report) f ?_ ⟨role, rfl, sequence, hreport⟩ ?_
    · rintro stage report ⟨role, rfl, sequence, s, s', es, hdone⟩
      exact htag _ _ _ _ _ _ hdone
    · intro other hother
      obtain ⟨j, hne, hj⟩ := hothers other hother
      exact ⟨j.stageRole, fun heq => hne (PipelineModelRole.stageRole_injective heq), j, rfl, hj⟩
  refine ⟨?_, ?_, ?_, ?_⟩
  · rw [gatesOf, h.gateRecords_eq]
    exact hfilter StageReport.gates _ fun _ _ _ _ _ _ hdone => hdone.gates_role
  · rw [tracesOf, h.stageTraces_eq, List.map_eq_flatMap]
    refine hfilter (fun report => [report.trace]) _ ?_
    intro _ _ _ _ _ _ hdone trace htrace
    obtain rfl := List.mem_singleton.mp htrace
    exact hdone.trace_role
  · rw [candidateRunsOf, h.candidateRuns_eq]
    exact hfilter StageReport.allRuns _ fun _ _ _ _ _ _ hdone => hdone.allRuns_role
  · rw [consensusOf, h.consensusResults_eq]
    exact hfilter (fun report => report.consensus.toList) _ fun _ _ _ _ _ _ hdone => hdone.consensus_role

/-- The report of the stage says it of its own records; `exists_report` carries it over to the lists of the
    session. -/
theorem stageRecordsAgree (h : SessionDone env runner batch w final result)
    (hconsensus : env.RunsConsensus) (role : PipelineModelRole) : StageRecordsAgree result role runner := by
  obtain ⟨sequence, report, ⟨s, s', es, hdone⟩, -, hgates, htraces, hruns, hresults⟩ := exists_report h role
  constructor
  · refine ⟨report.preflight, report.postflight, hgates, hdone.preflight_role.2, ?_, hdone.postflight_iff, ?_⟩
    · intro record hrecord
      exact (hdone.postflight_role record hrecord).2
    · rw [hresults]
      split
      · rename_i hstarts
        obtain ⟨record, hrecord⟩ := Option.isSome_iff_exists.mp (hdone.consensus_iff.mpr hstarts)
        rw [hrecord]
        rfl
      · rename_i hnot
        have hnone : report.consensus = none := by
          rw [← Option.not_isSome_iff_eq_none]
          exact fun hsome => hnot (hdone.consensus_iff.mp hsome)
        rw [hnone]
        rfl
  · refine ⟨report.trace, htraces, ?_, ?_, ?_⟩
    · rw [hgates]
      exact trace_retryable_iff hdone
    · intro hnil
      rw [hresults] at hnil
      rw [hruns]
      exact hdone.without_consensus (Option.toList_eq_nil_iff.mp hnil)
    · intro record hrecord
      rw [hresults] at hrecord
      obtain ⟨hids, hranked, hjudge, hstatus⟩ :=
        hdone.consensus_says hconsensus record (Option.mem_toList.mp hrecord)
      refine ⟨?_, hranked, ?_, ?_⟩
      · rw [hruns, hdone.filter_candidates, hids, List.map_map]
        refine List.map_congr_left ?_
        intro x hx
        exact ((hdone.runs_role.1 x hx).2.2.1).symm
      · rw [hjudge, hruns]
        exact hdone.exists_judge_iff.symm
      · rw [hstatus, hruns]
        refine and_congr_right fun _ => ?_
        constructor
        · rintro ⟨x, hx, hsucceeded, hselected⟩
          obtain ⟨-, hcandidate, hid, hrun⟩ := hdone.runs_role.1 x hx
          refine ⟨x.candidateRun, List.mem_append_left _ (List.mem_map_of_mem hx), hcandidate, ?_, ?_⟩
          · rw [hrun, hsucceeded]
          · rw [hid, hselected]
        · rintro ⟨run, hmem, hcandidate, hsucceeded, hselected⟩
          rcases List.mem_append.mp hmem with hmem | hmem
          · obtain ⟨x, hx, rfl⟩ := List.mem_map.mp hmem
            obtain ⟨-, -, hid, hrun⟩ := hdone.runs_role.1 x hx
            refine ⟨x, hx, ?_, ?_⟩
            · rw [← hrun, hsucceeded]
            · rw [hselected, hid]
          · obtain ⟨judge, hjudge, rfl⟩ := List.mem_map.mp hmem
            exact absurd (hdone.runs_role.2 judge (Option.mem_toList.mp hjudge)).2 hcandidate

/-- **The records of a session agree**, in every run that returned. -/
theorem session_records_agree (hconsensus : env.RunsConsensus)
    (hresult : (runWithTrace env runner batch w ()).result = .ok result) : RecordsAgree result runner := by
  obtain ⟨final, h⟩ := runWithTrace_ok hresult
  have hmap : ∀ {κ : Type} (f : StageReport → κ) (g : Nat × PipelineModelRole → κ),
      (∀ i report, ReportOf env runner batch i report → f report = g i) →
      (stageReports env runner batch w).map f = numberedRoles.map g := by
    intro κ f g hfg
    have hforall := h.reports
    revert hforall
    generalize stageReports env runner batch w = reports
    generalize numberedRoles = indices
    intro hforall
    induction hforall with
    | nil => rfl
    | cons hreport _ ih => rw [List.map_cons, List.map_cons, ih, hfg _ _ hreport]
  refine ⟨?_, ?_, ?_, ?_, stageRecordsAgree h hconsensus⟩
  · rw [h.modelRuns_eq, List.map_map]
    exact hmap _ Prod.snd fun i report ⟨_, _, _, hdone⟩ => hdone.run_role
  · rw [h.stageTraces_eq, List.map_map]
    exact hmap _ (fun i => i.2.stageRole) fun i report ⟨_, _, _, hdone⟩ => hdone.trace_role
  · rw [h.stageTraces_eq, List.map_map]
    exact hmap _ Prod.fst fun i report ⟨_, _, _, hdone⟩ => hdone.trace_sequence
  · rw [h.stageTraces_eq, h.modelRuns_eq, List.map_map, List.map_map]
    refine List.map_congr_left ?_
    intro report hreport
    obtain ⟨p, -, -, hdone⟩ := h.pass_of_report hreport
    exact (hdone.run_status hconsensus).symm

/-- The recognizer failed, the others did not: the records agree. -/
theorem session_records_agree_asrFails :
    ∃ result, (runWithTrace (Sample.asrFails.environment acceptingModels Sample.digest) Sample.runner
        Sample.batch 0 ()).result = .ok result ∧ RecordsAgree result Sample.runner := by
  obtain ⟨result, hresult⟩ := exists_ok (r := (runWithTrace (Sample.asrFails.environment acceptingModels
    Sample.digest) Sample.runner Sample.batch 0 ()).result) (by decide +kernel)
  exact ⟨result, hresult, session_records_agree ⟨_, rfl⟩ hresult⟩

/-! ## What the errors tell -/

/-- An entry of the errors names a stage: by itself, or after one of the two heads. -/
def NamesRole (role : PipelineModelRole) (entry : String) : Prop :=
  ∃ head ∈ ["", "consensus:", "gate:"], ∃ rest, entry = head ++ role.value ++ ":" ++ rest

/-- The entries `gate:…`. -/
def IsGateEntry (entry : String) : Prop := ∃ rest, entry = "gate:" ++ rest

/-- What makes a stage one that went wrong. -/
structure StageDegraded (result : SessionRunResult) (role : PipelineModelRole) : Prop where
  shown : (∃ run ∈ result.output.modelRuns, run.modelRole = role ∧
      (run.status = .failed ∨ run.status = .skipped ∧ run.errorCode.isSome = true)) ∨
    (∃ trace ∈ tracesOf result role, trace.status = .failed) ∨
    ∃ record ∈ gatesOf result role, record.decision = .humanReview ∨ record.decision = .failedRetryable ∨
      record.decision = .failedTerminal

/-- **No degradation is silent.** -/
structure DegradationNamed (result : SessionRunResult) : Prop where
  named : ∀ role, StageDegraded result role → ∃ entry ∈ result.output.validationErrors, NamesRole role entry
  nonempty : result.output.status ≠ .succeeded → result.output.validationErrors ≠ []
  gates_once : ∀ entry, IsGateEntry entry → result.output.validationErrors.count entry ≤ 1

section Entries

variable {role : PipelineModelRole} {errors plain : List String} {postflight : StageGateRecord}

/-- A gate entry begins with a `g`; that is enough to tell it from the others. -/
theorem IsGateEntry.head {entry : String} (h : IsGateEntry entry) : entry.toList.head? = some 'g' := by
  obtain ⟨rest, rfl⟩ := h
  rw [String.toList_append]
  rfl

/-- No role is spelled with the head of a gate entry. -/
theorem not_isGateEntry_role (rest : String) : ¬ IsGateEntry (role.value ++ rest) := by
  intro h
  have hhead := h.head
  rw [String.toList_append, List.head?_append] at hhead
  cases role <;> simp [PipelineModelRole.value] at hhead

/-- An entry of the consensus is none of a gate. -/
theorem not_isGateEntry_consensus (rest : String) : ¬ IsGateEntry ("consensus:" ++ rest) := by
  intro h
  have hhead := h.head
  rw [String.toList_append, List.head?_append] at hhead
  simp at hhead

/-- The gate entries stand once each. -/
def GatesOnce (errors : List String) : Prop := ∀ entry, IsGateEntry entry → errors.count entry ≤ 1

/-- Other entries do not count. -/
theorem GatesOnce.append (h : GatesOnce errors) (hplain : ∀ entry ∈ plain, ¬ IsGateEntry entry) :
    GatesOnce (errors ++ plain) := by
  intro entry hentry
  have hnone : plain.count entry = 0 := List.count_eq_zero.mpr fun hmem => hplain entry hmem hentry
  rw [List.count_append, hnone]
  exact h entry hentry

/-- A gate's entry is added only where it is not there yet. -/
theorem GatesOnce.withGateError (h : GatesOnce errors) : GatesOnce (withGateError role postflight errors) := by
  intro entry hentry
  unfold SessionRunner.withGateError
  dsimp only
  split
  · rename_i hadded
    rw [List.count_append, List.count_singleton]
    split
    · rename_i heq
      -- the entry is the one that is added, because it was not there
      rw [beq_iff_eq] at heq
      have hnone := List.count_eq_zero.mpr (heq ▸ hadded.2)
      omega
    · exact h entry hentry
  · exact h entry hentry

end Entries

section Stage

variable {sequence : Nat} {role : PipelineModelRole} {s s' : Session} {report : StageReport}
  {es : List (Event A)}

/-- What a stage does to the errors: it adds entries that are none of a gate, and perhaps its gate's. -/
theorem StageDone.errors_written (h : StageDone env runner batch sequence role s report s' es) :
    ∃ plain : List String, (∀ entry ∈ plain, ¬ IsGateEntry entry) ∧
      (s'.errors = s.errors ++ plain ∨
        ∃ postflight, s'.errors = withGateError role postflight (s.errors ++ plain)) := by
  cases h.outcome with
  | skipped _ _ _ _ _ _ herrors =>
    refine ⟨_, ?_, Or.inl herrors⟩
    intro entry hentry
    obtain ⟨code, -, rfl⟩ := List.mem_map.mp hentry
    rw [String.append_assoc]
    exact not_isGateEntry_role _
  | unconfigured _ _ _ _ _ _ _ herrors =>
    refine ⟨_, ?_, Or.inl herrors⟩
    intro entry hentry
    obtain rfl := List.mem_singleton.mp hentry
    rw [String.append_assoc]
    exact not_isGateEntry_role _
  | @executed _ group logged judgeLog first evaluation t elapsed hx =>
    refine ⟨candidateErrors role report.executions ++ judgeErrors role report.adjudication ++ t.error.toList,
      ?_, Or.inr ⟨stagePostflight runner batch role s.results t elapsed, ?_⟩⟩
    · intro entry hentry
      rcases List.mem_append.mp hentry with hentry | hentry
      · rcases List.mem_append.mp hentry with hentry | hentry
        · obtain ⟨x, -, rfl⟩ := List.mem_map.mp hentry
          simp only [String.append_assoc]
          exact not_isGateEntry_role _
        · cases hjudge : report.adjudication with
          | none =>
            rw [hjudge] at hentry
            cases hentry
          | some judge =>
            rw [hjudge, judgeErrors] at hentry
            split at hentry
            · obtain rfl := List.mem_singleton.mp hentry
              simp only [String.append_assoc]
              exact not_isGateEntry_consensus _
            · cases hentry
      · rcases settle_cases hx.settled with ⟨-, -, -, -, -, -, -, -, hnone⟩ | ⟨-, -, -, -, -, reason, -, -, hsome, -⟩
        · rw [hnone] at hentry
          cases hentry
        · rw [hsome] at hentry
          obtain rfl := List.mem_singleton.mp hentry
          simp only [String.append_assoc]
          exact not_isGateEntry_consensus _
    · rw [hx.errors_eq, List.append_assoc, List.append_assoc, List.append_assoc]

/-- A stage keeps it, however it went. -/
theorem StageDone.gatesOnce (h : StageDone env runner batch sequence role s report s' es)
    (honce : GatesOnce s.errors) : GatesOnce s'.errors := by
  obtain ⟨plain, hplain, heq | ⟨postflight, heq⟩⟩ := h.errors_written
  · rw [heq]
    exact honce.append hplain
  · rw [heq]
    exact (honce.append hplain).withGateError

/-- A stage that went wrong: its run says so, or one of its records. -/
def StageReport.Degraded (report : StageReport) : Prop :=
  report.run.status = .failed ∨ (report.run.status = .skipped ∧ report.run.errorCode.isSome = true) ∨
    ∃ record ∈ report.gates, record.decision.degraded = true

/-- **A stage that went wrong leaves an entry** that names it. -/
theorem StageDone.named (h : StageDone env runner batch sequence role s report s' es)
    (hconsensus : env.RunsConsensus) (hdegraded : report.Degraded) :
    ∃ entry ∈ s'.errors, NamesRole role entry := by
  have hpostflight : ∀ {postflight : StageGateRecord} {errors : List String},
      postflight.decision.degraded = true →
      ∃ entry ∈ withGateError role postflight errors, NamesRole role entry := by
    intro postflight errors hd
    exact ⟨_, gate_mem_withGateError hd, "gate:", by simp, _, rfl⟩
  cases h.outcome with
  | skipped hdecision hpost _ hstatus hcode _ herrors =>
    -- a preflight that skips without a code is none of the degrading ones
    obtain ⟨code, hsome⟩ : ∃ code, preflightErrorCode report.preflight = some code := by
      rw [← Option.isSome_iff_exists]
      rcases hdegraded with hfailed | ⟨-, hsome⟩ | ⟨record, hrecord, hd⟩
      · rw [hstatus] at hfailed
        cases hfailed
      · rw [← hcode]
        exact hsome
      · rw [StageReport.gates, hpost] at hrecord
        obtain rfl := List.mem_singleton.mp hrecord
        rw [preflightErrorCode]
        split
        · rename_i hnot
          rw [hnot] at hd
          cases hd
        · rfl
    refine ⟨role.value ++ ":" ++ code, ?_, "", by simp, code, by simp⟩
    rw [herrors, hsome]
    exact List.mem_append_right _ (List.mem_singleton_self _)
  | unconfigured _ _ _ _ _ _ _ herrors =>
    refine ⟨role.value ++ ":" ++ missingModelErrorCode role, ?_, "", by simp, missingModelErrorCode role, by simp⟩
    rw [herrors]
    exact List.mem_append_right _ (List.mem_singleton_self _)
  | @executed _ group logged judgeLog first evaluation t elapsed hx =>
    rw [hx.errors_eq]
    refine hpostflight ?_
    have hrejected : report.run.status = .failed →
        (stagePostflight runner batch role s.results t elapsed).decision.degraded = true := by
      intro hfailed
      obtain ⟨record, hrecord, hd⟩ := failed_run_rejected hconsensus h hfailed
      rw [hx.postflight_eq] at hrecord
      obtain rfl := Option.some.inj hrecord
      exact hd
    rcases hdegraded with hfailed | ⟨hskipped, -⟩ | ⟨record, hrecord, hd⟩
    · exact hrejected hfailed
    · -- a stage that executed is not skipped
      have hstatus := (hx.run_status hconsensus).symm.trans hskipped
      rcases hx.status_cases with ht | ht
      · rw [ht] at hstatus
        cases hstatus
      · rw [ht] at hstatus
        cases hstatus
    · rcases List.mem_cons.mp hrecord with rfl | hrecord
      · rename_i hproceed
        rw [hproceed] at hd
        cases hd
      · rw [hx.postflight_eq] at hrecord
        obtain rfl := List.mem_singleton.mp hrecord
        exact hd

end Stage

/-- The entries of a stage that went wrong are still there at the end. -/
theorem SessionDone.named (h : SessionDone env runner batch w final result)
    (hconsensus : env.RunsConsensus) {report : StageReport}
    (hreport : report ∈ stageReports env runner batch w) (hdegraded : report.Degraded) :
    ∃ entry ∈ result.output.validationErrors, NamesRole report.run.modelRole entry := by
  obtain ⟨p, hp, -, hdone⟩ := h.pass_of_report hreport
  obtain ⟨entry, hentry, hnames⟩ := hdone.named hconsensus hdegraded
  refine ⟨entry, ?_, hdone.run_role ▸ hnames⟩
  rw [h.result_of.errors_eq]
  refine h.linked.eventually (I := fun s => entry ∈ s.errors) ?_ p hp hentry
  intro q hq hbefore
  obtain ⟨report', -, hdone'⟩ := h.stageDone hq
  exact hdone'.errors_subset hbefore

/-- **No degradation is silent**, in every run that returned. -/
theorem session_names_degradation (hconsensus : env.RunsConsensus)
    (hresult : (runWithTrace env runner batch w ()).result = .ok result) : DegradationNamed result := by
  obtain ⟨final, h⟩ := runWithTrace_ok hresult
  constructor
  · intro role hdegraded
    obtain ⟨sequence, report, ⟨s, s', es, hdone⟩, hreport, hgates, htraces, -, -⟩ := exists_report h role
    suffices hd : ∃ report ∈ stageReports env runner batch w, report.run.modelRole = role ∧ report.Degraded by
      obtain ⟨report, hreport, rfl, hd⟩ := hd
      exact h.named hconsensus hreport hd
    rcases hdegraded.shown with ⟨run, hrun, hrole, hbad⟩ | ⟨trace, htrace, hfailed⟩ | ⟨record, hrecord, hbad⟩
    · rw [h.modelRuns_eq] at hrun
      obtain ⟨report, hreport, rfl⟩ := List.mem_map.mp hrun
      refine ⟨report, hreport, hrole, ?_⟩
      rcases hbad with hfailed | hskipped
      · exact Or.inl hfailed
      · exact Or.inr (Or.inl hskipped)
    · rw [htraces] at htrace
      obtain rfl := List.mem_singleton.mp htrace
      refine ⟨report, hreport, hdone.run_role, Or.inl ?_⟩
      rw [hdone.run_status hconsensus, hfailed]
    · rw [hgates] at hrecord
      refine ⟨report, hreport, hdone.run_role, Or.inr (Or.inr ⟨record, hrecord, ?_⟩)⟩
      rcases hbad with hbad | hbad | hbad
      · rw [hbad]
        rfl
      · rw [hbad]
        rfl
      · rw [hbad]
        rfl
  · -- a session that did not succeed has a run or a record that went wrong
    intro hstatus hnil
    have hwrong : ∃ report ∈ stageReports env runner batch w, report.Degraded := by
      by_contra hnone
      refine hstatus ((status_eq_succeeded h hconsensus).mpr ⟨?_, ?_, ?_⟩)
      · intro run hrun hfailed
        rw [h.modelRuns_eq] at hrun
        obtain ⟨report, hreport, rfl⟩ := List.mem_map.mp hrun
        exact hnone ⟨report, hreport, Or.inl hfailed⟩
      · intro run hrun hskipped
        rw [h.modelRuns_eq] at hrun
        obtain ⟨report, hreport, rfl⟩ := List.mem_map.mp hrun
        by_contra hcode
        exact hnone ⟨report, hreport, Or.inr (Or.inl ⟨hskipped, Option.isSome_iff_ne_none.mpr hcode⟩)⟩
      · intro record hrecord
        rw [h.gateRecords_eq] at hrecord
        obtain ⟨report, hreport, hmem⟩ := List.mem_flatMap.mp hrecord
        by_contra hd
        exact hnone ⟨report, hreport, Or.inr (Or.inr ⟨record, hmem, Bool.of_not_eq_false hd⟩)⟩
    obtain ⟨report, hreport, hd⟩ := hwrong
    obtain ⟨entry, hentry, -⟩ := h.named hconsensus hreport hd
    rw [hnil] at hentry
    cases hentry
  · rw [h.result_of.errors_eq]
    refine (h.linked.invariant (I := fun s => GatesOnce s.errors) ?_ ?_).2
    · intro entry _
      exact Nat.zero_le _
    · intro p hp honce
      obtain ⟨report, -, hdone⟩ := h.stageDone hp
      exact hdone.gatesOnce honce

/-- The recognizer failed, and the session names it. -/
theorem session_names_degradation_asrFails :
    ∃ result, (runWithTrace (Sample.asrFails.environment acceptingModels Sample.digest) Sample.runner
        Sample.batch 0 ()).result = .ok result ∧ DegradationNamed result := by
  obtain ⟨result, hresult⟩ := exists_ok (r := (runWithTrace (Sample.asrFails.environment acceptingModels
    Sample.digest) Sample.runner Sample.batch 0 ()).result) (by decide +kernel)
  exact ⟨result, hresult, session_names_degradation ⟨_, rfl⟩ hresult⟩

end SessionRunner

end FireviewerOrchestrator
