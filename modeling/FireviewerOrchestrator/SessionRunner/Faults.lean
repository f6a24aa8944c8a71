/-
  Fault isolation: what an exception of an adapter or of the factory does to the rest of a session.

  `Isolated` says of one run what is wanted of every run: it returns, its four stages are processed,
  every adapter whose use ended in an exception is recorded as a failed candidate with an error code,
  no failure keeps the remaining candidates of its stage from being executed, and the output holds
  what the stages released.  The session has this property except in one case: the creation of a
  candidate's adapter is not inside the `try` that the rest of its use is in.
-/
import FireviewerOrchestrator.SessionRunner.Brackets
import FireviewerOrchestrator.SessionRunner.Results

set_option linter.unusedVariables false

namespace FireviewerOrchestrator

/-- The call, or the guarded attempt, ended in an exception. -/
def Event.failed {A : Type} : Event A → Bool
  | .load _ (.error _) => true
  | .attempt _ _ (.error _) => true
  | .adjudicate _ _ (.error _) => true
  | _ => false

namespace SessionRunner

open Traced Prog

variable {ω A : Type} {env : Environment ω A} {runner : SessionRunner} {batch : WorkerInput}

/-! ## What is wanted -/

/-- The last thing done with the adapter failed: nothing made up for it. -/
def EndedInException (uses : List (Event A)) : Prop := ∃ front e, uses = front ++ [e] ∧ e.failed = true

/-- The candidate is recorded as failed in its stage, with an error code. -/
def RecordedFailed (result : SessionRunResult) (role : PipelineModelRole) (candidate : ModelCandidateSpec) :
    Prop :=
  ∃ record ∈ result.candidateRuns, record.candidateId = candidate.candidateId ∧
    record.stageRole = role.stageRole ∧ record.status = .failed ∧ record.errorCode.isSome = true

/-- A creation in the log is accounted for: if it raised, or if the use of the adapter it made ended
    in an exception, then `recorded`. -/
def Accounted (log : List (Event A)) (creation : Except PyExc A → Event A) (recorded : Prop) : Prop :=
  ∃ before after, (∃ e, log = before ++ creation (.error e) :: after ∧ recorded) ∨
    ∃ a uses, log = before ++ creation (.ok a) :: (uses ++ .release a :: after) ∧
      (∀ e ∈ uses, e.used = some a) ∧ (EndedInException uses → recorded)

/-- One stage of an isolated run. -/
structure StageIsolated (runner : SessionRunner) (result : SessionRunResult) (p : StagePass ω A)
    (report : StageReport) : Prop where
  candidates : ∀ role candidate answer, Event.create role candidate answer ∈ p.events →
    Accounted p.events (Event.create role candidate) (RecordedFailed result role candidate)
  judges : ∀ role adjudicator answer, Event.createJudge role adjudicator answer ∈ p.events →
    Accounted p.events (Event.createJudge role adjudicator) (RecordedFailed result role adjudicator)
  /-- All candidates are executed, unless the first alone was enough. -/
  remaining : ∀ group, report.preflight.decision = .proceed → runner.group? (stageRoleOf p) = some group →
    report.executions.map CandidateExecution.candidate = group.candidates ∨
      ∃ x, report.executions = [x] ∧ x.results.isSome = true
  executed : ∀ x ∈ report.executions,
    ∃ answer, Event.create (stageRoleOf p) x.candidate answer ∈ p.events

variable (env runner batch) in
/-- **An isolated run.** -/
def Isolated (w : ω) : Prop :=
  ∃ result, (runWithTrace env runner batch w ()).result = .ok result ∧
    (stagePasses env runner batch w).map stageRoleOf = roleOrder ∧
    (∀ p ∈ stagePasses env runner batch w,
      ∃ report, p.Returned report ∧ StageIsolated runner result p report) ∧
    ∃ releases, List.Forall₂ (PassReleases runner) (stagePasses env runner batch w) releases ∧
      result.output.items = batch.items.map fun item => ledger item releases

/-! ## Failed uses are recorded -/

theorem last_eq_of_append {es front : List (Event A)} {e last : Event A} (h : es ++ [last] = front ++ [e]) :
    last = e := by
  have hlast := (List.append_inj' h rfl).2
  exact List.singleton_inj.mp hlast

theorem AttemptLog.failed_last {a : A} {accumulated : Dict String ItemPatch} {correction : Bool}
    {es : List (Event A)} {ended : Except PyExc (Dict String ItemPatch)}
    (h : AttemptLog a accumulated correction es ended) (before : List (Event A)) {front : List (Event A)}
    {e : Event A} (hlast : before ++ es = front ++ [e]) (he : e.failed = true) :
    ∃ raised, ended = .error raised := by
  obtain ⟨answer, rfl⟩ := h.shape
  have hattempt : before ++ [.infer a correction accumulated answer]
      ++ [.attempt a correction (ended.map fun _ => ())] = front ++ [e] := by
    rw [List.append_assoc]
    exact hlast
  obtain rfl := last_eq_of_append hattempt
  cases ended with
  | ok patches => cases he
  | error raised => exact ⟨raised, rfl⟩

/-- A use that ended in an exception leaves no patches. -/
theorem CandidateLog.patches_none {a : A} {accumulated : Dict String ItemPatch} {repairs : Nat}
    {body : List (Event A)} {usage : Usage} (h : CandidateLog a accumulated repairs body usage)
    (hended : EndedInException body) : usage.patches? = none := by
  obtain ⟨front, e, hlast, he⟩ := hended
  cases h with
  | untouched => rfl
  | loadFailed raised => rfl
  | loaded => rfl
  | @first es ended h =>
    obtain ⟨raised, rfl⟩ := h.failed_last [_] hlast he
    rfl
  | @second es es' refusal ended h _ _ h' =>
    obtain ⟨raised, rfl⟩ := h'.failed_last (.load a (.ok ()) :: es) hlast he
    rfl

theorem JudgeLog.verdict_none {a : A} {body : List (Event A)}
    {answer : Option (Except PyExc ConsensusJudgeVerdict)} (h : JudgeLog a body answer)
    (hended : EndedInException body) : verdictOf answer = none := by
  obtain ⟨front, e, hlast, he⟩ := hended
  cases h with
  | untouched => rfl
  | loadFailed raised => rfl
  | loaded => rfl
  | asked answer =>
    have hask : [.load a (.ok ())] ++ [.adjudicate a false answer] = front ++ [e] := hlast
    obtain rfl := last_eq_of_append hask
    cases answer with
    | ok verdict => cases he
    | error raised => rfl
  | corrected refusal h answer =>
    have hask : [.load a (.ok ()), .adjudicate a false (.error refusal)] ++ [.adjudicate a true answer]
        = front ++ [e] := hlast
    obtain rfl := last_eq_of_append hask
    cases answer with
    | ok verdict => cases he
    | error raised => rfl

theorem CandidateLog.used {a : A} {accumulated : Dict String ItemPatch} {repairs : Nat}
    {body : List (Event A)} {usage : Usage} (h : CandidateLog a accumulated repairs body usage) :
    ∀ e ∈ body, e.used = some a := by
  cases h with
  | untouched => simp
  | loadFailed raised => simp [Event.used]
  | loaded => simp [Event.used]
  | first h =>
    obtain ⟨answer, rfl⟩ := h.shape
    simp [Event.used]
  | second h _ _ h' =>
    obtain ⟨answer, rfl⟩ := h.shape
    obtain ⟨answer', rfl⟩ := h'.shape
    simp [Event.used]

theorem JudgeLog.used {a : A} {body : List (Event A)}
    {answer : Option (Except PyExc ConsensusJudgeVerdict)} (h : JudgeLog a body answer) :
    ∀ e ∈ body, e.used = some a := by
  cases h <;> simp [Event.used]

/-- A candidate whose adapter's use ended in an exception has a failed record. -/
theorem CandidateDone.failed {role : PipelineModelRole} {candidate : ModelCandidateSpec}
    {base : Dict String ItemResult} {repairs : Nat} {x : CandidateExecution} {es : List (Event A)}
    (h : CandidateDone role candidate base repairs x es) :
    ∃ a uses, es = .create role candidate (.ok a) :: (uses ++ [.release a]) ∧
      (∀ e ∈ uses, e.used = some a) ∧
      (EndedInException uses → x.candidateRun.status = .failed ∧ x.candidateRun.errorCode.isSome = true) := by
  obtain ⟨a, body, usage, hes, hlog, -, hsucceeded⟩ := h.log
  refine ⟨a, body, hes, hlog.used, ?_⟩
  intro hended
  have hnone := hlog.patches_none hended
  rcases h.verdict with ⟨hs, -⟩ | ⟨hs, -, hcode⟩
  · have hsome := hsucceeded hs
    rw [hnone] at hsome
    cases hsome
  · rw [h.record_status, h.record_code]
    refine ⟨hs, ?_⟩
    rcases hcode with hcode | hcode
    · rw [hcode]
      rfl
    · rw [hcode]
      rfl

/-- A judge that raised, wherever it did, has a failed record. -/
theorem AdjudicatorDone.failed {role : PipelineModelRole} {adjudicator : ModelCandidateSpec}
    {x : AdjudicatorExecution} {es : List (Event A)} (h : AdjudicatorDone env role adjudicator x es) :
    es = [] ∨ (∃ e, es = [.createJudge role adjudicator (.error e)] ∧ x.candidateRun.status = .failed ∧
        x.candidateRun.errorCode.isSome = true) ∨
      ∃ a uses, es = .createJudge role adjudicator (.ok a) :: (uses ++ [.release a]) ∧
        (∀ e ∈ uses, e.used = some a) ∧
        (EndedInException uses →
          x.candidateRun.status = .failed ∧ x.candidateRun.errorCode.isSome = true) := by
  obtain ⟨adapter, body, answer, hes, hprogress, hverdict, -⟩ := h.log
  -- without a verdict, the record is a failed one
  have hfailed : verdictOf answer = none →
      x.candidateRun.status = .failed ∧ x.candidateRun.errorCode.isSome = true := by
    intro hnone
    rcases h.status with ⟨-, -, hsome⟩ | ⟨hs, hcode⟩
    · rw [hverdict, hnone] at hsome
      cases hsome
    · refine ⟨hs, ?_⟩
      rcases hcode with hcode | hcode
      · rw [hcode]
        rfl
      · rw [hcode]
        rfl
  cases hprogress with
  | absent => exact Or.inl hes
  | refused e => exact Or.inr (Or.inl ⟨e, hes, hfailed rfl⟩)
  | created a hlog =>
    refine Or.inr (Or.inr ⟨a, _, hes, hlog.used, ?_⟩)
    intro hended
    exact hfailed (hlog.verdict_none hended)

/-! ## Each stage is isolated -/

section Stage

variable {w : ω} {final : Session} {result : SessionRunResult}

theorem mem_candidateRuns (h : SessionDone env runner batch w final result) {p : StagePass ω A}
    (hp : p ∈ stagePasses env runner batch w) {report : StageReport} (hreport : p.Returned report)
    {record : WorkerModelCandidateRunV2}
    (hr : record ∈ report.executions.map CandidateExecution.candidateRun
      ++ report.adjudication.toList.map AdjudicatorExecution.candidateRun) :
    record ∈ result.candidateRuns := by
  rw [h.candidateRuns_eq]
  exact List.mem_flatMap.mpr ⟨report, SessionDone.report_of_pass hp hreport, hr⟩

/-- Only the candidates' own logs hold creations of candidates. -/
theorem create_not_mem_judgeLog {role role' : PipelineModelRole} {group : ModelGroupSpec}
    {executions : List CandidateExecution} {first evaluation : ConsensusEvaluation}
    {x : Option AdjudicatorExecution} {es : List (Event A)}
    (h : Adjudicated env role group executions first evaluation x es) {candidate : ModelCandidateSpec}
    {answer : Except PyExc A} : Event.create role' candidate answer ∉ es := by
  have hdone : ∀ {adjudicator : ModelCandidateSpec} {x : AdjudicatorExecution},
      AdjudicatorDone env role adjudicator x es → Event.create role' candidate answer ∉ es := by
    intro adjudicator x hx hmem
    rcases hx.failed with rfl | ⟨e, rfl, -⟩ | ⟨a, uses, rfl, huses, -⟩
    · cases hmem
    · simp at hmem
    · simp only [List.mem_cons, reduceCtorEq, false_or, List.mem_append, List.not_mem_nil, or_false] at hmem
      have hused := huses _ hmem
      simp [Event.used] at hused
  cases h with
  | direct => simp
  | verdict _ _ hx => exact hdone hx
  | failed _ _ hx => exact hdone hx

theorem createJudge_not_mem_candidates {role role' : PipelineModelRole} {group : ModelGroupSpec}
    {base : Dict String ItemResult} {repairs : Nat} {xs : List CandidateExecution}
    {logged : List (CandidateExecution × List (Event A))}
    (h : CandidatesDone env role group base repairs [] group.candidates xs logged)
    {adjudicator : ModelCandidateSpec} {answer : Except PyExc A} :
    Event.createJudge role' adjudicator answer ∉ logged.flatMap Prod.snd := by
  intro hmem
  obtain ⟨q, hq, hmem⟩ := List.mem_flatMap.mp hmem
  obtain ⟨a, uses, hes, huses, -⟩ := (h.done q hq).failed
  rw [hes] at hmem
  simp only [List.mem_cons, reduceCtorEq, false_or, List.mem_append, List.not_mem_nil, or_false] at hmem
  have hused := huses _ hmem
  simp [Event.used] at hused

theorem stageIsolated (h : SessionDone env runner batch w final result) {p : StagePass ω A}
    (hp : p ∈ stagePasses env runner batch w) {report : StageReport} (hreport : p.Returned report)
    (hdone : StageDone env runner batch p.index.1 p.index.2 p.before report p.after p.events) :
    StageIsolated runner result p report := by
  -- a stage that was not executed created nothing
  have hidle : (∀ e ∈ p.events, e.isGate = true) → report.executions = [] →
      (report.preflight.decision = .proceed → runner.group? (stageRoleOf p) = none) →
      StageIsolated runner result p report := by
    intro hgates hnone hgroup
    refine ⟨?_, ?_, ?_, ?_⟩
    · intro role candidate answer hmem
      cases hgates _ hmem
    · intro role adjudicator answer hmem
      cases hgates _ hmem
    · intro group hproceed hsome
      rw [hgroup hproceed] at hsome
      cases hsome
    · rw [hnone]
      simp
  cases hdone.outcome with
  | skipped hdecision _ _ _ _ _ _ hnone hevents =>
    refine hidle ?_ hnone.1 fun hproceed => absurd hproceed hdecision
    rw [hevents]
    simp [Event.isGate]
  | unconfigured _ hgroup hpost _ _ _ _ _ hnone hevents =>
    refine hidle ?_ hnone.1 fun _ => hgroup
    rw [hevents, hpost]
    simp [Event.isGate]
  | @executed _ group logged judgeLog first evaluation t elapsed hx =>
    have hlogged : report.executions = logged.map Prod.fst := hx.candidates.executions_eq
    refine ⟨?_, ?_, ?_, ?_⟩
    · -- a creation is that of one of the executions, whose log is somewhere in the pass
      intro role candidate answer hmem
      rw [hx.events_eq] at hmem
      simp only [List.mem_cons, reduceCtorEq, false_or, List.mem_append, List.not_mem_nil, or_false] at hmem
      rcases hmem with hmem | hmem
      · obtain ⟨q, hq, hmem⟩ := List.mem_flatMap.mp hmem
        obtain ⟨a, uses, hes, huses, hended⟩ := (hx.candidates.done q hq).failed
        have hsame : role = p.index.2 ∧ candidate = q.1.candidate := by
          rw [hes] at hmem
          simp only [List.mem_cons, Event.create.injEq, List.mem_append, reduceCtorEq, List.not_mem_nil,
            or_false] at hmem
          rcases hmem with ⟨hrole, hcandidate, -⟩ | hmem
          · exact ⟨hrole, hcandidate⟩
          · have hused := huses _ hmem
            simp [Event.used] at hused
        obtain ⟨rfl, rfl⟩ := hsame
        obtain ⟨before, after, hsplit⟩ := List.append_of_mem hq
        refine ⟨.gate report.preflight :: before.flatMap Prod.snd, after.flatMap Prod.snd ++ judgeLog
          ++ [.gate (stagePostflight runner batch p.index.2 p.before.results t elapsed)],
          Or.inr ⟨a, uses, ?_, huses, ?_⟩⟩
        · rw [hx.events_eq, hsplit]
          simp [hes]
        · intro hexc
          obtain ⟨hstatus, hcode⟩ := hended hexc
          have hdone := hx.candidates.done q hq
          refine ⟨q.1.candidateRun, ?_, hdone.record_id, hdone.record_stage, hstatus, hcode⟩
          refine mem_candidateRuns h hp hreport (List.mem_append_left _ (List.mem_map.mpr ⟨q.1, ?_, rfl⟩))
          rw [hlogged]
          exact List.mem_map.mpr ⟨q, hq, rfl⟩
      · exact absurd hmem (create_not_mem_judgeLog hx.adjudicated)
    · -- a judge's creation is that of the stage's adjudication
      intro role adjudicator answer hmem
      rw [hx.events_eq] at hmem
      simp only [List.mem_cons, reduceCtorEq, false_or, List.mem_append, List.not_mem_nil, or_false] at hmem
      rcases hmem with hmem | hmem
      · exact absurd hmem (createJudge_not_mem_candidates hx.candidates)
      · have hjudged : ∀ {adj : ModelCandidateSpec} {x : AdjudicatorExecution},
            report.adjudication = some x → AdjudicatorDone env p.index.2 adj x judgeLog →
            Accounted p.events (Event.createJudge role adjudicator)
              (RecordedFailed result role adjudicator) := by
          intro adj x hadj hdone
          have hrecord : x.candidateRun.status = .failed ∧ x.candidateRun.errorCode.isSome = true →
              RecordedFailed result p.index.2 adj := by
            rintro ⟨hstatus, hcode⟩
            refine ⟨x.candidateRun, ?_, hdone.record_id, hdone.record_stage, hstatus, hcode⟩
            refine mem_candidateRuns h hp hreport (List.mem_append_right _ ?_)
            rw [hadj]
            exact List.mem_singleton_self _
          rcases hdone.failed with hnil | ⟨e, hes, hfailed⟩ | ⟨a, uses, hes, huses, hfailed⟩
          · rw [hnil] at hmem
            cases hmem
          · rw [hes, List.mem_singleton, Event.createJudge.injEq] at hmem
            obtain ⟨rfl, rfl, -⟩ := hmem
            refine ⟨.gate report.preflight :: logged.flatMap Prod.snd,
              [.gate (stagePostflight runner batch p.index.2 p.before.results t elapsed)],
              Or.inl ⟨e, ?_, hrecord hfailed⟩⟩
            rw [hx.events_eq, hes]
            simp
          · have hsame : role = p.index.2 ∧ adjudicator = adj := by
              rw [hes] at hmem
              simp only [List.mem_cons, Event.createJudge.injEq, List.mem_append, reduceCtorEq,
                List.not_mem_nil, or_false] at hmem
              rcases hmem with ⟨hrole, hadjudicator, -⟩ | hmem
              · exact ⟨hrole, hadjudicator⟩
              · have hused := huses _ hmem
                simp [Event.used] at hused
            obtain ⟨rfl, rfl⟩ := hsame
            refine ⟨.gate report.preflight :: logged.flatMap Prod.snd,
              [.gate (stagePostflight runner batch p.index.2 p.before.results t elapsed)],
              Or.inr ⟨a, uses, ?_, huses, fun hexc => hrecord (hfailed hexc)⟩⟩
            rw [hx.events_eq, hes]
            simp
        have hadjudicated := hx.adjudicated
        generalize hadj : report.adjudication = adjudication at hadjudicated
        cases hadjudicated with
        | direct => cases hmem
        | verdict _ _ hdone => exact hjudged hadj hdone
        | failed _ _ hdone => exact hjudged hadj hdone
    · intro group' _ hgroup
      obtain rfl : group = group' := Option.some.inj (hx.group_eq.symm.trans hgroup)
      rcases hx.candidates.all with hall | ⟨x, hsingle, hsettled⟩
      · refine Or.inl ?_
        rw [hlogged, List.map_map]
        exact hall
      · refine Or.inr ⟨x, hsingle, ?_⟩
        -- only a candidate that carries results settles a cascade
        cases hresults : x.results with
        | some results => rfl
        | none => simp [cascadeSettled, hresults] at hsettled
    · intro x hmem
      obtain ⟨es, hlog, hdone⟩ := hx.candidates.done_of_mem hmem
      obtain ⟨a, uses, hes, -⟩ := hdone.failed
      refine ⟨.ok a, ?_⟩
      rw [hx.events_eq]
      refine List.mem_cons_of_mem _ (List.mem_append_left _ (List.mem_append_left _ ?_))
      refine List.mem_flatMap.mpr ⟨(x, es), hlog, ?_⟩
      rw [hes]
      exact List.mem_cons_self

end Stage

/-! ## The whole run -/

theorem createRaised_of_pass {w : ω} {p : StagePass ω A} (hp : p ∈ stagePasses env runner batch w)
    (h : CreateRaised p.events) : CreateRaised (runWithTrace env runner batch w ()).events := by
  rw [runWithTrace_events, createRaised_append, createRaised_flatMap]
  exact Or.inl ⟨p, hp, h⟩

/-- A contained session in which no candidate's creation raises returns. -/
theorem returns_of_not_createRaised (hc : env.Contained) {w : ω}
    (h : ¬ CreateRaised (runWithTrace env runner batch w ()).events) :
    ∃ result, (runWithTrace env runner batch w ()).result = .ok result := by
  have hloop : ∃ result, (runLoop env runner batch w (Session.start batch)).result = .ok result := by
    unfold runLoop
    cases hr : (forEach numberedRoles (stageBody env runner batch) w (Session.start batch)).result with
    | error e =>
      -- the stage that raised did so because a creation in it had
      obtain ⟨p, hp, hpe⟩ := forEach_error _ _ _ hr
      exact absurd (createRaised_of_pass hp (createRaised_of_error hp hpe hc)) h
    | ok u =>
      rw [bind_of_ok hr]
      obtain ⟨-, hreturned, hlinked⟩ := forEach_ok _ _ _ hr
      have hkeys := (keys_of_linked hlinked hreturned).2
      have hfinish := (finishSession_sat env runner batch
        (forEach numberedRoles (stageBody env runner batch) w (Session.start batch)).locals
        (forEach numberedRoles (stageBody env runner batch) w (Session.start batch)).world).2
      cases hlast : (finishSession env runner batch
        (forEach numberedRoles (stageBody env runner batch) w (Session.start batch)).world
        (forEach numberedRoles (stageBody env runner batch) w (Session.start batch)).locals).result with
      | ok result => exact ⟨result, rfl⟩
      | error e =>
        rw [hlast] at hfinish
        refine absurd hc.models (hfinish ?_)
        intro item hitem
        rw [hkeys]
        exact List.mem_map.mpr ⟨item, hitem, rfl⟩
  obtain ⟨result, hresult⟩ := hloop
  refine ⟨result, ?_⟩
  unfold runWithTrace
  rw [finallyDo_result]
  split
  · exact hresult
  · rename_i e he
    exact absurd ⟨_, he⟩ (hc.memory.finalizeJob e)

/-- **When faults are isolated.**  With reliable memory, consensus and contract models, and whatever
    else raises: a session is isolated exactly when no creation of a candidate's adapter raises. -/
theorem isolated_iff_no_createRaised (hc : env.Contained) (w : ω) :
    Isolated env runner batch w ↔ ¬ CreateRaised (runWithTrace env runner batch w ()).events := by
  constructor
  · rintro ⟨result, hresult, -⟩ hraised
    -- a run that returned went through stages that did not raise, so no creation in them did
    obtain ⟨final, hdone⟩ := runWithTrace_ok hresult
    rw [runWithTrace_events, createRaised_append, createRaised_flatMap] at hraised
    rcases hraised with ⟨p, hp, hraised⟩ | hraised
    · obtain ⟨report, -, hstage⟩ := hdone.stageDone hp
      exact hstage.not_createRaised hraised
    · simp [createRaised_cons] at hraised
  · intro hno
    obtain ⟨result, hresult⟩ := returns_of_not_createRaised hc hno
    obtain ⟨final, hdone⟩ := runWithTrace_ok hresult
    refine ⟨result, hresult, ?_, ?_, items_eq_ledger hdone⟩
    · have hroles := congrArg (List.map Prod.snd) hdone.indices
      rw [List.map_map] at hroles
      exact hroles
    · intro p hp
      obtain ⟨report, hreport, hstage⟩ := hdone.stageDone hp
      exact ⟨report, hreport, stageIsolated hdone hp hreport hstage⟩

/-- A recognizer that raises is contained: the run is isolated. -/
theorem isolated_iff_no_createRaised_asrFails :
    Isolated (Sample.asrFails.environment acceptingModels Sample.digest) Sample.runner Sample.batch 0 ↔
      ¬ CreateRaised (runWithTrace (Sample.asrFails.environment acceptingModels Sample.digest)
        Sample.runner Sample.batch 0 ()).events :=
  isolated_iff_no_createRaised Sample.asrFails_contained 0

/-- **A detector that cannot be created** throws the whole session away, the transcript of the stage
    before it included. -/
theorem not_isolated_detectorNotCreated :
    (Sample.detectorNotCreated.environment acceptingModels Sample.digest).Contained ∧
      (runWithTrace (Sample.detectorNotCreated.environment acceptingModels Sample.digest) Sample.runner
        Sample.batch 0 ()).result = .error (.runtimeError "CUDA out of memory") ∧
      ¬ Isolated (Sample.detectorNotCreated.environment acceptingModels Sample.digest) Sample.runner
        Sample.batch 0 := by
  have hraised : (runWithTrace (Sample.detectorNotCreated.environment acceptingModels Sample.digest)
      Sample.runner Sample.batch 0 ()).result = .error (.runtimeError "CUDA out of memory") :=
    eq_error_of_raised? (by decide +kernel)
  refine ⟨Sample.detectorNotCreated_contained, hraised, ?_⟩
  rintro ⟨result, hresult, -⟩
  rw [hraised] at hresult
  cases hresult

end SessionRunner

end FireviewerOrchestrator
