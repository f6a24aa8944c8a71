/-
  What one stage of a session does, whatever the world answers.

  `StageDone` is the account of an iteration of the stage loop that did not raise: what it appended
  to each of the session's records, and which of three ways it went (`StageOutcome`): kept from
  starting by its preflight, started without a model, or executed.  `runStage_sat` proves it of the
  program; every property of a session is read off it, stage by stage.

  The account is an equation for each record: what the session had, and what this stage has added.  No
  later proof runs the program again, and none needs to know in which order the records were written.

  Of an iteration that raised, one thing is said: in a contained environment (`Environment.Contained`:
  memory, consensus and contracts do not raise, and the rest raises an `Exception` at most) a creation
  of an adapter has raised.  That the accounts of the lower levels have no such creation in their logs
  is the first section.
-/
import FireviewerOrchestrator.SessionRunner.Adjudicator

set_option linter.unusedVariables false

namespace FireviewerOrchestrator

namespace SessionRunner

open Traced Prog

variable {ω A σ : Type} {env : Environment ω A}

/-! ## Creations that raised -/

/-- `adapter_factory.create` raised at some point of the log. -/
def CreateRaised (es : List (Event A)) : Prop :=
  ∃ role candidate e, Event.create role candidate (.error e) ∈ es

/-- A creation that raised is in one part of a log or in the other. -/
theorem createRaised_append {es es' : List (Event A)} :
    CreateRaised (es ++ es') ↔ CreateRaised es ∨ CreateRaised es' := by
  simp only [CreateRaised, List.mem_append, exists_or]

@[simp] theorem not_createRaised_nil : ¬ CreateRaised ([] : List (Event A)) := by
  rintro ⟨_, _, _, h⟩
  cases h

/-- It is the first event, or among the rest. -/
theorem createRaised_cons {e : Event A} {es : List (Event A)} :
    CreateRaised (e :: es) ↔ (∃ role candidate err, e = .create role candidate (.error err)) ∨
      CreateRaised es := by
  constructor
  · rintro ⟨role, candidate, err, h⟩
    rcases List.mem_cons.mp h with h | h
    · exact Or.inl ⟨role, candidate, err, h.symm⟩
    · exact Or.inr ⟨role, candidate, err, h⟩
  · rintro (⟨role, candidate, err, rfl⟩ | ⟨role, candidate, err, h⟩)
    · exact ⟨role, candidate, err, List.mem_cons_self⟩
    · exact ⟨role, candidate, err, List.mem_cons_of_mem _ h⟩

/-- It is in the log of one of the executions. -/
theorem createRaised_flatMap {ι : Type} {xs : List ι} {f : ι → List (Event A)} :
    CreateRaised (xs.flatMap f) ↔ ∃ x ∈ xs, CreateRaised (f x) := by
  simp only [CreateRaised, List.mem_flatMap]
  constructor
  · rintro ⟨role, candidate, e, x, hx, h⟩
    exact ⟨x, hx, role, candidate, e, h⟩
  · rintro ⟨x, hx, role, candidate, e, h⟩
    exact ⟨role, candidate, e, x, hx, h⟩

/-- What a candidate does after its adapter was created creates none: its attempts, … -/
theorem AttemptLog.not_createRaised {a : A} {acc : Dict String ItemPatch} {correction : Bool}
    {es : List (Event A)} {ended : Except PyExc (Dict String ItemPatch)}
    (h : AttemptLog a acc correction es ended) : ¬ CreateRaised es := by
  cases h <;> simp [createRaised_cons]

/-- … all it does with the adapter, … -/
theorem CandidateLog.not_createRaised {a : A} {acc : Dict String ItemPatch} {repairs : Nat}
    {es : List (Event A)} {usage : Usage} (h : CandidateLog a acc repairs es usage) : ¬ CreateRaised es := by
  cases h with
  | untouched => simp
  | loadFailed e => simp [createRaised_cons]
  | loaded => simp [createRaised_cons]
  | first h => simp [createRaised_cons, h.not_createRaised]
  | second h _ _ h' => simp [createRaised_cons, createRaised_append, h.not_createRaised, h'.not_createRaised]

/-- … and the whole execution, whose creation has returned. -/
theorem CandidateDone.not_createRaised {role : PipelineModelRole} {candidate : ModelCandidateSpec}
    {base : Dict String ItemResult} {repairs : Nat} {x : CandidateExecution} {es : List (Event A)}
    (h : CandidateDone role candidate base repairs x es) : ¬ CreateRaised es := by
  obtain ⟨a, body, usage, rfl, hlog, -⟩ := h.log
  simp [createRaised_cons, createRaised_append, hlog.not_createRaised]

/-- The same for a judge: what it does with its adapter, … -/
theorem JudgeLog.not_createRaised {a : A} {es : List (Event A)}
    {answer : Option (Except PyExc ConsensusJudgeVerdict)} (h : JudgeLog a es answer) :
    ¬ CreateRaised es := by
  cases h <;> simp [createRaised_cons]

/-- … how far it comes at all, … -/
theorem JudgeProgress.not_createRaised {role : PipelineModelRole} {adjudicator : ModelCandidateSpec}
    {adapter : Option A} {es : List (Event A)} {answer : Option (Except PyExc ConsensusJudgeVerdict)}
    (h : JudgeProgress env role adjudicator adapter es answer) : ¬ CreateRaised es := by
  cases h with
  | absent => simp
  | refused e => simp [createRaised_cons]
  | created a h => simp [createRaised_cons, h.not_createRaised]

/-- … and the whole of its execution.  The creation of a judge is an event of another kind: where it raises,
    the stage goes on without a verdict. -/
theorem AdjudicatorDone.not_createRaised {role : PipelineModelRole} {adjudicator : ModelCandidateSpec}
    {x : AdjudicatorExecution} {es : List (Event A)} (h : AdjudicatorDone env role adjudicator x es) :
    ¬ CreateRaised es := by
  obtain ⟨adapter, body, answer, rfl, hprogress, -⟩ := h.log
  cases adapter <;> simp [createRaised_cons, createRaised_append, hprogress.not_createRaised]

/-! ## The candidates of a stage -/

section Stage

variable {runner : SessionRunner} {batch : WorkerInput} {sequence : Nat} {role : PipelineModelRole}

/-- The entries a stage's failed candidates add to `errors`. -/
def candidateErrors (role : PipelineModelRole) (executions : List CandidateExecution) : List String :=
  (executions.filter fun x => x.run.status = .failed).map fun x =>
    role.value ++ ":" ++ x.candidate.candidateId ++ ":" ++ formatted x.run.errorCode

/-- Entries are added execution by execution. -/
theorem candidateErrors_append (role : PipelineModelRole) (xs ys : List CandidateExecution) :
    candidateErrors role (xs ++ ys) = candidateErrors role xs ++ candidateErrors role ys := by
  simp [candidateErrors]

/-- The candidates executed, each with its own log. -/
structure CandidatesDone (env : Environment ω A) (role : PipelineModelRole) (group : ModelGroupSpec)
    (base : Dict String ItemResult) (repairs : Nat) (executions : List CandidateExecution)
    (candidates : List ModelCandidateSpec) (xs : List CandidateExecution)
    (logged : List (CandidateExecution × List (Event A))) : Prop where
  executions_eq : xs = executions ++ logged.map Prod.fst
  done : ∀ p ∈ logged, CandidateDone role p.1.candidate base repairs p.1 p.2
  in_order : logged.map (·.1.candidate) <+: candidates
  /-- All candidates are executed, unless a cascade was settled by its first. -/
  all : logged.map (·.1.candidate) = candidates ∨
    ∃ x, xs = [x] ∧ cascadeSettled env role group [x] x = true

/-- **The candidates of a stage are executed in their order**, each with its account, until all are done or
    a cascade is settled by its first.  The induction is on the candidates that are left; `executions` are
    those before them, which the settlement of a cascade looks at. -/
theorem executeCandidates_sat (group : ModelGroupSpec) (base : Dict String ItemResult) :
    ∀ (candidates : List ModelCandidateSpec) (executions : List CandidateExecution) (s : Session),
    Sat (executeCandidates env runner batch role group base executions candidates) s fun r s' es =>
      match r with
      | .ok xs => ∃ logged,
          CandidatesDone env role group base (runner.contract role).maxRepairAttempts executions candidates
            xs logged ∧
          es = logged.flatMap Prod.snd ∧
          s' = { s with
            candidateRuns := s.candidateRuns ++ logged.map (·.1.candidateRun)
            errors := s.errors ++ candidateErrors role (logged.map Prod.fst) }
      | .error _ => env.Contained → CreateRaised es := by
  intro candidates
  induction candidates with
  | nil =>
    intro executions s
    refine Sat.pure ⟨[], ⟨by simp, by simp, by simp, Or.inl rfl⟩, rfl, ?_⟩
    simp [candidateErrors]
  | cons candidate rest ih =>
    intro executions s
    rw [executeCandidates]
    refine Sat.bind (executeCandidate_sat role candidate batch base _ s) ?_ ?_
    · rintro x s₀ es ⟨hs, hdone⟩
      rw [hs]
      -- what the rest of the loop adds, once this execution is recorded
      have hstep : ∀ s₁ : Session,
          s₁ = { s with candidateRuns := s.candidateRuns ++ [x.candidateRun],
                        errors := s.errors ++ candidateErrors role [x] } →
          Sat (if cascadeSettled env role group (executions ++ [x]) x = true then pure (executions ++ [x])
            else executeCandidates env runner batch role group base (executions ++ [x]) rest) s₁
            fun r s' es' => match r with
              | .ok xs => ∃ logged,
                  CandidatesDone env role group base (runner.contract role).maxRepairAttempts executions
                    (candidate :: rest) xs logged ∧
                  es ++ es' = logged.flatMap Prod.snd ∧
                  s' = { s with
                    candidateRuns := s.candidateRuns ++ logged.map (·.1.candidateRun)
                    errors := s.errors ++ candidateErrors role (logged.map Prod.fst) }
              | .error _ => env.Contained → CreateRaised (es ++ es') := by
        rintro s₁ rfl
        by_cases hsettled : cascadeSettled env role group (executions ++ [x]) x = true
        · rw [if_pos hsettled]
          -- a cascade is only settled by the first execution
          have hnil : executions = [] := by
            simp only [cascadeSettled, Bool.and_eq_true, decide_eq_true_eq, List.length_append,
              List.length_singleton] at hsettled
            exact List.length_eq_zero_iff.mp (by omega)
          subst hnil
          refine Sat.pure ⟨[(x, es)], ⟨rfl, ?_, ?_, Or.inr ⟨x, rfl, hsettled⟩⟩, by simp, by simp⟩
          · rintro p hp
            obtain rfl := List.mem_singleton.mp hp
            rw [show x.candidate = candidate from hdone.candidate_eq]
            exact hdone
          · simp [hdone.candidate_eq]
        · rw [if_neg hsettled]
          refine (ih (executions ++ [x]) _).mono ?_
          intro r s' es' h
          cases r with
          | error e => exact fun hc => createRaised_append.mpr (Or.inr (h hc))
          | ok xs =>
            obtain ⟨logged, ⟨hxs, hall, hprefix, hcomplete⟩, rfl, rfl⟩ := h
            refine ⟨(x, es) :: logged, ⟨by simp [hxs], ?_, ?_, ?_⟩, by simp, ?_⟩
            · intro p hp
              rcases List.mem_cons.mp hp with rfl | hp
              · rw [show x.candidate = candidate from hdone.candidate_eq]
                exact hdone
              · exact hall p hp
            · simpa [hdone.candidate_eq] using hprefix
            · rcases hcomplete with hcomplete | hcascade
              · exact Or.inl (by simp [hdone.candidate_eq, hcomplete])
              · exact Or.inr hcascade
            -- the entries of this execution stand before those of the others
            · have hcons := candidateErrors_append role [x] (logged.map Prod.fst)
              rw [List.singleton_append] at hcons
              simp [hcons, List.append_assoc]
      refine Sat.modify_bind ?_
      by_cases hfailed : x.run.status = .failed
      · simp only [hfailed, if_true]
        refine Sat.modify_bind (hstep _ ?_)
        simp [candidateErrors, hfailed, hdone.candidate_eq]
      · simp only [hfailed, if_false]
        refine hstep _ ?_
        simp [candidateErrors, hfailed]
    · rintro e _ es ⟨-, habort⟩ hc
      rcases habort with ⟨e', rfl⟩ | ⟨hno, -⟩
      · exact ⟨role, candidate, e', List.mem_singleton_self _⟩
      -- the environment is contained, so that only a creation can have raised
      · exact absurd hc hno

/-! ## The judge of a stage -/

/-- How an evaluation that may ask for a judge ended: as it stands, as the judge's verdict resolves
    it, or refused because no verdict came. -/
inductive Adjudicated (env : Environment ω A) (role : PipelineModelRole) (group : ModelGroupSpec)
    (executions : List CandidateExecution) (first : ConsensusEvaluation) :
    ConsensusEvaluation → Option AdjudicatorExecution → List (Event A) → Prop
  | direct (h : first.requiresAdjudication = false) :
      Adjudicated env role group executions first first none []
  | verdict {adjudicator : ModelCandidateSpec} {x : AdjudicatorExecution} {v : ConsensusJudgeVerdict}
      {evaluation : ConsensusEvaluation} {es : List (Event A)} (h : first.requiresAdjudication = true)
      (hadjudicator : group.adjudicator = some adjudicator)
      (hdone : AdjudicatorDone env role adjudicator x es) (hverdict : x.verdict = some v)
      (happly : env.consensus.applyAdjudication first v
        ((successfulCandidates executions).map (·.candidateId)) group.adjudicationConfidenceThreshold
        group.disagreementDecision = .ok evaluation) :
      Adjudicated env role group executions first evaluation (some x) es
  | failed {adjudicator : ModelCandidateSpec} {x : AdjudicatorExecution} {es : List (Event A)}
      (h : first.requiresAdjudication = true) (hadjudicator : group.adjudicator = some adjudicator)
      (hdone : AdjudicatorDone env role adjudicator x es) (hverdict : x.verdict = none) :
      Adjudicated env role group executions first
        (adjudicatorFailed group first x.candidateRun.errorCode) (some x) es

/-- The entry a judge without a verdict adds to `errors`. -/
def judgeErrors (role : PipelineModelRole) : Option AdjudicatorExecution → List String
  | some x =>
      if x.verdict.isNone then
        ["consensus:" ++ role.value ++ ":adjudicator:" ++ formatted x.candidateRun.errorCode]
      else []
  | none => []

/-- Whether a judge was asked or not, its part of the log has no creation that raised. -/
theorem Adjudicated.not_createRaised {group : ModelGroupSpec} {executions : List CandidateExecution}
    {first evaluation : ConsensusEvaluation} {x : Option AdjudicatorExecution} {es : List (Event A)}
    (h : Adjudicated env role group executions first evaluation x es) : ¬ CreateRaised es := by
  cases h with
  | direct => simp
  | verdict _ _ hdone => exact hdone.not_createRaised
  | failed _ _ hdone => exact hdone.not_createRaised

/-- **A judge is asked exactly when the evaluation wants one.**  It raises where the group has no judge,
    which `Contained` excludes of an evaluation, or where the verdict cannot be applied. -/
theorem adjudicateStage_sat (group : ModelGroupSpec) (executions : List CandidateExecution)
    (first : ConsensusEvaluation) (s : Session) :
    Sat (adjudicateStage env batch role group executions first) s fun r s' es => match r with
      | .ok (evaluation, x) => Adjudicated env role group executions first evaluation x es ∧
          s' = { s with
            candidateRuns := s.candidateRuns ++ x.toList.map AdjudicatorExecution.candidateRun
            errors := s.errors ++ judgeErrors role x }
      | .error _ =>
          (first.requiresAdjudication = true → group.adjudicator.isSome = true) → ¬ env.Contained := by
  unfold adjudicateStage
  cases hrequires : first.requiresAdjudication with
  | false =>
    simp only [Bool.false_eq_true, if_false]
    exact Sat.pure ⟨.direct hrequires, by simp [judgeErrors]⟩
  | true =>
    simp only [if_true]
    cases hadjudicator : group.adjudicator with
    | none => exact Sat.raise fun h => absurd (h trivial) (by simp)
    | some adjudicator =>
      refine Sat.bind (executeAdjudicator_sat role adjudicator batch _ _ s) ?_ ?_
      · rintro x s₀ es ⟨hs, hdone⟩
        rw [hs]
        refine Sat.modify_bind ?_
        cases hverdict : x.verdict with
        | some v =>
          refine Sat.ofExcept_bind (fun evaluation he => Sat.pure ?_) fun e he => ?_
          · exact ⟨by simpa using Adjudicated.verdict hrequires hadjudicator hdone hverdict he,
              by simp [judgeErrors, hverdict]⟩
          · intro _ hc
            -- in a contained environment a verdict can be applied where one was wanted
            obtain ⟨_, hok, -⟩ := hc.consensus.applyAdjudication first v
              ((successfulCandidates executions).map (·.candidateId))
              group.adjudicationConfidenceThreshold group.disagreementDecision hrequires
            rw [hok] at he
            cases he
        | none =>
          refine Sat.modify_bind (Sat.pure ?_)
          exact ⟨by simpa using Adjudicated.failed hrequires hadjudicator hdone hverdict,
            by simp [judgeErrors, hverdict]⟩
      · rintro e _ es ⟨-, habort⟩ _
        exact habort.1

/-! ## Records of a stage -/

/-- The trace a stage appends. -/
def stageTraceRecord (runner : SessionRunner) (sequence : Nat) (role : PipelineModelRole)
    (status : RunStatus) (retryable : Bool) (preflight : StageGateRecord)
    (postflight : Option StageGateRecord) (attempts : List WorkerStageAttemptV2) : WorkerStageTraceV2 where
  stageRole := (runner.contract role).role
  contractId := (runner.contract role).contractId
  sequence := sequence
  status := status
  retryable := retryable
  preflight := traceGate preflight
  postflight := postflight.map traceGate
  attempts := attempts

/-- A gate of a trace is refused by its contract only. -/
theorem constructGate_sat (record : Option StageGateRecord) (s : Session) :
    Sat (constructGate env record) s fun r s' es => s' = s ∧ es = [] ∧ match r with
      | .ok gate => gate = record.map traceGate
      | .error _ => ¬ env.models.Accepting := by
  cases record with
  | none => exact Sat.pure ⟨rfl, rfl, rfl⟩
  | some record =>
    refine construct_bind (Sat.pure ⟨rfl, rfl, rfl⟩) fun e he => ⟨rfl, rfl, fun h => ?_⟩
    rw [h.stageGate] at he
    cases he

/-- A trace is appended as it was built, or its contract refuses it.  Up to three records are built for it,
    all before the session changes. -/
theorem appendTrace_sat (status : RunStatus) (retryable : Bool) (preflight : StageGateRecord)
    (postflight : Option StageGateRecord) (attempts : List WorkerStageAttemptV2) (s : Session) :
    Sat (appendTrace env runner sequence role status retryable preflight postflight attempts) s
      fun r s' es => es = [] ∧ match r with
        | .ok trace =>
            trace = stageTraceRecord runner sequence role status retryable preflight postflight attempts ∧
              s' = { s with stageTraces := s.stageTraces ++ [trace] }
        | .error _ => ¬ env.models.Accepting := by
  unfold appendTrace
  refine construct_bind (Sat.bind (constructGate_sat postflight s) ?_ ?_) fun e he => ⟨rfl, fun h => ?_⟩
  · rintro gate s₀ _ ⟨hs, rfl, hgate⟩
    obtain rfl : gate = postflight.map traceGate := hgate
    rw [hs]
    refine construct_bind (Sat.modify_bind (Sat.pure ⟨rfl, rfl, rfl⟩)) fun e he => ⟨rfl, fun h => ?_⟩
    rw [h.stageTrace] at he
    cases he
  · rintro e _ _ ⟨-, rfl, hno⟩
    exact ⟨rfl, hno⟩
  · rw [h.stageGate] at he
    cases he

/-- The run of a stage that did not execute. -/
theorem appendSkippedRun_sat (model : Option ModelSpec) (moment : DateTime) (code : Option String)
    (s : Session) :
    Sat (appendSkippedRun env role model moment code) s fun r s' es => es = [] ∧ match r with
      | .ok run => (run.modelRole = role ∧ run.status = .skipped ∧ run.errorCode = code) ∧
          s' = { s with runs := s.runs ++ [run] }
      | .error _ => ¬ env.models.Accepting := by
  unfold appendSkippedRun
  refine construct_bind (Sat.modify_bind (Sat.pure ⟨rfl, ⟨rfl, rfl, rfl⟩, rfl⟩)) fun e he => ⟨rfl, fun h => ?_⟩
  rw [h.modelRun] at he
  cases he

/-- The record of the evaluation, with the executions it was made of. -/
theorem appendConsensus_sat (group : ModelGroupSpec) (executions : List CandidateExecution)
    (evaluation : ConsensusEvaluation) (adjudicatorId : Option String) (s : Session) :
    Sat (appendConsensus env role group executions evaluation adjudicatorId) s fun r s' es =>
      es = [] ∧ match r with
        | .ok record => (record.stageRole = role.stageRole ∧ record.decision = evaluation.decision ∧
              record.downstreamAllowed = evaluation.downstreamAllowed ∧
              record.selectedCandidateId = evaluation.selectedCandidateId ∧
              record.candidateIds = executions.map (·.candidate.candidateId) ∧
              record.adjudicatorCandidateId = adjudicatorId ∧
              record.reasonCodes = evaluation.reasonCodes) ∧
            s' = { s with consensusResults := s.consensusResults ++ [record] }
        | .error _ => ¬ env.models.Accepting := by
  unfold appendConsensus
  refine now_bind fun evaluatedAt => construct_bind (Sat.modify_bind (Sat.pure ⟨rfl, ?_, rfl⟩)) fun e he =>
    ⟨rfl, fun h => ?_⟩
  · exact ⟨rfl, rfl, rfl, rfl, rfl, rfl, rfl⟩
  · rw [h.consensusResult] at he
    cases he

/-! ## The settlement of a stage -/

/-- The map a stage adopts is the one its selected execution carries. -/
theorem adopted_eq_some {executions : List CandidateExecution} {evaluation : ConsensusEvaluation}
    {x : CandidateExecution} {m : Dict String ItemResult} (h : adopted executions evaluation = some (x, m)) :
    evaluation.downstreamAllowed = true ∧ x ∈ executions ∧
      evaluation.selectedCandidateId = some x.candidate.candidateId ∧ x.results = some m := by
  unfold adopted at h
  by_cases hallowed : evaluation.downstreamAllowed = true
  · rw [if_pos hallowed, Option.bind_eq_some_iff] at h
    obtain ⟨y, hy, hm⟩ := h
    rw [Option.map_eq_some_iff] at hm
    obtain ⟨m', hm', heq⟩ := hm
    cases heq
    refine ⟨hallowed, List.mem_of_find?_eq_some hy, ?_, hm'⟩
    have := List.find?_some hy
    simp only [beq_iff_eq] at this
    exact this.symm
  · rw [if_neg hallowed] at h
    cases h

/-- **The two ways a stage is settled**: a selected execution's map, run and attempts, or the map as
    it was, with an error and a failure. -/
theorem settle_cases {results : Dict String ItemResult} {executions : List CandidateExecution}
    {evaluation : ConsensusEvaluation} {t : Settlement}
    (h : settle role results executions evaluation = .ok t) :
    (∃ x m, adopted executions evaluation = some (x, m) ∧ t.results = m ∧ t.run = x.run ∧
        t.status = .succeeded ∧ t.errorCode = none ∧ t.attempts = x.attempts ∧ t.error = none) ∨
      (adopted executions evaluation = none ∧ t.results = results ∧ t.status = .failed ∧
        ∃ representative rest reason, executions = representative :: rest ∧
          evaluation.reasonCodes.head? = some reason ∧
          t.error = some ("consensus:" ++ role.value ++ ":" ++ reason) ∧
          ((successfulCandidates executions = [] ∧ t.run = representative.run ∧
              t.errorCode = representative.run.errorCode ∧ t.attempts = representative.attempts) ∨
            (successfulCandidates executions ≠ [] ∧ t.errorCode = some ("consensus_" ++ reason) ∧
              t.run = { representative.run with
                status := .failed, errorCode := some ("consensus_" ++ reason) } ∧
              t.attempts = []))) := by
  unfold settle at h
  cases hadopted : adopted executions evaluation with
  | some p =>
    obtain ⟨x, m⟩ := p
    rw [hadopted] at h
    cases h
    exact Or.inl ⟨x, m, rfl, rfl, rfl, rfl, rfl, rfl, rfl⟩
  | none =>
    rw [hadopted] at h
    cases executions with
    | nil => cases h
    | cons representative rest =>
      cases hreasons : evaluation.reasonCodes with
      | nil =>
        simp only [hreasons, firstReason, bind, Except.bind] at h
        cases h
      | cons reason reasons =>
        simp only [hreasons, firstReason, bind, Except.bind] at h
        -- the first execution stands for the stage: with its own run if none succeeded, with the run marked
        -- as failed if some did and were not admitted
        by_cases hempty : (successfulCandidates (representative :: rest)).isEmpty = true
        · rw [if_pos hempty] at h
          cases h
          exact Or.inr ⟨rfl, rfl, rfl, representative, rest, reason, rfl, rfl, rfl,
            Or.inl ⟨List.isEmpty_iff.mp hempty, rfl, rfl, rfl⟩⟩
        · rw [if_neg hempty] at h
          cases h
          exact Or.inr ⟨rfl, rfl, rfl, representative, rest, reason, rfl, rfl, rfl,
            Or.inr ⟨fun hnil => hempty (List.isEmpty_iff.mpr hnil), rfl, rfl, rfl⟩⟩

/-- A stage with an execution and a reason always settles. -/
theorem settle_eq_ok {results : Dict String ItemResult} {executions : List CandidateExecution}
    {evaluation : ConsensusEvaluation} (hexecutions : executions ≠ [])
    (hreasons : evaluation.reasonCodes ≠ []) :
    ∃ t, settle role results executions evaluation = .ok t := by
  unfold settle
  cases adopted executions evaluation with
  | some p => exact ⟨_, rfl⟩
  | none =>
    cases executions with
    | nil => exact absurd rfl hexecutions
    | cons representative rest =>
      cases hr : evaluation.reasonCodes with
      | nil => exact absurd hr hreasons
      | cons reason reasons =>
        simp only [firstReason, bind, Except.bind]
        split
        · exact ⟨_, rfl⟩
        · exact ⟨_, rfl⟩

/-! ## One stage, whole -/

/-- The record a stage that executed ends with. -/
def stagePostflight (runner : SessionRunner) (batch : WorkerInput) (role : PipelineModelRole)
    (before : Dict String ItemResult) (t : Settlement) (elapsedSeconds : ℚ) : StageGateRecord :=
  StageGateEngine.postflight (runner.contract role) (deriveCapabilities batch before)
    (deriveCapabilities batch t.results) t.status t.errorCode elapsedSeconds
    (maximumStageOutputItems role t.results)

/-- The account of a stage that executed its group's candidates. -/
structure ExecutedStage (env : Environment ω A) (runner : SessionRunner) (batch : WorkerInput)
    (role : PipelineModelRole) (s : Session) (report : StageReport) (s' : Session) (es : List (Event A))
    (group : ModelGroupSpec) (logged : List (CandidateExecution × List (Event A)))
    (judgeLog : List (Event A)) (first evaluation : ConsensusEvaluation) (t : Settlement)
    (elapsedSeconds : ℚ) : Prop where
  group_eq : runner.group? role = some group
  candidates : CandidatesDone env role group s.results (runner.contract role).maxRepairAttempts []
    group.candidates report.executions logged
  evaluated : env.consensus.evaluateConsensus role group (successfulCandidates report.executions) = .ok first
  adjudicated : Adjudicated env role group report.executions first evaluation report.adjudication judgeLog
  evaluation_eq : report.evaluation = some evaluation
  settled : settle role s.results report.executions evaluation = .ok t
  results_eq : s'.results = t.results
  run_eq : report.run = t.run
  postflight_eq : report.postflight = some (stagePostflight runner batch role s.results t elapsedSeconds)
  status_eq : report.trace.status = t.status
  retryable_eq : report.trace.retryable = decide
    ((stagePostflight runner batch role s.results t elapsedSeconds).decision = .failedRetryable)
  errors_eq : s'.errors = withGateError role (stagePostflight runner batch role s.results t elapsedSeconds)
    (s.errors ++ candidateErrors role report.executions ++ judgeErrors role report.adjudication
      ++ t.error.toList)
  consensus_eq : ∃ record, report.consensus = some record ∧ record.stageRole = role.stageRole ∧
    record.decision = evaluation.decision ∧ record.downstreamAllowed = evaluation.downstreamAllowed ∧
    record.selectedCandidateId = evaluation.selectedCandidateId ∧
    record.candidateIds = report.executions.map (·.candidate.candidateId) ∧
    record.adjudicatorCandidateId =
      report.adjudication.bind fun _ => group.adjudicator.map (·.candidateId)
  events_eq : es = .gate report.preflight :: (logged.flatMap Prod.snd ++ judgeLog
    ++ [.gate (stagePostflight runner batch role s.results t elapsedSeconds)])

/-- The three ways a stage can go. -/
inductive StageOutcome (env : Environment ω A) (runner : SessionRunner) (batch : WorkerInput)
    (role : PipelineModelRole) (s : Session) (report : StageReport) (s' : Session)
    (es : List (Event A)) : Prop
  /-- Its preflight kept it from starting. -/
  | skipped (hdecision : report.preflight.decision ≠ .proceed) (hpost : report.postflight = none)
      (hresults : s'.results = s.results) (hstatus : report.run.status = .skipped)
      (hcode : report.run.errorCode = preflightErrorCode report.preflight)
      (htrace : report.trace.status = .skipped ∧
        report.trace.retryable = decide (report.preflight.decision = .failedRetryable))
      (herrors : s'.errors = s.errors ++ (preflightErrorCode report.preflight).toList.map
        fun code => role.value ++ ":" ++ code)
      (hnone : report.executions = [] ∧ report.adjudication = none ∧ report.evaluation = none ∧
        report.consensus = none)
      (hevents : es = [.gate report.preflight]) : StageOutcome env runner batch role s report s' es
  /-- No model is configured for it. -/
  | unconfigured (hdecision : report.preflight.decision = .proceed) (hgroup : runner.group? role = none)
      (hpost : report.postflight = some (StageGateEngine.postflight (runner.contract role)
        (deriveCapabilities batch s.results) (deriveCapabilities batch s.results) .skipped
        (some (missingModelErrorCode role)) 0 0))
      (hresults : s'.results = s.results) (hstatus : report.run.status = .skipped)
      (hcode : report.run.errorCode = some (missingModelErrorCode role))
      (htrace : report.trace.status = .skipped ∧ report.trace.retryable = false)
      (herrors : s'.errors = s.errors ++ [role.value ++ ":" ++ missingModelErrorCode role])
      (hnone : report.executions = [] ∧ report.adjudication = none ∧ report.evaluation = none ∧
        report.consensus = none)
      (hevents : es = .gate report.preflight :: report.postflight.toList.map Event.gate) :
      StageOutcome env runner batch role s report s' es
  | executed (hdecision : report.preflight.decision = .proceed) {group : ModelGroupSpec}
      {logged : List (CandidateExecution × List (Event A))} {judgeLog : List (Event A)}
      {first evaluation : ConsensusEvaluation} {t : Settlement} {elapsedSeconds : ℚ}
      (h : ExecutedStage env runner batch role s report s' es group logged judgeLog first evaluation t
        elapsedSeconds) : StageOutcome env runner batch role s report s' es

/-- **The account of one iteration** of the stage loop that did not raise. -/
structure StageDone (env : Environment ω A) (runner : SessionRunner) (batch : WorkerInput) (sequence : Nat)
    (role : PipelineModelRole) (s : Session) (report : StageReport) (s' : Session)
    (es : List (Event A)) : Prop where
  preflight_eq : report.preflight = StageGateEngine.preflight (runner.contract role)
    (deriveCapabilities batch s.results) batch.items.length
  gates_eq : s'.gateRecords = s.gateRecords ++ report.preflight :: report.postflight.toList
  runs_eq : s'.runs = s.runs ++ [report.run]
  run_role : report.run.modelRole = role
  traces_eq : s'.stageTraces = s.stageTraces ++ [report.trace]
  trace_eq : report.trace = stageTraceRecord runner sequence role report.trace.status
    report.trace.retryable report.preflight report.postflight report.trace.attempts
  candidateRuns_eq : s'.candidateRuns = s.candidateRuns
    ++ report.executions.map CandidateExecution.candidateRun
    ++ report.adjudication.toList.map AdjudicatorExecution.candidateRun
  consensus_eq : s'.consensusResults = s.consensusResults ++ report.consensus.toList
  not_createRaised : ¬ CreateRaised es
  outcome : StageOutcome env runner batch role s report s' es

/-- A stage takes nothing back of what was reported before it. -/
theorem StageDone.errors_subset {sequence : Nat} {s s' : Session} {report : StageReport} {es : List (Event A)}
    (h : StageDone env runner batch sequence role s report s' es) : s.errors ⊆ s'.errors := by
  cases h.outcome with
  | skipped _ _ _ _ _ _ herrors =>
    rw [herrors]
    exact List.subset_append_left _ _
  | unconfigured _ _ _ _ _ _ _ herrors =>
    rw [herrors]
    exact List.subset_append_left _ _
  | executed _ hx =>
    rw [hx.errors_eq, List.append_assoc, List.append_assoc]
    exact fun entry hentry => subset_withGateError (List.mem_append_left _ hentry)

/-- **A stage that its preflight keeps back** leaves a skipped run, a trace without a postflight, and an
    entry where the preflight has a reason to give. -/
theorem skipStage_sat {s : Session} {preflight : StageGateRecord}
    (hpre : preflight = StageGateEngine.preflight (runner.contract role)
      (deriveCapabilities batch s.results) batch.items.length)
    (hdecision : preflight.decision ≠ .proceed) :
    Sat (skipStage env runner sequence role preflight)
      { s with gateRecords := s.gateRecords ++ [preflight] } fun r s' es => match r with
        | .ok report => StageDone env runner batch sequence role s report s' (.gate preflight :: es)
        | .error _ => ¬ env.models.Accepting := by
  unfold skipStage
  refine now_bind fun moment => ?_
  -- the entry may or may not be there; the rest is the same for both
  have hrest : ∀ s₁ : Session,
      s₁ = { s with
        gateRecords := s.gateRecords ++ [preflight]
        errors := s.errors ++ (preflightErrorCode preflight).toList.map
          fun code => role.value ++ ":" ++ code } →
      Sat (do
        let run ← appendSkippedRun env role (primarySpec (runner.group? role)) moment
          (preflightErrorCode preflight)
        let trace ← appendTrace env runner sequence role .skipped
          (preflight.decision = .failedRetryable) preflight none []
        pure ({ preflight := preflight, run := run, trace := trace } : StageReport)) s₁
        fun r s' es => match r with
          | .ok report => StageDone env runner batch sequence role s report s' (.gate preflight :: es)
          | .error _ => ¬ env.models.Accepting := by
    rintro s₁ rfl
    refine Sat.bind (appendSkippedRun_sat _ _ _ _) ?_ ?_
    · rintro run s₂ _ ⟨rfl, ⟨hrole, hstatus, hcode⟩, rfl⟩
      refine Sat.bind (appendTrace_sat _ _ _ _ _ _) ?_ ?_
      · rintro trace s₃ _ ⟨rfl, rfl, rfl⟩
        refine Sat.pure ⟨hpre, by simp, rfl, hrole, rfl, rfl, by simp, by simp, ?_, ?_⟩
        · simp [createRaised_cons]
        · exact .skipped hdecision rfl rfl hstatus hcode ⟨rfl, rfl⟩ rfl ⟨rfl, rfl, rfl, rfl⟩ (by simp)
      · rintro e s₃ _ ⟨rfl, hno⟩
        exact hno
    · rintro e s₂ _ ⟨rfl, hno⟩
      exact hno
  cases hcode : preflightErrorCode preflight with
  | none =>
    rw [hcode] at hrest
    exact hrest _ (by simp)
  | some code =>
    rw [hcode] at hrest
    exact Sat.modify_bind (hrest _ (by simp))

/-- **A stage without a model** passes its preflight and says in its postflight that nothing has run. -/
theorem unconfiguredStage_sat {s : Session} {preflight : StageGateRecord}
    (hpre : preflight = StageGateEngine.preflight (runner.contract role)
      (deriveCapabilities batch s.results) batch.items.length)
    (hdecision : preflight.decision = .proceed) (hgroup : runner.group? role = none) :
    Sat (unconfiguredStage env runner sequence role preflight (deriveCapabilities batch s.results))
      { s with gateRecords := s.gateRecords ++ [preflight] } fun r s' es => match r with
        | .ok report => StageDone env runner batch sequence role s report s' (.gate preflight :: es)
        | .error _ => ¬ env.models.Accepting := by
  unfold unconfiguredStage
  refine Sat.modify_bind (now_bind fun moment => Sat.bind (appendSkippedRun_sat _ _ _ _) ?_ ?_)
  · rintro run s₂ _ ⟨rfl, ⟨hrole, hstatus, hcode⟩, rfl⟩
    unfold appendGate
    refine Sat.bind (P := fun r s₁ es => r = .ok () ∧ s₁ = _ ∧ es = _)
      (Sat.modify_bind (Sat.emit ⟨rfl, rfl, rfl⟩)) ?_ ?_
    · rintro _ _ _ ⟨-, rfl, rfl⟩
      refine Sat.bind (appendTrace_sat _ _ _ _ _ _) ?_ ?_
      · rintro trace s₃ _ ⟨rfl, rfl, rfl⟩
        refine Sat.pure ⟨hpre, by simp, rfl, hrole, rfl, rfl, by simp, by simp, ?_, ?_⟩
        · simp [createRaised_cons]
        · exact .unconfigured hdecision hgroup rfl rfl hstatus hcode ⟨rfl, rfl⟩ rfl ⟨rfl, rfl, rfl, rfl⟩
            (by simp)
      · rintro e s₃ _ ⟨rfl, hno⟩
        exact hno
    · rintro _ _ _ ⟨h, -⟩
      cases h
  · rintro e s₂ _ ⟨rfl, hno⟩
    exact hno

/-- A successful candidate is an execution that has succeeded and carries a map. -/
theorem mem_successfulCandidates {executions : List CandidateExecution} {c : SuccessfulCandidate} :
    c ∈ successfulCandidates executions ↔ ∃ x ∈ executions, ∃ results, x.results = some results ∧
      x.run.status = .succeeded ∧ c = ⟨x.candidate.candidateId, results, x.repaired⟩ := by
  simp only [successfulCandidates, List.mem_filterMap]
  constructor
  · rintro ⟨x, hx, h⟩
    cases hresults : x.results with
    | none => simp [hresults] at h
    | some results =>
      by_cases hstatus : x.run.status = .succeeded
      · simp only [hresults, hstatus, if_true, Option.some.injEq] at h
        exact ⟨x, hx, results, hresults, hstatus, h.symm⟩
      · simp [hresults, hstatus] at h
  · rintro ⟨x, hx, results, hresults, hstatus, rfl⟩
    exact ⟨x, hx, by simp [hresults, hstatus]⟩

namespace CandidatesDone

variable {group : ModelGroupSpec} {base : Dict String ItemResult} {repairs : Nat}
  {xs : List CandidateExecution} {logged : List (CandidateExecution × List (Event A))}

/-- Every execution is of one of the group's candidates. -/
theorem mem_group (h : CandidatesDone env role group base repairs [] group.candidates xs logged)
    {x : CandidateExecution} (hx : x ∈ xs) : x.candidate ∈ group.candidates := by
  rw [h.executions_eq, List.nil_append, List.mem_map] at hx
  obtain ⟨p, hp, rfl⟩ := hx
  exact h.in_order.subset (List.mem_map.mpr ⟨p, hp, rfl⟩)

/-- Every execution has its account. -/
theorem done_of_mem (h : CandidatesDone env role group base repairs [] group.candidates xs logged)
    {x : CandidateExecution} (hx : x ∈ xs) : ∃ es : List (Event A), (x, es) ∈ logged ∧
      CandidateDone role x.candidate base repairs x es := by
  rw [h.executions_eq, List.nil_append, List.mem_map] at hx
  obtain ⟨p, hp, rfl⟩ := hx
  exact ⟨p.2, hp, h.done p hp⟩

/-- A group has a candidate, and the first one is always executed. -/
theorem ne_nil (h : CandidatesDone env role group base repairs [] group.candidates xs logged)
    (hgroup : group.candidates ≠ []) : xs ≠ [] := by
  rintro rfl
  -- without executions nothing is logged, and then no candidate was left
  have hlogged : logged = [] := by simpa using h.executions_eq.symm
  rcases h.all with hall | ⟨x, hx, -⟩
  · rw [hlogged] at hall
    exact hgroup (by simpa using hall.symm)
  · cases hx

/-- What is evaluated is of this group. -/
theorem successful_ids (h : CandidatesDone env role group base repairs [] group.candidates xs logged) :
    ∀ c ∈ successfulCandidates xs, c.candidateId ∈ group.candidateIds := by
  intro c hc
  obtain ⟨x, hx, results, -, -, rfl⟩ := mem_successfulCandidates.mp hc
  exact List.mem_map.mpr ⟨x.candidate, h.mem_group hx, rfl⟩

/-- Executions of one stage have distinct candidate ids, as their group has. -/
theorem ids_nodup (h : CandidatesDone env role group base repairs [] group.candidates xs logged)
    (hgroup : group.validate = .ok ()) : (xs.map fun x => x.candidate.candidateId).Nodup := by
  have hsub : (xs.map fun x => x.candidate.candidateId) <+: group.candidateIds := by
    have hmap := h.in_order.map ModelCandidateSpec.candidateId
    rw [List.map_map] at hmap
    rw [h.executions_eq, List.nil_append, List.map_map]
    exact hmap
  exact (ModelGroupSpec.candidateIds_nodup hgroup).sublist hsub.sublist

/-- No execution of the loop has a creation that raised in its log. -/
theorem not_createRaised (h : CandidatesDone env role group base repairs [] group.candidates xs logged) :
    ¬ CreateRaised (logged.flatMap Prod.snd) := by
  rw [createRaised_flatMap]
  rintro ⟨p, hp, hraised⟩
  exact (h.done p hp).not_createRaised hraised

end CandidatesDone

/-- A gate is recorded and noted in the log at once. -/
theorem appendGate_sat (record : StageGateRecord) (s : Session) :
    Sat (appendGate record : Prog ω Session PyExc (Event A) Unit) s fun r s' es =>
      r = .ok () ∧ s' = { s with gateRecords := s.gateRecords ++ [record] } ∧ es = [.gate record] := by
  unfold appendGate
  exact Sat.modify_bind (Sat.emit ⟨rfl, rfl, rfl⟩)

/-- **How an executed stage is concluded**: settled, judged by its postflight, and put into the records.  It
    raises where there is nothing to settle with, no execution or no reason, and where a contract refuses
    the trace. -/
theorem concludeStage_sat (preflight : StageGateRecord) (before : Dict String ItemResult)
    (started : ℚ) (executions : List CandidateExecution) (evaluation : ConsensusEvaluation)
    (x : Option AdjudicatorExecution) (consensus : WorkerConsensusResultV2) (s : Session) :
    Sat (concludeStage env runner batch sequence role preflight (deriveCapabilities batch before) started
      executions evaluation x consensus) s fun r s' es => match r with
      | .ok report => ∃ t elapsed,
          settle role s.results executions evaluation = .ok t ∧
          report = { preflight := preflight
                     postflight := some (stagePostflight runner batch role before t elapsed)
                     run := t.run
                     trace := stageTraceRecord runner sequence role t.status
                       ((stagePostflight runner batch role before t elapsed).decision = .failedRetryable)
                       preflight (some (stagePostflight runner batch role before t elapsed)) t.attempts
                     executions := executions, adjudication := x, evaluation := some evaluation
                     consensus := some consensus } ∧
          s' = { s with
            results := t.results
            errors := withGateError role (stagePostflight runner batch role before t elapsed)
              (s.errors ++ t.error.toList)
            runs := s.runs ++ [t.run]
            gateRecords := s.gateRecords ++ [stagePostflight runner batch role before t elapsed]
            stageTraces := s.stageTraces ++ [report.trace] } ∧
          es = [.gate (stagePostflight runner batch role before t elapsed)]
      | .error _ => executions ≠ [] → evaluation.reasonCodes ≠ [] → ¬ env.models.Accepting := by
  unfold concludeStage
  refine Sat.get_bind (Sat.ofExcept_bind (fun t ht => ?_) fun e he => ?_)
  · refine Sat.modify_bind (perfCounter_bind fun finished => Sat.bind (appendGate_sat _ _) ?_ ?_)
    · rintro _ _ _ ⟨-, rfl, rfl⟩
      refine Sat.bind (appendTrace_sat _ _ _ _ _ _) ?_ ?_
      · rintro trace _ _ ⟨rfl, rfl, rfl⟩
        refine Sat.modify_bind (Sat.pure ⟨t, finished - started, ht, rfl, rfl, by simp [stagePostflight]⟩)
      · rintro e _ _ ⟨rfl, hno⟩ _ _
        exact hno
    · rintro _ _ _ ⟨h, -⟩
      cases h
  · intro hexecutions hreasons
    obtain ⟨t, ht⟩ := settle_eq_ok hexecutions hreasons
    rw [ht] at he
    cases he

/-- The reasons of an adjudicated evaluation, in a contained environment. -/
theorem Adjudicated.reasons {group : ModelGroupSpec} {executions : List CandidateExecution}
    {first evaluation : ConsensusEvaluation} {x : Option AdjudicatorExecution} {es : List (Event A)}
    (h : Adjudicated env role group executions first evaluation x es) (hfirst : first.reasonCodes ≠ [])
    (hc : env.Contained) : evaluation.reasonCodes ≠ [] := by
  cases h with
  | direct => exact hfirst
  | @verdict adjudicator x v evaluation es hrequires _ _ _ happly =>
    obtain ⟨evaluation', hok, hreasons⟩ := hc.consensus.applyAdjudication first v
      ((successfulCandidates executions).map (·.candidateId)) group.adjudicationConfidenceThreshold
      group.disagreementDecision hrequires
    rw [happly] at hok
    cases hok
    exact hreasons
  | failed => simp [adjudicatorFailed]

/-- **A stage that executes.**  The four parts follow each other (candidates, evaluation, judge,
    conclusion), and `StageDone` is what they add up to. -/
theorem executeStage_sat {s : Session} {preflight : StageGateRecord} {group : ModelGroupSpec}
    (hpre : preflight = StageGateEngine.preflight (runner.contract role)
      (deriveCapabilities batch s.results) batch.items.length)
    (hdecision : preflight.decision = .proceed) (hgroup : runner.group? role = some group) :
    Sat (executeStage env runner batch sequence role preflight (deriveCapabilities batch s.results) group)
      { s with gateRecords := s.gateRecords ++ [preflight] } fun r s' es => match r with
        | .ok report => StageDone env runner batch sequence role s report s' (.gate preflight :: es)
        | .error _ => env.Contained → CreateRaised es := by
  -- the groups of a runner were validated when they were configured
  have hvalid := group_valid hgroup
  unfold executeStage
  refine perfCounter_bind fun started => Sat.get_bind ?_
  refine Sat.bind (executeCandidates_sat group s.results group.candidates [] _) ?_ ?_
  · rintro executions s₁ _ ⟨logged, hcandidates, rfl, rfl⟩
    have hnonempty := hcandidates.ne_nil (ModelGroupSpec.candidates_ne_nil hvalid)
    have hexecutions : executions = logged.map Prod.fst := hcandidates.executions_eq
    refine Sat.ofExcept_bind (fun first hfirst => ?_) fun e he hc => ?_
    · -- in a contained environment the evaluation is total, gives a reason, and has its judge
      have htotal : env.Contained → first.reasonCodes ≠ [] ∧
          (first.requiresAdjudication = true → group.adjudicator.isSome = true) := by
        intro hc
        obtain ⟨_, hok, hrest⟩ := hc.consensus.evaluateConsensus role group
          (successfulCandidates executions) hvalid hcandidates.successful_ids
        rw [hfirst] at hok
        cases hok
        exact hrest
      refine Sat.bind (adjudicateStage_sat group executions first _) ?_ ?_
      · rintro ⟨evaluation, x⟩ s₂ judgeLog ⟨hadjudicated, rfl⟩
        refine Sat.bind (appendConsensus_sat _ _ _ _ _) ?_ ?_
        · rintro record s₃ _ ⟨rfl, ⟨hstage, hdec, hallowed, hselected, hids, hjudge, -⟩, rfl⟩
          refine (concludeStage_sat preflight s.results started executions evaluation x record _).mono ?_
          intro r s' es h
          cases r with
          | error e =>
            intro hc
            exact absurd hc.models
              (h hnonempty (hadjudicated.reasons (htotal hc).1 hc))
          | ok report =>
            obtain ⟨t, elapsed, ht, rfl, rfl, rfl⟩ := h
            refine ⟨hpre, by simp, rfl, ?_, rfl, rfl, ?_, by simp, ?_, ?_⟩
            -- the run that is reported is an execution's own, or that one marked as failed: either way it
            -- is of this role
            · obtain ⟨y, m, hadopted, -, hrun, -⟩ | ⟨-, -, -, representative, rest, reason, hexec, -, -, hrun⟩ :=
                settle_cases ht
              · obtain ⟨-, hmem, -⟩ := adopted_eq_some hadopted
                obtain ⟨es, -, hdone⟩ := hcandidates.done_of_mem hmem
                exact (congrArg ModelRun.modelRole hrun).trans hdone.run_role
              · obtain ⟨es, -, hdone⟩ := hcandidates.done_of_mem
                  (show representative ∈ executions from hexec ▸ List.mem_cons_self)
                rcases hrun with ⟨-, hrun, -⟩ | ⟨-, -, hrun, -⟩
                · exact (congrArg ModelRun.modelRole hrun).trans hdone.run_role
                · exact (congrArg ModelRun.modelRole hrun).trans hdone.run_role
            · simp [hexecutions, List.append_assoc]
            · simp [createRaised_cons, createRaised_append, hcandidates.not_createRaised,
                hadjudicated.not_createRaised]
            · refine .executed hdecision
                ⟨hgroup, hcandidates, hfirst, hadjudicated, rfl, ht, rfl, rfl, rfl, rfl, rfl, ?_,
                  ⟨record, rfl, hstage, hdec, hallowed, hselected, hids, hjudge⟩, by simp⟩
              simp [hexecutions, List.append_assoc]
        · rintro e s₃ _ ⟨rfl, hno⟩ hc
          exact absurd hc.models hno
      · intro e s₂ judgeLog h hc
        exact absurd hc (h (htotal hc).2)
    · obtain ⟨_, hok, -⟩ := hc.consensus.evaluateConsensus role group (successfulCandidates executions)
        hvalid hcandidates.successful_ids
      rw [hok] at he
      cases he
  · intro e s₁ es h
    exact h

/-- **One stage**, in any world and from any session: if it does not raise, its account; if it does
    in a contained environment, some `create` raised. -/
theorem runStage_sat (s : Session) :
    Sat (runStage env runner batch sequence role) s fun r s' es => match r with
      | .ok report => StageDone env runner batch sequence role s report s' es
      | .error _ => env.Contained → CreateRaised es := by
  unfold runStage
  refine Sat.get_bind (Sat.bind (appendGate_sat _ s) ?_ ?_)
  · rintro _ _ _ ⟨-, rfl, rfl⟩
    by_cases hdecision : (StageGateEngine.preflight (runner.contract role)
        (deriveCapabilities batch s.results) batch.items.length).decision = .proceed
    · simp only [hdecision, ne_eq, not_true, if_false]
      cases hgroup : runner.group? role with
      | none =>
        refine (unconfiguredStage_sat rfl hdecision hgroup).mono fun r s' es h => ?_
        cases r with
        | ok report => exact h
        | error e => exact fun hc => absurd hc.models h
      | some group =>
        refine (executeStage_sat rfl hdecision hgroup).mono fun r s' es h => ?_
        cases r with
        | ok report => exact h
        | error e => exact fun hc => createRaised_append.mpr (Or.inr (h hc))
    · simp only [ne_eq, hdecision, not_false_iff, if_true]
      refine (skipStage_sat rfl hdecision).mono fun r s' es h => ?_
      cases r with
      | ok report => exact h
      | error e => exact fun hc => absurd hc.models h
  · rintro _ _ _ ⟨h, -⟩
    cases h

end Stage

end SessionRunner

end FireviewerOrchestrator
