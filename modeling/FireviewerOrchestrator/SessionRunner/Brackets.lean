/-
  The use of adapters in a session is well bracketed.

  The accounts of a candidate's and of a judge's use (`CandidateLog`, `JudgeLog`) are runs of the
  usage protocol, and the rest of a stage is silent except for its gate records.  So the stage loop
  follows the protocol from before its first stage to behind its last, or raises with nothing held.

  `Follows` composes along the program: a part that leads from one phase to the next is put before the
  rest (`Follows.seq`), and a silent one is skipped, wherever the protocol may stop (`Follows.skip`).
  Each function of the session then has one lemma, of the same shape as its body.  The one place
  where a run may stop with an adapter held is a memory manager that fails to release it, and that is
  what `StopsAt` excepts.
-/
import FireviewerOrchestrator.Library.Protocol
import FireviewerOrchestrator.SessionRunner.Protocol
import FireviewerOrchestrator.SessionRunner.Scripted
import FireviewerOrchestrator.SessionRunner.Stage

set_option linter.unusedVariables false

namespace FireviewerOrchestrator

namespace SessionRunner

open Traced Prog Transition

/-! ## The logs of a candidate and of a judge are runs of the protocol -/

section Logs

variable {ω A : Type} {env : Environment ω A} {plan : Plan} {stage : OpenStage} {a : A}

/-- A guarded attempt is its question and its end. -/
theorem AttemptLog.shape {accumulated : Dict String ItemPatch} {correction : Bool} {es : List (Event A)}
    {ended : Except PyExc (Dict String ItemPatch)} (h : AttemptLog a accumulated correction es ended) :
    ∃ answer, es = [.infer a correction accumulated answer, .attempt a correction (ended.map fun _ => ())] := by
  cases h with
  | answered patches ended h => exact ⟨.ok patches, rfl⟩
  | raised e => exact ⟨.error e, rfl⟩

/-- **What is done with a candidate's adapter** between its creation and its release: it is loaded at most
    once, asked after that, and asked again only after a refusal that a repair is allowed for.  It ends at
    rest, not in the middle of a question. -/
theorem CandidateLog.run {accumulated : Dict String ItemPatch} {body : List (Event A)} {usage : Usage}
    (h : CandidateLog a accumulated (plan.repairs stage.role) body usage) :
    ∃ use, use.atRest = true ∧ Run (Step plan) (.holding stage a .created) body (.holding stage a use) := by
  cases h with
  | untouched => exact ⟨.created, rfl, .nil _⟩
  | loadFailed e => exact ⟨.spent, rfl, .single .loadRaised⟩
  | loaded => exact ⟨.loaded, rfl, .single .load⟩
  | first h =>
    obtain ⟨answer, rfl⟩ := h.shape
    exact ⟨.spent, rfl, .cons .load (.cons .ask (.single .settle))⟩
  | second h hrefused hrepairs h' =>
    obtain ⟨answer, rfl⟩ := h.shape
    obtain ⟨answer', rfl⟩ := h'.shape
    have hfirst : Run (Step plan) (.holding stage a .loaded)
        [.infer a false accumulated answer, .attempt a false (.error _)] (.holding stage a .refused) :=
      .cons .ask (.single (.refuse hrefused))
    have hsecond (ended : Except PyExc Unit) : Run (Step plan) (.holding stage a .refused)
        [.infer a true accumulated answer', .attempt a true ended] (.holding stage a .spent) :=
      .cons (.correct hrepairs) (.single .settleCorrection)
    exact ⟨.spent, rfl, .cons .load (hfirst.append (hsecond _))⟩

/-- What is done with a judge's.  It is asked again after a refused verdict at most once. -/
theorem JudgeLog.run {body : List (Event A)} {answer : Option (Except PyExc ConsensusJudgeVerdict)}
    (h : JudgeLog a body answer) :
    ∃ use, Run (Step plan) (.judging stage a .created) body (.judging stage a use) := by
  cases h with
  | untouched => exact ⟨.created, .nil _⟩
  | loadFailed e => exact ⟨.spent, .single .loadJudgeRaised⟩
  | loaded => exact ⟨.loaded, .single .loadJudge⟩
  | asked answer => exact ⟨.spent, .cons .loadJudge (.single .adjudicate)⟩
  | corrected refusal h answer =>
    exact ⟨.spent, .cons .loadJudge (.cons (.refuseVerdict h) (.single .adjudicateAgain))⟩

/-- A candidate's adapter, created and used, but not released. -/
theorem candidateOpen_run {role : PipelineModelRole} {candidate : ModelCandidateSpec}
    {pending : List ModelCandidateSpec} {later : List PipelineModelRole} {accumulated : Dict String ItemPatch}
    {body : List (Event A)} {usage : Usage} (h : CandidateLog a accumulated (plan.repairs role) body usage) :
    ∃ use, use.atRest = true ∧ Run (Step plan) (.opened ⟨role, candidate :: pending, later⟩)
      (.create role candidate (.ok a) :: body) (.holding ⟨role, pending, later⟩ a use) := by
  obtain ⟨use, hrest, hrun⟩ : ∃ use, use.atRest = true ∧
      Run (Step plan) (.holding ⟨role, pending, later⟩ a .created) body
        (.holding ⟨role, pending, later⟩ a use) := CandidateLog.run h
  exact ⟨use, hrest, .cons .create hrun⟩

/-- A candidate's adapter, created, used and released. -/
theorem candidateBracket_run {role : PipelineModelRole} {candidate : ModelCandidateSpec}
    {pending : List ModelCandidateSpec} {later : List PipelineModelRole} {accumulated : Dict String ItemPatch}
    {body : List (Event A)} {usage : Usage} (h : CandidateLog a accumulated (plan.repairs role) body usage) :
    Run (Step plan) (.opened ⟨role, candidate :: pending, later⟩)
      (.create role candidate (.ok a) :: (body ++ [.release a])) (.opened ⟨role, pending, later⟩) := by
  obtain ⟨use, hrest, hrun⟩ : ∃ use, use.atRest = true ∧
      Run (Step plan) (.opened ⟨role, candidate :: pending, later⟩) (.create role candidate (.ok a) :: body)
        (.holding ⟨role, pending, later⟩ a use) := candidateOpen_run h
  have hreleased := hrun.snoc (.release hrest)
  exact hreleased

/-- A judge as far as its `try` got. -/
theorem judgeProgress_run {adjudicator : ModelCandidateSpec} {adapter : Option A} {body : List (Event A)}
    {answer : Option (Except PyExc ConsensusJudgeVerdict)}
    (h : JudgeProgress env stage.role adjudicator adapter body answer) :
    ∃ t, Run (Step plan) (.opened stage) body t := by
  cases h with
  | absent => exact ⟨_, .nil _⟩
  | refused e => exact ⟨_, .single .createJudgeRaised⟩
  | created a h =>
    obtain ⟨use, hrun⟩ := h.run
    exact ⟨_, .cons .createJudge hrun⟩

/-- A judge, created, used and released; or never created. -/
theorem judgeBracket_run {adjudicator : ModelCandidateSpec} {adapter : Option A} {body : List (Event A)}
    {answer : Option (Except PyExc ConsensusJudgeVerdict)}
    (h : JudgeProgress env stage.role adjudicator adapter body answer) :
    Run (Step plan) (.opened stage) (body ++ adapter.toList.map Event.release) (.opened stage) := by
  cases h with
  | absent => exact .nil _
  | refused e => exact .single .createJudgeRaised
  | created a h =>
    obtain ⟨use, hrun⟩ := h.run
    exact .cons .createJudge (hrun.snoc .releaseJudge)

end Logs

/-! ## The program follows the protocol -/

section Program

variable {ω A σ : Type} {env : Environment ω A} {runner : SessionRunner} {batch : WorkerInput}
  {sequence : Nat} {role : PipelineModelRole}

/-- What a runner's registry and contracts allow: `group.candidates` and `max_repair_attempts`. -/
def planOf (runner : SessionRunner) : Plan where
  candidates role := ((runner.group? role).map ModelGroupSpec.candidates).getD []
  repairs role := (runner.contract role).maxRepairAttempts

/-- No candidate is planned twice: roles are distinct, and so are the ids of a group. -/
theorem creations_nodup (runner : SessionRunner) : ((planOf runner).creations roleOrder).Nodup := by
  have hgroup : ∀ role, ((planOf runner).candidates role).Nodup := by
    intro role
    show (((runner.group? role).map ModelGroupSpec.candidates).getD []).Nodup
    cases hget : runner.group? role with
    | none => exact List.nodup_nil
    | some group => exact List.Nodup.of_map _ (ModelGroupSpec.candidateIds_nodup (group_valid hget))
  rw [Plan.creations, List.nodup_flatMap]
  constructor
  · intro role _
    refine (hgroup role).map ?_
    intro c c' h
    exact (Prod.mk.inj h).2
  -- pairs of different roles differ in the role
  · have hroles : roleOrder.Pairwise (· ≠ ·) := by decide
    refine hroles.imp ?_
    intro role role' hne p hp hp'
    obtain ⟨c, -, rfl⟩ := List.mem_map.mp hp
    obtain ⟨c', -, hc'⟩ := List.mem_map.mp hp'
    exact hne (Prod.mk.inj hc').1.symm

/-- Where a session may stop: with nothing held, unless the memory manager itself raises. -/
def StopsAt (env : Environment ω A) (phase : Phase A) : Prop := env.memory.Reliable → phase.Idle

/-- The session's programs, in its protocol. -/
abbrev SessionFollows {α : Type} (env : Environment ω A) (runner : SessionRunner) (u : Phase A)
    (p : Prog ω σ PyExc (Event A) α) (V : Phase A → Prop) : Prop :=
  Follows (Step (planOf runner)) (StopsAt env) u p V

/-- **A candidate takes its turn**: the first that is pending is created and released, and the others are
    left.  Where it raises, nothing is held either, unless the release itself has raised. -/
theorem executeCandidate_follows (candidate : ModelCandidateSpec)
    (pending : List ModelCandidateSpec) (later : List PipelineModelRole) (base : Dict String ItemResult) :
    SessionFollows env runner (.opened ⟨role, candidate :: pending, later⟩)
      (executeCandidate env role candidate batch base (runner.contract role).maxRepairAttempts :
        Prog ω σ PyExc (Event A) CandidateExecution) (· = .opened ⟨role, pending, later⟩) := by
  intro s
  refine (executeCandidate_sat role candidate batch base _ s).mono ?_
  rintro r s' es ⟨-, h⟩
  have hbracket : ∀ {a : A} {body : List (Event A)} {usage : Usage},
      CandidateLog a (asPatches base) (runner.contract role).maxRepairAttempts body usage →
      Run (Step (planOf runner)) (.opened ⟨role, candidate :: pending, later⟩)
        (.create role candidate (.ok a) :: (body ++ [.release a])) (.opened ⟨role, pending, later⟩) :=
    fun hlog => candidateBracket_run hlog
  cases r with
  | ok x =>
    obtain ⟨a, body, usage, rfl, hlog, -⟩ := h.log
    exact ⟨_, rfl, hbracket hlog⟩
  | error e =>
    rcases h with ⟨e', rfl⟩ | ⟨-, a, body, usage, tail, rfl, hlog, rfl | ⟨rfl, hno⟩⟩
    · exact ⟨.opened ⟨role, pending, later⟩, fun _ => .opened _, .single .createRaised⟩
    · exact ⟨.opened ⟨role, pending, later⟩, fun _ => .opened _, hbracket hlog⟩
    · -- the memory manager failed to release: the adapter stays held where the run stops
      obtain ⟨use, -, hrun⟩ : ∃ use, use.atRest = true ∧
          Run (Step (planOf runner)) (.opened ⟨role, candidate :: pending, later⟩)
            (.create role candidate (.ok a) :: body) (.holding ⟨role, pending, later⟩ a use) :=
        candidateOpen_run hlog
      rw [List.append_nil]
      exact ⟨_, fun h => absurd h hno, hrun⟩

/-- **A judge leaves the stage as it was**, with the same candidates pending. -/
theorem executeAdjudicator_follows {stage : OpenStage}
    (adjudicator : ModelCandidateSpec) (candidates : List JudgeCandidate) (payload : JsonFields) :
    SessionFollows env runner (.opened stage)
      (executeAdjudicator env stage.role adjudicator batch candidates payload :
        Prog ω σ PyExc (Event A) AdjudicatorExecution) (· = .opened stage) := by
  intro s
  refine (executeAdjudicator_sat stage.role adjudicator batch candidates payload s).mono ?_
  rintro r s' es ⟨-, h⟩
  cases r with
  | ok x =>
    obtain ⟨adapter, body, answer, rfl, hprogress, -⟩ := h.log
    exact ⟨_, rfl, judgeBracket_run hprogress⟩
  | error e =>
    obtain ⟨-, adapter, body, answer, tail, rfl, hprogress, rfl | ⟨rfl, hno⟩⟩ := h
    · exact ⟨.opened stage, fun _ => .opened stage, judgeBracket_run hprogress⟩
    · obtain ⟨t, hrun⟩ := judgeProgress_run hprogress
      rw [List.append_nil]
      exact ⟨t, fun h => absurd h hno, hrun⟩

/-- The candidates of a stage: created in their order, until the group is through or a cascade is
    settled. -/
theorem executeCandidates_follows (group : ModelGroupSpec)
    (base : Dict String ItemResult) (later : List PipelineModelRole) :
    ∀ (candidates : List ModelCandidateSpec) (executions : List CandidateExecution),
    SessionFollows env runner (.opened ⟨role, candidates, later⟩)
      (executeCandidates env runner batch role group base executions candidates)
      (fun v => ∃ pending, v = .opened ⟨role, pending, later⟩) := by
  intro candidates
  induction candidates with
  | nil => exact fun executions => Follows.pure executions ⟨[], rfl⟩
  | cons candidate rest ih =>
    intro executions
    refine Follows.seq (executeCandidate_follows candidate rest later base) fun x => ?_
    have hidle : StopsAt env (.opened ⟨role, rest, later⟩ : Phase A) := fun _ => .opened _
    refine Follows.skip hidle (Silent.modify _) fun _ => ?_
    -- recording a failure is silent; then the loop stops here or goes on
    have hnext : SessionFollows env runner (.opened ⟨role, rest, later⟩)
        (if cascadeSettled env role group (executions ++ [x]) x = true then pure (executions ++ [x])
          else executeCandidates env runner batch role group base (executions ++ [x]) rest)
        (fun v => ∃ pending, v = .opened ⟨role, pending, later⟩) := by
      split
      · exact Follows.pure _ ⟨rest, rfl⟩
      · exact ih _
    by_cases hfailed : x.run.status = .failed
    · simp only [hfailed, if_true]
      exact Follows.skip hidle (Silent.modify _) fun _ => hnext
    · simp only [hfailed, if_false]
      exact hnext

/-- Whether a judge is asked or not, the stage is where it was. -/
theorem adjudicateStage_follows (group : ModelGroupSpec)
    (executions : List CandidateExecution) (evaluation : ConsensusEvaluation) {stage : OpenStage} :
    SessionFollows env runner (.opened stage)
      (adjudicateStage env batch stage.role group executions evaluation) (· = .opened stage) := by
  have hidle : StopsAt env (.opened stage : Phase A) := fun _ => .opened stage
  unfold adjudicateStage
  split
  · cases group.adjudicator with
    | none => exact Follows.of_silent hidle (Silent.ofExcept _)
    | some adjudicator =>
      refine Follows.seq (executeAdjudicator_follows adjudicator _ _) fun x => ?_
      refine Follows.skip hidle (Silent.modify _) fun _ => ?_
      cases x.verdict with
      | some verdict => exact Follows.skip hidle (Silent.ofExcept _) fun _ => Follows.pure _ rfl
      | none => exact Follows.skip hidle (Silent.modify _) fun _ => Follows.pure _ rfl
  · exact Follows.pure _ rfl

/-! ### Records are silent, gates move the protocol -/

/-- Building a record and keeping it asks nothing of any adapter. -/
theorem appendTrace_silent (status : RunStatus) (retryable : Bool) (preflight : StageGateRecord)
    (postflight : Option StageGateRecord) (attempts : List WorkerStageAttemptV2) :
    Silent (appendTrace env runner sequence role status retryable preflight postflight attempts) :=
  fun s => (appendTrace_sat status retryable preflight postflight attempts s).mono fun _ _ _ h => h.1

/-- Nor does the record of a run, … -/
theorem appendSkippedRun_silent (model : Option ModelSpec) (moment : DateTime) (code : Option String) :
    Silent (appendSkippedRun env role model moment code) :=
  fun s => (appendSkippedRun_sat model moment code s).mono fun _ _ _ h => h.1

/-- … or that of an evaluation, … -/
theorem appendConsensus_silent (group : ModelGroupSpec) (executions : List CandidateExecution)
    (evaluation : ConsensusEvaluation) (adjudicatorId : Option String) :
    Silent (appendConsensus env role group executions evaluation adjudicatorId) :=
  fun s => (appendConsensus_sat group executions evaluation adjudicatorId s).mono fun _ _ _ h => h.1

/-- … or the clock, … -/
theorem now_silent : Silent (now env : Prog ω σ PyExc (Event A) DateTime) :=
  Silent.bind (Silent.ask _) fun _ => Silent.pure _

/-- … or the output of the session. -/
theorem finishSession_silent : Silent (finishSession env runner batch) := by
  intro s
  unfold finishSession
  refine Sat.get_bind (Sat.ofExcept_bind (fun items _ => ?_) fun e _ => rfl)
  exact construct_bind (Sat.pure rfl) fun e _ => rfl

/-- A gate record is a step of the protocol: the one that this gate makes. -/
theorem appendGate_follows {record : StageGateRecord} {u v : Phase A}
    (h : Step (planOf runner) u (.gate record) v) :
    SessionFollows env runner u (appendGate record : Prog ω Session PyExc (Event A) Unit) (· = v) := by
  intro s
  unfold appendGate
  exact Sat.modify_bind (Sat.emit ⟨v, rfl, .single h⟩)

/-- What follows the preflight that keeps a stage back. -/
theorem skipStage_silent (preflight : StageGateRecord) :
    Silent (skipStage env runner sequence role preflight) := by
  unfold skipStage
  refine Silent.bind now_silent fun moment => ?_
  have hrest : ∀ code, Silent (do
      let run ← appendSkippedRun env role (primarySpec (runner.group? role)) moment code
      let trace ← appendTrace env runner sequence role .skipped
        (preflight.decision = .failedRetryable) preflight none []
      pure ({ preflight := preflight, run := run, trace := trace } : StageReport)) := by
    intro code
    exact Silent.bind (appendSkippedRun_silent _ _ _) fun _ =>
      Silent.bind (appendTrace_silent _ _ _ _ _) fun _ => Silent.pure _
  cases preflightErrorCode preflight with
  | none => exact hrest none
  | some code => exact Silent.bind (Silent.modify _) fun _ => hrest (some code)

section Opened

variable {stage : OpenStage}

/-- A stage without a model is concluded with all of its candidates pending: it has none. -/
theorem unconfiguredStage_follows (preflight : StageGateRecord) (before : Finset StageCapability) :
    SessionFollows env runner (.opened stage : Phase A)
      (unconfiguredStage env runner sequence stage.role preflight before) (· = .between stage.later) := by
  have hidle : StopsAt env (.opened stage : Phase A) := fun _ => .opened stage
  unfold unconfiguredStage
  refine Follows.skip hidle (Silent.modify _) fun _ => ?_
  refine Follows.skip hidle now_silent fun moment => ?_
  refine Follows.skip hidle (appendSkippedRun_silent _ _ _) fun run => ?_
  refine Follows.seq (appendGate_follows (.conclude StageGateEngine.postflight_phase)) fun _ => ?_
  exact Follows.skip (fun _ => .between _) (appendTrace_silent _ _ _ _ _) fun _ => Follows.pure _ rfl

/-- **A stage is concluded by its postflight**, and everything else it does then is silent. -/
theorem concludeStage_follows (preflight : StageGateRecord) (before : Finset StageCapability) (started : ℚ)
    (executions : List CandidateExecution) (evaluation : ConsensusEvaluation)
    (adjudication : Option AdjudicatorExecution) (consensus : WorkerConsensusResultV2) :
    SessionFollows env runner (.opened stage : Phase A) (concludeStage env runner batch sequence stage.role
      preflight before started executions evaluation adjudication consensus) (· = .between stage.later) := by
  have hidle : StopsAt env (.opened stage : Phase A) := fun _ => .opened stage
  unfold concludeStage
  refine Follows.get_bind fun s => ?_
  refine Follows.skip hidle (Silent.ofExcept _) fun settlement => ?_
  refine Follows.skip hidle (Silent.modify _) fun _ => ?_
  refine Follows.skip hidle (Silent.ask _) fun finished => ?_
  refine Follows.seq (appendGate_follows (.conclude StageGateEngine.postflight_phase)) fun _ => ?_
  refine Follows.skip (fun _ => .between _) (appendTrace_silent _ _ _ _ _) fun trace => ?_
  exact Follows.skip (fun _ => .between _) (Silent.modify _) fun _ => Follows.pure _ rfl

end Opened

/-- **A stage that executes**: its candidates, its judge, its conclusion. -/
theorem executeStage_follows (preflight : StageGateRecord)
    (before : Finset StageCapability) (group : ModelGroupSpec) (later : List PipelineModelRole) :
    SessionFollows env runner (.opened ⟨role, group.candidates, later⟩ : Phase A)
      (executeStage env runner batch sequence role preflight before group) (· = .between later) := by
  have hidle : StopsAt env (.opened ⟨role, group.candidates, later⟩ : Phase A) := fun _ => .opened _
  unfold executeStage
  refine Follows.skip hidle (Silent.ask _) fun started => ?_
  refine Follows.get_bind fun s => ?_
  refine Follows.bind (executeCandidates_follows group _ later _ _) ?_
  rintro executions v ⟨pending, rfl⟩
  refine Follows.skip (fun _ => .opened _) (Silent.ofExcept _) fun first => ?_
  refine Follows.seq (adjudicateStage_follows group executions first) fun judged => ?_
  refine Follows.skip (fun _ => .opened _) (appendConsensus_silent _ _ _ _) fun record => ?_
  exact concludeStage_follows _ _ _ _ _ _ _

/-- **One stage** leads from before it to behind it, with nothing held. -/
theorem runStage_follows (later : List PipelineModelRole) :
    SessionFollows env runner (.between (role :: later) : Phase A) (runStage env runner batch sequence role)
      (· = .between later) := by
  unfold runStage
  refine Follows.get_bind fun s => ?_
  by_cases hdecision : (StageGateEngine.preflight (runner.contract role)
      (deriveCapabilities batch s.results) batch.items.length).decision = .proceed
  -- the preflight opens the stage, with the candidates that its plan has
  · have hstart : Step (planOf runner) (.between (role :: later) : Phase A)
        (.gate (StageGateEngine.preflight (runner.contract role) (deriveCapabilities batch s.results)
          batch.items.length)) (.opened ⟨role, (planOf runner).candidates role, later⟩) := by
      refine .start ⟨?_, StageGateEngine.preflight_phase, hdecision,
        StageGateEngine.preflight_proceed_downstream hdecision⟩
      rw [StageGateEngine.preflight_role, contract_role]
    refine Follows.seq (appendGate_follows hstart) fun _ => ?_
    simp only [hdecision, ne_eq, not_true, if_false]
    cases hgroup : runner.group? role with
    | none => exact unconfiguredStage_follows _ _
    | some group =>
      -- the plan of a configured role is its group
      have hcandidates : (planOf runner).candidates role = group.candidates := by
        simp [planOf, hgroup]
      rw [hcandidates]
      exact executeStage_follows _ _ group later
  · refine Follows.seq (appendGate_follows (.skip StageGateEngine.preflight_phase hdecision)) fun _ => ?_
    simp only [ne_eq, hdecision, not_false_iff, if_true]
    exact Follows.of_silent (fun _ => .between later) (skipStage_silent _)

/-- The whole loop, and what follows it. -/
theorem runLoop_follows :
    SessionFollows env runner (.between roleOrder : Phase A) (runLoop env runner batch) (· = .between []) := by
  have hloop : SessionFollows env runner (.between (numberedRoles.map Prod.snd) : Phase A)
      (forEach numberedRoles (stageBody env runner batch)) (· = .between []) :=
    Follows.forEach (g := fun entries => Phase.between (entries.map Prod.snd))
      (fun entry entries => runStage_follows (entries.map Prod.snd)) numberedRoles
  exact Follows.seq hloop fun _ => Follows.of_silent (fun _ => .between []) finishSession_silent

/-- A session's log: a run of the protocol, then the job's finalization. -/
theorem session_run (w : ω) : ∃ body t, (runWithTrace env runner batch w ()).events = body ++ [.finalizeJob] ∧
    StopsAt env t ∧ Run (Step (planOf runner)) (.between roleOrder) body t := by
  obtain ⟨t, ht, hrun⟩ : ∃ t, StopsAt env t ∧ Run (Step (planOf runner)) (.between roleOrder)
      (runLoop env runner batch w (Session.start batch)).events t := by
    refine runLoop_follows.exists_run ?_ w (Session.start batch)
    rintro v rfl
    exact fun _ => .between []
  refine ⟨_, t, ?_, ht, hrun⟩
  unfold runWithTrace
  rw [finallyDo_events]
  rfl

/-- **Every session is well bracketed**, whether it returns or raises, as long as the memory manager
    does not raise. -/
theorem session_wellBracketed (hmemory : env.memory.Reliable) (w : ω) :
    WellBracketed (planOf runner) (runWithTrace env runner batch w ()).events ∧
      ((runWithTrace env runner batch w ()).events.filterMap Event.candidateCreated).Nodup := by
  obtain ⟨body, t, hevents, ht, hrun⟩ : ∃ body t,
      (runWithTrace env runner batch w ()).events = body ++ [.finalizeJob] ∧ StopsAt env t ∧
      Run (Step (planOf runner)) (.between roleOrder) body t := session_run w
  have hbrackets := wellBracketed_of_run hrun (ht hmemory)
  rw [hevents]
  exact ⟨hbrackets, hbrackets.created_once.nodup (creations_nodup runner)⟩

/-- A session in which the transcription fails. -/
theorem session_wellBracketed_asrFails :
    WellBracketed (planOf Sample.runner) (runWithTrace (Sample.asrFails.environment acceptingModels
        Sample.digest) Sample.runner Sample.batch 0 ()).events ∧
      ((runWithTrace (Sample.asrFails.environment acceptingModels Sample.digest) Sample.runner Sample.batch
        0 ()).events.filterMap Event.candidateCreated).Nodup :=
  session_wellBracketed Script.reliable 0

end Program

end SessionRunner

end FireviewerOrchestrator
