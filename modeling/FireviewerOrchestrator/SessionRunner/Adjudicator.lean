/-
  What asking the consensus judge does, whatever the world answers.

  The judge differs from a candidate in one way: its adapter is created inside the `try`, so a
  refused creation is contained and recorded like any other failure.
-/
import FireviewerOrchestrator.SessionRunner.Candidate

set_option linter.unusedVariables false

namespace FireviewerOrchestrator

namespace SessionRunner

open Traced Prog

variable {ω A σ : Type} {env : Environment ω A}

/-! ## Logs of one judge's use -/

/-- The logs between a judge's creation and its release, with the last answer it gave. -/
inductive JudgeLog (a : A) : List (Event A) → Option (Except PyExc ConsensusJudgeVerdict) → Prop
  | untouched : JudgeLog a [] none
  | loadFailed (e : PyExc) : JudgeLog a [.load a (.error e)] none
  | loaded : JudgeLog a [.load a (.ok ())] none
  | asked (answer : Except PyExc ConsensusJudgeVerdict) :
      JudgeLog a [.load a (.ok ()), .adjudicate a false answer] (some answer)
  | corrected (refusal : PyExc) (h : refusal.isModelOutput = true)
      (answer : Except PyExc ConsensusJudgeVerdict) :
      JudgeLog a [.load a (.ok ()), .adjudicate a false (.error refusal), .adjudicate a true answer]
        (some answer)

/-- The verdict of a last answer, if it was one. -/
def verdictOf : Option (Except PyExc ConsensusJudgeVerdict) → Option ConsensusJudgeVerdict
  | some (.ok verdict) => some verdict
  | _ => none

/-! ## The procedures of a judge -/

section Procedures

variable {role : PipelineModelRole} {adjudicator : ModelCandidateSpec} {batch : WorkerInput}
  {candidates : List JudgeCandidate} {payload : JsonFields} {a : A}

/-- **Asking for a verdict**, with one correction after a `ModelOutputError`: it ends the way the
    last answer did. -/
theorem askVerdict_sat (l : AdjudicatorLocals A) (hnone : l.verdict = none) :
    Sat (askVerdict env role batch candidates payload a) l fun r l' es =>
      JudgeLog a (.load a (.ok ()) :: es) (some r) ∧ l'.verdict = verdictOf (some r) ∧
      l'.status = l.status ∧ l'.errorCode = l.errorCode ∧ l'.outputPayload = l.outputPayload ∧
      l'.adapter = l.adapter ∧ Contains env r := by
  unfold askVerdict adjudicate
  refine perfCounter_bind fun started => ?_
  refine Sat.capture_bind (P := fun r l₁ es => l₁ = l ∧ es = [.adjudicate a false r] ∧ Contains env r)
    (Sat.observe (Sat.call fun r hr => ⟨rfl, rfl, ?_⟩)) ?_
  · rintro hc e rfl
    exact hc.adjudicate _ _ _ _ _ _ e hr
  · rintro ended l₁ es ⟨rfl, rfl, hcontains⟩
    cases ended with
    | ok verdict =>
      refine Sat.modify_bind (perfCounter_bind fun finished => Sat.modify_bind (Sat.pure ?_))
      exact ⟨.asked (.ok verdict), rfl, rfl, rfl, rfl, rfl, by rintro - _ ⟨⟩⟩
    | error e =>
      by_cases hmodel : e.isModelOutput = true
      · simp only [hmodel, if_true]
        refine perfCounter_bind fun failed => perfCounter_bind fun correctionStarted => ?_
        refine Sat.observe_call_bind (fun verdict _ => ?_) fun e' he' => ?_
        · refine Sat.modify_bind (perfCounter_bind fun corrected => Sat.modify_bind (Sat.pure ?_))
          exact ⟨.corrected e hmodel (.ok verdict), rfl, rfl, rfl, rfl, rfl, by rintro - _ ⟨⟩⟩
        · refine ⟨.corrected e hmodel (.error e'), hnone, rfl, rfl, rfl, rfl, ?_⟩
          rintro hc _ ⟨rfl⟩
          exact hc.adjudicate _ _ _ _ _ _ e' he'
      · simp only [hmodel]
        exact Sat.raise ⟨.asked (.error e), hnone, rfl, rfl, rfl, rfl, hcontains⟩

/-- Where the judge's `try` got to: no adapter, or one with its log. -/
inductive JudgeProgress (env : Environment ω A) (role : PipelineModelRole) (adjudicator : ModelCandidateSpec) :
    Option A → List (Event A) → Option (Except PyExc ConsensusJudgeVerdict) → Prop
  | absent (h : env.factory.createConsensusJudge = none) : JudgeProgress env role adjudicator none [] none
  | refused (e : PyExc) :
      JudgeProgress env role adjudicator none [.createJudge role adjudicator (.error e)] none
  | created (a : A) {body : List (Event A)} {answer : Option (Except PyExc ConsensusJudgeVerdict)}
      (h : JudgeLog a body answer) :
      JudgeProgress env role adjudicator (some a) (.createJudge role adjudicator (.ok a) :: body) answer

/-- **The `try` of a judge.** -/
theorem adjudicatorBody_sat :
    Sat (adjudicatorBody env role adjudicator batch candidates payload) {} fun r l' es =>
      ∃ answer, JudgeProgress env role adjudicator l'.adapter es answer ∧ l'.verdict = verdictOf answer ∧
        l'.errorCode = none ∧ Contains env r ∧
        (match r with
          | .ok _ => l'.status = .succeeded ∧ l'.outputPayload.isSome = true ∧
              (verdictOf answer).isSome = true
          | .error _ => l'.status = .failed ∧ l'.outputPayload = none) := by
  unfold adjudicatorBody
  cases hfactory : env.factory.createConsensusJudge with
  | none =>
    -- a factory without a judge raises before anything is created
    refine Sat.bind (P := fun r l es => r = .error _ ∧ l = {} ∧ es = []) (Sat.raise ⟨rfl, rfl, rfl⟩) ?_ ?_
    · rintro _ _ _ ⟨h, -⟩
      cases h
    · rintro _ _ _ ⟨⟨rfl⟩, rfl, rfl⟩
      refine ⟨none, .absent hfactory, rfl, rfl, ?_, rfl, rfl⟩
      rintro - _ ⟨rfl⟩
      rfl
  | some create =>
    -- one case for each call that can raise: the log is the one up to that call
    refine Sat.bind (P := fun r l es => r = .ok create ∧ l = {} ∧ es = []) (Sat.pure ⟨rfl, rfl, rfl⟩) ?_ ?_
    · rintro _ _ _ ⟨⟨rfl⟩, rfl, rfl⟩
      refine Sat.observe_call_bind (fun a _ => ?_) fun e he => ?_
      · refine Sat.modify_bind (Sat.call_bind (fun _ _ => ?_) fun e he => ?_)
        · refine perfCounter_bind fun loadStarted => Sat.observe_call_bind (fun _ _ => ?_) fun e he => ?_
          · refine Sat.call_bind (fun _ _ => ?_) fun e he => ?_
            · refine perfCounter_bind fun loaded => Sat.modify_bind ?_
              refine Sat.bind (askVerdict_sat _ rfl) ?_ ?_
              · rintro verdict l₁ es ⟨hlog, hverdict, hstatus, hcode, hpayload, hadapter, -⟩
                refine Sat.call_bind (fun _ _ => Sat.modify ?_) fun e he => ?_
                · refine ⟨some (.ok verdict), ?_, hverdict, hcode, by rintro - _ ⟨⟩, rfl, rfl, rfl⟩
                  show JudgeProgress env role adjudicator l₁.adapter _ _
                  rw [hadapter]
                  simpa using JudgeProgress.created a hlog
                · refine ⟨some (.ok verdict), ?_, hverdict, hcode, ?_, hstatus, hpayload⟩
                  · rw [hadapter]
                    simpa using JudgeProgress.created a hlog
                  · rintro hc _ ⟨rfl⟩
                    exact hc.synchronizeCuda e he
              · rintro e l₁ es ⟨hlog, hverdict, hstatus, hcode, hpayload, hadapter, hcontains⟩
                refine ⟨some (.error e), ?_, hverdict, hcode, hcontains.recast, hstatus, hpayload⟩
                rw [hadapter]
                exact .created a hlog
            · refine ⟨none, .created a .loaded, rfl, rfl, ?_, rfl, rfl⟩
              rintro hc _ ⟨rfl⟩
              exact hc.synchronizeCuda e he
          · refine ⟨none, .created a (.loadFailed e), rfl, rfl, ?_, rfl, rfl⟩
            rintro hc _ ⟨rfl⟩
            exact hc.load a e he
        · refine ⟨none, .created a .untouched, rfl, rfl, ?_, rfl, rfl⟩
          rintro hc _ ⟨rfl⟩
          exact absurd he (hc.memory.resetPeak e)
      · refine ⟨none, .refused e, rfl, rfl, ?_, rfl, rfl⟩
        rintro hc _ ⟨rfl⟩
        exact hc.createJudge create hfactory _ e he
    · rintro _ _ _ ⟨h, -⟩
      cases h

/-- How a judge's variables stand once its `except` clauses have run. -/
def AdjudicatorLocals.Settled (l : AdjudicatorLocals A) : Prop :=
  (l.status = .succeeded ∧ l.errorCode = none ∧ l.outputPayload.isSome = true ∧ l.verdict.isSome = true) ∨
    (l.status = .failed ∧ l.outputPayload = none ∧
      (l.errorCode = some "invalid_model_output" ∨ l.errorCode = some "model_runtime_error"))

/-- Behind the `except` clauses: every `Exception` is recorded as a failure, under one of two codes, and
    only what is none gets through. -/
theorem guardedAdjudicator_sat :
    Sat (guardedAdjudicator env role adjudicator batch candidates payload) {} fun r l' es =>
      ∃ answer, JudgeProgress env role adjudicator l'.adapter es answer ∧ l'.verdict = verdictOf answer ∧
        (l'.status = .succeeded → (verdictOf answer).isSome = true) ∧
        (r = .ok () → l'.Settled) ∧ (env.Contained → r = .ok ()) := by
  unfold guardedAdjudicator
  refine Sat.capture_bind adjudicatorBody_sat ?_
  -- the `try` ended well, with an invalid output, with another `Exception`, or with something that is
  -- passed on
  rintro ended l₁ es ⟨answer, hprogress, hverdict, hcode, hcontains, hended⟩
  cases ended with
  | ok u =>
    obtain ⟨hstatus, hpayload, hsome⟩ := hended
    refine Sat.pure ⟨answer, by simpa using hprogress, hverdict, fun _ => hsome, ?_, fun _ => rfl⟩
    exact fun _ => Or.inl ⟨hstatus, hcode, hpayload, hverdict ▸ hsome⟩
  | error e =>
    obtain ⟨hstatus, hpayload⟩ := hended
    have hnot : l₁.status = .succeeded → (verdictOf answer).isSome = true := by
      intro hs
      rw [hstatus] at hs
      cases hs
    by_cases hmodel : e.isModelOutput = true
    · simp only [hmodel, if_true]
      refine Sat.modify ⟨answer, by simpa using hprogress, hverdict, hnot, ?_, fun _ => rfl⟩
      exact fun _ => Or.inr ⟨hstatus, hpayload, Or.inl rfl⟩
    · simp only [hmodel]
      by_cases hexc : e.isException = true
      · simp only [hexc, if_true]
        refine Sat.modify ⟨answer, by simpa using hprogress, hverdict, hnot, ?_, fun _ => rfl⟩
        exact fun _ => Or.inr ⟨hstatus, hpayload, Or.inr rfl⟩
      · simp only [hexc]
        refine Sat.raise ⟨answer, by simpa using hprogress, hverdict, hnot, by rintro ⟨⟩, ?_⟩
        exact fun hc => absurd (hcontains hc e rfl) hexc

/-- The `finally` of a judge releases the adapter, if there is one. -/
theorem closeAdjudicator_sat (l : AdjudicatorLocals A) :
    Sat (closeAdjudicator env) l fun r l' es =>
      (l'.status = l.status ∧ l'.errorCode = l.errorCode ∧ l'.outputPayload = l.outputPayload ∧
        l'.verdict = l.verdict) ∧
      (es = l.adapter.toList.map Event.release ∨ (es = [] ∧ ¬ env.memory.Reliable)) ∧
      (env.memory.Reliable → r = .ok ()) ∧ (r = .ok () → es = l.adapter.toList.map Event.release) := by
  unfold closeAdjudicator
  refine peakVramBytes_bind (fun peak => Sat.modify_bind (Sat.get_bind ?_)) fun e hmem => ?_
  · cases hadapter : l.adapter with
    | none => exact Sat.pure ⟨⟨rfl, rfl, rfl, rfl⟩, Or.inl rfl, fun _ => rfl, fun _ => rfl⟩
    | some a =>
      refine Sat.observe (Sat.call fun r hr => ⟨⟨rfl, rfl, rfl, rfl⟩, Or.inl rfl, fun hmem => ?_, fun _ => rfl⟩)
      cases r with
      | ok u => rfl
      | error e => exact absurd hr (hmem.release a e)
  · exact ⟨⟨rfl, rfl, rfl, rfl⟩, Or.inr ⟨rfl, hmem⟩, fun h => absurd h hmem, by rintro ⟨⟩⟩

end Procedures

/-! ## The judge, whole -/

/-- **What asking a judge comes to**, when it does not raise: the log of a judge that was absent,
    refused or created, used and released, and a run recorded as succeeded or as failed, with the
    verdict of the judge's last answer. -/
structure AdjudicatorDone (env : Environment ω A) (role : PipelineModelRole) (adjudicator : ModelCandidateSpec)
    (x : AdjudicatorExecution) (es : List (Event A)) : Prop where
  log : ∃ adapter body answer, es = body ++ adapter.toList.map Event.release ∧
    JudgeProgress env role adjudicator adapter body answer ∧ x.verdict = verdictOf answer ∧
    (x.candidateRun.status = .succeeded → (verdictOf answer).isSome = true)
  status : (x.candidateRun.status = .succeeded ∧ x.candidateRun.errorCode = none ∧
      x.verdict.isSome = true) ∨
    (x.candidateRun.status = .failed ∧
      (x.candidateRun.errorCode = some "invalid_model_output" ∨
        x.candidateRun.errorCode = some "model_runtime_error"))
  record_id : x.candidateRun.candidateId = adjudicator.candidateId
  record_stage : x.candidateRun.stageRole = role.stageRole
  record_role : x.candidateRun.modelRole = .consensusJudge

/-- What asking a judge leaves when it raises, which a contained environment never makes it do. -/
def AdjudicatorAborted (env : Environment ω A) (role : PipelineModelRole) (adjudicator : ModelCandidateSpec)
    (es : List (Event A)) : Prop :=
  ¬ env.Contained ∧ ∃ adapter body answer tail, es = body ++ tail ∧
    JudgeProgress env role adjudicator adapter body answer ∧
    (tail = adapter.toList.map Event.release ∨ (tail = [] ∧ ¬ env.memory.Reliable))

/-- **Asking the judge**, in any world and from any state of the caller. -/
theorem executeAdjudicator_sat (role : PipelineModelRole) (adjudicator : ModelCandidateSpec)
    (batch : WorkerInput) (candidates : List JudgeCandidate) (payload : JsonFields) (s : σ) :
    Sat (executeAdjudicator env role adjudicator batch candidates payload) s fun r s' es =>
      s' = s ∧ match r with
        | .ok x => AdjudicatorDone env role adjudicator x es
        | .error _ => AdjudicatorAborted env role adjudicator es := by
  unfold executeAdjudicator
  apply Sat.scope
  refine now_bind fun startedAt => ?_
  refine Sat.bind (P := fun r l es => ∃ adapter body answer tail, es = body ++ tail ∧
      JudgeProgress env role adjudicator adapter body answer ∧ l.verdict = verdictOf answer ∧
      (l.status = .succeeded → (verdictOf answer).isSome = true) ∧
      (tail = adapter.toList.map Event.release ∨ (tail = [] ∧ ¬ env.memory.Reliable)) ∧
      (r = .ok () → tail = adapter.toList.map Event.release ∧ l.Settled) ∧
      (env.Contained → r = .ok ())) ?_ ?_ ?_
  -- the release is owed for the adapter that the `try` has left behind, whatever it ended with
  · refine Sat.finallyDo guardedAdjudicator_sat ?_
    rintro r l body ⟨answer, hprogress, hverdict, hsome, hsettled, hcontained⟩
    refine (closeAdjudicator_sat l).mono ?_
    rintro r' l' tail ⟨⟨hs, hcode, hpayload, hv⟩, htail, hreliable, hreleased⟩
    cases r' with
    | ok u =>
      refine ⟨l.adapter, body, answer, tail, rfl, hprogress, hv.trans hverdict, ?_, htail, ?_, hcontained⟩
      · rw [hs]
        exact hsome
      · intro hr
        refine ⟨hreleased rfl, ?_⟩
        rw [AdjudicatorLocals.Settled, hs, hcode, hpayload, hv]
        exact hsettled hr
    | error e =>
      refine ⟨l.adapter, body, answer, tail, rfl, hprogress, hv.trans hverdict, ?_, htail, by rintro ⟨⟩, ?_⟩
      · rw [hs]
        exact hsome
      · intro hc
        cases hreliable hc.memory
  · rintro _ l es ⟨adapter, body, answer, tail, rfl, hprogress, hverdict, hsome, -, hok, -⟩
    obtain ⟨rfl, hsettled⟩ := hok rfl
    refine Sat.get_bind (now_bind fun finishedAt => construct_bind (Sat.pure ⟨rfl, ?_⟩) fun e he => ⟨rfl, ?_⟩)
    · refine ⟨⟨adapter, body, answer, by simp, hprogress, hverdict, hsome⟩, ?_, rfl, rfl, rfl⟩
      rcases hsettled with ⟨hs, hcode, -, hv⟩ | ⟨hs, -, hcode⟩
      · exact Or.inl ⟨hs, hcode, hv⟩
      · exact Or.inr ⟨hs, hcode⟩
    · refine ⟨fun hc => ?_, adapter, body, answer, _, by simp, hprogress, Or.inl rfl⟩
      rw [hc.models.candidateRun] at he
      cases he
  · rintro e l es ⟨adapter, body, answer, tail, rfl, hprogress, -, -, htail, -, hcontained⟩
    refine ⟨rfl, fun hc => ?_, adapter, body, answer, tail, rfl, hprogress, htail⟩
    cases hcontained hc

end SessionRunner

end FireviewerOrchestrator
