/-
  What executing one candidate does, whatever the world answers.

  `CandidateLog` lists every log an adapter's use can leave between its creation and its release,
  together with how far the use got (`Usage`).  Each procedure of the candidate has one lemma saying
  which log it leaves and what it made of the local variables; `executeCandidate_sat` assembles them
  into the one fact the rest of the development cites.
-/
import FireviewerOrchestrator.SessionRunner.Program

set_option linter.unusedVariables false

namespace FireviewerOrchestrator

namespace SessionRunner

open Traced Prog

variable {ω A σ : Type} {env : Environment ω A}

/-! ## Rules for the session's own primitives -/

section Rules

variable {β : Type} {s : σ} {Q : Except PyExc β → σ → List (Event A) → Prop}

theorem now_bind {k : DateTime → Prog ω σ PyExc (Event A) β} (h : ∀ t, Sat (k t) s Q) :
    Sat (now env >>= k) s Q := by
  unfold now
  refine Sat.bind (P := fun r s₁ es => ∃ t, r = .ok t ∧ s₁ = s ∧ es = [])
    (Sat.ask_bind fun micros => Sat.pure ⟨_, rfl, rfl, rfl⟩) ?_ ?_
  · rintro _ _ _ ⟨t, ⟨rfl⟩, rfl, rfl⟩
    simpa using h _
  · rintro _ _ _ ⟨_, h, _⟩
    cases h

theorem perfCounter_bind {k : ℚ → Prog ω σ PyExc (Event A) β} (h : ∀ t, Sat (k t) s Q) :
    Sat (perfCounter env >>= k) s Q := Sat.ask_bind h

/-- A reading of the peak memory; with a reliable memory manager it does not raise. -/
theorem peakVramBytes_bind {k : Option Int → Prog ω σ PyExc (Event A) β} (h : ∀ peak, Sat (k peak) s Q)
    (herr : ∀ e, ¬ env.memory.Reliable → Q (.error e) s []) : Sat (peakVramBytes env >>= k) s Q :=
  Sat.call_bind (fun peak _ => h peak) fun e he => herr e fun hmem => hmem.peakVramBytes e he

theorem construct_bind {ρ : Type} {check : ρ → Except PyExc Unit} {record : ρ}
    {k : ρ → Prog ω σ PyExc (Event A) β} (h : Sat (k record) s Q)
    (herr : ∀ e, check record = .error e → Q (.error e) s []) :
    Sat (construct check record >>= k) s Q := by
  unfold construct
  refine Sat.bind (P := fun r s₁ es => (r = .ok record ∨ ∃ e, r = .error e ∧ check record = .error e)
      ∧ s₁ = s ∧ es = []) ?_ ?_ ?_
  · refine Sat.ofExcept_bind (fun _ _ => Sat.pure ⟨Or.inl rfl, rfl, rfl⟩) fun e he => ?_
    exact ⟨Or.inr ⟨e, rfl, he⟩, rfl, rfl⟩
  · rintro a _ _ ⟨ha | ⟨e, ha, -⟩, rfl, rfl⟩
    · cases ha
      simpa using h
    · cases ha
  · rintro e _ _ ⟨ha | ⟨e', ha, he'⟩, rfl, rfl⟩
    · cases ha
    · cases ha
      exact herr _ he'

end Rules

/-! ## Logs of one adapter's use -/

/-- How far the use of a candidate's adapter got. -/
inductive Usage where
  | untouched
  | loadFailed
  | loaded
  | attempted (ended : Except PyExc (Dict String ItemPatch))

/-- The patches of an attempt that ended well. -/
def Usage.patches? : Usage → Option (Dict String ItemPatch)
  | attempted (.ok patches) => some patches
  | _ => none

/-- One guarded attempt: the answer of `infer`, then how the whole block ended.  A raised answer
    ends the block; an accepted one is the block's value. -/
inductive AttemptLog (a : A) (accumulated : Dict String ItemPatch) (correction : Bool) :
    List (Event A) → Except PyExc (Dict String ItemPatch) → Prop
  | answered (patches : Dict String ItemPatch) (ended : Except PyExc (Dict String ItemPatch))
      (h : ∀ accepted, ended = .ok accepted → accepted = patches) :
      AttemptLog a accumulated correction
        [.infer a correction accumulated (.ok patches), .attempt a correction (ended.map fun _ => ())] ended
  | raised (e : PyExc) :
      AttemptLog a accumulated correction
        [.infer a correction accumulated (.error e), .attempt a correction (.error e)] (.error e)

/-- The logs between an adapter's creation and its release. -/
inductive CandidateLog (a : A) (accumulated : Dict String ItemPatch) (repairs : Nat) :
    List (Event A) → Usage → Prop
  | untouched : CandidateLog a accumulated repairs [] .untouched
  | loadFailed (e : PyExc) : CandidateLog a accumulated repairs [.load a (.error e)] .loadFailed
  | loaded : CandidateLog a accumulated repairs [.load a (.ok ())] .loaded
  | first {es : List (Event A)} {ended : Except PyExc (Dict String ItemPatch)}
      (h : AttemptLog a accumulated false es ended) :
      CandidateLog a accumulated repairs (.load a (.ok ()) :: es) (.attempted ended)
  | second {es es' : List (Event A)} {refusal : PyExc} {ended : Except PyExc (Dict String ItemPatch)}
      (h : AttemptLog a accumulated false es (.error refusal)) (hrefused : refusal.isRefusedOutput = true)
      (hrepairs : 1 ≤ repairs) (h' : AttemptLog a accumulated true es' ended) :
      CandidateLog a accumulated repairs (.load a (.ok ()) :: (es ++ es')) (.attempted ended)

/-! ## The procedures of a candidate -/

section Procedures

variable {batch : WorkerInput} {baseResults : Dict String ItemResult} {maxRepairAttempts : Nat} {a : A}

/-- The variables the verdict on a candidate is read from are as they were. -/
def CandidateLocals.SameVerdict (l l' : CandidateLocals) : Prop :=
  l'.status = l.status ∧ l'.errorCode = l.errorCode ∧ l'.outputPayload = l.outputPayload ∧
    l'.candidateResults = l.candidateResults

theorem CandidateLocals.SameVerdict.refl (l : CandidateLocals) : l.SameVerdict l := ⟨rfl, rfl, rfl, rfl⟩

theorem CandidateLocals.SameVerdict.trans {l l' l'' : CandidateLocals} (h : l.SameVerdict l')
    (h' : l'.SameVerdict l'') : l.SameVerdict l'' :=
  ⟨h'.1.trans h.1, h'.2.1.trans h.2.1, h'.2.2.1.trans h.2.2.1, h'.2.2.2.trans h.2.2.2⟩

/-- Recording an attempt leaves no event and touches only the attempts. -/
theorem appendAttempt_sat (attempt : Nat) (kind : AttemptKind) (status : RunStatus) (startedAt : DateTime)
    (ms : Int) (code : Option String) (l : CandidateLocals) :
    Sat (appendAttempt env attempt kind status startedAt ms code) l fun r l' es =>
      es = [] ∧ l.SameVerdict l' ∧ (env.Contained → r = .ok ()) := by
  unfold appendAttempt
  refine now_bind fun finishedAt => peakVramBytes_bind (fun peak => ?_) fun e hmem => ?_
  · refine construct_bind (Sat.modify ⟨rfl, ⟨rfl, rfl, rfl, rfl⟩, fun _ => rfl⟩) fun e he => ?_
    refine ⟨rfl, .refl l, fun hc => ?_⟩
    rw [hc.models.stageAttempt] at he
    cases he
  · exact ⟨rfl, .refl l, fun hc => absurd hc.memory hmem⟩

/-- An error the handlers of a candidate contain. -/
def Contains (env : Environment ω A) {α : Type} (r : Except PyExc α) : Prop :=
  env.Contained → ∀ e, r = .error e → e.isException = true

/-- The base map merged with the patches of an attempt that ended well, else what was there. -/
def resultsAfter (baseResults : Dict String ItemResult) (previous : Option (Dict String ItemResult)) :
    Except PyExc (Dict String ItemPatch) → Option (Dict String ItemResult)
  | .ok patches => some (mergeAll baseResults patches)
  | .error _ => previous

/-- Containment is a property of the exception alone. -/
theorem Contains.recast {α β : Type} {e : PyExc} (h : Contains env (.error e : Except PyExc α)) :
    Contains env (.error e : Except PyExc β) := by
  rintro hc _ ⟨rfl⟩
  exact h hc e rfl

/-- **One guarded attempt.**  `candidate_results` is assigned exactly when the attempt ends well, and
    then it is the base map merged with the answer. -/
theorem attemptInference_sat (correction : Bool) {noteTime : Prog ω CandidateLocals PyExc (Event A) Unit}
    (hnote : ∀ l, Sat noteTime l fun r l' es => r = .ok () ∧ es = [] ∧ l.SameVerdict l')
    (l : CandidateLocals) :
    Sat (attemptInference env batch baseResults a correction noteTime) l fun r l' es =>
      AttemptLog a (asPatches baseResults) correction es r ∧
      l'.status = l.status ∧ l'.errorCode = l.errorCode ∧ l'.outputPayload = l.outputPayload ∧
      l'.candidateResults = resultsAfter baseResults l.candidateResults r ∧
      Contains env r := by
  unfold attemptInference infer
  apply Sat.observe
  refine Sat.observe_call_bind (fun patches _ => ?_) fun e he => ?_
  · -- the answer came: what follows can only end the block without a value, or with these patches
    have hlost : ∀ e l', l.SameVerdict l' → (env.Contained → e.isException = true) →
        AttemptLog a (asPatches baseResults) correction
          [.infer a correction (asPatches baseResults) (.ok patches), .attempt a correction (.error e)]
          (.error e : Except PyExc (Dict String ItemPatch)) ∧
        l'.status = l.status ∧ l'.errorCode = l.errorCode ∧ l'.outputPayload = l.outputPayload ∧
        l'.candidateResults = l.candidateResults ∧
        Contains env (.error e : Except PyExc (Dict String ItemPatch)) := by
      intro e l' hsame hexc
      refine ⟨.answered patches (.error e) (by rintro _ ⟨⟩), hsame.1, hsame.2.1, hsame.2.2.1,
        hsame.2.2.2, ?_⟩
      rintro hc _ ⟨rfl⟩
      exact hexc hc
    refine Sat.call_bind (fun _ _ => ?_) fun e he => hlost e l (.refl l) fun hc => hc.synchronizeCuda e he
    refine Sat.bind (hnote l) ?_ ?_
    · rintro _ l₁ es ⟨-, rfl, hsame⟩
      unfold assignValidated
      refine Sat.bind (P := fun r l₂ es => es = [] ∧
          (∀ done, r = .ok done → l₂ = { l₁ with candidateResults := some (mergeAll baseResults patches) }) ∧
          ∀ e, r = .error e → l₂ = l₁ ∧ (env.Contained → e.isException = true)) ?_ ?_ ?_
      · refine Sat.ofExcept_bind (fun m hm => ?_) fun e he => ?_
        · rw [validatedCandidates_eq_ok hm]
          exact Sat.modify ⟨rfl, fun _ _ => rfl, fun e he => by cases he⟩
        · refine ⟨rfl, fun _ hdone => (by cases hdone), ?_⟩
          rintro _ ⟨rfl⟩
          exact ⟨rfl, fun hc => validatedCandidates_isException hc.validateItemResult he⟩
      · rintro done l₂ es ⟨rfl, hdone, -⟩
        obtain rfl := hdone done rfl
        apply Sat.pure
        exact ⟨.answered patches (.ok patches) (by rintro _ ⟨rfl⟩; rfl), hsame.1, hsame.2.1,
          hsame.2.2.1, rfl, by rintro - _ ⟨⟩⟩
      · rintro e l₂ es ⟨rfl, -, herror⟩
        obtain ⟨rfl, hexc⟩ := herror e rfl
        exact hlost e l₂ hsame hexc
    · rintro e l₁ es ⟨h, -⟩
      cases h
  · -- the answer is the exception itself
    refine ⟨.raised e, rfl, rfl, rfl, rfl, ?_⟩
    rintro hc _ ⟨rfl⟩
    exact hc.infer a batch.items _ _ e he

/-- **The correction.**  Either nothing is asked (the contract forbids it, or the failed attempt could
    not be recorded), or one corrected attempt is made. -/
theorem repair_sat (startedAt : DateTime) (started : ℚ) {refusal : PyExc}
    (hrefused : refusal.isRefusedOutput = true) (l : CandidateLocals) :
    Sat (repair env batch baseResults maxRepairAttempts a startedAt started refusal) l fun r l' es =>
      l'.status = l.status ∧ l'.errorCode = l.errorCode ∧ l'.outputPayload = l.outputPayload ∧
      Contains env r ∧
      ((es = [] ∧ l'.candidateResults = l.candidateResults ∧ ∀ patches, r ≠ .ok patches) ∨
        (1 ≤ maxRepairAttempts ∧ ∃ ended, AttemptLog a (asPatches baseResults) true es ended ∧
          l'.candidateResults = resultsAfter baseResults l.candidateResults ended ∧
          ∀ patches, r = .ok patches → ended = .ok patches)) := by
  have hexception : refusal.isException = true := PyExc.isException_of_isRefusedOutput hrefused
  unfold repair
  refine perfCounter_bind fun refused => Sat.modify_bind ?_
  refine Sat.bind (appendAttempt_sat _ _ _ _ _ _ _) ?_ ?_
  · rintro _ l₁ _ ⟨rfl, hsame, -⟩
    obtain ⟨hstatus, hcode, hpayload, hresults⟩ := hsame
    by_cases hrepairs : maxRepairAttempts < 1
    · rw [if_pos hrepairs]
      refine Sat.raise ⟨hstatus, hcode, hpayload, ?_, Or.inl ⟨rfl, hresults, by rintro _ ⟨⟩⟩⟩
      rintro - _ ⟨rfl⟩
      exact hexception
    · rw [if_neg hrepairs]
      refine now_bind fun correctionStartedAt => perfCounter_bind fun correctionStarted => ?_
      refine Sat.capture_bind (attemptInference_sat true ?_ l₁) ?_
      · exact fun l => Sat.pure ⟨rfl, rfl, .refl l⟩
      · rintro ended l₂ es ⟨hlog, hstatus₂, hcode₂, hpayload₂, hresults₂, hcontains⟩
        -- whatever the handlers of the correction do, they keep the verdict's variables
        have hdone : ∀ (r : Except PyExc (Dict String ItemPatch)) (l' : CandidateLocals),
            l₂.SameVerdict l' → Contains env r → (∀ patches, r = .ok patches → ended = .ok patches) →
            l'.status = l.status ∧ l'.errorCode = l.errorCode ∧ l'.outputPayload = l.outputPayload ∧
            Contains env r ∧
            ((es = [] ∧ l'.candidateResults = l.candidateResults ∧ ∀ patches, r ≠ .ok patches) ∨
              (1 ≤ maxRepairAttempts ∧ ∃ ended, AttemptLog a (asPatches baseResults) true es ended ∧
                l'.candidateResults = resultsAfter baseResults l.candidateResults ended ∧
                ∀ patches, r = .ok patches → ended = .ok patches)) := by
          intro r l' hsame hr hended
          refine ⟨hsame.1.trans (hstatus₂.trans hstatus), hsame.2.1.trans (hcode₂.trans hcode),
            hsame.2.2.1.trans (hpayload₂.trans hpayload), hr, Or.inr ⟨by omega, ended, hlog, ?_, hended⟩⟩
          rw [hsame.2.2.2, hresults₂]
          cases ended with
          | ok patches => rfl
          | error e => exact hresults
        cases ended with
        | ok patches =>
          refine perfCounter_bind fun corrected => Sat.modify_bind ?_
          refine Sat.bind (appendAttempt_sat _ _ _ _ _ _ _) ?_ ?_
          · rintro _ l₃ _ ⟨rfl, hsame, -⟩
            refine Sat.pure ?_
            simpa using hdone (.ok patches) l₃ hsame (by rintro - _ ⟨⟩) fun _ h => h
          · rintro e l₃ _ ⟨rfl, hsame, hok⟩
            simpa using hdone (.error e) l₃ hsame (fun hc => by cases hok hc) (by rintro _ ⟨⟩)
        | error e =>
          have hraise : Contains env (.error e : Except PyExc (Dict String ItemPatch)) := hcontains
          by_cases hexc : e.isException = true
          · simp only [hexc, if_true]
            refine perfCounter_bind fun failed => Sat.modify_bind ?_
            refine Sat.bind (appendAttempt_sat _ _ _ _ _ _ _) ?_ ?_
            · rintro _ l₃ _ ⟨rfl, hsame, -⟩
              refine Sat.raise ?_
              simpa using hdone (.error e) l₃ hsame hraise (by rintro _ ⟨⟩)
            · rintro e' l₃ _ ⟨rfl, hsame, hok⟩
              simpa using hdone (.error e') l₃ hsame (fun hc => by cases hok hc) (by rintro _ ⟨⟩)
          · simp only [hexc]
            refine Sat.raise ?_
            simpa using hdone (.error e) l₂ (.refl l₂) hraise (by rintro _ ⟨⟩)
  · rintro e l₁ _ ⟨rfl, hsame, hok⟩
    refine ⟨hsame.1, hsame.2.1, hsame.2.2.1, ?_, Or.inl ⟨rfl, hsame.2.2.2, by rintro _ ⟨⟩⟩⟩
    intro hc
    cases hok hc

/-- **Inference with its handlers.**  The log, placed behind a successful load, is one of the two
    kinds with an attempt, and `candidate_results` is what its last attempt accepted. -/
theorem inferWithRepair_sat (l : CandidateLocals) (hnone : l.candidateResults = none) :
    Sat (inferWithRepair env batch baseResults maxRepairAttempts a) l fun r l' es =>
      l'.status = l.status ∧ l'.errorCode = l.errorCode ∧ l'.outputPayload = l.outputPayload ∧
      Contains env r ∧
      ∃ ended, CandidateLog a (asPatches baseResults) maxRepairAttempts (.load a (.ok ()) :: es)
          (.attempted ended) ∧
        l'.candidateResults = resultsAfter baseResults none ended ∧
        ∀ patches, r = .ok patches → ended = .ok patches := by
  unfold inferWithRepair
  refine now_bind fun startedAt => perfCounter_bind fun started => ?_
  refine Sat.capture_bind (attemptInference_sat false ?_ l) ?_
  · intro l
    exact perfCounter_bind fun finished => Sat.modify ⟨rfl, rfl, rfl, rfl, rfl, rfl⟩
  · rintro ended l₁ es ⟨hlog, hstatus, hcode, hpayload, hresults, hcontains⟩
    have hresults₁ : l₁.candidateResults = resultsAfter baseResults none ended := by
      rw [hresults]
      cases ended with
      | ok patches => rfl
      | error e => exact hnone
    -- without a correction, the one attempt decides
    have hdone : ∀ (r : Except PyExc (Dict String ItemPatch)) (l' : CandidateLocals),
        l₁.SameVerdict l' → Contains env r → (∀ patches, r = .ok patches → ended = .ok patches) →
        l'.status = l.status ∧ l'.errorCode = l.errorCode ∧ l'.outputPayload = l.outputPayload ∧
        Contains env r ∧
        ∃ ended, CandidateLog a (asPatches baseResults) maxRepairAttempts (.load a (.ok ()) :: es)
            (.attempted ended) ∧
          l'.candidateResults = resultsAfter baseResults none ended ∧
          ∀ patches, r = .ok patches → ended = .ok patches := by
      intro r l' hsame hr hended
      exact ⟨hsame.1.trans hstatus, hsame.2.1.trans hcode, hsame.2.2.1.trans hpayload, hr, ended,
        .first hlog, hsame.2.2.2.trans hresults₁, hended⟩
    cases ended with
    | ok patches =>
      refine Sat.get_bind (Sat.bind (appendAttempt_sat _ _ _ _ _ _ _) ?_ ?_)
      · rintro _ l₂ _ ⟨rfl, hsame, -⟩
        refine Sat.pure ?_
        simpa using hdone (.ok patches) l₂ hsame (by rintro - _ ⟨⟩) fun _ h => h
      · rintro e l₂ _ ⟨rfl, hsame, hok⟩
        simpa using hdone (.error e) l₂ hsame (fun hc => by cases hok hc) (by rintro _ ⟨⟩)
    | error e =>
      by_cases hrefused : e.isRefusedOutput = true
      · simp only [hrefused, if_true]
        refine (repair_sat startedAt started hrefused l₁).mono ?_
        rintro r l₂ es' ⟨hstatus₂, hcode₂, hpayload₂, hr, hcase⟩
        rcases hcase with ⟨rfl, hres, hno⟩ | ⟨hrepairs, ended', hlog', hres, hended⟩
        · simpa using hdone r l₂ ⟨hstatus₂, hcode₂, hpayload₂, hres⟩ hr fun p hp => absurd hp (hno p)
        · refine ⟨hstatus₂.trans hstatus, hcode₂.trans hcode, hpayload₂.trans hpayload, hr, ended',
            .second hlog hrefused hrepairs hlog', ?_, hended⟩
          rw [hres, hresults₁]
          cases ended' <;> rfl
      · simp only [hrefused]
        by_cases hexc : e.isException = true
        · simp only [hexc, if_true]
          refine perfCounter_bind fun failed => Sat.modify_bind ?_
          refine Sat.bind (appendAttempt_sat _ _ _ _ _ _ _) ?_ ?_
          · rintro _ l₂ _ ⟨rfl, hsame, -⟩
            refine Sat.raise ?_
            simpa using hdone (.error e) l₂ hsame hcontains (by rintro _ ⟨⟩)
          · rintro e' l₂ _ ⟨rfl, hsame, hok⟩
            simpa using hdone (.error e') l₂ hsame (fun hc => by cases hok hc) (by rintro _ ⟨⟩)
        · simp only [hexc]
          refine Sat.raise ?_
          simpa using hdone (.error e) l₁ (.refl l₁) hcontains (by rintro _ ⟨⟩)

/-- **The outer `try` of a candidate.**  It ends without an exception exactly when everything in it
    did, and only then is the candidate marked as succeeded. -/
theorem candidateBody_sat (loadStarted : ℚ) :
    Sat (candidateBody env batch baseResults maxRepairAttempts a loadStarted) {} fun r l' es =>
      ∃ usage, CandidateLog a (asPatches baseResults) maxRepairAttempts es usage ∧
        l'.candidateResults = usage.patches?.map (mergeAll baseResults) ∧ l'.errorCode = none ∧
        Contains env r ∧
        (match r with
          | .ok _ => l'.status = .succeeded ∧ l'.outputPayload.isSome = true ∧ usage.patches?.isSome = true
          | .error _ => l'.status = .failed ∧ l'.outputPayload = none) := by
  unfold candidateBody
  refine Sat.call_bind (fun _ _ => ?_) fun e he => ?_
  · refine Sat.observe_call_bind (fun _ _ => ?_) fun e he => ?_
    · refine Sat.call_bind (fun _ _ => ?_) fun e he => ?_
      · refine perfCounter_bind fun loaded => Sat.modify_bind ?_
        refine Sat.bind (inferWithRepair_sat _ rfl) ?_ ?_
        · rintro patches l₁ es ⟨hstatus, hcode, hpayload, -, ended, hlog, hresults, hended⟩
          obtain rfl : ended = .ok patches := hended patches rfl
          refine Sat.ofExcept_bind (fun payload _ => Sat.modify ?_) fun e he => ?_
          · exact ⟨.attempted (.ok patches), by simpa using hlog, hresults, hcode, by rintro - _ ⟨⟩,
              rfl, rfl, rfl⟩
          · refine ⟨.attempted (.ok patches), by simpa using hlog, hresults, hcode, ?_, hstatus, hpayload⟩
            intro hc
            obtain ⟨payload, hp⟩ := candidatePayload_eq_ok hc.models patches
            rw [hp] at he
            cases he
        · rintro e l₁ es ⟨hstatus, hcode, hpayload, hcontains, ended, hlog, hresults, -⟩
          refine ⟨.attempted ended, hlog, ?_, hcode, hcontains.recast, hstatus, hpayload⟩
          rw [hresults]
          cases ended <;> rfl
      · refine ⟨.loaded, .loaded, rfl, rfl, ?_, rfl, rfl⟩
        rintro hc _ ⟨rfl⟩
        exact hc.synchronizeCuda e he
    · refine ⟨.loadFailed, .loadFailed e, rfl, rfl, ?_, rfl, rfl⟩
      rintro hc _ ⟨rfl⟩
      exact hc.load a e he
  · refine ⟨.untouched, .untouched, rfl, rfl, ?_, rfl, rfl⟩
    rintro hc _ ⟨rfl⟩
    exact absurd he (hc.memory.resetPeak e)

/-- How a candidate's variables stand once its `except` clauses have run. -/
def CandidateLocals.Settled (l : CandidateLocals) : Prop :=
  (l.status = .succeeded ∧ l.errorCode = none ∧ l.outputPayload.isSome = true ∧
      l.candidateResults.isSome = true) ∨
    (l.status = .failed ∧ l.outputPayload = none ∧
      (l.errorCode = some "invalid_model_output" ∨ l.errorCode = some "model_runtime_error"))

/-- The `except` clauses settle the verdict; only what is no `Exception` passes through them. -/
theorem guardedCandidate_sat (loadStarted : ℚ) :
    Sat (guardedCandidate env batch baseResults maxRepairAttempts a loadStarted) {} fun r l' es =>
      ∃ usage, CandidateLog a (asPatches baseResults) maxRepairAttempts es usage ∧
        l'.candidateResults = usage.patches?.map (mergeAll baseResults) ∧
        (l'.status = .succeeded → usage.patches?.isSome = true) ∧
        (r = .ok () → l'.Settled) ∧ (env.Contained → r = .ok ()) := by
  unfold guardedCandidate
  refine Sat.capture_bind (candidateBody_sat loadStarted) ?_
  rintro ended l₁ es ⟨usage, hlog, hresults, hcode, hcontains, hended⟩
  cases ended with
  | ok u =>
    obtain ⟨hstatus, hpayload, hpatches⟩ := hended
    refine Sat.pure ⟨usage, by simpa using hlog, hresults, fun _ => hpatches, ?_, fun _ => rfl⟩
    refine fun _ => Or.inl ⟨hstatus, hcode, hpayload, ?_⟩
    rw [hresults, Option.isSome_map]
    exact hpatches
  | error e =>
    obtain ⟨hstatus, hpayload⟩ := hended
    by_cases hrefused : e.isRefusedOutput = true
    · simp only [hrefused, if_true]
      refine Sat.modify ⟨usage, by simpa using hlog, hresults, ?_, ?_, fun _ => rfl⟩
      · intro hs
        rw [hstatus] at hs
        cases hs
      · exact fun _ => Or.inr ⟨hstatus, hpayload, Or.inl rfl⟩
    · simp only [hrefused]
      by_cases hexc : e.isException = true
      · simp only [hexc, if_true]
        refine Sat.modify ⟨usage, by simpa using hlog, hresults, ?_, ?_, fun _ => rfl⟩
        · intro hs
          rw [hstatus] at hs
          cases hs
        · exact fun _ => Or.inr ⟨hstatus, hpayload, Or.inr rfl⟩
      · simp only [hexc]
        refine Sat.raise ⟨usage, by simpa using hlog, hresults, ?_, ?_, ?_⟩
        · intro hs
          rw [hstatus] at hs
          cases hs
        · rintro ⟨⟩
        · exact fun hc => absurd (hcontains hc e rfl) hexc

/-- The `finally` of a candidate releases its adapter, unless the memory manager itself raises. -/
theorem closeCandidate_sat (l : CandidateLocals) :
    Sat (closeCandidate env a) l fun r l' es =>
      l.SameVerdict l' ∧ (es = [.release a] ∨ (es = [] ∧ ¬ env.memory.Reliable)) ∧
      (env.memory.Reliable → r = .ok ()) ∧ (r = .ok () → es = [.release a]) := by
  unfold closeCandidate
  refine peakVramBytes_bind (fun peak => Sat.modify_bind ?_) fun e hmem => ?_
  · refine Sat.observe (Sat.call fun r hr => ⟨⟨rfl, rfl, rfl, rfl⟩, Or.inl rfl, fun hmem => ?_, fun _ => rfl⟩)
    cases r with
    | ok u => rfl
    | error e => exact absurd hr (hmem.release a e)
  · exact ⟨.refl l, Or.inr ⟨rfl, hmem⟩, fun h => absurd h hmem, by rintro ⟨⟩⟩

end Procedures

/-! ## One candidate, whole -/

/-- **What executing a candidate comes to**, when it does not raise.  Its log is the creation of an
    adapter, one use of it, its release; it carries the base map merged with the patches its last
    attempt accepted, if one did; and it is recorded as succeeded, without an error code, or as
    failed, with one. -/
structure CandidateDone (role : PipelineModelRole) (candidate : ModelCandidateSpec)
    (baseResults : Dict String ItemResult) (repairs : Nat) (x : CandidateExecution)
    (es : List (Event A)) : Prop where
  candidate_eq : x.candidate = candidate
  log : ∃ a body usage, es = .create role candidate (.ok a) :: (body ++ [.release a]) ∧
    CandidateLog a (asPatches baseResults) repairs body usage ∧
    x.results = usage.patches?.map (mergeAll baseResults) ∧
    (x.run.status = .succeeded → usage.patches?.isSome = true)
  verdict : (x.run.status = .succeeded ∧ x.run.errorCode = none ∧ x.results.isSome = true ∧
      x.candidateRun.outputPayload.isSome = true) ∨
    (x.run.status = .failed ∧ x.candidateRun.outputPayload = none ∧
      (x.run.errorCode = some "invalid_model_output" ∨ x.run.errorCode = some "model_runtime_error"))
  run_role : x.run.modelRole = role
  run_model : x.run.modelId = candidate.spec.modelId ∧ x.run.revision = candidate.spec.revision
  record_id : x.candidateRun.candidateId = candidate.candidateId
  record_stage : x.candidateRun.stageRole = role.stageRole
  record_role : x.candidateRun.modelRole = modelRoleV2 role
  record_status : x.candidateRun.status = x.run.status
  record_code : x.candidateRun.errorCode = x.run.errorCode

/-- What an execution that raised leaves: a refused creation, or an adapter that was released. -/
def CandidateAborted (env : Environment ω A) (role : PipelineModelRole) (candidate : ModelCandidateSpec)
    (baseResults : Dict String ItemResult) (repairs : Nat) (es : List (Event A)) : Prop :=
  (∃ e, es = [.create role candidate (.error e)]) ∨
    (¬ env.Contained ∧ ∃ a body usage tail, es = .create role candidate (.ok a) :: (body ++ tail) ∧
      CandidateLog a (asPatches baseResults) repairs body usage ∧
      (tail = [.release a] ∨ (tail = [] ∧ ¬ env.memory.Reliable)))

/-- **Executing one candidate**, in any world and from any state of the caller. -/
theorem executeCandidate_sat (role : PipelineModelRole) (candidate : ModelCandidateSpec)
    (batch : WorkerInput) (baseResults : Dict String ItemResult) (repairs : Nat) (s : σ) :
    Sat (executeCandidate env role candidate batch baseResults repairs) s fun r s' es =>
      s' = s ∧ match r with
        | .ok x => CandidateDone role candidate baseResults repairs x es
        | .error _ => CandidateAborted env role candidate baseResults repairs es := by
  unfold executeCandidate
  apply Sat.scope
  refine now_bind fun startedAt => Sat.observe_call_bind (fun a _ => ?_) fun e _ => ?_
  · refine perfCounter_bind fun loadStarted => ?_
    refine Sat.bind (P := fun r l es => ∃ body usage tail, es = body ++ tail ∧
        CandidateLog a (asPatches baseResults) repairs body usage ∧
        l.candidateResults = usage.patches?.map (mergeAll baseResults) ∧
        (l.status = .succeeded → usage.patches?.isSome = true) ∧
        (tail = [.release a] ∨ (tail = [] ∧ ¬ env.memory.Reliable)) ∧
        (r = .ok () → tail = [.release a] ∧ l.Settled) ∧ (env.Contained → r = .ok ())) ?_ ?_ ?_
    · refine Sat.finallyDo (guardedCandidate_sat loadStarted) ?_
      rintro r l body ⟨usage, hlog, hresults, hpatches, hsettled, hcontained⟩
      refine (closeCandidate_sat l).mono ?_
      rintro r' l' tail ⟨hsame, htail, hreliable, hreleased⟩
      cases r' with
      | ok u =>
        refine ⟨body, usage, tail, rfl, hlog, hsame.2.2.2.trans hresults, ?_, htail, ?_, hcontained⟩
        · rw [hsame.1]
          exact hpatches
        · intro hr
          refine ⟨hreleased rfl, ?_⟩
          rw [CandidateLocals.Settled, hsame.1, hsame.2.1, hsame.2.2.1, hsame.2.2.2]
          exact hsettled hr
      | error e =>
        refine ⟨body, usage, tail, rfl, hlog, hsame.2.2.2.trans hresults, ?_, htail, by rintro ⟨⟩, ?_⟩
        · rw [hsame.1]
          exact hpatches
        · intro hc
          cases hreliable hc.memory
    · rintro _ l es ⟨body, usage, tail, rfl, hlog, hresults, hpatches, -, hok, -⟩
      obtain ⟨rfl, hsettled⟩ := hok rfl
      refine now_bind fun finishedAt => Sat.get_bind ?_
      refine construct_bind (construct_bind (Sat.pure ⟨rfl, ?_⟩) fun e he => ⟨rfl, ?_⟩) fun e he => ⟨rfl, ?_⟩
      · refine ⟨rfl, ⟨a, body, usage, by simp, hlog, hresults, hpatches⟩, ?_, rfl, ⟨rfl, rfl⟩, rfl, rfl,
          rfl, rfl, rfl⟩
        rcases hsettled with ⟨hs, hcode, hpayload, hres⟩ | ⟨hs, hpayload, hcode⟩
        · exact Or.inl ⟨hs, hcode, hres, hpayload⟩
        · exact Or.inr ⟨hs, hpayload, hcode⟩
      · refine Or.inr ⟨fun hc => ?_, a, body, usage, [.release a], by simp, hlog, Or.inl rfl⟩
        rw [hc.models.candidateRun] at he
        cases he
      · refine Or.inr ⟨fun hc => ?_, a, body, usage, [.release a], by simp, hlog, Or.inl rfl⟩
        rw [hc.models.modelRun] at he
        cases he
    · rintro e l es ⟨body, usage, tail, rfl, hlog, -, -, htail, -, hcontained⟩
      refine ⟨rfl, Or.inr ⟨fun hc => ?_, a, body, usage, tail, rfl, hlog, htail⟩⟩
      cases hcontained hc
  · exact ⟨rfl, Or.inl ⟨e, rfl⟩⟩

end SessionRunner

end FireviewerOrchestrator
