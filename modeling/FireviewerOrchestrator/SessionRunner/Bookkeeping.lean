/-
  The books of one candidate: what its execution says of itself, against the attempts it made.

  `_execute_candidate` writes its status, its error code, its results, its payload, its attempts and
  its times at different moments, inside three nested `try` blocks.  `Course` lists the five ways the
  attempts can go; `Kept` says that the variables written so far agree with one of them, and is
  carried from line to line.

  The results are assigned when an answer is ACCEPTED, the status only after that answer has been
  serialised.  So the books are in order exactly when the accepted answer can be serialised
  (`bookkeeping_iff_serialises`).
-/
import FireviewerOrchestrator.SessionRunner.Candidate
import FireviewerOrchestrator.SessionRunner.Scripted

set_option linter.unusedVariables false

namespace FireviewerOrchestrator

/-- Which attempt a record is about, and how it ended. -/
def WorkerStageAttemptV2.summary (record : WorkerStageAttemptV2) : AttemptKind × RunStatus :=
  (record.kind, record.status)

namespace SessionRunner

open Traced Prog

/-! ## Courses -/

/-- The ways the attempts of a candidate can go. -/
inductive Course where
  | unattempted
  | answered
  | failed
  | corrected
  | failedTwice

namespace Course

def attempts : Course → List (AttemptKind × RunStatus)
  | unattempted => []
  | answered => [(.initial, .succeeded)]
  | failed => [(.initial, .failed)]
  | corrected => [(.initial, .failed), (.repair, .succeeded)]
  | failedTwice => [(.initial, .failed), (.repair, .failed)]

/-- An answer was accepted. -/
def accepted : Course → Bool
  | answered | corrected => true
  | _ => false

/-- Only an accepted answer leaves a succeeded attempt behind, and leaves it last. -/
theorem accepted_iff_last (course : Course) :
    course.accepted = true ↔ ∃ kind, course.attempts.getLast? = some (kind, .succeeded) := by
  cases course <;> simp [accepted, attempts]

end Course

/-- **The variables agree with a course**: its attempts are the recorded ones, their times add up, and
    there are results when it accepted an answer. -/
structure Kept (course : Course) (l : CandidateLocals) : Prop where
  attempts : l.stageAttempts.map WorkerStageAttemptV2.summary = course.attempts
  repaired : l.repaired = true ↔ course = .corrected
  inferenceMs : l.inferenceMs = (l.stageAttempts.map (·.inferenceMs)).sum
  results : l.candidateResults.isSome = course.accepted

/-! ## The books -/

/-- **The books of an execution are in order.** -/
structure Bookkeeping (x : CandidateExecution) : Prop where
  results : x.run.status = .succeeded ↔ x.results.isSome = true
  errorCode : x.run.status = .succeeded ↔ x.run.errorCode = none
  payload : x.run.status = .succeeded ↔ x.candidateRun.outputPayload.isSome = true
  digest : x.run.status = .succeeded ↔ x.candidateRun.outputDigest.isSome = true
  lastAttempt : x.run.status = .succeeded ↔
    ∃ last, x.attempts.getLast? = some last ∧ last.status = .succeeded
  attempts : x.attempts.map WorkerStageAttemptV2.summary ∈
    [[], [(.initial, .succeeded)], [(.initial, .failed)],
      [(.initial, .failed), (.repair, .succeeded)], [(.initial, .failed), (.repair, .failed)]]
  repaired : x.repaired = true ↔
    x.attempts.map WorkerStageAttemptV2.summary = [(.initial, .failed), (.repair, .succeeded)]
  inferenceMs : x.run.inferenceMs = (x.attempts.map (·.inferenceMs)).sum
  record : x.candidateRun.status = x.run.status ∧ x.candidateRun.errorCode = x.run.errorCode ∧
    x.candidateRun.repaired = x.repaired ∧ x.candidateRun.inferenceMs = x.run.inferenceMs

section Log

variable {A : Type}

/-- The answers a log shows as accepted: an `infer` that answered, in a guarded block that ended well. -/
def acceptedAnswers : List (Event A) → List (Dict String ItemPatch)
  | [] => []
  | .infer _ _ _ (.ok patches) :: .attempt _ _ (.ok _) :: rest => patches :: acceptedAnswers rest
  | _ :: rest => acceptedAnswers rest

/-- A candidate's log shows the answer its use ended with, if that was one. -/
theorem acceptedAnswers_candidateLog {a : A} {accumulated : Dict String ItemPatch} {repairs : Nat}
    {body : List (Event A)} {usage : Usage} (h : CandidateLog a accumulated repairs body usage)
    (rest : List (Event A)) :
    acceptedAnswers (body ++ rest) = usage.patches?.toList ++ acceptedAnswers rest := by
  have hattempt : ∀ {correction : Bool} {es rest : List (Event A)}
      {ended : Except PyExc (Dict String ItemPatch)}, AttemptLog a accumulated correction es ended →
      acceptedAnswers (es ++ rest) = (Usage.attempted ended).patches?.toList ++ acceptedAnswers rest := by
    intro correction es rest ended hlog
    cases hlog with
    | raised e => rfl
    | answered patches ended hpatches =>
      cases ended with
      | error e => rfl
      | ok accepted =>
        obtain rfl := hpatches accepted rfl
        rfl
  cases h with
  | untouched => rfl
  | loadFailed e => rfl
  | loaded => rfl
  | @first es ended hlog =>
    show acceptedAnswers (es ++ rest) = (Usage.attempted ended).patches?.toList ++ acceptedAnswers rest
    exact hattempt hlog
  | @second es es' refusal ended hlog _ _ hlog' =>
    show acceptedAnswers ((es ++ es') ++ rest) = (Usage.attempted ended).patches?.toList ++ acceptedAnswers rest
    rw [List.append_assoc, hattempt hlog, hattempt hlog']
    rfl

/-- A release shows no answer. -/
theorem acceptedAnswers_release (a : A) (es : List (Event A)) :
    acceptedAnswers (es ++ [.release a]) = acceptedAnswers es := by
  fun_induction acceptedAnswers es with
  | case1 => rfl
  | case2 _ _ _ patches _ _ _ rest ih => exact congrArg (patches :: ·) ih
  | case3 event rest hno ih =>
    rw [List.cons_append, acceptedAnswers]
    · exact ih
    · intro _ _ _ _ _ _ _ _ hevent hrest
      cases rest with
      | nil => cases hrest
      | cons event' rest =>
        rw [List.cons_append, List.cons.injEq] at hrest
        exact hno _ _ _ _ _ _ _ _ hevent (by rw [hrest.1])

/-- **The books so far, against the log so far**: a course the variables agree with, which accepted an
    answer if the log shows one, and a status that says whether that answer was serialised. -/
def Audited {ω : Type} (env : Environment ω A) (es : List (Event A)) (l : CandidateLocals) : Prop :=
  ∃ course, Kept course l ∧ course.accepted = !(acceptedAnswers es).isEmpty ∧
    (l.status = .succeeded ↔
      ∃ patches ∈ acceptedAnswers es, ∃ payload, candidatePayload env.models patches = .ok payload)

/-- An audit looks at the log through its answers, and at some of the variables. -/
theorem Audited.congr {ω : Type} {env : Environment ω A} {es es' : List (Event A)} {l l' : CandidateLocals}
    (h : Audited env es l) (hanswers : acceptedAnswers es' = acceptedAnswers es)
    (hattempts : l'.stageAttempts = l.stageAttempts) (hrepaired : l'.repaired = l.repaired)
    (hms : l'.inferenceMs = l.inferenceMs) (hresults : l'.candidateResults = l.candidateResults)
    (hstatus : l'.status = l.status) : Audited env es' l' := by
  obtain ⟨course, hkept, haccepted, hserialised⟩ := h
  refine ⟨course, ⟨?_, ?_, ?_, ?_⟩, ?_, ?_⟩
  · rw [hattempts]
    exact hkept.attempts
  · rw [hrepaired]
    exact hkept.repaired
  · rw [hattempts, hms]
    exact hkept.inferenceMs
  · rw [hresults]
    exact hkept.results
  · rw [hanswers]
    exact haccepted
  · rw [hanswers, hstatus]
    exact hserialised

end Log

/-! ## Line by line

  The claims of this part are about the model's calls: the memory manager answers when it is asked for
  the peak, and an attempt's record is accepted. -/

section Procedures

variable {ω A σ : Type} {env : Environment ω A} {batch : WorkerInput} {baseResults : Dict String ItemResult}
  {maxRepairAttempts : Nat} {a : A}

section Records

variable (hpeak : Quiet env.memory.peakVramBytes)
  (hrecord : ∀ record, env.models.stageAttempt record = .ok ())

include hpeak hrecord

theorem appendAttempt_kept (attempt : Nat) (kind : AttemptKind) (status : RunStatus) (startedAt : DateTime)
    (ms : Int) (code : Option String) (l : CandidateLocals) :
    Sat (appendAttempt env attempt kind status startedAt ms code) l fun r l' es =>
      r = .ok () ∧ ∃ record, l' = { l with stageAttempts := l.stageAttempts ++ [record] } ∧
        record.summary = (kind, status) ∧ record.inferenceMs = ms := by
  unfold appendAttempt peakVramBytes
  refine now_bind fun finishedAt => Sat.call_bind (fun peak _ => ?_) fun e he => absurd he (hpeak e)
  refine construct_bind (Sat.modify ⟨rfl, _, rfl, rfl, rfl⟩) fun e he => ?_
  rw [hrecord] at he
  cases he

end Records

/-- What a guarded attempt leaves alone, it leaves alone however it ends. -/
theorem attemptInference_keeps {I : CandidateLocals → Prop} (correction : Bool)
    {noteTime : Prog ω CandidateLocals PyExc (Event A) Unit}
    (hnote : ∀ l, I l → Sat noteTime l fun r l' es => I l')
    (hassign : ∀ l results, I l → I { l with candidateResults := some results })
    {l : CandidateLocals} (hl : I l) :
    Sat (attemptInference env batch baseResults a correction noteTime) l fun r l' es => I l' := by
  unfold attemptInference infer
  refine Sat.observe (Sat.observe_call_bind (fun patches _ => ?_) fun e _ => hl)
  refine Sat.call_bind (fun _ _ => ?_) fun e _ => hl
  refine Sat.bind (hnote l hl) (fun _ l₁ es hl₁ => ?_) fun e l₁ es hl₁ => hl₁
  unfold assignValidated
  refine Sat.bind (P := fun _ l₂ es => I l₂) ?_ (fun _ l₂ es hl₂ => Sat.pure hl₂) fun e l₂ es hl₂ => hl₂
  exact Sat.ofExcept_bind (fun results _ => Sat.modify (hassign l₁ results hl₁)) fun e _ => hl₁

/-- A guarded attempt, with what it leaves alone: there are results afterwards exactly when it ended
    well, if there were none before. -/
theorem attemptInference_kept {I : CandidateLocals → Prop} (correction : Bool)
    {noteTime : Prog ω CandidateLocals PyExc (Event A) Unit}
    (hquiet : ∀ l, Sat noteTime l fun r l' es => r = .ok () ∧ es = [] ∧ l.SameVerdict l')
    (hnote : ∀ l, I l → Sat noteTime l fun r l' es => I l')
    (hassign : ∀ l results, I l → I { l with candidateResults := some results })
    {l : CandidateLocals} (hl : I l) (hnone : l.candidateResults = none) :
    Sat (attemptInference env batch baseResults a correction noteTime) l fun r l' es =>
      I l' ∧ l'.candidateResults.isSome = r.isOk := by
  refine (Sat.and (attemptInference_keeps correction hnote hassign hl)
    (attemptInference_sat correction hquiet l)).mono ?_
  rintro r l' es ⟨hI, -, -, -, -, hresults, -⟩
  refine ⟨hI, ?_⟩
  rw [hresults]
  cases r with
  | ok patches => rfl
  | error e =>
    show l.candidateResults.isSome = false
    rw [hnone]
    rfl

/-- The initial attempt records nothing by itself, it only notes its time. -/
theorem initialInference_kept (started : ℚ) (l : CandidateLocals) (hattempts : l.stageAttempts = [])
    (hrepaired : l.repaired = false) (hnone : l.candidateResults = none) :
    Sat (initialInference env batch baseResults a started) l fun r l' es =>
      (l'.stageAttempts = [] ∧ l'.repaired = false) ∧ l'.candidateResults.isSome = r.isOk := by
  have hquiet : ∀ l, Sat (ω := ω) (E := Event A) (perfCounter env >>= fun finished =>
      Prog.modify fun l : CandidateLocals => { l with inferenceMs := elapsedMs started finished }) l
      fun r l' es => r = .ok () ∧ es = [] ∧ l.SameVerdict l' :=
    fun l => perfCounter_bind fun finished => Sat.modify ⟨rfl, rfl, rfl, rfl, rfl, rfl⟩
  have hnote : ∀ l : CandidateLocals, (l.stageAttempts = [] ∧ l.repaired = false) →
      Sat (ω := ω) (E := Event A) (perfCounter env >>= fun finished =>
        Prog.modify fun l : CandidateLocals => { l with inferenceMs := elapsedMs started finished }) l
      fun r l' es => l'.stageAttempts = [] ∧ l'.repaired = false :=
    fun l hl => perfCounter_bind fun finished => Sat.modify hl
  exact attemptInference_kept false hquiet hnote (fun l results hl => hl) ⟨hattempts, hrepaired⟩ hnone

section Records

variable (hpeak : Quiet env.memory.peakVramBytes)
  (hrecord : ∀ record, env.models.stageAttempt record = .ok ())

include hpeak hrecord

/-- **The correction keeps the books**, whether it is allowed or not. -/
theorem repair_kept (startedAt : DateTime) (started : ℚ) (refusal : PyExc) (l : CandidateLocals)
    (hattempts : l.stageAttempts = []) (hrepaired : l.repaired = false) (hnone : l.candidateResults = none) :
    Sat (repair env batch baseResults maxRepairAttempts a startedAt started refusal) l fun r l' es =>
      ∃ course, Kept course l' ∧ course.accepted = r.isOk := by
  unfold repair
  refine perfCounter_bind fun refused => Sat.modify_bind ?_
  refine Sat.bind (appendAttempt_kept hpeak hrecord _ _ _ _ _ _ _) ?_ ?_
  · rintro _ l₁ _ ⟨-, first, rfl, hfirst, hms⟩
    by_cases hrepairs : maxRepairAttempts < 1
    · rw [if_pos hrepairs]
      refine Sat.raise ⟨.failed, ⟨?_, ?_, ?_, ?_⟩, rfl⟩
      · simp [hattempts, hfirst, Course.attempts]
      · simp [hrepaired]
      · simp [hattempts, hms]
      · simp [hnone, Course.accepted]
    · rw [if_neg hrepairs]
      refine now_bind fun correctionStartedAt => perfCounter_bind fun correctionStarted => ?_
      refine Sat.capture_bind (attemptInference_kept (I := fun l => l.stageAttempts = [first] ∧
          l.repaired = false ∧ l.inferenceMs = first.inferenceMs) true
        (fun l => Sat.pure ⟨rfl, rfl, .refl l⟩) (fun l hl => Sat.pure hl) (fun l results hl => hl)
        ⟨by simp [hattempts], hrepaired, hms.symm⟩ hnone) ?_
      rintro ended l₂ es ⟨⟨hattempts₂, hrepaired₂, hms₂⟩, hresults₂⟩
      cases ended with
      | ok patches =>
        refine perfCounter_bind fun corrected => Sat.modify_bind ?_
        refine Sat.bind (appendAttempt_kept hpeak hrecord _ _ _ _ _ _ _) ?_ ?_
        · rintro _ l₃ _ ⟨-, second, rfl, hsecond, hms₃⟩
          refine Sat.pure ⟨.corrected, ⟨?_, ?_, ?_, hresults₂⟩, rfl⟩
          · simp [hattempts₂, hfirst, hsecond, Course.attempts]
          · simp
          · simp [hattempts₂, hms₂, hms₃]
        · rintro e l₃ _ ⟨h, -⟩
          cases h
      | error e =>
        by_cases hexc : e.isException = true
        · simp only [hexc, if_true]
          refine perfCounter_bind fun failed => Sat.modify_bind ?_
          refine Sat.bind (appendAttempt_kept hpeak hrecord _ _ _ _ _ _ _) ?_ ?_
          · rintro _ l₃ _ ⟨-, second, rfl, hsecond, hms₃⟩
            refine Sat.raise ⟨.failedTwice, ⟨?_, ?_, ?_, hresults₂⟩, rfl⟩
            · simp [hattempts₂, hfirst, hsecond, Course.attempts]
            · simp [hrepaired₂]
            · simp [hattempts₂, hms₂, hms₃]
          · rintro e' l₃ _ ⟨h, -⟩
            cases h
        · -- what is no `Exception` passes through; the one attempt stands
          simp only [hexc]
          refine Sat.raise ⟨.failed, ⟨?_, ?_, ?_, hresults₂⟩, rfl⟩
          · simp [hattempts₂, hfirst, Course.attempts]
          · simp [hrepaired₂]
          · simp [hattempts₂, hms₂]
  · rintro e l₁ _ ⟨h, -⟩
    cases h

/-- **Inference with its handlers keeps the books**, unless what is raised is no `Exception`. -/
theorem inferWithRepair_kept (l : CandidateLocals) (hattempts : l.stageAttempts = [])
    (hrepaired : l.repaired = false) (hnone : l.candidateResults = none) :
    Sat (inferWithRepair env batch baseResults maxRepairAttempts a) l fun r l' es =>
      (∀ e, r = .error e → e.isException = true) →
        ∃ course, Kept course l' ∧ course.accepted = r.isOk := by
  unfold inferWithRepair
  refine now_bind fun startedAt => perfCounter_bind fun started => ?_
  refine Sat.capture_bind (initialInference_kept started l hattempts hrepaired hnone) ?_
  rintro ended l₁ es ⟨⟨hattempts₁, hrepaired₁⟩, hresults₁⟩
  cases ended with
  | ok patches =>
    refine Sat.get_bind (Sat.bind (appendAttempt_kept hpeak hrecord _ _ _ _ _ _ _) ?_ ?_)
    · rintro _ l₂ _ ⟨-, first, rfl, hfirst, hms⟩
      refine Sat.pure fun _ => ⟨.answered, ⟨?_, ?_, ?_, hresults₁⟩, rfl⟩
      · simp [hattempts₁, hfirst, Course.attempts]
      · simp [hrepaired₁]
      · simp [hattempts₁, hms]
    · rintro e l₂ _ ⟨h, -⟩
      cases h
  | error e =>
    have hsome : l₁.candidateResults.isSome = false := hresults₁
    have hnone₁ : l₁.candidateResults = none := by simpa using hsome
    by_cases hrefused : e.isRefusedOutput = true
    · simp only [hrefused, if_true]
      exact (repair_kept hpeak hrecord startedAt started e l₁ hattempts₁ hrepaired₁ hnone₁).mono
        fun r l' es h _ => h
    · simp only [hrefused]
      by_cases hexc : e.isException = true
      · simp only [hexc, if_true]
        refine perfCounter_bind fun failed => Sat.modify_bind ?_
        refine Sat.bind (appendAttempt_kept hpeak hrecord _ _ _ _ _ _ _) ?_ ?_
        · rintro _ l₂ _ ⟨-, first, rfl, hfirst, hms⟩
          refine Sat.raise fun _ => ⟨.failed, ⟨?_, ?_, ?_, hresults₁⟩, rfl⟩
          · simp [hattempts₁, hfirst, Course.attempts]
          · simp [hrepaired₁]
          · simp [hattempts₁, hms]
        · rintro e' l₂ _ ⟨h, -⟩
          cases h
      · simp only [hexc]
        exact Sat.raise fun h => absurd (h e rfl) hexc

/-- **The outer `try` keeps the books** and marks the candidate as succeeded once its accepted answer
    has been serialised. -/
theorem candidateBody_audited (loadStarted : ℚ) :
    Sat (candidateBody env batch baseResults maxRepairAttempts a loadStarted) {} fun r l' es =>
      (∀ e, r = .error e → e.isException = true) → Audited env es l' := by
  have hunattempted : ∀ loadMs, Audited env ([] : List (Event A)) { loadMs := loadMs } :=
    fun loadMs => ⟨.unattempted, ⟨rfl, by simp, rfl, rfl⟩, rfl, by simp [acceptedAnswers]⟩
  unfold candidateBody
  refine Sat.call_bind (fun _ _ => ?_) fun e _ _ => hunattempted 0
  refine Sat.observe_call_bind (fun _ _ => ?_) fun e _ _ => hunattempted 0
  refine Sat.call_bind (fun _ _ => ?_) fun e _ _ => hunattempted 0
  refine perfCounter_bind fun loaded => Sat.modify_bind ?_
  refine Sat.bind (Sat.and (inferWithRepair_sat _ rfl) (inferWithRepair_kept hpeak hrecord _ rfl rfl rfl)) ?_ ?_
  · rintro patches l₁ es ⟨⟨hstatus, -, -, -, ended, hlog, -, hended⟩, hkept⟩
    obtain ⟨course, hcourse, haccepted⟩ := hkept (by rintro e ⟨⟩)
    obtain rfl : ended = .ok patches := hended patches rfl
    have hanswers := acceptedAnswers_candidateLog hlog []
    rw [List.append_nil, show acceptedAnswers ([] : List (Event A)) = [] from rfl, List.append_nil] at hanswers
    refine Sat.ofExcept_bind (fun payload hpayload => Sat.modify fun _ => ?_) fun e he _ => ?_
    · refine ⟨course, ⟨hcourse.attempts, hcourse.repaired, hcourse.inferenceMs, hcourse.results⟩, ?_, ?_⟩
      · simp [hanswers, haccepted, Usage.patches?, Except.isOk, Except.toBool]
      · simp [hanswers, Usage.patches?, hpayload]
    · refine ⟨course, hcourse, ?_, ?_⟩
      · simp [hanswers, haccepted, Usage.patches?, Except.isOk, Except.toBool]
      · simp [hanswers, Usage.patches?, he, hstatus]
  · rintro e l₁ es ⟨⟨hstatus, -, -, -, ended, hlog, hresults, -⟩, hkept⟩ hexception
    obtain ⟨course, hcourse, haccepted⟩ := hkept (by rintro _ ⟨rfl⟩; exact hexception e rfl)
    -- no course that raised accepted an answer
    have hnone : ended.toOption = none := by
      have hsome := hcourse.results
      rw [hresults, haccepted] at hsome
      cases ended with
      | ok patches => cases hsome
      | error e => rfl
    have hanswers := acceptedAnswers_candidateLog hlog []
    rw [List.append_nil, show acceptedAnswers ([] : List (Event A)) = [] from rfl, List.append_nil] at hanswers
    cases ended with
    | ok patches => cases hnone
    | error e' =>
      refine ⟨course, hcourse, ?_, ?_⟩
      · simp [hanswers, haccepted, Usage.patches?, Except.isOk, Except.toBool]
      · simp [hanswers, Usage.patches?, hstatus]

/-- The `except` clauses only write the error code. -/
theorem guardedCandidate_audited (loadStarted : ℚ) :
    Sat (guardedCandidate env batch baseResults maxRepairAttempts a loadStarted) {} fun r l' es =>
      r = .ok () → Audited env es l' := by
  unfold guardedCandidate
  refine Sat.capture_bind (candidateBody_audited hpeak hrecord loadStarted) ?_
  rintro ended l₁ es haudited
  cases ended with
  | ok u => exact Sat.pure fun _ => by simpa using haudited (by rintro e ⟨⟩)
  | error e =>
    by_cases hrefused : e.isRefusedOutput = true
    · simp only [hrefused, if_true]
      refine Sat.modify fun _ => ?_
      have h := haudited (by rintro _ ⟨rfl⟩; exact PyExc.isException_of_isRefusedOutput hrefused)
      exact h.congr (by rw [List.append_nil]) rfl rfl rfl rfl rfl
    · simp only [hrefused]
      by_cases hexc : e.isException = true
      · simp only [hexc, if_true]
        refine Sat.modify fun _ => ?_
        have h := haudited (by rintro _ ⟨rfl⟩; exact hexc)
        exact h.congr (by rw [List.append_nil]) rfl rfl rfl rfl rfl
      · simp only [hexc]
        refine Sat.raise ?_
        rintro ⟨⟩

omit hrecord in
/-- The `finally` block only writes the peak, and leaves no answer in the log. -/
theorem closeCandidate_audited (l : CandidateLocals) :
    Sat (closeCandidate env a) l fun r l' es =>
      (∃ peak, l' = { l with peakVram := peak }) ∧ es = [.release a] := by
  unfold closeCandidate peakVramBytes
  refine Sat.call_bind (fun peak _ => Sat.modify_bind ?_) fun e he => absurd he (hpeak e)
  exact Sat.observe (Sat.call fun r _ => ⟨⟨peak, rfl⟩, rfl⟩)

/-- **The account of an execution's books**, when it returns. -/
theorem executeCandidate_audited (role : PipelineModelRole) (candidate : ModelCandidateSpec)
    (repairs : Nat) (s : σ) :
    Sat (executeCandidate env role candidate batch baseResults repairs) s fun r s' es =>
      ∀ x, r = .ok x → ∃ l, Audited env es l ∧ x.results = l.candidateResults ∧
        x.attempts = l.stageAttempts ∧ x.repaired = l.repaired ∧
        (∃ startedAt finishedAt, x.run = candidateModelRun role candidate startedAt finishedAt l ∧
          x.candidateRun = candidateRunRecord env role candidate startedAt finishedAt l) := by
  unfold executeCandidate
  apply Sat.scope
  refine now_bind fun startedAt => Sat.observe_call_bind (fun a _ => ?_) fun e _ => by rintro _ ⟨⟩
  refine perfCounter_bind fun loadStarted => ?_
  refine Sat.bind (P := fun r l es => r = .ok () → Audited env es l) ?_ ?_ ?_
  · refine Sat.finallyDo (guardedCandidate_audited hpeak hrecord loadStarted) ?_
    rintro r l body haudited
    refine (closeCandidate_audited hpeak l).mono ?_
    rintro r' l' _ ⟨⟨peak, rfl⟩, rfl⟩
    cases r' with
    | error e => rintro ⟨⟩
    | ok u =>
      rintro rfl
      exact (haudited rfl).congr (acceptedAnswers_release a body) rfl rfl rfl rfl rfl
  · rintro _ l es haudited
    refine now_bind fun finishedAt => Sat.get_bind ?_
    refine construct_bind (construct_bind (Sat.pure ?_) fun e _ => by rintro _ ⟨⟩) fun e _ => by rintro _ ⟨⟩
    rintro x ⟨rfl⟩
    exact ⟨l, (haudited rfl).congr (by simp [acceptedAnswers]) rfl rfl rfl rfl rfl, rfl, rfl, rfl, startedAt, finishedAt, rfl, rfl⟩
  · rintro e l es - _ ⟨⟩

end Records

end Procedures

/-! ## The books of a returned execution -/

section Books

variable {ω A σ : Type} {env : Environment ω A}

/-- A finished candidate's log shows one accepted answer, or none. -/
theorem CandidateDone.acceptedAnswers_eq {role : PipelineModelRole} {candidate : ModelCandidateSpec}
    {baseResults : Dict String ItemResult} {repairs : Nat} {x : CandidateExecution} {es : List (Event A)}
    (h : CandidateDone role candidate baseResults repairs x es) :
    ∃ answer : Option (Dict String ItemPatch), acceptedAnswers es = answer.toList := by
  obtain ⟨a, body, usage, rfl, hlog, -, -⟩ := h.log
  refine ⟨usage.patches?, ?_⟩
  show acceptedAnswers (body ++ [Event.release a]) = _
  rw [acceptedAnswers_candidateLog hlog]
  exact List.append_nil _

theorem Kept.lastAttempt {course : Course} {l : CandidateLocals} (h : Kept course l) :
    (∃ last, l.stageAttempts.getLast? = some last ∧ last.status = .succeeded) ↔ course.accepted = true := by
  rw [course.accepted_iff_last, ← h.attempts, List.getLast?_map]
  constructor
  · rintro ⟨last, hlast, hstatus⟩
    refine ⟨last.kind, ?_⟩
    rw [hlast, Option.map_some, WorkerStageAttemptV2.summary, hstatus]
  · rintro ⟨kind, hsome⟩
    obtain ⟨last, hlast, hsummary⟩ := Option.map_eq_some_iff.mp hsome
    exact ⟨last, hlast, congrArg Prod.snd hsummary⟩

/-- **When a candidate's books are in order**: with a memory manager that tells the peak and attempt
    records that are accepted, exactly when every answer that was accepted can be serialised.  An
    accepted answer that cannot leaves results, and a succeeded last attempt, under a failed status. -/
theorem bookkeeping_iff_serialises (hpeak : Quiet env.memory.peakVramBytes)
    (hrecord : ∀ record, env.models.stageAttempt record = .ok ()) (role : PipelineModelRole)
    (candidate : ModelCandidateSpec) (batch : WorkerInput) (baseResults : Dict String ItemResult)
    (maxRepairAttempts : Nat) (w : ω) (s : σ) (x : CandidateExecution)
    (hx : (executeCandidate env role candidate batch baseResults maxRepairAttempts w s).result = .ok x) :
    Bookkeeping x ↔
      ∀ patches ∈
        acceptedAnswers (executeCandidate env role candidate batch baseResults maxRepairAttempts w s).events,
        ∃ payload, candidatePayload env.models patches = .ok payload := by
  have hsat : Sat (executeCandidate env role candidate batch baseResults maxRepairAttempts) s _ :=
    executeCandidate_sat role candidate batch baseResults maxRepairAttempts s
  have hdone := (hsat w).2
  rw [hx] at hdone
  obtain ⟨l, haudited, hresults, hattempts, hrepaired, startedAt, finishedAt, hrun, hcandidateRun⟩ :=
    executeCandidate_audited hpeak hrecord role candidate maxRepairAttempts s w x hx
  generalize (executeCandidate env role candidate batch baseResults maxRepairAttempts w s).events = es
    at hdone haudited ⊢
  obtain ⟨course, hkept, haccepted, hserialised⟩ := haudited
  have hsome : x.results.isSome = course.accepted := by rw [hresults, hkept.results]
  -- a candidate accepts at most one answer
  obtain ⟨answer, hanswer⟩ := hdone.acceptedAnswers_eq
  rw [hanswer] at haccepted hserialised ⊢
  have hstatus : x.run.status = l.status := by
    rw [hrun]
    rfl
  constructor
  · intro hbooks patches hpatches
    obtain rfl : answer = some patches := Option.mem_toList.mp hpatches
    have hsucceeded : x.run.status = .succeeded := hbooks.results.mpr (by rw [hsome, haccepted]; rfl)
    obtain ⟨patches', hpatches', hpayload⟩ := hserialised.mp (hstatus ▸ hsucceeded)
    obtain rfl : patches' = patches := by simpa using hpatches'
    exact hpayload
  · intro hall
    have hsucceeded : x.run.status = .succeeded ↔ course.accepted = true := by
      rw [hstatus, hserialised, haccepted]
      cases answer with
      | none => simp
      | some patches => simpa using hall patches (by simp)
    refine ⟨by rw [hsucceeded, hsome], ?_, ?_, ?_, ?_, ?_, ?_, ?_, ?_⟩
    · rcases hdone.verdict with ⟨hs, hcode, -⟩ | ⟨hs, -, hcode | hcode⟩ <;> simp [hs, hcode]
    · rcases hdone.verdict with ⟨hs, -, -, hpayload⟩ | ⟨hs, hpayload, -⟩ <;> simp [hs, hpayload]
    · have hdigest : x.candidateRun.outputDigest = x.candidateRun.outputPayload.map env.jsonDigest := by
        rw [hcandidateRun]
        rfl
      rw [hdigest]
      rcases hdone.verdict with ⟨hs, -, -, hpayload⟩ | ⟨hs, hpayload, -⟩ <;> simp [hs, hpayload]
    · rw [hattempts, hkept.lastAttempt, hsucceeded]
    · rw [hattempts, hkept.attempts]
      cases course <;> simp [Course.attempts]
    · rw [hattempts, hkept.attempts, hrepaired, hkept.repaired]
      cases course <;> simp [Course.attempts]
    · rw [hattempts, hrun]
      exact hkept.inferenceMs
    · rw [hcandidateRun, hrun, hrepaired]
      exact ⟨rfl, rfl, rfl, rfl⟩

/-- Validators that accept every record, and a serialiser that runs out of memory on a transcript. -/
def unserialisingModels : ContractModels :=
  { acceptingModels with dumpTranscript := fun _ => .error (.raised "MemoryError" "") }

def asrPrimary : ModelCandidateSpec where
  candidateId := "asr.primary"
  spec := Sample.model .asr
  rank := 1

/-- With a serialiser that works, the books of the sample's recognizer are in order. -/
theorem bookkeeping_iff_serialises_asr :
    ∃ x, (executeCandidate (σ := Unit) (Sample.allAnswer.environment acceptingModels Sample.digest) .asr
        asrPrimary Sample.batch (Session.start Sample.batch).results 1 0 ()).result = .ok x ∧
      (Bookkeeping x ↔ ∀ patches ∈
        acceptedAnswers (executeCandidate (σ := Unit)
          (Sample.allAnswer.environment acceptingModels Sample.digest) .asr asrPrimary Sample.batch
          (Session.start Sample.batch).results 1 0 ()).events,
        ∃ payload, candidatePayload acceptingModels patches = .ok payload) := by
  obtain ⟨x, hx⟩ := exists_ok (r := (executeCandidate (σ := Unit)
    (Sample.allAnswer.environment acceptingModels Sample.digest) .asr asrPrimary Sample.batch
    (Session.start Sample.batch).results 1 0 ()).result) (by decide)
  exact ⟨x, hx, bookkeeping_iff_serialises Script.reliable.peakVramBytes (fun _ => rfl) .asr asrPrimary
    Sample.batch (Session.start Sample.batch).results 1 0 () x hx⟩

/-- **An answer that is accepted and then not serialised** leaves a failed run with results, whose one
    attempt succeeded. -/
theorem misbooked_unserialised :
    ∃ x, (executeCandidate (σ := Unit) (Sample.allAnswer.environment unserialisingModels Sample.digest) .asr
        asrPrimary Sample.batch (Session.start Sample.batch).results 1 0 ()).result = .ok x ∧
      x.run.status = .failed ∧ x.results.isSome = true ∧
      x.attempts.map WorkerStageAttemptV2.summary = [(.initial, .succeeded)] ∧ ¬ Bookkeeping x := by
  have htest : returns (executeCandidate (σ := Unit)
      (Sample.allAnswer.environment unserialisingModels Sample.digest) .asr asrPrimary Sample.batch
      (Session.start Sample.batch).results 1 0 ()).result (fun x =>
        decide (x.run.status = .failed) && x.results.isSome &&
          decide (x.attempts.map WorkerStageAttemptV2.summary = [(.initial, .succeeded)])) = true := by
    decide
  obtain ⟨x, hx, htest⟩ := exists_returned htest
  simp only [Bool.and_eq_true, decide_eq_true_eq] at htest
  obtain ⟨⟨hstatus, hresults⟩, hattempts⟩ := htest
  refine ⟨x, hx, hstatus, hresults, hattempts, fun hbooks => ?_⟩
  have hsucceeded := hbooks.results.mpr hresults
  rw [hstatus] at hsucceeded
  cases hsucceeded

end Books

end SessionRunner

end FireviewerOrchestrator
