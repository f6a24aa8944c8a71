/-
  When a response is consistent.

  A response is torn when it mixes attributes from before and after a change of the job's status.
  `Undisturbed` singles out the steps that tear none: `responses_consistent_iff` is that a run of these
  only sends consistent responses, and that every other step ends in a response that is not.
-/
import FireviewerOrchestrator.PodServer.Polling

set_option linter.unusedVariables false

namespace FireviewerOrchestrator

namespace PodServer

namespace Polling

open Transition

variable {θ : Type} [DecidableEq θ]

/-! ## What a request can still rely on -/

namespace Reader

/-- The status the request has read. -/
def status? : Reader → Option JobStatus
  | idle | opened _ => none
  | sawStatus _ status | sawOutput _ status _ | sawExecutionTime _ status _ _ => some status

/-- What has been read of the output, or is there to be read. -/
def outputOf (job : PodJob) : Reader → Option JsonFields
  | sawOutput _ _ output | sawExecutionTime _ _ output _ => output
  | _ => job.output

def executionTimeOf (job : PodJob) : Reader → Option Int
  | sawExecutionTime _ _ _ executionTimeMs => executionTimeMs
  | _ => job.executionTimeMs

end Reader

/-- A response with this status can still be consistent: the attributes read so far, and those not
    yet read as they are now, are as the status says.  The time of the delay may be on its way. -/
structure OnTrack (status : JobStatus) (job : PodJob) (reader : Reader) : Prop where
  output : (reader.outputOf job).isSome = status.hasOutput
  executionTime : (reader.executionTimeOf job).isSome = status.hasExecutionTime
  delayTime : job.delayTimeMs.isSome = status.hasDelayTime ∨ status = .inProgress
  ended : status = .inQueue ∨ status = .inProgress ∨ job.status = status

/-- The assignment is none that a request with this status could still read, and should not. -/
def Harmless : Assignment → Reader → Prop
  | .output _, .sawStatus _ .inProgress => False
  | .executionTimeMs _, .sawStatus _ .inProgress => False
  | .executionTimeMs _, .sawOutput _ .inProgress _ => False
  | .delayTimeMs _, reader => reader.status? ≠ some .inQueue
  | _, _ => True

/-- **The steps that tear no response.**  An attribute is not assigned under a request that has read a
    status without it; a status `IN_PROGRESS` is not read in the middle of the block that ends the job,
    and its delay not read in the middle of the block that starts it. -/
def Undisturbed (s : Pod θ) : Event θ → Prop
  | .assign id a => ∀ i, (s.requests i).job? = some id → Harmless a (s.requests i)
  | .readStatus i => ∀ id job, (s.requests i).job? = some id → s.queue.jobs.get? id = some job →
      job.status = .inProgress → job.output = none
  | .readDelayTime i => ∀ id job, (s.requests i).job? = some id → s.queue.jobs.get? id = some job →
      (s.requests i).status? = some .inProgress → job.delayTimeMs ≠ none
  | _ => True

section Requests

variable {s t : Pod θ} {e : Event θ} {id : String} {job : PodJob} {status : JobStatus} {reader : Reader}

/-- A status read outside of the blocks is on track. -/
theorem onTrack_opened {block : List Assignment} (h : Phase job block)
    (hmiddle : job.status = .inProgress → job.output = none) :
    OnTrack job.status job (.sawStatus id job.status) := by
  have hended : job.status = .inQueue ∨ job.status = .inProgress ∨ job.status = job.status := Or.inr (Or.inr rfl)
  have huntouched : Untouched job → job.status = .inQueue ∨ job.status = .inProgress ∨ job.status = .cancelled →
      OnTrack job.status job (.sawStatus id job.status) := by
    rintro ⟨ho, he, hd⟩ hstatus
    refine ⟨?_, ?_, ?_, hended⟩
    · show job.output.isSome = _
      rcases hstatus with hstatus | hstatus | hstatus <;> rw [ho, hstatus] <;> rfl
    · show job.executionTimeMs.isSome = _
      rcases hstatus with hstatus | hstatus | hstatus <;> rw [he, hstatus] <;> rfl
    · rcases hstatus with hstatus | hstatus | hstatus
      · exact Or.inl (by rw [hd, hstatus]; rfl)
      · exact Or.inr hstatus
      · exact Or.inl (by rw [hd, hstatus]; rfl)
  have hstarted : Started job → OnTrack job.status job (.sawStatus id job.status) := by
    rintro ⟨hstatus, ho, he, hd⟩
    refine ⟨?_, ?_, Or.inr hstatus, hended⟩
    · show job.output.isSome = _
      rw [ho, hstatus]
      rfl
    · show job.executionTimeMs.isSome = _
      rw [he, hstatus]
      rfl
  have hmiddle' : job.status = .inProgress → job.output.isSome = true → False := by
    intro hstatus houtput
    rw [hmiddle hstatus] at houtput
    cases houtput
  cases h with
  | waiting hstatus h => exact huntouched h (hstatus.imp_right Or.inr)
  | starting queuedAt now hstatus h => exact huntouched h (Or.inl hstatus)
  | startedAt now delay hstatus h => exact huntouched h (Or.inr (Or.inl hstatus))
  | delayTime delay hstatus h => exact huntouched h (Or.inr (Or.inl hstatus))
  | running h => exact hstarted h
  | completing output ms h => exact hstarted h
  | failing raised h => exact hstarted h
  | executionTime ms hstatus houtput => exact (hmiddle' hstatus houtput).elim
  | completion hstatus houtput => exact (hmiddle' hstatus houtput).elim
  | failure hstatus houtput => exact (hmiddle' hstatus houtput).elim
  | completed hstatus houtput hexecution hdelay =>
    refine ⟨?_, ?_, Or.inl ?_, hended⟩
    · exact houtput.trans (by rw [hstatus]; rfl)
    · exact hexecution.trans (by rw [hstatus]; rfl)
    · exact hdelay.trans (by rw [hstatus]; rfl)
  | failed hstatus houtput hexecution hdelay =>
    refine ⟨?_, ?_, Or.inl ?_, hended⟩
    · exact houtput.trans (by rw [hstatus]; rfl)
    · show job.executionTimeMs.isSome = _
      rw [hexecution, hstatus]
      rfl
    · exact hdelay.trans (by rw [hstatus]; rfl)

/-- Cancelling a job assigns to none of the attributes a request goes on to read. -/
theorem OnTrack.cancel (h : OnTrack status job reader) : OnTrack status job.cancel reader := by
  have hsame : job.cancel.output = job.output ∧ job.cancel.executionTimeMs = job.executionTimeMs ∧
      job.cancel.delayTimeMs = job.delayTimeMs := by
    unfold PodJob.cancel
    split
    · exact ⟨rfl, rfl, rfl⟩
    · exact ⟨rfl, rfl, rfl⟩
  obtain ⟨ho, he, hd⟩ := hsame
  refine ⟨?_, ?_, by rw [hd]; exact h.delayTime, ?_⟩
  · have houtput := h.output
    unfold Reader.outputOf at houtput ⊢
    rwa [ho]
  · have hexecution := h.executionTime
    unfold Reader.executionTimeOf at hexecution ⊢
    rwa [he]
  · rcases h.ended with hended | hended | hended
    · exact Or.inl hended
    · exact Or.inr (Or.inl hended)
    · unfold PodJob.cancel
      split
      · rename_i hqueued
        exact Or.inl (hended.symm.trans hqueued)
      · exact Or.inr (Or.inr hended)

/-- A harmless assignment leaves a request on track. -/
theorem OnTrack.assign {a : Assignment} {rest : List Assignment} (h : OnTrack status job reader)
    (hread : reader.status? = some status) (hphase : Phase job (a :: rest)) (hharmless : Harmless a reader) :
    OnTrack status (a.apply job) reader := by
  have hopen : status = .inQueue ∨ status = .inProgress := by
    rcases h.ended with hended | hended | hended
    · exact Or.inl hended
    · exact Or.inr hended
    · rw [← hended]
      exact hphase.open_of_cons
  have hended : status = .inQueue ∨ status = .inProgress ∨ (a.apply job).status = status :=
    hopen.imp_right Or.inl
  -- a job about to end has its delay, which a request that saw `IN_QUEUE` has not
  have hprogress : job.delayTimeMs.isSome = true → status = .inProgress := by
    intro hsome
    rcases hopen with rfl | hstatus
    · rcases h.delayTime with hdelay | hdelay
      · rw [hsome] at hdelay
        cases hdelay
      · cases hdelay
    · exact hstatus
  cases a with
  | status value => exact ⟨h.output, h.executionTime, h.delayTime, hended⟩
  | startedAt value => exact ⟨h.output, h.executionTime, h.delayTime, hended⟩
  | delayTimeMs value =>
    have hnot : status ≠ .inQueue := by
      rintro rfl
      exact hharmless hread
    exact ⟨h.output, h.executionTime, Or.inr (hopen.resolve_left hnot), hended⟩
  | output value =>
    have hdelay : job.delayTimeMs.isSome = true := by
      cases hphase with
      | completing _ ms hstarted => exact hstarted.delayTime_some
      | failing raised hstarted => exact hstarted.delayTime_some
    obtain rfl := hprogress hdelay
    refine ⟨?_, h.executionTime, h.delayTime, hended⟩
    cases reader with
    | idle => cases hread
    | opened id => cases hread
    | sawStatus id read =>
      obtain rfl := Option.some.inj hread
      exact hharmless.elim
    | sawOutput id read output => exact h.output
    | sawExecutionTime id read output executionTimeMs => exact h.output
  | executionTimeMs value =>
    have hdelay : job.delayTimeMs.isSome = true := by
      cases hphase with
      | executionTime _ hstatus houtput hexecution hdelay => exact hdelay
    obtain rfl := hprogress hdelay
    refine ⟨h.output, ?_, h.delayTime, hended⟩
    cases reader with
    | idle => cases hread
    | opened id => cases hread
    | sawStatus id read =>
      obtain rfl := Option.some.inj hread
      exact hharmless.elim
    | sawOutput id read output =>
      obtain rfl := Option.some.inj hread
      exact hharmless.elim
    | sawExecutionTime id read output executionTimeMs => exact h.executionTime

/-- Every response that is being assembled can be consistent, and those sent are. -/
structure AllOnTrack (s : Pod θ) : Prop where
  requests : ∀ i id status job, (s.requests i).job? = some id → (s.requests i).status? = some status →
    s.queue.jobs.get? id = some job → OnTrack status job (s.requests i)
  responses : ∀ view ∈ s.responses, view.Consistent

/-- A request that does not read stays on track. -/
theorem onTrack_kept (hstep : Step s e t) (hinv : PodInvariant s) (h : AllOnTrack s)
    (hundisturbed : Undisturbed s e) {i : θ} (hid : (s.requests i).job? = some id)
    (hread : (s.requests i).status? = some status) (hjob : t.queue.jobs.get? id = some job) :
    OnTrack status job (s.requests i) := by
  obtain ⟨before, hbefore⟩ := hinv.known i id hid
  obtain ⟨job', hjob', hchanges⟩ := job_step hstep hbefore
  rw [hjob] at hjob'
  obtain rfl := Option.some.inj hjob'
  have htrack := h.requests i id status before hid hread hbefore
  rcases hchanges with rfl | ⟨rfl, hlock⟩ | ⟨a, rest, hblock, htarget, rfl, rfl⟩
  · exact htrack
  · exact htrack.cancel
  · have hphase := hinv.phases id before hbefore
    rw [Pod.blockOf, if_pos htarget, hblock] at hphase
    exact htrack.assign hread hphase (hundisturbed i hid)

theorem requests_moveOn_self (s : Pod θ) (i : θ) (reader : Reader) : (s.moveOn i reader).requests i = reader :=
  Function.update_self ..

theorem requests_moveOn_of_ne {i j : θ} (h : j ≠ i) (reader : Reader) :
    (s.moveOn i reader).requests j = s.requests j := Function.update_of_ne h ..

/-- The reads of a step move one thread on. -/
theorem onTrack_moveOn (hkept : ∀ j id status job, (s.requests j).job? = some id →
      (s.requests j).status? = some status → s.queue.jobs.get? id = some job →
      OnTrack status job (s.requests j)) {i : θ}
    (hnew : ∀ known status job, reader.job? = some known → reader.status? = some status →
      s.queue.jobs.get? known = some job → OnTrack status job reader) :
    ∀ j id status job, ((s.moveOn i reader).requests j).job? = some id →
      ((s.moveOn i reader).requests j).status? = some status → s.queue.jobs.get? id = some job →
      OnTrack status job ((s.moveOn i reader).requests j) := by
  intro j id status job hid hread hjob
  by_cases hsame : j = i
  · subst hsame
    rw [requests_moveOn_self] at hid hread ⊢
    exact hnew id status job hid hread hjob
  · rw [requests_moveOn_of_ne hsame] at hid hread ⊢
    exact hkept j id status job hid hread hjob

theorem allOnTrack_step (hstep : Step s e t) (hundisturbed : Undisturbed s e) (hinv : PodInvariant s)
    (h : AllOnTrack s) : AllOnTrack t := by
  have hstep' := hstep
  cases hstep with
  | queue => exact ⟨fun i _ _ _ hid hread hjob => onTrack_kept hstep' hinv h hundisturbed hid hread hjob,
      h.responses⟩
  | start => exact ⟨fun i _ _ _ hid hread hjob => onTrack_kept hstep' hinv h hundisturbed hid hread hjob,
      h.responses⟩
  | complete => exact ⟨fun i _ _ _ hid hread hjob => onTrack_kept hstep' hinv h hundisturbed hid hread hjob,
      h.responses⟩
  | fail => exact ⟨fun i _ _ _ hid hread hjob => onTrack_kept hstep' hinv h hundisturbed hid hread hjob,
      h.responses⟩
  | assign => exact ⟨fun i _ _ _ hid hread hjob => onTrack_kept hstep' hinv h hundisturbed hid hread hjob,
      h.responses⟩
  | get hlock hidle hjob =>
    refine ⟨onTrack_moveOn h.requests ?_, h.responses⟩
    intro known status job hid hread
    cases hread
  | @cancel i id _ hlock hidle hjob =>
    refine ⟨?_, h.responses⟩
    refine onTrack_moveOn (s := { s with queue := s.queue.cancel id }) ?_ ?_
    · intro j other status job hid hread hget
      exact onTrack_kept hstep' hinv h hundisturbed hid hread hget
    · intro known status job hid hread
      cases hread
  | @readStatus i id job hreader hjob =>
    refine ⟨onTrack_moveOn h.requests ?_, h.responses⟩
    intro known status job' hid hread hget
    obtain rfl := Option.some.inj hid
    rw [hjob] at hget
    obtain rfl := Option.some.inj hget
    obtain rfl := Option.some.inj hread
    exact onTrack_opened (hinv.phases id job hjob) (hundisturbed id job (by rw [hreader]; rfl) hjob)
  | @readOutput i id status job hreader hjob =>
    refine ⟨onTrack_moveOn h.requests ?_, h.responses⟩
    intro known status' job' hid hread hget
    obtain rfl := Option.some.inj hid
    rw [hjob] at hget
    obtain rfl := Option.some.inj hget
    obtain rfl := Option.some.inj hread
    have htrack := h.requests i id status job (by rw [hreader]; rfl) (by rw [hreader]; rfl) hjob
    rw [hreader] at htrack
    exact ⟨htrack.output, htrack.executionTime, htrack.delayTime, htrack.ended⟩
  | @readExecutionTime i id status output job hreader hjob =>
    refine ⟨onTrack_moveOn h.requests ?_, h.responses⟩
    intro known status' job' hid hread hget
    obtain rfl := Option.some.inj hid
    rw [hjob] at hget
    obtain rfl := Option.some.inj hget
    obtain rfl := Option.some.inj hread
    have htrack := h.requests i id status job (by rw [hreader]; rfl) (by rw [hreader]; rfl) hjob
    rw [hreader] at htrack
    exact ⟨htrack.output, htrack.executionTime, htrack.delayTime, htrack.ended⟩
  | @readDelayTime i id status output executionTimeMs job hreader hjob =>
    refine ⟨onTrack_moveOn h.requests ?_, ?_⟩
    · intro known status' job' hid hread
      cases hread
    · intro view hview
      rcases List.mem_append.mp hview with hview | hview
      · exact h.responses view hview
      · obtain rfl := List.mem_singleton.mp hview
        have hid : (s.requests i).job? = some id := by rw [hreader]; rfl
        have hread : (s.requests i).status? = some status := by rw [hreader]; rfl
        have htrack := h.requests i id status job hid hread hjob
        rw [hreader] at htrack
        refine JobView.consistent_iff.mpr ⟨htrack.output, htrack.executionTime, ?_⟩
        rcases htrack.delayTime with hdelay | rfl
        · exact hdelay
        · exact Option.isSome_iff_ne_none.mpr (hundisturbed id job hid hjob hread)

/-! ## What tears a response -/

/-- An attribute is there, or has been read, that a response with this status must not have. -/
def Torn (status : JobStatus) (job : PodJob) (reader : Reader) : Prop :=
  ((reader.outputOf job).isSome = true ∧ status.hasOutput = false) ∨
    ((reader.executionTimeOf job).isSome = true ∧ status.hasExecutionTime = false) ∨
    (job.delayTimeMs.isSome = true ∧ status.hasDelayTime = false)

/-- A response is torn, or one was sent that is not consistent. -/
def SomeTorn (s : Pod θ) : Prop :=
  (∃ i id status job, (s.requests i).job? = some id ∧ (s.requests i).status? = some status ∧
    s.queue.jobs.get? id = some job ∧ Torn status job (s.requests i)) ∨
  ∃ view ∈ s.responses, ¬ view.Consistent

omit [DecidableEq θ] in
/-- No attribute is taken back. -/
theorem Torn.changes {job' : PodJob} (h : Torn status job reader) (hchanges : Changes s e id job job') :
    Torn status job' reader := by
  have hgrows : (job.output.isSome = true → job'.output.isSome = true) ∧
      (job.executionTimeMs.isSome = true → job'.executionTimeMs.isSome = true) ∧
      (job.delayTimeMs.isSome = true → job'.delayTimeMs.isSome = true) := by
    rcases hchanges with rfl | ⟨rfl, -⟩ | ⟨a, rest, -, -, -, rfl⟩
    · exact ⟨fun h => h, fun h => h, fun h => h⟩
    · unfold PodJob.cancel
      split
      · exact ⟨fun h => h, fun h => h, fun h => h⟩
      · exact ⟨fun h => h, fun h => h, fun h => h⟩
    · cases a with
      | status => exact ⟨fun h => h, fun h => h, fun h => h⟩
      | startedAt => exact ⟨fun h => h, fun h => h, fun h => h⟩
      | delayTimeMs => exact ⟨fun h => h, fun h => h, fun _ => rfl⟩
      | output => exact ⟨fun _ => rfl, fun h => h, fun h => h⟩
      | executionTimeMs => exact ⟨fun h => h, fun _ => rfl, fun h => h⟩
  obtain ⟨ho, he, hd⟩ := hgrows
  rcases h with ⟨hsome, hno⟩ | ⟨hsome, hno⟩ | ⟨hsome, hno⟩
  · refine Or.inl ⟨?_, hno⟩
    cases reader with
    | sawOutput => exact hsome
    | sawExecutionTime => exact hsome
    | _ => exact ho hsome
  · refine Or.inr (Or.inl ⟨?_, hno⟩)
    cases reader with
    | sawExecutionTime => exact hsome
    | _ => exact he hsome
  · exact Or.inr (Or.inr ⟨hd hsome, hno⟩)

/-- A torn response that is sent is not consistent. -/
theorem not_consistent_of_torn {output : Option JsonFields} {executionTimeMs : Option Int}
    (h : Torn status job (.sawExecutionTime id status output executionTimeMs)) :
    ¬ JobView.Consistent ⟨id, status, output, executionTimeMs, job.delayTimeMs⟩ := by
  rw [JobView.consistent_iff]
  rintro ⟨ho, he, hd⟩
  rcases h with ⟨hsome, hno⟩ | ⟨hsome, hno⟩ | ⟨hsome, hno⟩
  · exact Bool.false_ne_true (hno.symm.trans (ho.symm.trans hsome))
  · exact Bool.false_ne_true (hno.symm.trans (he.symm.trans hsome))
  · exact Bool.false_ne_true (hno.symm.trans (hd.symm.trans hsome))

theorem eq_of_moved {i j : θ} (h : (s.moveOn j reader).requests i ≠ s.requests i) : i = j := by
  by_contra hne
  exact h (requests_moveOn_of_ne hne reader)

theorem torn_moveOn {i : θ} (hid : reader.job? = some id) (hread : reader.status? = some status)
    (hjob : s.queue.jobs.get? id = some job) (htorn : Torn status job reader) :
    ∃ j id status job, ((s.moveOn i reader).requests j).job? = some id ∧
      ((s.moveOn i reader).requests j).status? = some status ∧ s.queue.jobs.get? id = some job ∧
      Torn status job ((s.moveOn i reader).requests j) := by
  refine ⟨i, id, status, job, ?_⟩
  rw [requests_moveOn_self]
  exact ⟨hid, hread, hjob, htorn⟩

/-- **What is torn stays torn**, until it is sent. -/
theorem someTorn_step (hstep : Step s e t) (h : SomeTorn s) : SomeTorn t := by
  have hresponses : ∀ view ∈ s.responses, view ∈ t.responses := by
    intro view hview
    cases hstep with
    | readDelayTime => exact List.mem_append_left _ hview
    | _ => exact hview
  rcases h with ⟨i, id, status, job, hid, hread, hjob, htorn⟩ | ⟨view, hview, hbad⟩
  · -- the response is still being assembled; its thread may be the one that reads
    obtain ⟨job', hjob', hchanges⟩ := job_step hstep hjob
    have htorn' := htorn.changes hchanges
    by_cases hsame : t.requests i = s.requests i
    · refine Or.inl ⟨i, id, status, job', ?_⟩
      rw [hsame]
      exact ⟨hid, hread, hjob', htorn'⟩
    · cases hstep with
      | queue => exact (hsame rfl).elim
      | start => exact (hsame rfl).elim
      | complete => exact (hsame rfl).elim
      | fail => exact (hsame rfl).elim
      | assign => exact (hsame rfl).elim
      | @get j other _ hlock hidle hother =>
        rw [eq_of_moved hsame, hidle] at hid
        cases hid
      | @cancel j other _ hlock hidle hother =>
        rw [eq_of_moved hsame, hidle] at hid
        cases hid
      | @readStatus j other _ hreader hother =>
        rw [eq_of_moved hsame, hreader] at hread
        cases hread
      | @readOutput j other read _ hreader hother =>
        obtain rfl := eq_of_moved hsame
        rw [hreader] at hid hread htorn
        obtain rfl := Option.some.inj hid
        obtain rfl := Option.some.inj hread
        rw [hjob] at hother
        obtain rfl := Option.some.inj hother
        exact Or.inl (torn_moveOn rfl rfl hjob htorn)
      | @readExecutionTime j other read output _ hreader hother =>
        obtain rfl := eq_of_moved hsame
        rw [hreader] at hid hread htorn
        obtain rfl := Option.some.inj hid
        obtain rfl := Option.some.inj hread
        rw [hjob] at hother
        obtain rfl := Option.some.inj hother
        exact Or.inl (torn_moveOn rfl rfl hjob htorn)
      | @readDelayTime j other read output executionTimeMs _ hreader hother =>
        obtain rfl := eq_of_moved hsame
        rw [hreader] at hid hread htorn
        obtain rfl := Option.some.inj hid
        obtain rfl := Option.some.inj hread
        rw [hjob] at hother
        obtain rfl := Option.some.inj hother
        exact Or.inr ⟨_, List.mem_append_right _ (List.mem_singleton_self _), not_consistent_of_torn htorn⟩
  · exact Or.inr ⟨view, hresponses view hview, hbad⟩

/-- An assignment that is not harmless to a request is one of the three. -/
theorem torn_of_not_harmless {a : Assignment} (h : ¬ Harmless a reader) :
    ∃ status, reader.status? = some status ∧ Torn status (a.apply job) reader := by
  cases a with
  | status => exact (h (by cases reader <;> trivial)).elim
  | startedAt => exact (h (by cases reader <;> trivial)).elim
  | delayTimeMs value =>
    have hread : reader.status? = some .inQueue := by
      by_contra hne
      exact h (by cases reader <;> exact hne)
    exact ⟨.inQueue, hread, Or.inr (Or.inr ⟨rfl, rfl⟩)⟩
  | output value =>
    cases reader with
    | sawStatus id status =>
      cases status with
      | inProgress => exact ⟨.inProgress, rfl, Or.inl ⟨rfl, rfl⟩⟩
      | _ => exact (h trivial).elim
    | _ => exact (h trivial).elim
  | executionTimeMs value =>
    cases reader with
    | sawStatus id status =>
      cases status with
      | inProgress => exact ⟨.inProgress, rfl, Or.inr (Or.inl ⟨rfl, rfl⟩)⟩
      | _ => exact (h trivial).elim
    | sawOutput id status output =>
      cases status with
      | inProgress => exact ⟨.inProgress, rfl, Or.inr (Or.inl ⟨rfl, rfl⟩)⟩
      | _ => exact (h trivial).elim
    | _ => exact (h trivial).elim

/-- **Every other step tears a response.** -/
theorem someTorn_of_disturbed (hstep : Step s e t) (hinv : PodInvariant s) (h : ¬ Undisturbed s e) :
    SomeTorn t := by
  cases hstep with
  | @assign a rest hblock =>
    have hdisturbed : ∃ i, (s.requests i).job? = some s.target ∧ ¬ Harmless a (s.requests i) := by
      by_contra hnone
      refine h fun i hid => ?_
      by_contra hharmful
      exact hnone ⟨i, hid, hharmful⟩
    obtain ⟨i, hid, hharmful⟩ := hdisturbed
    obtain ⟨job, hjob⟩ := hinv.known i _ hid
    have hupdate := get?_update a.apply hjob s.target
    rw [if_pos rfl] at hupdate
    obtain ⟨status, hread, htorn⟩ : ∃ status, _ ∧ Torn status (a.apply job) _ := torn_of_not_harmless hharmful
    exact Or.inl ⟨i, s.target, status, _, hid, hread, hupdate, htorn⟩
  | @readStatus i id job hreader hjob =>
    have hdisturbed : job.status = .inProgress ∧ job.output ≠ none := by
      by_contra hnot
      refine h fun id' job' hid hget hprogress => ?_
      rw [hreader] at hid
      obtain rfl := Option.some.inj hid
      rw [hjob] at hget
      obtain rfl := Option.some.inj hget
      by_contra houtput
      exact hnot ⟨hprogress, houtput⟩
    obtain ⟨hprogress, houtput⟩ := hdisturbed
    refine Or.inl (torn_moveOn rfl rfl hjob ?_)
    rw [hprogress]
    exact Or.inl ⟨Option.isSome_iff_ne_none.mpr houtput, rfl⟩
  | @readDelayTime i id status output executionTimeMs job hreader hjob =>
    have hdisturbed : status = .inProgress ∧ job.delayTimeMs = none := by
      by_contra hnot
      refine h fun id' job' hid hget hprogress hdelay => ?_
      rw [hreader] at hid hprogress
      obtain rfl := Option.some.inj hid
      rw [hjob] at hget
      obtain rfl := Option.some.inj hget
      exact hnot ⟨Option.some.inj hprogress, hdelay⟩
    obtain ⟨rfl, hdelay⟩ := hdisturbed
    refine Or.inr ⟨_, List.mem_append_right _ (List.mem_singleton_self _), ?_⟩
    rw [JobView.consistent_iff]
    rintro ⟨-, -, hsome⟩
    rw [hdelay] at hsome
    cases hsome
  | queue => exact (h trivial).elim
  | start => exact (h trivial).elim
  | complete => exact (h trivial).elim
  | fail => exact (h trivial).elim
  | get => exact (h trivial).elim
  | cancel => exact (h trivial).elim
  | readOutput => exact (h trivial).elim
  | readExecutionTime => exact (h trivial).elim

end Requests

/-! ## Every run -/

/-- **A response is consistent exactly if no step tears it.**  In every run whose steps are all
    undisturbed, every response sent is consistent; and after a step that is not, some response sent is
    not, as soon as the requests under way have been answered. -/
theorem responses_consistent_iff (θ : Type) [DecidableEq θ] :
    (∀ log (s : Pod θ), Run (fun s e t => Step s e t ∧ Undisturbed s e) (Pod.init θ) log s →
      ∀ view ∈ s.responses, view.Consistent) ∧
    (∀ before e after (s t u : Pod θ), Run Step (Pod.init θ) before s → Step s e t → ¬ Undisturbed s e →
      Run Step t after u → (∀ i, u.requests i = .idle) → ∃ view ∈ u.responses, ¬ view.Consistent) := by
  constructor
  · intro log s hrun
    have hboth : PodInvariant s ∧ AllOnTrack s := by
      refine Run.invariant (I := fun s => PodInvariant s ∧ AllOnTrack s) ?_ hrun ⟨podInvariant_init, ?_⟩
      · rintro s e t ⟨hstep, hundisturbed⟩ ⟨hinv, htrack⟩
        exact ⟨podInvariant_step hstep hinv, allOnTrack_step hstep hundisturbed hinv htrack⟩
      · refine ⟨?_, ?_⟩
        · intro i id status job hid
          cases hid
        · intro view hview
          cases hview
    exact hboth.2.responses
  · intro before e after s t u hbefore hstep hdisturbed hafter hidle
    have htorn : SomeTorn u :=
      Run.invariant (I := SomeTorn) (fun _ _ _ hstep hs => someTorn_step hstep hs) hafter
        (someTorn_of_disturbed hstep (podInvariant_of_run hbefore) hdisturbed)
    rcases htorn with ⟨i, id, status, job, hid, -⟩ | hsent
    · rw [hidle i] at hid
      cases hid
    · exact hsent

/-! ## A job that ends while it is polled -/

namespace Sample

/-- The steps that tear nothing. -/
abbrev Clean (s : Pod Unit) (e : Event Unit) (t : Pod Unit) : Prop := Step s e t ∧ Undisturbed s e

theorem clean_of_idle {s : Pod Unit} {a : Assignment} {rest : List Assignment} (hblock : s.block = a :: rest)
    (hidle : s.requests = fun _ => .idle) : Clean s (.assign s.target a)
      { s with queue := s.queue.update s.target a.apply, block := rest } := by
  refine ⟨.assign hblock, ?_⟩
  intro i hid
  rw [hidle] at hid
  cases hid

/-- A job has been started, and nobody asks for it. -/
def started : Pod Unit where
  queue :=
    { jobs := Dict.empty.set "pod-1"
        { jobId := "pod-1", request := [], status := .inProgress, delayTimeMs := some (elapsedMs 0 2),
          queuedAt := 0, startedAt := some 2 }
      unfinishedTasks := 1
      consumer := .handling "pod-1" 3
      job := some "pod-1" }
  target := "pod-1"

theorem exists_run_started : ∃ log, Run Clean (Pod.init Unit) log started := by
  have hknown : Run Clean (Pod.init Unit) [.queue (.insert "pod-1" [])] _ := .single
    ⟨.queue rfl (Or.inl rfl) (.insert [] 0 (by decide)), trivial⟩
  have hput := hknown.snoc (⟨.queue rfl (Or.inl rfl) (.put List.mem_cons_self), trivial⟩ : Clean _ _ _)
  have htaken := hput.snoc (⟨.queue rfl (Or.inl rfl) (.take rfl rfl), trivial⟩ : Clean _ _ _)
  have hlocked := htaken.snoc (⟨.start 2 3 rfl rfl rfl (by decide), trivial⟩ : Clean _ _ _)
  have hstarted := ((hlocked.snoc (clean_of_idle rfl rfl)).snoc (clean_of_idle rfl rfl)).snoc
    (clean_of_idle rfl rfl)
  exact ⟨_, hstarted⟩

/-- A request reads the status of the job, the job ends, and the request reads the rest. -/
theorem exists_torn : ∃ log s view, Run Step started log s ∧ view ∈ s.responses ∧
    view.status = .inProgress ∧ view.output.isSome = true := by
  have hopened : Run Step started [.get () "pod-1"] _ := .single (.get rfl rfl rfl)
  have hread := hopened.snoc (.readStatus (i := ()) rfl rfl)
  have hreturned := hread.snoc (.queue rfl (Or.inl rfl) (.returned [] 8 rfl))
  have hcompleted := (((hreturned.snoc (.complete rfl rfl rfl)).snoc (.assign rfl)).snoc (.assign rfl)).snoc
    (.assign rfl)
  have hresponse := ((hcompleted.snoc (.readOutput (i := ()) rfl rfl)).snoc
    (.readExecutionTime (i := ()) rfl rfl)).snoc (.readDelayTime (i := ()) rfl rfl)
  exact ⟨_, _, _, hresponse, List.mem_singleton_self _, rfl, rfl⟩

end Sample

/-- **Not every response is consistent**: one says that its job is in progress, and has its output. -/
theorem not_consistent_ended : ¬ ∀ (log : List (Event Unit)) (s : Pod Unit), Run Step (Pod.init Unit) log s →
    ∀ view ∈ s.responses, view.Consistent := by
  intro hall
  obtain ⟨before, hstarted⟩ := Sample.exists_run_started
  obtain ⟨after, s, view, htorn, hview, hprogress, houtput⟩ := Sample.exists_torn
  have hrun := (hstarted.imp fun _ _ _ hclean => hclean.1).append htorn
  have hconsistent := JobView.consistent_iff.mp (hall _ s hrun view hview)
  rw [hprogress, houtput] at hconsistent
  cases hconsistent.1

/-- A request that reads the job from its status to its delay while the job runs. -/
theorem responses_consistent_iff_running : ∃ log s view, Run Sample.Clean (Pod.init Unit) log s ∧
    view ∈ s.responses ∧ view.status = .inProgress ∧ view.Consistent := by
  obtain ⟨log, hstarted⟩ := Sample.exists_run_started
  have hopened := hstarted.snoc
    (⟨.get rfl rfl rfl, trivial⟩ : Sample.Clean _ (.get () "pod-1") _)
  have hstatus := hopened.snoc (⟨.readStatus (i := ()) rfl rfl, fun id job hid hjob _ => by
    obtain rfl := Option.some.inj hid
    obtain rfl := Option.some.inj hjob
    rfl⟩ : Sample.Clean _ _ _)
  have hexecution := (hstatus.snoc (⟨.readOutput (i := ()) rfl rfl, trivial⟩ : Sample.Clean _ _ _)).snoc
    (⟨.readExecutionTime (i := ()) rfl rfl, trivial⟩ : Sample.Clean _ _ _)
  have hresponse := hexecution.snoc (⟨.readDelayTime (i := ()) rfl rfl, fun id job hid hjob _ => by
    obtain rfl := Option.some.inj hid
    obtain rfl := Option.some.inj hjob
    exact Option.some_ne_none _⟩ : Sample.Clean _ _ _)
  refine ⟨_, _, _, hresponse, List.mem_singleton_self _, rfl, ?_⟩
  exact (responses_consistent_iff Unit).1 _ _ hresponse _ (List.mem_singleton_self _)

end Polling

end PodServer

end FireviewerOrchestrator
