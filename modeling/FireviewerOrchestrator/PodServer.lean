/-
  The job queue of the persistent pod.

  Any number of threads submit and cancel jobs; one thread consumes them.  What the threads share is
  the dictionary of jobs, behind a lock, and a FIFO queue of ids, and each locked block, each
  operation of the queue and each outcome of `handle_job` is one atomic step of `Step`.  A submission
  is two steps, so a job can be known before it is queued, and cancelled at any point.

  `Tracked` is the invariant: it says, of every id, where it stands and what that means for its
  status.  `queue_safe` reads the guarantees of the queue off it.
-/
import FireviewerOrchestrator.Contracts.Records
import FireviewerOrchestrator.Library.Dict
import FireviewerOrchestrator.Library.Transition

set_option linter.unusedVariables false

namespace FireviewerOrchestrator

namespace PodServer

open Transition

/-! ## Jobs -/

/-- What a poll can show of a job. -/
inductive JobStatus where
  | inQueue | inProgress | completed | failed | cancelled
  deriving DecidableEq, Repr

structure PodJob where
  jobId : String
  request : JsonFields
  status : JobStatus := .inQueue
  output : Option JsonFields := none
  executionTimeMs : Option Int := none
  delayTimeMs : Option Int := none
  queuedAt : ℚ
  startedAt : Option ℚ := none

namespace PodJob

def cancel (job : PodJob) : PodJob := if job.status = .inQueue then { job with status := .cancelled } else job

def start (now : ℚ) (job : PodJob) : PodJob :=
  { job with status := .inProgress, startedAt := some now, delayTimeMs := some (elapsedMs job.queuedAt now) }

def complete (output : JsonFields) (executionTimeMs : Int) (job : PodJob) : PodJob :=
  { job with output := some output, executionTimeMs := some executionTimeMs, status := .completed }

/-- `pod:{type(exc).__name__}:{exc}`. -/
def raisedText : PyExc → String
  | .modelOutputError message => "pod:ModelOutputError:" ++ message
  | .outputValidationError message => "pod:OutputValidationError:" ++ message
  | .validationError _ message => "pod:ValidationError:" ++ message
  | .registryError message => "pod:RegistryError:" ++ message
  | .raised typeName message => "pod:" ++ typeName ++ ":" ++ message
  | .exit typeName => "pod:" ++ typeName ++ ":"

/-- The output of a job whose handler raised. -/
def failedOutput (raised : PyExc) : JsonFields :=
  [("schema_version", .str "1.0"), ("batch_id", .str "INVALID"), ("status", .str "failed"),
    ("retryable", .bool false), ("model_runs", .arr []), ("items", .arr []),
    ("validation_errors", .ofStrings [raisedText raised]), ("boot_ms", .int 0)]

def fail (raised : PyExc) (job : PodJob) : PodJob :=
  { job with output := some (failedOutput raised), status := .failed }

end PodJob

/-! ## The queue -/

/-- Where the consumer's thread stands. -/
inductive Consumer where
  /-- In `_pending.get()`. -/
  | waiting
  /-- Behind it, before the first locked block. -/
  | taken (jobId : String)
  /-- In `handle_job`, since this reading of the timer. -/
  | handling (jobId : String) (startedAt : ℚ)
  /-- Before the locked block that completes the job. -/
  | handled (jobId : String) (output : JsonFields) (executionTimeMs : Int)
  /-- In the `except` clause, before its locked block. -/
  | caught (jobId : String) (raised : PyExc)
  /-- An exception left the thread. -/
  | stopped

/-- The queue, with the threads' own state: the ids between the two steps of a `submit`, and the
    consumer's local variable `job`, by the id of the job it is bound to. -/
structure PodJobQueue where
  jobs : Dict String PodJob := .empty
  pending : List String := []
  unfinishedTasks : Nat := 0
  submitting : List String := []
  consumer : Consumer := .waiting
  job : Option String := none

namespace PodJobQueue

def statusOf (q : PodJobQueue) (id : String) : Option JobStatus := (q.jobs.get? id).map PodJob.status

/-- The first step of `submit`. -/
def insert (q : PodJobQueue) (id : String) (request : JsonFields) (now : ℚ) : PodJobQueue :=
  { q with
    jobs := q.jobs.set id { jobId := id, request := request, queuedAt := now }
    submitting := id :: q.submitting }

/-- Its second step, `_pending.put`. -/
def put (q : PodJobQueue) (id : String) : PodJobQueue :=
  { q with
    pending := q.pending ++ [id]
    unfinishedTasks := q.unfinishedTasks + 1
    submitting := q.submitting.erase id }

/-- A job of the dictionary is changed in place. -/
def update (q : PodJobQueue) (id : String) (change : PodJob → PodJob) : PodJobQueue :=
  match q.jobs.get? id with
  | some job => { q with jobs := q.jobs.set id (change job) }
  | none => q

def cancel (q : PodJobQueue) (id : String) : PodJobQueue := q.update id PodJob.cancel

/-- `finally: self._pending.task_done()`, which raises if it is called too often. -/
def taskDone (q : PodJobQueue) : PodJobQueue :=
  if q.unfinishedTasks = 0 then { q with consumer := .stopped }
  else { q with unfinishedTasks := q.unfinishedTasks - 1, consumer := .waiting }

/-- The consumer's first locked block, and the call of `handle_job` that follows it. -/
def enter (q : PodJobQueue) (id : String) (now startedAt : ℚ) : PodJobQueue :=
  match q.jobs.get? id with
  | none => { q with consumer := .caught id (.keyError id) }
  | some job =>
      if job.status = .cancelled then { q with job := some id }.taskDone
      else { q.update id (PodJob.start now) with job := some id, consumer := .handling id startedAt }

/-- A locked block that ends a job, on whatever the variable `job` is bound to. -/
def finish (q : PodJobQueue) (change : PodJob → PodJob) : PodJobQueue :=
  match q.job with
  | none => { q.taskDone with consumer := .stopped }
  | some id => (q.update id change).taskDone

/-- The id the consumer has taken and not looked up. -/
def taken (q : PodJobQueue) : List String :=
  match q.consumer with
  | .taken id => [id]
  | _ => []

/-- The id whose job the consumer works on. -/
def current (q : PodJobQueue) : Option String :=
  match q.consumer with
  | .handling id _ => some id
  | .handled id _ _ => some id
  | .caught id _ => some id
  | _ => none

/-- The queue's unfinished task that is not in the queue any more. -/
def busy (q : PodJobQueue) : Nat :=
  match q.consumer with
  | .waiting => 0
  | _ => 1

end PodJobQueue

/-! ## The steps -/

/-- What a step did.  `start` includes the call of `handle_job`, on this request. -/
inductive Action where
  | insert (id : String) (request : JsonFields)
  | put (id : String)
  | cancel (id : String)
  | take (id : String)
  | start (id : String) (request : JsonFields)
  | skip (id : String)
  | miss (id : String)
  | returned (output : JsonFields)
  | raised (exc : PyExc)
  | complete
  | fail

/-- The ids put into the queue, in order. -/
def puts (log : List Action) : List String :=
  log.filterMap fun
    | .put id => some id
    | _ => none

/-- The ids `handle_job` was called for, in order. -/
def calls (log : List Action) : List String :=
  log.filterMap fun
    | .start id _ => some id
    | _ => none

/-- One atomic step of some thread.  A `submit` draws an id that is not in use. -/
inductive Step : PodJobQueue → Action → PodJobQueue → Prop
  | insert {q : PodJobQueue} {id : String} (request : JsonFields) (now : ℚ) (hfresh : id ∉ q.jobs.keys) :
      Step q (.insert id request) (q.insert id request now)
  | put {q : PodJobQueue} {id : String} (h : id ∈ q.submitting) : Step q (.put id) (q.put id)
  | cancel (q : PodJobQueue) (id : String) : Step q (.cancel id) (q.cancel id)
  | take {q : PodJobQueue} {id : String} {rest : List String} (hconsumer : q.consumer = .waiting)
      (hpending : q.pending = id :: rest) :
      Step q (.take id) { q with pending := rest, consumer := .taken id }
  | start {q : PodJobQueue} {id : String} {job : PodJob} (now startedAt : ℚ) (hconsumer : q.consumer = .taken id)
      (hjob : q.jobs.get? id = some job) (hstatus : job.status ≠ .cancelled) :
      Step q (.start id job.request) (q.enter id now startedAt)
  | skip {q : PodJobQueue} {id : String} {job : PodJob} (now startedAt : ℚ) (hconsumer : q.consumer = .taken id)
      (hjob : q.jobs.get? id = some job) (hstatus : job.status = .cancelled) :
      Step q (.skip id) (q.enter id now startedAt)
  | miss {q : PodJobQueue} {id : String} (now startedAt : ℚ) (hconsumer : q.consumer = .taken id)
      (hjob : q.jobs.get? id = none) : Step q (.miss id) (q.enter id now startedAt)
  | returned {q : PodJobQueue} {id : String} {startedAt : ℚ} (output : JsonFields) (finishedAt : ℚ)
      (hconsumer : q.consumer = .handling id startedAt) :
      Step q (.returned output) { q with consumer := .handled id output (elapsedMs startedAt finishedAt) }
  | raised {q : PodJobQueue} {id : String} {startedAt : ℚ} (exc : PyExc) (hexc : exc.isException = true)
      (hconsumer : q.consumer = .handling id startedAt) :
      Step q (.raised exc) { q with consumer := .caught id exc }
  | complete {q : PodJobQueue} {id : String} {output : JsonFields} {executionTimeMs : Int}
      (hconsumer : q.consumer = .handled id output executionTimeMs) :
      Step q .complete (q.finish (PodJob.complete output executionTimeMs))
  | fail {q : PodJobQueue} {id : String} {exc : PyExc} (hconsumer : q.consumer = .caught id exc) :
      Step q .fail (q.finish (PodJob.fail exc))

/-! ## What the blocks do to the statuses -/

namespace PodJobQueue

variable {q : PodJobQueue} {id other : String}

/-- A job without a status was never inserted. -/
theorem statusOf_eq_none : q.statusOf id = none ↔ id ∉ q.jobs.keys := by
  rw [statusOf, Option.map_eq_none_iff, Dict.get?_eq_none]

theorem statusOf_of_get? {job : PodJob} (h : q.jobs.get? id = some job) : q.statusOf id = some job.status := by
  rw [statusOf, h]
  rfl

/-- An inserted job waits, and the others are as they were. -/
@[simp] theorem statusOf_insert (request : JsonFields) (now : ℚ) :
    (q.insert id request now).statusOf other = if other = id then some .inQueue else q.statusOf other := by
  unfold statusOf insert
  rw [Dict.get?_set]
  split
  · rfl
  · rfl

@[simp] theorem statusOf_put : (q.put id).statusOf other = q.statusOf other := rfl

/-- A change to one job is seen under its own identifier only. -/
theorem statusOf_update {job : PodJob} (h : q.jobs.get? id = some job) (change : PodJob → PodJob) :
    (q.update id change).statusOf other
      = if other = id then some (change job).status else q.statusOf other := by
  unfold statusOf update
  rw [h]
  dsimp only
  rw [Dict.get?_set]
  split
  · rfl
  · rfl

/-- No change adds a job or takes one away: only `insert` does. -/
theorem keys_update (change : PodJob → PodJob) : (q.update id change).jobs.keys = q.jobs.keys := by
  unfold update
  cases h : q.jobs.get? id with
  | none => rfl
  | some job => exact Dict.keys_set_of_mem _ (Dict.mem_keys_of_mem (Dict.get?_eq_some.mp h))

/-- A change in place touches the dictionary only. -/
theorem update_eq (change : PodJob → PodJob) :
    q.update id change = { q with jobs := (q.update id change).jobs } := by
  unfold update
  cases q.jobs.get? id with
  | none => rfl
  | some job => rfl

/-- A cancellation only reaches a job in the queue. -/
theorem statusOf_cancel : (q.cancel id).statusOf other
    = if other = id ∧ q.statusOf id = some .inQueue then some .cancelled else q.statusOf other := by
  cases hjob : q.jobs.get? id with
  | none =>
    have hnone : q.statusOf id = none := by rw [statusOf, hjob]; rfl
    have hsame : q.cancel id = q := by rw [cancel, update, hjob]
    rw [hsame, hnone]
    simp
  | some job =>
    rw [cancel, statusOf_update hjob, statusOf_of_get? hjob, PodJob.cancel]
    by_cases hid : other = id
    · subst hid
      by_cases hstatus : job.status = .inQueue
      · simp [hstatus]
      · simp [hstatus, statusOf_of_get? hjob]
    · simp [hid]

@[simp] theorem taskDone_jobs : q.taskDone.jobs = q.jobs := by
  unfold taskDone
  split
  · rfl
  · rfl

@[simp] theorem taskDone_pending : q.taskDone.pending = q.pending := by
  unfold taskDone
  split
  · rfl
  · rfl

@[simp] theorem taskDone_submitting : q.taskDone.submitting = q.submitting := by
  unfold taskDone
  split
  · rfl
  · rfl

@[simp] theorem taskDone_statusOf : q.taskDone.statusOf id = q.statusOf id := by
  rw [statusOf, statusOf, taskDone_jobs]

/-- With a task left, the consumer goes back to wait. -/
theorem taskDone_of_pos (h : 0 < q.unfinishedTasks) :
    q.taskDone = { q with unfinishedTasks := q.unfinishedTasks - 1, consumer := .waiting } := by
  rw [taskDone, if_neg (by omega)]

/-- A job that was not cancelled is started under its own identifier. -/
theorem enter_start {job : PodJob} (hjob : q.jobs.get? id = some job) (h : job.status ≠ .cancelled)
    (now startedAt : ℚ) : q.enter id now startedAt
      = { q.update id (PodJob.start now) with job := some id, consumer := .handling id startedAt } := by
  unfold enter
  rw [hjob]
  dsimp only
  rw [if_neg h]

/-- A job that was cancelled while it waited is put aside, and its state is left alone. -/
theorem enter_skip {job : PodJob} (hjob : q.jobs.get? id = some job) (h : job.status = .cancelled)
    (now startedAt : ℚ) : q.enter id now startedAt = { q with job := some id }.taskDone := by
  unfold enter
  rw [hjob]
  dsimp only
  rw [if_pos h]

/-- Starting a job is seen under its own identifier only. -/
theorem statusOf_enter_start {job : PodJob} (hjob : q.jobs.get? id = some job) (h : job.status ≠ .cancelled)
    (now startedAt : ℚ) : (q.enter id now startedAt).statusOf other
      = if other = id then some .inProgress else q.statusOf other := by
  rw [enter_start hjob h]
  exact statusOf_update hjob _

/-- The change at the end is made to the job that the worker has bound, and to no other. -/
theorem finish_bound (hbound : q.job = some id) (change : PodJob → PodJob) :
    q.finish change = (q.update id change).taskDone := by
  unfold finish
  rw [hbound]

end PodJobQueue

/-! ## The invariant -/

/-- The four moves of a status. -/
inductive Moves : JobStatus → JobStatus → Prop
  | cancel : Moves .inQueue .cancelled
  | start : Moves .inQueue .inProgress
  | complete : Moves .inProgress .completed
  | fail : Moves .inProgress .failed

/-- A step keeps every status, moves it, or makes a new job in the queue. -/
def StatusesMove (q t : PodJobQueue) : Prop :=
  ∀ id, t.statusOf id = q.statusOf id ∨ (q.statusOf id = none ∧ t.statusOf id = some .inQueue) ∨
    ∃ before after, q.statusOf id = some before ∧ t.statusOf id = some after ∧ Moves before after

/-- What the log of a run says of the state it led to. -/
structure Tracked (log : List Action) (q : PodJobQueue) : Prop where
  /-- No job is submitted or put twice. -/
  nodup : (q.submitting ++ puts log).Nodup
  known : ∀ id, id ∈ q.jobs.keys ↔ id ∈ q.submitting ++ puts log
  /-- What was put and is not pending or just taken is dealt with, in the order it was put. -/
  order : ∃ done, puts log = done ++ (q.taken ++ q.pending) ∧ (calls log).Sublist done ∧
    ∀ id ∈ done, q.statusOf id ≠ some .inQueue
  waiting : ∀ id ∈ q.submitting ++ (q.taken ++ q.pending),
    q.statusOf id = some .inQueue ∨ q.statusOf id = some .cancelled
  running : ∀ id, q.statusOf id = some .inProgress ↔ q.current = some id
  called : ∀ id, id ∈ calls log ↔ q.statusOf id = some .inProgress ∨ q.statusOf id = some .completed ∨
    q.statusOf id = some .failed
  /-- The variable `job` is bound to the job worked on. -/
  bound : ∀ id, q.current = some id → q.job = some id
  tasks : q.unfinishedTasks = q.pending.length + q.busy
  alive : q.consumer ≠ .stopped

/-- The log is read from its end, where the last action stands. -/
@[simp] theorem puts_snoc (log : List Action) (a : Action) : puts (log ++ [a]) = puts log ++ puts [a] := by
  simp [puts]

@[simp] theorem calls_snoc (log : List Action) (a : Action) : calls (log ++ [a]) = calls log ++ calls [a] := by
  simp [calls]

/-- Nothing was done, and nobody waits. -/
theorem tracked_init : Tracked [] {} where
  nodup := List.nodup_nil
  known := by simp [puts]
  order := ⟨[], rfl, List.Sublist.refl _, by simp⟩
  waiting := by simp [PodJobQueue.taken]
  running := by simp [PodJobQueue.statusOf, PodJobQueue.current]
  called := by simp [PodJobQueue.statusOf, calls]
  bound := by simp [PodJobQueue.current]
  tasks := rfl
  alive := by simp

namespace Tracked

variable {log : List Action} {q : PodJobQueue} {id : String}

/-- The ids that wait are different ones. -/
theorem waiting_nodup (h : Tracked log q) : (q.submitting ++ (q.taken ++ q.pending)).Nodup := by
  obtain ⟨done, hputs, -⟩ := h.order
  have hnodup := h.nodup
  rw [hputs] at hnodup
  exact hnodup.sublist ((List.sublist_append_right _ _).append_left _)

/-- Whoever waits anywhere on the way to the worker has a job. -/
theorem known_of_waiting (h : Tracked log q) (hid : id ∈ q.submitting ++ (q.taken ++ q.pending)) :
    id ∈ q.jobs.keys := by
  by_contra hno
  have hnone := PodJobQueue.statusOf_eq_none.mpr hno
  rcases h.waiting id hid with hstatus | hstatus
  · rw [hnone] at hstatus
    cases hstatus
  · rw [hnone] at hstatus
    cases hstatus

/-- A new identifier is on its way to the queue, and on no other list. -/
theorem insert (h : Tracked log q) (request : JsonFields) (now : ℚ) (hfresh : id ∉ q.jobs.keys) :
    Tracked (log ++ [.insert id request]) (q.insert id request now) := by
  have hnew : id ∉ q.submitting ++ puts log := fun hmem => hfresh ((h.known id).mpr hmem)
  have hnone : q.statusOf id = none := PodJobQueue.statusOf_eq_none.mpr hfresh
  have hputs : puts (log ++ [.insert id request]) = puts log := by simp [puts]
  have hcalls : calls (log ++ [.insert id request]) = calls log := by simp [calls]
  obtain ⟨done, hdone, hsub, hdealt⟩ := h.order
  refine ⟨?_, ?_, ⟨done, hputs.trans hdone, hcalls ▸ hsub, ?_⟩, ?_, ?_, ?_, h.bound, h.tasks, h.alive⟩
  · rw [hputs]
    exact List.nodup_cons.mpr ⟨hnew, h.nodup⟩
  · intro other
    rw [hputs]
    show other ∈ (q.jobs.set id _).keys ↔ other ∈ id :: q.submitting ++ puts log
    rw [Dict.keys_set, if_neg hfresh, List.mem_append, h.known, List.mem_singleton, List.cons_append,
      List.mem_cons]
    exact Or.comm
  · intro other hother
    have hne : other ≠ id := by
      rintro rfl
      refine hnew (List.mem_append_right _ ?_)
      rw [hdone]
      exact List.mem_append_left _ hother
    rw [PodJobQueue.statusOf_insert, if_neg hne]
    exact hdealt other hother
  · intro other hother
    rw [PodJobQueue.statusOf_insert]
    split
    · exact Or.inl rfl
    · rename_i hne
      rcases List.mem_cons.mp hother with heq | hother
      · exact absurd heq hne
      · exact h.waiting other hother
  · intro other
    rw [PodJobQueue.statusOf_insert]
    split
    · rename_i heq
      subst heq
      have hcurrent := h.running other
      rw [hnone] at hcurrent
      show some JobStatus.inQueue = some .inProgress ↔ q.current = some other
      simpa using hcurrent
    · exact h.running other
  · intro other
    rw [hcalls, PodJobQueue.statusOf_insert]
    split
    · rename_i heq
      subst heq
      have hcalled := h.called other
      rw [hnone] at hcalled
      simpa using hcalled
    · exact h.called other

/-- It moves from the handler that submits it to the end of the queue: the order of the puts is the order of
    the queue. -/
theorem put (h : Tracked log q) (hid : id ∈ q.submitting) : Tracked (log ++ [.put id]) (q.put id) := by
  have hputs : puts (log ++ [.put id]) = puts log ++ [id] := by simp [puts]
  have hcalls : calls (log ++ [.put id]) = calls log := by simp [calls]
  have hperm : (q.submitting.erase id ++ (puts log ++ [id])).Perm (q.submitting ++ puts log) := by
    have hmove : (q.submitting.erase id ++ (puts log ++ [id])).Perm (id :: q.submitting.erase id ++ puts log) := by
      rw [← List.append_assoc]
      exact List.perm_append_singleton _ _
    exact hmove.trans ((List.perm_cons_erase hid).symm.append_right _)
  obtain ⟨done, hdone, hsub, hdealt⟩ := h.order
  refine ⟨?_, ?_, ⟨done, ?_, hcalls ▸ hsub, hdealt⟩, ?_, h.running, ?_, h.bound, ?_, h.alive⟩
  · rw [hputs]
    exact hperm.nodup_iff.mpr h.nodup
  · intro other
    rw [hputs]
    exact (h.known other).trans hperm.mem_iff.symm
  · rw [hputs, hdone]
    simp [PodJobQueue.put, PodJobQueue.taken]
  · intro other hother
    refine h.waiting other ?_
    simp only [PodJobQueue.put, PodJobQueue.taken, List.mem_append, List.mem_singleton] at hother ⊢
    rcases hother with hother | hother | hother | rfl
    · exact Or.inl (List.mem_of_mem_erase hother)
    · exact Or.inr (Or.inl hother)
    · exact Or.inr (Or.inr hother)
    · exact Or.inl hid
  · intro other
    rw [hcalls]
    exact h.called other
  · have htasks := h.tasks
    show q.unfinishedTasks + 1 = (q.pending ++ [id]).length + q.busy
    rw [List.length_append, List.length_singleton]
    omega

/-- A cancellation changes what a poll shows and nothing of the order: the job is still taken from the
    queue, and skipped then. -/
theorem cancel (h : Tracked log q) (id : String) : Tracked (log ++ [.cancel id]) (q.cancel id) := by
  have hputs : puts (log ++ [.cancel id]) = puts log := by simp [puts]
  have hcalls : calls (log ++ [.cancel id]) = calls log := by simp [calls]
  have hkeys : (q.cancel id).jobs.keys = q.jobs.keys := PodJobQueue.keys_update _
  have heq : q.cancel id = { q with jobs := (q.cancel id).jobs } := PodJobQueue.update_eq _
  have hsubmitting : (q.cancel id).submitting = q.submitting := by rw [heq]
  have htaken : (q.cancel id).taken = q.taken := by rw [heq]; rfl
  have hpending : (q.cancel id).pending = q.pending := by rw [heq]
  have hcurrent : (q.cancel id).current = q.current := by rw [heq]; rfl
  -- only a job in the queue is touched, so no other status is gained or lost
  have hother : ∀ other status, status ≠ .inQueue → status ≠ .cancelled →
      ((q.cancel id).statusOf other = some status ↔ q.statusOf other = some status) := by
    intro other status hqueue hcancelled
    rw [PodJobQueue.statusOf_cancel]
    split
    · rename_i hcond
      obtain ⟨rfl, hstatus⟩ := hcond
      rw [hstatus]
      simp [Ne.symm hqueue, Ne.symm hcancelled]
    · rfl
  obtain ⟨done, hdone, hsub, hdealt⟩ := h.order
  refine ⟨?_, ?_, ⟨done, ?_, hcalls ▸ hsub, ?_⟩, ?_, ?_, ?_, ?_, ?_, ?_⟩
  · rw [hputs, hsubmitting]
    exact h.nodup
  · intro other
    rw [hputs, hkeys, hsubmitting]
    exact h.known other
  · rw [hputs, htaken, hpending]
    exact hdone
  · intro other hmem
    rw [PodJobQueue.statusOf_cancel]
    split
    · simp
    · exact hdealt other hmem
  · intro other hmem
    rw [hsubmitting, htaken, hpending] at hmem
    rw [PodJobQueue.statusOf_cancel]
    split
    · exact Or.inr rfl
    · exact h.waiting other hmem
  · intro other
    rw [hother other _ (by decide) (by decide), hcurrent]
    exact h.running other
  · intro other
    rw [hcalls, hother other _ (by decide) (by decide), hother other _ (by decide) (by decide),
      hother other _ (by decide) (by decide)]
    exact h.called other
  · rw [heq]
    exact h.bound
  · rw [heq]
    exact h.tasks
  · rw [heq]
    exact h.alive

/-- The first of the queue is taken, and it is now between the queue and the worker. -/
theorem take (h : Tracked log q) {rest : List String} (hconsumer : q.consumer = .waiting)
    (hpending : q.pending = id :: rest) :
    Tracked (log ++ [.take id]) { q with pending := rest, consumer := .taken id } := by
  have hputs : puts (log ++ [.take id]) = puts log := by simp [puts]
  have hcalls : calls (log ++ [.take id]) = calls log := by simp [calls]
  have htaken : q.taken ++ q.pending = id :: rest := by simp [PodJobQueue.taken, hconsumer, hpending]
  have hcurrent : q.current = none := by simp [PodJobQueue.current, hconsumer]
  obtain ⟨done, hdone, hsub, hdealt⟩ := h.order
  refine ⟨hputs ▸ h.nodup, fun other => hputs ▸ h.known other, ⟨done, ?_, hcalls ▸ hsub, hdealt⟩, ?_, ?_,
    fun other => hcalls ▸ h.called other, ?_, ?_, by simp⟩
  · rw [hputs, hdone, htaken]
    rfl
  · intro other hmem
    refine h.waiting other ?_
    rw [htaken]
    exact hmem
  · intro other
    have hrunning := h.running other
    rw [hcurrent] at hrunning
    exact hrunning
  · intro other hother
    cases hother
  · have htasks := h.tasks
    simp only [PodJobQueue.busy, hconsumer, hpending, List.length_cons] at htasks
    show q.unfinishedTasks = rest.length + 1
    omega

/-- The id just taken is in the dictionary, so its lookup succeeds. -/
theorem get?_of_taken (h : Tracked log q) (hconsumer : q.consumer = .taken id) :
    ∃ job, q.jobs.get? id = some job := by
  have hknown : id ∈ q.jobs.keys := by
    refine h.known_of_waiting (List.mem_append_right _ (List.mem_append_left _ ?_))
    simp [PodJobQueue.taken, hconsumer]
  cases hjob : q.jobs.get? id with
  | none => exact absurd hknown (Dict.get?_eq_none.mp hjob)
  | some job => exact ⟨job, rfl⟩

/-- The worker calls the handler: this is the one action after which an identifier is among the calls, and
    the job could not have been called before, since it was still on its way. -/
theorem start (h : Tracked log q) {job : PodJob} (hconsumer : q.consumer = .taken id)
    (hjob : q.jobs.get? id = some job) (hstatus : job.status ≠ .cancelled) (now startedAt : ℚ) :
    Tracked (log ++ [.start id job.request]) (q.enter id now startedAt) := by
  have hputs : puts (log ++ [.start id job.request]) = puts log := by simp [puts]
  have hcalls : calls (log ++ [.start id job.request]) = calls log ++ [id] := by simp [calls]
  have htaken : q.taken = [id] := by simp [PodJobQueue.taken, hconsumer]
  have hcurrent : q.current = none := by simp [PodJobQueue.current, hconsumer]
  have hnodup := h.waiting_nodup
  have hid : q.statusOf id = some .inQueue := by
    have hwaiting := h.waiting id (by simp [htaken])
    rw [PodJobQueue.statusOf_of_get? hjob] at hwaiting ⊢
    rcases hwaiting with hwaiting | hwaiting
    · exact hwaiting
    · exact absurd (Option.some.inj hwaiting) hstatus
  have hstatusOf : ∀ other, (q.enter id now startedAt).statusOf other
      = if other = id then some .inProgress else q.statusOf other :=
    fun other => PodJobQueue.statusOf_enter_start hjob hstatus now startedAt
  have heq := PodJobQueue.enter_start hjob hstatus now startedAt
  have hsubmitting : (q.enter id now startedAt).submitting = q.submitting := by
    rw [heq, PodJobQueue.update_eq]
  have hpending : (q.enter id now startedAt).pending = q.pending := by
    rw [heq, PodJobQueue.update_eq]
  have hkeys : (q.enter id now startedAt).jobs.keys = q.jobs.keys := by
    rw [heq]
    exact PodJobQueue.keys_update _
  have htaken' : (q.enter id now startedAt).taken = [] := by rw [heq]; rfl
  have hcurrent' : (q.enter id now startedAt).current = some id := by rw [heq]; rfl
  obtain ⟨done, hdone, hsub, hdealt⟩ := h.order
  refine ⟨?_, ?_, ⟨done ++ [id], ?_, ?_, ?_⟩, ?_, ?_, ?_, ?_, ?_, ?_⟩
  · rw [hputs, hsubmitting]
    exact h.nodup
  · intro other
    rw [hputs, hkeys, hsubmitting]
    exact h.known other
  · rw [hputs, hdone, htaken, htaken', hpending]
    simp
  · rw [hcalls]
    exact hsub.append_right [id]
  · intro other hmem
    rw [hstatusOf]
    split
    · simp
    · rename_i hne
      rcases List.mem_append.mp hmem with hmem | hmem
      · exact hdealt other hmem
      · exact absurd (List.mem_singleton.mp hmem) hne
  · intro other hmem
    rw [hsubmitting, htaken', hpending, List.nil_append] at hmem
    -- what still waits is not the id that starts
    have hne : other ≠ id := by
      rintro rfl
      rw [htaken] at hnodup
      have hcount := List.nodup_middle.mp hnodup
      exact (List.nodup_cons.mp hcount).1 hmem
    rw [hstatusOf, if_neg hne]
    refine h.waiting other ?_
    rw [htaken]
    simp only [List.mem_append, List.mem_singleton] at hmem ⊢
    rcases hmem with hmem | hmem
    · exact Or.inl hmem
    · exact Or.inr (Or.inr hmem)
  · intro other
    rw [hstatusOf, hcurrent', Option.some.injEq]
    by_cases hne : other = id
    · simp [hne]
    · rw [if_neg hne, h.running, hcurrent]
      simp [Ne.symm hne]
  · intro other
    rw [hcalls, hstatusOf, List.mem_append, List.mem_singleton, h.called]
    by_cases hne : other = id
    · simp [hne]
    · simp [hne]
  · intro other hother
    rw [hcurrent'] at hother
    rw [heq]
    exact hother
  · have htasks := h.tasks
    rw [heq, PodJobQueue.update_eq]
    simpa [PodJobQueue.busy, hconsumer] using htasks
  · rw [heq]
    simp

/-- A cancelled job leaves the way without a call. -/
theorem skip (h : Tracked log q) {job : PodJob} (hconsumer : q.consumer = .taken id)
    (hjob : q.jobs.get? id = some job) (hstatus : job.status = .cancelled) (now startedAt : ℚ) :
    Tracked (log ++ [.skip id]) (q.enter id now startedAt) := by
  have hputs : puts (log ++ [.skip id]) = puts log := by simp [puts]
  have hcalls : calls (log ++ [.skip id]) = calls log := by simp [calls]
  have htaken : q.taken = [id] := by simp [PodJobQueue.taken, hconsumer]
  have hcurrent : q.current = none := by simp [PodJobQueue.current, hconsumer]
  have htasks : q.unfinishedTasks = q.pending.length + 1 := by
    have htasks := h.tasks
    simpa [PodJobQueue.busy, hconsumer] using htasks
  have heq : q.enter id now startedAt = { q with
      job := some id, unfinishedTasks := q.unfinishedTasks - 1, consumer := .waiting } := by
    rw [PodJobQueue.enter_skip hjob hstatus, PodJobQueue.taskDone_of_pos (by simp [htasks])]
  rw [heq]
  obtain ⟨done, hdone, hsub, hdealt⟩ := h.order
  refine ⟨hputs ▸ h.nodup, fun other => hputs ▸ h.known other, ⟨done ++ [id], ?_, ?_, ?_⟩, ?_, ?_,
    fun other => hcalls ▸ h.called other, ?_, ?_, by simp⟩
  · rw [hputs, hdone, htaken]
    simp [PodJobQueue.taken]
  · rw [hcalls]
    exact hsub.trans (List.sublist_append_left _ _)
  · intro other hmem
    show q.statusOf other ≠ _
    rcases List.mem_append.mp hmem with hmem | hmem
    · exact hdealt other hmem
    · rw [List.mem_singleton.mp hmem, PodJobQueue.statusOf_of_get? hjob, hstatus]
      simp
  · intro other hmem
    refine h.waiting other ?_
    rw [htaken]
    simp only [PodJobQueue.taken, List.nil_append, List.mem_append, List.mem_singleton] at hmem ⊢
    rcases hmem with hmem | hmem
    · exact Or.inl hmem
    · exact Or.inr (Or.inr hmem)
  · intro other
    have hrunning := h.running other
    rw [hcurrent] at hrunning
    exact hrunning
  · intro other hother
    cases hother
  · show q.unfinishedTasks - 1 = q.pending.length + 0
    omega

/-- An outcome of `handle_job` moves the consumer's thread on, with the same job at hand. -/
theorem answered (h : Tracked log q) {a : Action} {consumer : Consumer} (hputs : puts [a] = [])
    (hcalls : calls [a] = []) (htaken : { q with consumer := consumer }.taken = q.taken)
    (hcurrent : { q with consumer := consumer }.current = q.current)
    (hbusy : { q with consumer := consumer }.busy = q.busy) (halive : consumer ≠ .stopped) :
    Tracked (log ++ [a]) { q with consumer := consumer } := by
  have hputs' : puts (log ++ [a]) = puts log := by rw [puts_snoc, hputs, List.append_nil]
  have hcalls' : calls (log ++ [a]) = calls log := by rw [calls_snoc, hcalls, List.append_nil]
  obtain ⟨done, hdone, hsub, hdealt⟩ := h.order
  refine ⟨hputs' ▸ h.nodup, fun other => hputs' ▸ h.known other, ⟨done, ?_, hcalls' ▸ hsub, hdealt⟩, ?_, ?_,
    fun other => hcalls' ▸ h.called other, ?_, ?_, halive⟩
  · rw [hputs', htaken]
    exact hdone
  · rw [htaken]
    exact h.waiting
  · rw [hcurrent]
    exact h.running
  · rw [hcurrent]
    exact h.bound
  · rw [hbusy]
    exact h.tasks

/-- The job worked on ends, and the consumer goes back to wait. -/
theorem finish (h : Tracked log q) {a : Action} (hputs : puts [a] = []) (hcalls : calls [a] = [])
    (hcurrent : q.current = some id) {change : PodJob → PodJob} {ended : JobStatus}
    (hchange : ∀ job, (change job).status = ended) (hmove : Moves .inProgress ended) :
    Tracked (log ++ [a]) (q.finish change) ∧ StatusesMove q (q.finish change) := by
  have hputs' : puts (log ++ [a]) = puts log := by rw [puts_snoc, hputs, List.append_nil]
  have hcalls' : calls (log ++ [a]) = calls log := by rw [calls_snoc, hcalls, List.append_nil]
  have hid : q.statusOf id = some .inProgress := (h.running id).mpr hcurrent
  have hbusy : q.taken = [] ∧ q.busy = 1 := by
    unfold PodJobQueue.current at hcurrent
    unfold PodJobQueue.taken PodJobQueue.busy
    cases hconsumer : q.consumer with
    | waiting =>
      rw [hconsumer] at hcurrent
      cases hcurrent
    | taken other =>
      rw [hconsumer] at hcurrent
      cases hcurrent
    | stopped => exact absurd hconsumer h.alive
    | _ => exact ⟨rfl, rfl⟩
  obtain ⟨htaken, hone⟩ := hbusy
  have htasks : q.unfinishedTasks = q.pending.length + 1 := by
    rw [h.tasks, hone]
  obtain ⟨job, hjob⟩ : ∃ job, q.jobs.get? id = some job := by
    cases hjob : q.jobs.get? id with
    | some job => exact ⟨job, rfl⟩
    | none =>
      rw [PodJobQueue.statusOf, hjob] at hid
      cases hid
  have heq : q.finish change = { q with
      jobs := (q.update id change).jobs, unfinishedTasks := q.unfinishedTasks - 1, consumer := .waiting } := by
    rw [PodJobQueue.finish_bound (h.bound id hcurrent), PodJobQueue.update_eq,
      PodJobQueue.taskDone_of_pos (by show 0 < q.unfinishedTasks; omega)]
  have hstatusOf : ∀ other, (q.finish change).statusOf other
      = if other = id then some ended else q.statusOf other := by
    intro other
    rw [heq]
    show (q.update id change).statusOf other = _
    rw [PodJobQueue.statusOf_update hjob, hchange]
  have hmoves : StatusesMove q (q.finish change) := by
    intro other
    rw [hstatusOf]
    split
    · rename_i hsame
      subst hsame
      exact Or.inr (Or.inr ⟨_, _, hid, rfl, hmove⟩)
    · exact Or.inl rfl
  refine ⟨?_, hmoves⟩
  -- whatever waits, or was dealt with before, is another job
  have hsame : ∀ other status, status ≠ .inProgress → q.statusOf other = some status →
      (q.finish change).statusOf other = some status := by
    intro other status hstatus hother
    have hne : other ≠ id := by
      rintro rfl
      rw [hid] at hother
      exact hstatus (Option.some.inj hother).symm
    rw [hstatusOf, if_neg hne]
    exact hother
  obtain ⟨done, hdone, hsub, hdealt⟩ := h.order
  refine ⟨?_, ?_, ⟨done, ?_, hcalls' ▸ hsub, ?_⟩, ?_, ?_, ?_, ?_, ?_, ?_⟩
  · rw [hputs', heq]
    exact h.nodup
  · intro other
    rw [hputs', heq]
    show other ∈ (q.update id change).jobs.keys ↔ _
    rw [PodJobQueue.keys_update]
    exact h.known other
  · rw [hputs', heq, hdone, htaken]
    rfl
  · intro other hmem
    rw [hstatusOf]
    split
    · cases hmove <;> simp
    · exact hdealt other hmem
  · intro other hmem
    rw [heq] at hmem
    have hwaiting := h.waiting other (by rw [htaken]; exact hmem)
    rcases hwaiting with hwaiting | hwaiting
    · exact Or.inl (hsame other _ (by decide) hwaiting)
    · exact Or.inr (hsame other _ (by decide) hwaiting)
  · intro other
    have hidle : (q.finish change).current = none := by rw [heq]; rfl
    rw [hidle, hstatusOf]
    split
    · cases hmove <;> simp
    · rename_i hne
      rw [h.running, hcurrent]
      simp [Ne.symm hne]
  · intro other
    rw [hcalls', h.called, hstatusOf]
    split
    · rename_i heq
      subst heq
      rw [hid]
      cases hmove <;> simp
    · rfl
  · intro other hother
    rw [heq] at hother
    cases hother
  · rw [heq]
    show q.unfinishedTasks - 1 = q.pending.length + 0
    omega
  · rw [heq]
    simp

end Tracked

/-! ## Every run -/

section Steps

variable {log : List Action} {q t : PodJobQueue} {a : Action}

/-- **One step** keeps the invariant and only makes the allowed moves. -/
theorem tracked_step (hstep : Step q a t) (h : Tracked log q) : Tracked (log ++ [a]) t ∧ StatusesMove q t := by
  cases hstep with
  | @insert id request now hfresh =>
    refine ⟨h.insert request now hfresh, ?_⟩
    intro other
    rw [PodJobQueue.statusOf_insert]
    split
    · rename_i heq
      subst heq
      exact Or.inr (Or.inl ⟨PodJobQueue.statusOf_eq_none.mpr hfresh, rfl⟩)
    · exact Or.inl rfl
  | put hid => exact ⟨h.put hid, fun other => Or.inl rfl⟩
  | cancel id =>
    refine ⟨h.cancel id, ?_⟩
    intro other
    rw [PodJobQueue.statusOf_cancel]
    split
    · rename_i hcond
      obtain ⟨rfl, hstatus⟩ := hcond
      exact Or.inr (Or.inr ⟨_, _, hstatus, rfl, .cancel⟩)
    · exact Or.inl rfl
  | take hconsumer hpending => exact ⟨h.take hconsumer hpending, fun other => Or.inl rfl⟩
  | @start id job now startedAt hconsumer hjob hstatus =>
    refine ⟨h.start hconsumer hjob hstatus now startedAt, ?_⟩
    intro other
    rw [PodJobQueue.statusOf_enter_start hjob hstatus]
    split
    · rename_i heq
      subst heq
      have hwaiting := h.waiting other (by simp [PodJobQueue.taken, hconsumer])
      rw [PodJobQueue.statusOf_of_get? hjob] at hwaiting ⊢
      rcases hwaiting with hwaiting | hwaiting
      · exact Or.inr (Or.inr ⟨_, _, hwaiting, rfl, .start⟩)
      · exact absurd (Option.some.inj hwaiting) hstatus
    · exact Or.inl rfl
  | skip now startedAt hconsumer hjob hstatus =>
    refine ⟨h.skip hconsumer hjob hstatus now startedAt, ?_⟩
    intro other
    rw [PodJobQueue.enter_skip hjob hstatus, PodJobQueue.taskDone_statusOf]
    exact Or.inl rfl
  | miss now startedAt hconsumer hjob =>
    -- the id just taken is always known
    obtain ⟨job, hsome⟩ := h.get?_of_taken hconsumer
    rw [hjob] at hsome
    cases hsome
  | returned output finishedAt hconsumer =>
    refine ⟨h.answered rfl rfl ?_ ?_ ?_ (by simp), fun other => Or.inl rfl⟩
    · simp [PodJobQueue.taken, hconsumer]
    · simp [PodJobQueue.current, hconsumer]
    · simp [PodJobQueue.busy, hconsumer]
  | raised exc hexc hconsumer =>
    refine ⟨h.answered rfl rfl ?_ ?_ ?_ (by simp), fun other => Or.inl rfl⟩
    · simp [PodJobQueue.taken, hconsumer]
    · simp [PodJobQueue.current, hconsumer]
    · simp [PodJobQueue.busy, hconsumer]
  | @complete id output executionTimeMs hconsumer =>
    have hcurrent : q.current = some id := by simp [PodJobQueue.current, hconsumer]
    exact h.finish rfl rfl hcurrent (fun job => rfl) .complete
  | @fail id exc hconsumer =>
    have hcurrent : q.current = some id := by simp [PodJobQueue.current, hconsumer]
    exact h.finish rfl rfl hcurrent (fun job => rfl) .fail

/-- So it is after every run, whatever the threads have done in between. -/
theorem tracked_of_run (h : Run Step {} log q) : Tracked log q :=
  Run.history (I := Tracked) (fun _ _ _ _ hstep hs => (tracked_step hstep hs).1) h tracked_init

end Steps

/-! ## The guarantees -/

/-- Some state of the run had the job in progress. -/
def WasInProgress (log : List Action) (q : PodJobQueue) (id : String) : Prop :=
  ∃ before after u, log = before ++ after ∧ Run Step {} before u ∧ Run Step u after q ∧
    u.statusOf id = some .inProgress

/-- **What the queue guarantees** in the state a run led to. -/
structure QueueSafe (log : List Action) (q : PodJobQueue) : Prop where
  /-- Whatever happens next, a status stays or makes one of the four moves. -/
  moves : ∀ a t, Step q a t → StatusesMove q t
  one_running : ∀ id id', q.statusOf id = some .inProgress → q.statusOf id' = some .inProgress → id = id'
  /-- `handle_job` was called once for each job that ever was in progress, and for no other. -/
  called_once : ∀ id, WasInProgress log q id → (calls log).count id = 1
  not_called : ∀ id, ¬ WasInProgress log q id → id ∉ calls log
  cancelled_not_called : ∀ id, q.statusOf id = some .cancelled → id ∉ calls log
  /-- Jobs run in the order of their puts, each put once. -/
  in_order : (calls log).Sublist (puts log) ∧ (puts log).Nodup
  /-- A job in the queue is not yet put, or pending once, or the one just taken. -/
  not_lost : ∀ id, q.statusOf id = some .inQueue →
    q.submitting.count id + q.pending.count id + q.taken.count id = 1
  /-- What is taken is known, so the `except` clause only sees what `handle_job` raised, on its job. -/
  taken_known : ∀ id, q.consumer = .taken id → id ∈ q.jobs.keys
  caught_bound : ∀ id raised, q.consumer = .caught id raised →
    q.job = some id ∧ q.statusOf id = some .inProgress
  alive : q.consumer ≠ .stopped

/-- A job in progress was called for, and is never called for again. -/
theorem wasInProgress_iff {log : List Action} {q : PodJobQueue} (h : Run Step {} log q) {id : String} :
    WasInProgress log q id ↔ id ∈ calls log := by
  constructor
  · rintro ⟨before, after, u, rfl, hbefore, -, hstatus⟩
    have hmem : id ∈ calls before := ((tracked_of_run hbefore).called id).mpr (Or.inl hstatus)
    rw [calls, List.filterMap_append]
    exact List.mem_append_left _ hmem
  · intro hmem
    obtain ⟨a, ha, hstart⟩ := List.mem_filterMap.mp hmem
    obtain ⟨before, after, rfl⟩ := List.append_of_mem ha
    obtain ⟨t, u, hbefore, hstep, hafter⟩ := h.at_label
    refine ⟨before ++ [a], after, u, by simp, hbefore.snoc hstep, hafter, ?_⟩
    cases hstep with
    | start now startedAt hconsumer hjob hstatus =>
      obtain rfl := Option.some.inj hstart
      rw [PodJobQueue.statusOf_enter_start hjob hstatus, if_pos rfl]
    | _ => cases hstart

/-- **The queue is safe** in every state that any interleaving of submissions, cancellations and the
    consumer reaches. -/
theorem queue_safe {log : List Action} {q : PodJobQueue} (h : Run Step {} log q) : QueueSafe log q := by
  have htracked := tracked_of_run h
  obtain ⟨done, hdone, hsub, hdealt⟩ := htracked.order
  have hputs : (puts log).Nodup := (List.nodup_append.mp htracked.nodup).2.1
  have hinorder : (calls log).Sublist (puts log) := by
    rw [hdone]
    exact hsub.trans (List.sublist_append_left _ _)
  refine ⟨fun a t hstep => (tracked_step hstep htracked).2, ?_, ?_, ?_, ?_, ⟨hinorder, hputs⟩, ?_, ?_, ?_,
    htracked.alive⟩
  · intro id id' hid hid'
    have hcurrent := (htracked.running id).mp hid
    have hcurrent' := (htracked.running id').mp hid'
    exact Option.some.inj (hcurrent.symm.trans hcurrent')
  · intro id hwas
    exact List.count_eq_one_of_mem (hputs.sublist hinorder) ((wasInProgress_iff h).mp hwas)
  · intro id hnever hmem
    exact hnever ((wasInProgress_iff h).mpr hmem)
  · intro id hcancelled hmem
    rcases (htracked.called id).mp hmem with hstatus | hstatus | hstatus
    · rw [hcancelled] at hstatus
      cases hstatus
    · rw [hcancelled] at hstatus
      cases hstatus
    · rw [hcancelled] at hstatus
      cases hstatus
  · intro id hqueued
    -- it was submitted; if it was put, it is not among those dealt with
    have hwaits : id ∈ q.submitting ++ (q.taken ++ q.pending) := by
      have hknown : id ∈ q.jobs.keys := by
        by_contra hno
        rw [PodJobQueue.statusOf_eq_none.mpr hno] at hqueued
        cases hqueued
      rw [htracked.known, hdone] at hknown
      simp only [List.mem_append] at hknown ⊢
      rcases hknown with hknown | hknown | hknown
      · exact Or.inl hknown
      · exact absurd hqueued (hdealt id hknown)
      · exact Or.inr hknown
    have hcount := List.count_eq_one_of_mem htracked.waiting_nodup hwaits
    rw [List.count_append, List.count_append] at hcount
    omega
  · intro id hconsumer
    refine htracked.known_of_waiting (List.mem_append_right _ (List.mem_append_left _ ?_))
    simp [PodJobQueue.taken, hconsumer]
  · intro id raised hconsumer
    have hcurrent : q.current = some id := by simp [PodJobQueue.current, hconsumer]
    exact ⟨htracked.bound id hcurrent, (htracked.running id).mpr hcurrent⟩

/-- One job is started, a second one is cancelled between its insertion and its put, and the first
    one's handler raises. -/
theorem queue_safe_cancelled :
    ∃ log q, Run Step {} log q ∧ q.statusOf "pod-1" = some .failed ∧ q.statusOf "pod-2" = some .cancelled ∧
      calls log = ["pod-1"] ∧ QueueSafe log q := by
  have hknown : Run Step {} [.insert "pod-1" []] (({} : PodJobQueue).insert "pod-1" [] 0) :=
    .single (.insert [] 0 (by decide))
  have hput : "pod-1" ∈ (({} : PodJobQueue).insert "pod-1" [] 0).submitting := List.mem_cons_self
  have htaken := (hknown.snoc (.put hput)).snoc (.take rfl rfl)
  have hsecond := htaken.snoc (Step.insert [] 1 (show "pod-2" ∉ _ by decide))
  have hstarted := hsecond.snoc (.start 2 2 rfl rfl (by decide))
  have hcancelled := hstarted.snoc (.cancel _ "pod-2")
  have hfailed := (hcancelled.snoc (.raised (.runtimeError "planned failure") rfl rfl)).snoc (.fail rfl)
  refine ⟨_, _, hfailed, by decide, by decide, rfl, queue_safe hfailed⟩

end PodServer

end FireviewerOrchestrator
