/-
  The view of a job that a request reads.

  `PodJob.response` reads four attributes of a job one after the other, and takes no lock.  The
  consumer assigns attributes of the same job one after the other, under the lock.  So here each read
  and each assignment is a step of its own, whereas `PodServer.Step` has the consumer's locked blocks
  as single steps: `exists_tracked` says that the finer steps still keep the queue's invariant.

  `PodInvariant` says where a job stands at each point of a block.
-/
import FireviewerOrchestrator.PodServer
import Mathlib.Logic.Function.Basic

set_option linter.unusedVariables false

namespace FireviewerOrchestrator

namespace PodServer

/-! ## Locked blocks, assignment by assignment -/

/-- An assignment to an attribute of a job. -/
inductive Assignment where
  | status (value : JobStatus)
  | startedAt (value : ℚ)
  | delayTimeMs (value : Int)
  | output (value : JsonFields)
  | executionTimeMs (value : Int)

def Assignment.apply : Assignment → PodJob → PodJob
  | status value, job => { job with status := value }
  | startedAt value, job => { job with startedAt := some value }
  | delayTimeMs value, job => { job with delayTimeMs := some value }
  | output value, job => { job with output := some value }
  | executionTimeMs value, job => { job with executionTimeMs := some value }

def assignAll (block : List Assignment) (job : PodJob) : PodJob := block.foldl (fun job a => a.apply job) job

/-- The assignments of `_run_jobs` when it starts a job, one statement after the other. -/
def startBlock (queuedAt now : ℚ) : List Assignment :=
  [.status .inProgress, .startedAt now, .delayTimeMs (elapsedMs queuedAt now)]

/-- Those after a handler that returned: the status comes last. -/
def completeBlock (output : JsonFields) (executionTimeMs : Int) : List Assignment :=
  [.output output, .executionTimeMs executionTimeMs, .status .completed]

/-- Those after a handler that raised: no execution time is among them. -/
def failBlock (raised : PyExc) : List Assignment := [.output (PodJob.failedOutput raised), .status .failed]

/-! ## Responses -/

def JobStatus.value : JobStatus → String
  | inQueue => "IN_QUEUE"
  | inProgress => "IN_PROGRESS"
  | completed => "COMPLETED"
  | failed => "FAILED"
  | cancelled => "CANCELLED"

/-- What the four reads of a response saw. -/
structure JobView where
  jobId : String
  status : JobStatus
  output : Option JsonFields
  executionTimeMs : Option Int
  delayTimeMs : Option Int

/-- `PodJob.response`, on what its reads saw. -/
def JobView.response (view : JobView) : JsonFields :=
  [("id", .str view.jobId), ("status", .str view.status.value)]
    ++ (view.output.map fun output => ("output", .obj output)).toList
    ++ (view.executionTimeMs.map fun ms => ("executionTime", .int ms)).toList
    ++ (view.delayTimeMs.map fun ms => ("delayTime", .int ms)).toList

/-- The statuses a response with an output has. -/
def JobStatus.hasOutput : JobStatus → Bool
  | completed | failed => true
  | _ => false

/-- Only a job that was completed has an execution time. -/
def JobStatus.hasExecutionTime : JobStatus → Bool
  | completed => true
  | _ => false

/-- A job that was started has a delay, and keeps it. -/
def JobStatus.hasDelayTime : JobStatus → Bool
  | inProgress | completed | failed => true
  | _ => false

/-- The keys of the response are those its status calls for. -/
structure JobView.Consistent (view : JobView) : Prop where
  output_iff : "output" ∈ view.response.map Prod.fst ↔ view.status = .completed ∨ view.status = .failed
  executionTime_iff : "executionTime" ∈ view.response.map Prod.fst ↔ view.status = .completed
  delayTime_iff : "delayTime" ∈ view.response.map Prod.fst ↔
    view.status = .inProgress ∨ view.status = .completed ∨ view.status = .failed

/-- A view is consistent if each optional part is there exactly where the status has it. -/
theorem JobView.consistent_iff {view : JobView} : view.Consistent ↔
    view.output.isSome = view.status.hasOutput ∧
      view.executionTimeMs.isSome = view.status.hasExecutionTime ∧
      view.delayTimeMs.isSome = view.status.hasDelayTime := by
  obtain ⟨jobId, status, output, executionTimeMs, delayTimeMs⟩ := view
  have houtput : "output" ∈ (response ⟨jobId, status, output, executionTimeMs, delayTimeMs⟩).map Prod.fst ↔
      output.isSome = true := by
    cases output <;> cases executionTimeMs <;> cases delayTimeMs <;> simp [response]
  have hexecution :
      "executionTime" ∈ (response ⟨jobId, status, output, executionTimeMs, delayTimeMs⟩).map Prod.fst ↔
      executionTimeMs.isSome = true := by
    cases output <;> cases executionTimeMs <;> cases delayTimeMs <;> simp [response]
  have hdelay :
      "delayTime" ∈ (response ⟨jobId, status, output, executionTimeMs, delayTimeMs⟩).map Prod.fst ↔
      delayTimeMs.isSome = true := by
    cases output <;> cases executionTimeMs <;> cases delayTimeMs <;> simp [response]
  constructor
  · rintro ⟨ho, he, hd⟩
    rw [houtput] at ho
    rw [hexecution] at he
    rw [hdelay] at hd
    refine ⟨?_, ?_, ?_⟩
    · cases status <;> simp_all [JobStatus.hasOutput]
    · cases status <;> simp_all [JobStatus.hasExecutionTime]
    · cases status <;> simp_all [JobStatus.hasDelayTime]
  · rintro ⟨ho, he, hd⟩
    refine ⟨?_, ?_, ?_⟩
    · rw [houtput]
      cases status <;> simp_all [JobStatus.hasOutput]
    · rw [hexecution]
      cases status <;> simp_all [JobStatus.hasExecutionTime]
    · rw [hdelay]
      cases status <;> simp_all [JobStatus.hasDelayTime]

namespace Polling

open Transition

/-! ## The pod -/

/-- Where a request stands in `PodJob.response`, with what it has read. -/
inductive Reader where
  | idle
  | opened (id : String)
  | sawStatus (id : String) (status : JobStatus)
  | sawOutput (id : String) (status : JobStatus) (output : Option JsonFields)
  | sawExecutionTime (id : String) (status : JobStatus) (output : Option JsonFields)
      (executionTimeMs : Option Int)

/-- The job a request is about. -/
def Reader.job? : Reader → Option String
  | idle => none
  | opened id | sawStatus id _ | sawOutput id _ _ | sawExecutionTime id _ _ _ => some id

/-- The queue as it stands, what is left of the consumer's locked block (the lock is the consumer's as
    long as that is not empty) with the id of its job, and the requests of the threads `θ`. -/
structure Pod (θ : Type) where
  queue : PodJobQueue := {}
  target : String := ""
  block : List Assignment := []
  requests : θ → Reader := fun _ => .idle
  responses : List JobView := []

variable {θ : Type} [DecidableEq θ]

namespace Pod

/-- The queue as it will stand at the end of the block. -/
def settled (s : Pod θ) : PodJobQueue :=
  match s.block with
  | [] => s.queue
  | a :: rest => s.queue.update s.target (assignAll (a :: rest))

/-- The thread `i` goes on to `reader`. -/
def moveOn (s : Pod θ) (i : θ) (reader : Reader) : Pod θ :=
  { s with requests := Function.update s.requests i reader }

/-- The thread `i` sends its response. -/
def respond (s : Pod θ) (i : θ) (view : JobView) : Pod θ :=
  { s.moveOn i .idle with responses := s.responses ++ [view] }

end Pod

/-- The pod before any request. -/
def Pod.init (θ : Type) : Pod θ := {}

/-! ## The steps -/

inductive Event (θ : Type) where
  | queue (a : Action)
  | lock (a : Action)
  | assign (id : String) (a : Assignment)
  | get (i : θ) (id : String)
  | cancel (i : θ) (id : String)
  | readStatus (i : θ)
  | readOutput (i : θ)
  | readExecutionTime (i : θ)
  | readDelayTime (i : θ)

/-- The steps of the queue that are kept as they are: those that assign nothing to a job. -/
def keptWhole : Action → Bool
  | .insert _ _ | .put _ | .take _ | .skip _ | .miss _ | .returned _ | .raised _ => true
  | .cancel _ | .start _ _ | .complete | .fail => false

/-- One atomic step.  Only `_pending.put` and the reads of a response do without the lock. -/
inductive Step : Pod θ → Event θ → Pod θ → Prop
  | queue {s : Pod θ} {a : Action} {q : PodJobQueue} (hwhole : keptWhole a = true)
      (hlock : s.block = [] ∨ ∃ id, a = .put id) (h : PodServer.Step s.queue a q) :
      Step s (.queue a) { s with queue := q }
  | start {s : Pod θ} {id : String} {job : PodJob} (now startedAt : ℚ) (hlock : s.block = [])
      (hconsumer : s.queue.consumer = .taken id) (hjob : s.queue.jobs.get? id = some job)
      (hstatus : job.status ≠ .cancelled) :
      Step s (.lock (.start id job.request))
        { s with
          queue := { s.queue with job := some id, consumer := .handling id startedAt }
          target := id
          block := startBlock job.queuedAt now }
  | complete {s : Pod θ} {id handled : String} {output : JsonFields} {executionTimeMs : Int}
      (hlock : s.block = []) (hconsumer : s.queue.consumer = .handled handled output executionTimeMs)
      (hbound : s.queue.job = some id) :
      Step s (.lock .complete)
        { s with queue := s.queue.taskDone, target := id, block := completeBlock output executionTimeMs }
  | fail {s : Pod θ} {id caught : String} {raised : PyExc} (hlock : s.block = [])
      (hconsumer : s.queue.consumer = .caught caught raised) (hbound : s.queue.job = some id) :
      Step s (.lock .fail) { s with queue := s.queue.taskDone, target := id, block := failBlock raised }
  | assign {s : Pod θ} {a : Assignment} {rest : List Assignment} (hblock : s.block = a :: rest) :
      Step s (.assign s.target a) { s with queue := s.queue.update s.target a.apply, block := rest }
  | get {s : Pod θ} {i : θ} {id : String} {job : PodJob} (hlock : s.block = []) (hidle : s.requests i = .idle)
      (hjob : s.queue.jobs.get? id = some job) : Step s (.get i id) (s.moveOn i (.opened id))
  | cancel {s : Pod θ} {i : θ} {id : String} {job : PodJob} (hlock : s.block = [])
      (hidle : s.requests i = .idle) (hjob : s.queue.jobs.get? id = some job) :
      Step s (.cancel i id) { s.moveOn i (.opened id) with queue := s.queue.cancel id }
  | readStatus {s : Pod θ} {i : θ} {id : String} {job : PodJob} (hreader : s.requests i = .opened id)
      (hjob : s.queue.jobs.get? id = some job) : Step s (.readStatus i) (s.moveOn i (.sawStatus id job.status))
  | readOutput {s : Pod θ} {i : θ} {id : String} {status : JobStatus} {job : PodJob}
      (hreader : s.requests i = .sawStatus id status) (hjob : s.queue.jobs.get? id = some job) :
      Step s (.readOutput i) (s.moveOn i (.sawOutput id status job.output))
  | readExecutionTime {s : Pod θ} {i : θ} {id : String} {status : JobStatus} {output : Option JsonFields}
      {job : PodJob} (hreader : s.requests i = .sawOutput id status output)
      (hjob : s.queue.jobs.get? id = some job) :
      Step s (.readExecutionTime i) (s.moveOn i (.sawExecutionTime id status output job.executionTimeMs))
  | readDelayTime {s : Pod θ} {i : θ} {id : String} {status : JobStatus} {output : Option JsonFields}
      {executionTimeMs : Option Int} {job : PodJob}
      (hreader : s.requests i = .sawExecutionTime id status output executionTimeMs)
      (hjob : s.queue.jobs.get? id = some job) :
      Step s (.readDelayTime i) (s.respond i ⟨id, status, output, executionTimeMs, job.delayTimeMs⟩)

/-! ## The finer steps keep the queue's invariant -/

section Refinement

variable {q : PodJobQueue} {id : String} {s t : Pod θ} {e : Event θ}

theorem update_update (f g : PodJob → PodJob) :
    (q.update id f).update id g = q.update id fun job => g (f job) := by
  unfold PodJobQueue.update
  cases hjob : q.jobs.get? id with
  | none => simp [hjob]
  | some job =>
    have hset : (q.jobs.set id (f job)).set id (g (f job)) = q.jobs.set id (g (f job)) := by
      refine Dict.ext_get? ?_ ?_
      · have hmem : id ∈ q.jobs.keys := Dict.mem_keys_of_mem (Dict.get?_eq_some.mp hjob)
        have hmem' : id ∈ (q.jobs.set id (f job)).keys := by rwa [Dict.keys_set_of_mem _ hmem]
        rw [Dict.keys_set_of_mem _ hmem', Dict.keys_set_of_mem _ hmem, Dict.keys_set_of_mem _ hmem]
      · intro other
        rw [Dict.get?_set, Dict.get?_set, Dict.get?_set]
        split <;> rfl
    simp [Dict.get?_set, hset]

omit [DecidableEq θ] in
theorem settled_of_nil (h : s.block = []) : s.settled = s.queue := by
  unfold Pod.settled
  rw [h]

omit [DecidableEq θ] in
theorem settled_of_ne_nil (h : s.block ≠ []) : s.settled = s.queue.update s.target (assignAll s.block) := by
  unfold Pod.settled
  split
  · contradiction
  · rename_i hblock
    rw [hblock]

omit [DecidableEq θ] in
/-- An assignment brings the block forward and changes nothing about its end. -/
theorem settled_assign {a : Assignment} {rest : List Assignment} (h : s.block = a :: rest) :
    Pod.settled { s with queue := s.queue.update s.target a.apply, block := rest } = s.settled := by
  rw [settled_of_ne_nil (s := s) (by simp [h]), h]
  cases rest with
  | nil => rfl
  | cons b rest => exact update_update a.apply (assignAll (b :: rest))

omit [DecidableEq θ] in
theorem settled_put (h : id ∈ s.queue.submitting) :
    PodServer.Step s.settled (.put id) (Pod.settled { s with queue := s.queue.put id }) := by
  unfold Pod.settled
  cases hblock : s.block with
  | nil => exact .put h
  | cons a rest =>
    have hcommutes : (s.queue.put id).update s.target (assignAll (a :: rest))
        = (s.queue.update s.target (assignAll (a :: rest))).put id := by
      unfold PodJobQueue.update PodJobQueue.put
      dsimp only
      cases s.queue.jobs.get? s.target with
      | none => rfl
      | some job => rfl
    show PodServer.Step (s.queue.update s.target (assignAll (a :: rest))) _
      ((s.queue.put id).update s.target (assignAll (a :: rest)))
    rw [hcommutes]
    refine .put ?_
    rw [PodJobQueue.update_eq]
    exact h

/-- The end of a job can be entered in the queue before or after its task is done. -/
theorem taskDone_update (f : PodJob → PodJob) : q.taskDone.update id f = (q.update id f).taskDone := by
  have hmove : ∀ (n : Nat) (consumer : Consumer),
      PodJobQueue.update { q with unfinishedTasks := n, consumer := consumer } id f
        = { q.update id f with unfinishedTasks := n, consumer := consumer } := by
    intro n consumer
    unfold PodJobQueue.update
    dsimp only
    cases q.jobs.get? id with
    | none => rfl
    | some job => rfl
  have htasks : (q.update id f).unfinishedTasks = q.unfinishedTasks := by rw [PodJobQueue.update_eq]
  unfold PodJobQueue.taskDone
  rw [htasks]
  by_cases hzero : q.unfinishedTasks = 0
  · rw [if_pos hzero, if_pos hzero]
    exact (hmove q.unfinishedTasks .stopped).trans (by rw [← htasks])
  · rw [if_neg hzero, if_neg hzero]
    exact hmove _ _

/-- **A finer step is a step of the queue, or leaves it alone.** -/
theorem settled_step (h : Step s e t) : t.settled = s.settled ∨ ∃ a, PodServer.Step s.settled a t.settled := by
  cases h with
  | @queue a q hwhole hlock hstep =>
    right
    rcases hlock with hnil | ⟨id, rfl⟩
    · refine ⟨a, ?_⟩
      rw [settled_of_nil hnil, settled_of_nil (s := { s with queue := q }) hnil]
      exact hstep
    · cases hstep with
      | put hid => exact ⟨_, settled_put hid⟩
  | @start id job now startedAt hlock hconsumer hjob hstatus =>
    right
    refine ⟨.start id job.request, ?_⟩
    rw [settled_of_nil hlock, settled_of_ne_nil (List.cons_ne_nil _ _)]
    have hstart := PodServer.Step.start now startedAt hconsumer hjob hstatus
    rw [PodJobQueue.enter_start hjob hstatus] at hstart
    convert hstart using 1
    unfold PodJobQueue.update
    dsimp only
    rw [hjob]
    rfl
  | @complete id handled output executionTimeMs hlock hconsumer hbound =>
    right
    refine ⟨.complete, ?_⟩
    rw [settled_of_nil hlock, settled_of_ne_nil (List.cons_ne_nil _ _)]
    have hcomplete := PodServer.Step.complete hconsumer
    rw [PodJobQueue.finish_bound hbound] at hcomplete
    rw [← taskDone_update] at hcomplete
    exact hcomplete
  | @fail id caught raised hlock hconsumer hbound =>
    right
    refine ⟨.fail, ?_⟩
    rw [settled_of_nil hlock, settled_of_ne_nil (List.cons_ne_nil _ _)]
    have hfail := PodServer.Step.fail hconsumer
    rw [PodJobQueue.finish_bound hbound] at hfail
    rw [← taskDone_update] at hfail
    exact hfail
  | assign hblock => exact Or.inl (settled_assign hblock)
  | @cancel i id job hlock hidle hjob =>
    right
    refine ⟨.cancel id, ?_⟩
    have hafter : Pod.settled { s.moveOn i (.opened id) with queue := s.queue.cancel id } = s.queue.cancel id :=
      settled_of_nil hlock
    rw [settled_of_nil hlock, hafter]
    exact .cancel s.queue id
  | get => exact Or.inl rfl
  | readStatus => exact Or.inl rfl
  | readOutput => exact Or.inl rfl
  | readExecutionTime => exact Or.inl rfl
  | readDelayTime => exact Or.inl rfl

/-- The invariant of the queue, for the queue as it will stand. -/
def SettledTracked (s : Pod θ) : Prop := ∃ log, Tracked log s.settled

/-- Assigning one field at a time is no action of the queue: settled, the block is either done at once or
    not begun. -/
theorem settledTracked_step (hstep : Step s e t) (h : SettledTracked s) : SettledTracked t := by
  obtain ⟨log, htracked⟩ := h
  rcases settled_step hstep with hsame | ⟨a, hqueue⟩
  · exact ⟨log, hsame ▸ htracked⟩
  · exact ⟨log ++ [a], (tracked_step hqueue htracked).1⟩

end Refinement

/-! ## Where a job stands -/

/-- No attribute of the job has been assigned. -/
structure Untouched (job : PodJob) : Prop where
  output_none : job.output = none
  executionTime_none : job.executionTimeMs = none
  delayTime_none : job.delayTimeMs = none

/-- The job has been started, and has not ended. -/
structure Started (job : PodJob) : Prop where
  status_eq : job.status = .inProgress
  output_none : job.output = none
  executionTime_none : job.executionTimeMs = none
  delayTime_some : job.delayTimeMs.isSome = true

/-- What a job's attributes are, given what is left of the locked block that assigns them. -/
inductive Phase (job : PodJob) : List Assignment → Prop
  | waiting (hstatus : job.status = .inQueue ∨ job.status = .cancelled) (h : Untouched job) : Phase job []
  | starting (queuedAt now : ℚ) (hstatus : job.status = .inQueue) (h : Untouched job) :
      Phase job (startBlock queuedAt now)
  | startedAt (now : ℚ) (delay : Int) (hstatus : job.status = .inProgress) (h : Untouched job) :
      Phase job [.startedAt now, .delayTimeMs delay]
  | delayTime (delay : Int) (hstatus : job.status = .inProgress) (h : Untouched job) :
      Phase job [.delayTimeMs delay]
  | running (h : Started job) : Phase job []
  | completing (output : JsonFields) (ms : Int) (h : Started job) : Phase job (completeBlock output ms)
  | executionTime (ms : Int) (hstatus : job.status = .inProgress) (houtput : job.output.isSome = true)
      (hexecution : job.executionTimeMs = none) (hdelay : job.delayTimeMs.isSome = true) :
      Phase job [.executionTimeMs ms, .status .completed]
  | completion (hstatus : job.status = .inProgress) (houtput : job.output.isSome = true)
      (hexecution : job.executionTimeMs.isSome = true) (hdelay : job.delayTimeMs.isSome = true) :
      Phase job [.status .completed]
  | failing (raised : PyExc) (h : Started job) : Phase job (failBlock raised)
  | failure (hstatus : job.status = .inProgress) (houtput : job.output.isSome = true)
      (hexecution : job.executionTimeMs = none) (hdelay : job.delayTimeMs.isSome = true) :
      Phase job [.status .failed]
  | completed (hstatus : job.status = .completed) (houtput : job.output.isSome = true)
      (hexecution : job.executionTimeMs.isSome = true) (hdelay : job.delayTimeMs.isSome = true) : Phase job []
  | failed (hstatus : job.status = .failed) (houtput : job.output.isSome = true)
      (hexecution : job.executionTimeMs = none) (hdelay : job.delayTimeMs.isSome = true) : Phase job []

namespace Phase

variable {job : PodJob} {a : Assignment} {block : List Assignment}

/-- The next assignment of the block leads to the next phase. -/
theorem assign (h : Phase job (a :: block)) : Phase (a.apply job) block := by
  cases h with
  | starting queuedAt now hstatus h => exact .startedAt now _ rfl ⟨h.1, h.2, h.3⟩
  | startedAt now delay hstatus h => exact .delayTime delay hstatus ⟨h.1, h.2, h.3⟩
  | delayTime delay hstatus h => exact .running ⟨hstatus, h.1, h.2, rfl⟩
  | completing output ms h => exact .executionTime ms h.status_eq rfl h.executionTime_none h.delayTime_some
  | executionTime ms hstatus houtput hexecution hdelay => exact .completion hstatus houtput rfl hdelay
  | completion hstatus houtput hexecution hdelay => exact .completed rfl houtput hexecution hdelay
  | failing raised h => exact .failure h.status_eq rfl h.executionTime_none h.delayTime_some
  | failure hstatus houtput hexecution hdelay => exact .failed rfl houtput hexecution hdelay

/-- Cancelling reaches a job in the queue, which no block is about to assign to. -/
theorem cancel (h : Phase job []) : Phase job.cancel [] := by
  cases h with
  | waiting hstatus h =>
    refine .waiting (Or.inr ?_) ?_
    · unfold PodJob.cancel
      split
      · rfl
      · exact hstatus.resolve_left (by assumption)
    · unfold PodJob.cancel
      split
      · exact ⟨h.1, h.2, h.3⟩
      · exact h
  | running h =>
    unfold PodJob.cancel
    rw [if_neg (by simp [h.status_eq])]
    exact .running h
  | completed hstatus houtput hexecution hdelay =>
    unfold PodJob.cancel
    rw [if_neg (by simp [hstatus])]
    exact .completed hstatus houtput hexecution hdelay
  | failed hstatus houtput hexecution hdelay =>
    unfold PodJob.cancel
    rw [if_neg (by simp [hstatus])]
    exact .failed hstatus houtput hexecution hdelay

/-- While a block is under way, the job has not ended. -/
theorem open_of_cons (h : Phase job (a :: block)) : job.status = .inQueue ∨ job.status = .inProgress := by
  cases h with
  | starting queuedAt now hstatus h => exact Or.inl hstatus
  | startedAt now delay hstatus h => exact Or.inr hstatus
  | delayTime delay hstatus h => exact Or.inr hstatus
  | completing output ms h => exact Or.inr h.status_eq
  | executionTime ms hstatus houtput hexecution hdelay => exact Or.inr hstatus
  | completion hstatus houtput hexecution hdelay => exact Or.inr hstatus
  | failing raised h => exact Or.inr h.status_eq
  | failure hstatus houtput hexecution hdelay => exact Or.inr hstatus

end Phase

/-! ## What a step does to a job -/

section Jobs

variable {s t : Pod θ} {e : Event θ} {id : String} {job : PodJob}

/-- A step keeps a job, cancels it, or assigns to it what is next in the block. -/
def Changes (s : Pod θ) (e : Event θ) (id : String) (job job' : PodJob) : Prop :=
  job' = job ∨ (job' = job.cancel ∧ s.block = []) ∨
    ∃ a rest, s.block = a :: rest ∧ s.target = id ∧ e = .assign id a ∧ job' = a.apply job

/-- What is found under an identifier after a change to some job. -/
theorem get?_update {q : PodJobQueue} (change : PodJob → PodJob) (hjob : q.jobs.get? id = some job)
    (other : String) : (q.update other change).jobs.get? id = some (if id = other then change job else job) := by
  unfold PodJobQueue.update
  cases hother : q.jobs.get? other with
  | none =>
    have hne : id ≠ other := by
      rintro rfl
      rw [hjob] at hother
      cases hother
    rw [if_neg hne]
    exact hjob
  | some job' =>
    dsimp only
    rw [Dict.get?_set]
    by_cases heq : id = other
    · subst heq
      rw [hjob] at hother
      rw [if_pos rfl, if_pos rfl, Option.some.inj hother]
    · rw [if_neg heq, if_neg heq]
      exact hjob

/-- A change in place makes no job. -/
theorem of_get?_update {q : PodJobQueue} {change : PodJob → PodJob} {other : String} {job' : PodJob}
    (h : (q.update other change).jobs.get? id = some job') : ∃ job, q.jobs.get? id = some job ∧
      job' = if id = other then change job else job := by
  have hmem := Dict.mem_keys_of_mem (Dict.get?_eq_some.mp h)
  rw [PodJobQueue.keys_update] at hmem
  cases hjob : q.jobs.get? id with
  | none => exact absurd hmem (Dict.get?_eq_none.mp hjob)
  | some job =>
    refine ⟨job, rfl, ?_⟩
    have hupdate := get?_update change hjob other
    rw [h] at hupdate
    exact Option.some.inj hupdate

/-- A step of the queue that is kept whole only adds a job. -/
theorem jobs_of_keptWhole {q q' : PodJobQueue} {a : Action} (ha : keptWhole a = true)
    (h : PodServer.Step q a q') : q'.jobs = q.jobs ∨ ∃ id request now, id ∉ q.jobs.keys ∧
      q'.jobs = q.jobs.set id { jobId := id, request := request, queuedAt := now } := by
  cases h with
  | @insert id request now hfresh => exact Or.inr ⟨id, request, now, hfresh, rfl⟩
  | put => exact Or.inl rfl
  | take => exact Or.inl rfl
  | returned => exact Or.inl rfl
  | raised => exact Or.inl rfl
  | skip now startedAt hconsumer hjob hstatus =>
    left
    rw [PodJobQueue.enter_skip hjob hstatus, PodJobQueue.taskDone_jobs]
  | miss now startedAt hconsumer hjob =>
    left
    unfold PodJobQueue.enter
    rw [hjob]
  | cancel => cases ha
  | start => cases ha
  | complete => cases ha
  | fail => cases ha

/-- What one step can do to a job that is there: nothing, one action of the queue on it, or one assignment
    of the block. -/
theorem job_step (h : Step s e t) (hjob : s.queue.jobs.get? id = some job) :
    ∃ job', t.queue.jobs.get? id = some job' ∧ Changes s e id job job' := by
  cases h with
  | @queue a q hwhole hlock hstep =>
    refine ⟨job, ?_, Or.inl rfl⟩
    rcases jobs_of_keptWhole hwhole hstep with hsame | ⟨new, request, now, hfresh, hset⟩
    · show q.jobs.get? id = some job
      rw [hsame]
      exact hjob
    · have hne : id ≠ new := by
        rintro rfl
        exact hfresh (Dict.mem_keys_of_mem (Dict.get?_eq_some.mp hjob))
      show q.jobs.get? id = some job
      rw [hset, Dict.get?_set, if_neg hne]
      exact hjob
  | start => exact ⟨job, hjob, Or.inl rfl⟩
  | complete => exact ⟨job, by rw [PodJobQueue.taskDone_jobs]; exact hjob, Or.inl rfl⟩
  | fail => exact ⟨job, by rw [PodJobQueue.taskDone_jobs]; exact hjob, Or.inl rfl⟩
  | @assign a rest hblock =>
    refine ⟨_, get?_update a.apply hjob s.target, ?_⟩
    by_cases htarget : id = s.target
    · rw [if_pos htarget]
      exact Or.inr (Or.inr ⟨a, rest, hblock, htarget.symm, by rw [htarget], rfl⟩)
    · rw [if_neg htarget]
      exact Or.inl rfl
  | get => exact ⟨job, hjob, Or.inl rfl⟩
  | @cancel i other _ hlock hidle hother =>
    refine ⟨_, get?_update PodJob.cancel hjob other, ?_⟩
    by_cases hsame : id = other
    · rw [if_pos hsame]
      exact Or.inr (Or.inl ⟨rfl, hlock⟩)
    · rw [if_neg hsame]
      exact Or.inl rfl
  | readStatus => exact ⟨job, hjob, Or.inl rfl⟩
  | readOutput => exact ⟨job, hjob, Or.inl rfl⟩
  | readExecutionTime => exact ⟨job, hjob, Or.inl rfl⟩
  | readDelayTime => exact ⟨job, hjob, Or.inl rfl⟩

end Jobs

/-! ## The invariant -/

/-- What is left of the consumer's block, as far as it is about this job. -/
def Pod.blockOf (s : Pod θ) (id : String) : List Assignment := if s.target = id then s.block else []

/-- What holds of the pod in every run. -/
structure PodInvariant (s : Pod θ) : Prop where
  tracked : SettledTracked s
  phases : ∀ id job, s.queue.jobs.get? id = some job → Phase job (s.blockOf id)
  /-- A request is about a job there is. -/
  known : ∀ i id, (s.requests i).job? = some id → ∃ job, s.queue.jobs.get? id = some job

section Invariant

variable {s t : Pod θ} {e : Event θ} {id : String} {job : PodJob}

omit [DecidableEq θ] in
theorem podInvariant_init : PodInvariant ({} : Pod θ) where
  tracked := ⟨[], tracked_init⟩
  phases := by simp
  known := by simp [Reader.job?]

omit [DecidableEq θ] in
theorem blockOf_of_nil (h : s.block = []) : s.blockOf id = [] := by
  unfold Pod.blockOf
  split
  · exact h
  · rfl

omit [DecidableEq θ] in
/-- Outside of a block a job is in one of the phases that a poll may show as it is. -/
theorem phase_nil (h : PodInvariant s) (hlock : s.block = []) (hjob : s.queue.jobs.get? id = some job) :
    Phase job [] := by
  have hphase := h.phases id job hjob
  rwa [blockOf_of_nil hlock] at hphase

omit [DecidableEq θ] in
/-- The consumer starts a job nobody has touched. -/
theorem untouched_of_taken (h : PodInvariant s) (hlock : s.block = []) (hconsumer : s.queue.consumer = .taken id)
    (hjob : s.queue.jobs.get? id = some job) (hstatus : job.status ≠ .cancelled) :
    job.status = .inQueue ∧ Untouched job := by
  obtain ⟨log, htracked⟩ := h.tracked
  rw [settled_of_nil hlock] at htracked
  have hwaits := htracked.waiting id (by simp [PodJobQueue.taken, hconsumer])
  rw [PodJobQueue.statusOf_of_get? hjob] at hwaits
  have hqueued : job.status = .inQueue := by
    rcases hwaits with hwaits | hwaits
    · exact Option.some.inj hwaits
    · exact absurd (Option.some.inj hwaits) hstatus
  refine ⟨hqueued, ?_⟩
  cases phase_nil h hlock hjob with
  | waiting _ huntouched => exact huntouched
  | running hstarted => simp [hstarted.status_eq] at hqueued
  | completed hother => simp [hother] at hqueued
  | failed hother => simp [hother] at hqueued

omit [DecidableEq θ] in
/-- The job the consumer ends is one that was started. -/
theorem started_of_current (h : PodInvariant s) (hlock : s.block = []) (hcurrent : s.queue.current = some id)
    (hjob : s.queue.jobs.get? id = some job) : Started job := by
  obtain ⟨log, htracked⟩ := h.tracked
  rw [settled_of_nil hlock] at htracked
  have hrunning : job.status = .inProgress := by
    have hstatus := (htracked.running id).mpr hcurrent
    rw [PodJobQueue.statusOf_of_get? hjob] at hstatus
    exact Option.some.inj hstatus
  cases phase_nil h hlock hjob with
  | waiting hother => simp [hrunning] at hother
  | running hstarted => exact hstarted
  | completed hother => simp [hrunning] at hother
  | failed hother => simp [hrunning] at hother

omit [DecidableEq θ] in
/-- The variable `job` is bound to the job worked on. -/
theorem current_of_bound (h : PodInvariant s) (hlock : s.block = []) {worked : String}
    (hcurrent : s.queue.current = some worked) (hbound : s.queue.job = some id) :
    s.queue.current = some id := by
  obtain ⟨log, htracked⟩ := h.tracked
  rw [settled_of_nil hlock] at htracked
  have hsame := htracked.bound worked hcurrent
  rw [hbound] at hsame
  rw [hcurrent, Option.some.inj hsame]

omit [DecidableEq θ] in
/-- Entering a locked block of the consumer puts its job into the block's first phase. -/
theorem phases_lock (h : PodInvariant s) (hlock : s.block = []) {q : PodJobQueue} {block : List Assignment}
    (hjobs : q.jobs = s.queue.jobs)
    (htarget : ∀ job, s.queue.jobs.get? id = some job → Phase job block) :
    ∀ other job, q.jobs.get? other = some job →
      Phase job (Pod.blockOf { s with queue := q, target := id, block := block } other) := by
  intro other job hjob
  rw [hjobs] at hjob
  unfold Pod.blockOf
  dsimp only
  split
  · rename_i heq
    subst heq
    exact htarget job hjob
  · exact phase_nil h hlock hjob

/-- A request goes on about the same job, or is opened about one there is. -/
theorem known_step (hstep : Step s e t) (h : PodInvariant s) (i : θ) (id : String)
    (hid : (t.requests i).job? = some id) : ∃ job, t.queue.jobs.get? id = some job := by
  have hbefore : ∃ job, s.queue.jobs.get? id = some job := by
    -- the thread that moves on has looked its job up
    have hmoved : ∀ {j : θ} {reader : Reader} {known : String} {job : PodJob}, reader.job? = some known →
        s.queue.jobs.get? known = some job → ((s.moveOn j reader).requests i).job? = some id →
        ∃ job, s.queue.jobs.get? id = some job := by
      intro j reader known job hreader hjob hrequest
      by_cases hsame : i = j
      · subst hsame
        simp only [Pod.moveOn, Function.update_self] at hrequest
        rw [hreader] at hrequest
        exact ⟨job, Option.some.inj hrequest ▸ hjob⟩
      · simp only [Pod.moveOn, Function.update_of_ne hsame] at hrequest
        exact h.known i id hrequest
    cases hstep with
    | queue => exact h.known i id hid
    | start => exact h.known i id hid
    | complete => exact h.known i id hid
    | fail => exact h.known i id hid
    | assign => exact h.known i id hid
    | get hlock hidle hjob => exact hmoved rfl hjob hid
    | cancel hlock hidle hjob => exact hmoved rfl hjob hid
    | readStatus hreader hjob => exact hmoved rfl hjob hid
    | readOutput hreader hjob => exact hmoved rfl hjob hid
    | readExecutionTime hreader hjob => exact hmoved rfl hjob hid
    | @readDelayTime j other status output executionTimeMs job hreader hjob =>
      by_cases hsame : i = j
      · subst hsame
        simp [Pod.respond, Pod.moveOn, Reader.job?] at hid
      · simp only [Pod.respond, Pod.moveOn, Function.update_of_ne hsame] at hid
        exact h.known i id hid
  obtain ⟨job, hjob⟩ := hbefore
  obtain ⟨job', hjob', -⟩ := job_step hstep hjob
  exact ⟨job', hjob'⟩

theorem podInvariant_step (hstep : Step s e t) (h : PodInvariant s) : PodInvariant t := by
  refine ⟨settledTracked_step hstep h.tracked, ?_, known_step hstep h⟩
  cases hstep with
  | @queue a q hwhole hlock hqueue =>
    intro other job hjob
    change q.jobs.get? other = some job at hjob
    show Phase job (s.blockOf other)
    rcases hlock with hnil | ⟨id, rfl⟩
    · rcases jobs_of_keptWhole hwhole hqueue with hsame | ⟨new, request, now, hfresh, hset⟩
      · rw [hsame] at hjob
        exact h.phases other job hjob
      · rw [hset, Dict.get?_set] at hjob
        split at hjob
        · obtain rfl := Option.some.inj hjob
          rw [blockOf_of_nil hnil]
          exact .waiting (Or.inl rfl) ⟨rfl, rfl, rfl⟩
        · exact h.phases other job hjob
    · cases hqueue with
      | put => exact h.phases other job hjob
  | @start id started now startedAt hlock hconsumer hjob hstatus =>
    refine phases_lock h hlock rfl ?_
    intro job hget
    obtain ⟨hqueued, huntouched⟩ := untouched_of_taken h hlock hconsumer hjob hstatus
    rw [hjob] at hget
    obtain rfl := Option.some.inj hget
    exact .starting _ now hqueued huntouched
  | @complete id handled output executionTimeMs hlock hconsumer hbound =>
    refine phases_lock h hlock PodJobQueue.taskDone_jobs ?_
    intro job hget
    have hcurrent : s.queue.current = some handled := by simp [PodJobQueue.current, hconsumer]
    exact .completing output _ (started_of_current h hlock (current_of_bound h hlock hcurrent hbound) hget)
  | @fail id caught raised hlock hconsumer hbound =>
    refine phases_lock h hlock PodJobQueue.taskDone_jobs ?_
    intro job hget
    have hcurrent : s.queue.current = some caught := by simp [PodJobQueue.current, hconsumer]
    exact .failing raised (started_of_current h hlock (current_of_bound h hlock hcurrent hbound) hget)
  | @assign a rest hblock =>
    intro other job' hjob'
    obtain ⟨job, hjob, rfl⟩ := of_get?_update hjob'
    have hphase := h.phases other job hjob
    unfold Pod.blockOf at hphase ⊢
    dsimp only
    by_cases htarget : s.target = other
    · rw [if_pos htarget, hblock] at hphase
      rw [if_pos htarget, if_pos htarget.symm]
      exact hphase.assign
    · rw [if_neg htarget] at hphase
      rw [if_neg htarget, if_neg (Ne.symm htarget)]
      exact hphase
  | @cancel i id _ hlock hidle hknown =>
    intro other job' hjob'
    obtain ⟨job, hjob, rfl⟩ := of_get?_update hjob'
    have hnil : Pod.blockOf { s.moveOn i (.opened id) with queue := s.queue.cancel id } other = [] :=
      blockOf_of_nil hlock
    rw [hnil]
    split
    · exact (phase_nil h hlock hjob).cancel
    · exact phase_nil h hlock hjob
  | get => exact h.phases
  | readStatus => exact h.phases
  | readOutput => exact h.phases
  | readExecutionTime => exact h.phases
  | readDelayTime => exact h.phases

/-- It holds in every state that is reached. -/
theorem podInvariant_of_run {log : List (Event θ)} (h : Run Step (Pod.init θ) log s) :
    PodInvariant s :=
  Run.invariant (I := PodInvariant) (fun _ _ _ hstep hs => podInvariant_step hstep hs) h podInvariant_init

end Invariant

end Polling

end PodServer

end FireviewerOrchestrator
