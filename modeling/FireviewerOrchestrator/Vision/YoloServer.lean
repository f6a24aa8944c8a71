/-
  The YOLO service under any number of threads: what holds in every run.

  The threads begin at any time, wait for each other at the lock, and read the runtime without it.  All
  that `complies_perform` says of one thread then holds of each of them (`begins_server`).  The theorems
  read it off a log: of a load, of an inference, of a download, of what is published, of the answers of a
  thread, and of how a thread ends.
-/
import FireviewerOrchestrator.Vision.YoloAnswered

set_option linter.unusedVariables false

namespace FireviewerOrchestrator

namespace Yolo

open EventEvidence EventVision Guarded Transition

section Server

variable {θ : Type} [DecidableEq θ]

/-- A new service, and the threads that will be started. -/
def server (host : YoloHost) (service : YoloEventService) (tasks : θ → Task) :
    Site θ Question Answer Memory (PyExc × Option Runtime) (Unit × Option Runtime) where
  code i := perform host service (tasks i) none
  store := {}
  killed _ := False

/-- What one thread has been told. -/
def told (tasks : θ → Task) (i : θ) (ls : List (θ × Deed Question Answer)) : Notes :=
  notes Notes.note (.start (tasks i)) i ls

variable {host : YoloHost} {service : YoloEventService} {tasks : θ → Task}
  {s : Site θ Question Answer Memory (PyExc × Option Runtime) (Unit × Option Runtime)}
  {ls pre post : List (θ × Deed Question Answer)} {i : θ}

omit [DecidableEq θ] in
/-- Every thread keeps the terms. -/
theorem begins_server (host : YoloHost) (service : YoloEventService) (tasks : θ → Task) :
    Begins (terms host service) (fun i => (TaskPost host service (tasks i)).on) (fun i => .start (tasks i))
      (server host service tasks) where
  owns i := complies_perform (tasks i)
  free := rfl
  alive _ h := h
  always := ⟨Nat.zero_le 1, by rintro runtime ⟨⟩⟩
  resting := rfl

/-- Threads are not killed. -/
theorem alive_of_run (hrun : Run (SiteStep world) (server host service tasks) ls s) : ¬ s.killed i := by
  refine hrun.invariant (I := fun s => ¬ s.killed i) ?_ (fun h => h)
  rintro s ⟨j, deed⟩ t hstep halive
  cases hstep with
  | killed hkills => exact hkills.elim
  | acquired => exact halive
  | taken => exact halive
  | refused => exact halive
  | released => exact halive
  | answered => exact halive

/-- Every question has an answer. -/
theorem exists_answer (q : Question) (w : Memory) : ∃ a w', effect q w a w' := by
  have e : PyExc := .raised "OSError" ""
  cases q
  case readRuntime => exact ⟨w.runtime, w, rfl, rfl⟩
  case writeRuntime runtime => exact ⟨(), _, rfl⟩
  case loadModel => exact ⟨.error e, w, (by rintro runtime ⟨⟩), fun _ _ => rfl⟩
  all_goals exact ⟨.error e, w, rfl⟩

def answerOf : Deed Question Answer → Option (Nat × Body)
  | .answered (.writeJson status body) _ => some (status, body)
  | _ => none

/-- The answers that a thread has begun. -/
def answers (i : θ) (ls : List (θ × Deed Question Answer)) : List (Nat × Body) := logged answerOf i ls

/-! ## Two requests for one event

  The backend has one photo of the event, at its own host, and the model sees smoke and a fire in it. -/

def framePayload : Bytes := [137, 80, 78, 71]

def frameDigest : String := "0f4636c78f65d3639ece5a064b5ae753e3408614a14fb18ab4d7540d2c248543"

def frameDigests : Sha256 := .ofDigests
  [("photo-1:smoke:0.250000:0.000000:0.750000:0.500000:1.000000:f1c6426b069c1849cbf13b1ef5d2a260289286db",
      "462c6a381d8e223a1ccc286afef27e043779cca4e1540992a612c12ae092acaa"),
    ("photo-1:fire:0.000000:0.500000:1.000000:1.000000:0.500000:f1c6426b069c1849cbf13b1ef5d2a260289286db",
      "9985679bd31457e4337b6e4f8e20c93c7d4014d77fb4a61895e524f334e328de"),
    (referenceText (descriptorOf 4) "photo-1" frameDigest,
      "e15538e50d736dbe20b2125ae97b4a14f1c7ea40892e0879c3fba4a0213ffdf5"),
    ("GDN-e15538e50d736dbe20b2125a", "02f0ec78721efbbe1712168e8471ec5f138166550e8bc65c57ade061ac12a332")]
  "e3b0c44298fc1c149afbf4c8996fb92427ae41e4649b934ca495991b7852b855" (by decide +kernel)

def frameGraph : EvidenceGraph where
  eventId := "event-1"
  sources := threePhotos.sources
  media := [{ photo "photo-1" with sha256 := frameDigest }]

def frameEvidence : EventEvidenceV1 :=
  ⟨frameGraph, EvidenceGraph.validateEvidenceGraph_eq_ok.mp (by decide +kernel)⟩

def frameHost : YoloHost where
  toVisionHost := { asciiVision with sha256 := frameDigests }
  sha256Hex payload := if payload = framePayload then frameDigest
    else "e3b0c44298fc1c149afbf4c8996fb92427ae41e4649b934ca495991b7852b855"
  b64decode _ := none
  httpUrl := .ok
  eventParts _ := .error (.validationError "YoloEventRequest" "evidence")
  candidateOf _ := .ok "event-1"
  transientOf _ := .error (.validationError "YoloTransientImageRequest" "media_id")

def frameService : YoloEventService where
  settings :=
    { authToken := "secret"
      allowedHosts := ["backend.example"]
      backendBaseUrl := some "https://backend.example/"
      backendAuthToken := some "token" }
  backendAdapter := true
  visualPublisher := true
  geographicService := true
  pointBundlePipeline := true

def frameRequest : Request where
  method := .post
  path := backendDetectPath
  authorization := some "Bearer secret"
  contentLength := some "26"

def frameTasks (_ : Fin 2) : Task := .request frameRequest

/-- What the host answers, and what becomes of the memory. -/
def answered : (q : Question) → Memory → Answer q × Memory
  | .readRuntime, w => (w.runtime, w)
  | .writeRuntime runtime, w => ((), { w with runtime := some runtime })
  | .loadModel, w => (.ok 8, { w with loaded := w.loaded ++ [8] })
  | .readBody _, w => (.ok ("\x7b\"candidate_id\":\"event-1\"\x7d".toList.map fun c => UInt8.ofNat c.toNat), w)
  | .openStream _ _, w => (.ok ⟨false, true, some "4", [framePayload], none⟩, w)
  | .decode _, w => (.ok ⟨1, 8, 6⟩, w)
  | .convert image, w => (.ok image, w)
  | .predict _ _, w => (.ok [cloudResult], w)
  | .readBackend _, w =>
      (.ok ⟨frameEvidence, [⟨"photo-1", "https://backend.example/photo-1.jpg"⟩], "revision-1"⟩, w)
  | .publish publication, w =>
      (.ok ⟨publication.candidateId, publication.observations.length, false, publication.sourceRevisionSha256⟩, w)
  | .locatePayload _, w | .buildPayload _, w => (.ok .null, w)
  | .writeJson _ _, w => (.ok (), w)

theorem effect_answered (q : Question) (w : Memory) : world.effect q w (answered q w).1 (answered q w).2 := by
  cases q
  case readRuntime => exact ⟨rfl, rfl⟩
  case loadModel =>
    refine ⟨fun runtime h => ?_, fun e h => by cases h⟩
    obtain rfl := Except.ok.inj h
    rfl
  all_goals rfl

def isLoad : Deed Question Answer → Bool
  | .answered .loadModel _ => true
  | _ => false

def isInference : Deed Question Answer → Bool
  | .answered (.predict _ _) _ => true
  | _ => false

def isDownload : Deed Question Answer → Bool
  | .answered (.openStream _ _) _ => true
  | _ => false

def isPublication : Deed Question Answer → Bool
  | .answered (.publish _) _ => true
  | _ => false

def isResult : Deed Question Answer → Bool
  | .answered (.writeJson 200 (.backendAnalysis _ _ _ _ _)) _ => true
  | _ => false

/-- The first request, served alone. -/
def frameLog : Alone Question Answer Memory (PyExc × Option Runtime) (Unit × Option Runtime) :=
  solo answered 100 false {} (perform frameHost frameService (.request frameRequest) none)

theorem frameLog_has :
    (([isLoad, isInference, isDownload, isPublication, isResult].all fun p => frameLog.log.any p) &&
      frameLog.code.isDone) = true := by decide +kernel

/-- It does all of these. -/
theorem exists_deed {p : Deed Question Answer → Bool}
    (hp : p ∈ [isLoad, isInference, isDownload, isPublication, isResult]) :
    ∃ deed pre post s, p deed = true ∧
      Run (SiteStep world) (server frameHost frameService frameTasks) (pre ++ (0, deed) :: post) s :=
  exists_run_solo (s := server frameHost frameService frameTasks) effect_answered (fun h => h) rfl
    (List.all_eq_true.mp (Bool.and_eq_true_iff.mp frameLog_has).1 p hp)

/-- The second request waits while the first has the lock, and no model yet. -/
theorem exists_waiting : ∃ ls s, Run (SiteStep world) (server frameHost frameService frameTasks) ls s ∧
    s.holder = some 0 ∧ (s.code 1).isWaiting = true := by
  have hwaits : waitsBehind answered 2 4 {} ((server frameHost frameService frameTasks).code 1)
      ((server frameHost frameService frameTasks).code 0) = true := by decide +kernel
  obtain ⟨ls, s, hrun, hholds, hwaiting, -⟩ := exists_waiting_run
    (s := server frameHost frameService frameTasks) (i := 0) effect_answered (fun _ h => h) rfl (by decide) hwaits
  exact ⟨ls, s, hrun, hholds, hwaiting⟩

/-! ## The model -/

/-- **The model is loaded once**: whoever loads it holds the lock, warms up or works on an admitted request,
    and no model was loaded before.  There is never a second one. -/
theorem model_loaded_once {a : Answer .loadModel}
    (hrun : Run (SiteStep world) (server host service tasks) (pre ++ (i, .answered .loadModel a) :: post) s) :
    (∃ t, Run (SiteStep world) (server host service tasks) pre t ∧ t.holder = some i ∧ t.store.loaded = [] ∧
      t.store.runtime = none) ∧ Working host service (told tasks i pre) ∧ s.store.loaded.length ≤ 1 := by
  obtain ⟨t, u, hpre, hholder, -, hdue, -⟩ := due_of_run (begins_server host service tasks) hrun
  obtain ⟨hinside, hunassigned, hunloaded, hworking⟩ :
    due host service u (told tasks i pre) .loadModel t.store := hdue
  obtain ⟨stage, hs⟩ := owned_of_run (begins_server host service tasks) hrun
  have hsound : s.store.Sound := hs.always
  exact ⟨⟨t, hpre, hholder.mp hinside, hunloaded, hunassigned⟩, hworking, hsound.single⟩

theorem model_loaded_once_frame : ∃ pre a post s,
    Run (SiteStep world) (server frameHost frameService frameTasks) (pre ++ (0, .answered .loadModel a) :: post) s ∧
    (∃ t, Run (SiteStep world) (server frameHost frameService frameTasks) pre t ∧ t.holder = some 0 ∧
      t.store.loaded = [] ∧ t.store.runtime = none) ∧ s.store.loaded.length ≤ 1 := by
  obtain ⟨deed, pre, post, s, hdeed, hrun⟩ := exists_deed (p := isLoad) (.head _)
  unfold isLoad at hdeed
  split at hdeed
  · obtain ⟨hbefore, -, hsingle⟩ := model_loaded_once hrun
    exact ⟨pre, _, post, s, hrun, hbefore, hsingle⟩
  · cases hdeed

/-- **All inferences are on that model**, are made by whoever holds the lock, for an admitted request, and
    of an image whose payload has the digest that was asked for. -/
theorem inference_on_one_model {runtime : Runtime} {image : Image} {a : Answer (.predict runtime image)}
    (hrun : Run (SiteStep world) (server host service tasks)
      (pre ++ (i, .answered (.predict runtime image) a) :: post) s) :
    (∃ t, Run (SiteStep world) (server host service tasks) pre t ∧ t.holder = some i ∧ t.store.Holds runtime) ∧
      s.store.Holds runtime ∧ Admitted host service (told tasks i pre) ∧
      Pictured host service (told tasks i pre) image := by
  obtain ⟨t, u, hpre, hholder, -, hdue, hlater⟩ := due_of_run (begins_server host service tasks) hrun
  obtain ⟨hinside, hholds, hadmitted, hpictured⟩ :
    due host service u (told tasks i pre) (.predict runtime image) t.store := hdue
  obtain ⟨stage, hs⟩ := owned_of_run (begins_server host service tasks) hrun
  have hsound : s.store.Sound := hs.always
  have hgrows : t.store.Grows s.store := hlater
  exact ⟨⟨t, hpre, hholder.mp hinside, hholds⟩, hsound.holds (hgrows.runtime runtime hholds.1), hadmitted, hpictured⟩

theorem inference_on_one_model_frame : ∃ pre runtime image a post s,
    Run (SiteStep world) (server frameHost frameService frameTasks)
      (pre ++ (0, .answered (.predict runtime image) a) :: post) s ∧ s.store.Holds runtime ∧
    Admitted frameHost frameService (told frameTasks 0 pre) ∧
    Pictured frameHost frameService (told frameTasks 0 pre) image := by
  obtain ⟨deed, pre, post, s, hdeed, hrun⟩ := exists_deed (p := isInference) (.tail _ (.head _))
  unfold isInference at hdeed
  split at hdeed
  · obtain ⟨-, hholds, hadmitted, hpictured⟩ := inference_on_one_model hrun
    exact ⟨pre, _, _, _, post, s, hrun, hholds, hadmitted, hpictured⟩
  · cases hdeed

/-! ## Downloads and publications -/

/-- The one header that a token goes with. -/
theorem authorization_mem {bearerToken : Option String} {text : String}
    (h : ("Authorization", text) ∈ requestHeaders bearerToken) :
    ∃ token, bearerToken = some token ∧ text = "Bearer " ++ token := by
  unfold requestHeaders at h
  rcases List.mem_append.mp h with hplain | hauthorization
  · simp at hplain
  · cases bearerToken with
    | none => cases hauthorization
    | some token =>
      have hpair := List.mem_singleton.mp hauthorization
      exact ⟨token, rfl, (Prod.mk.inj hpair).2⟩

/-- **A download goes where it may**: to the place of a photo or keyframe of the admitted request, over
    HTTPS, to a host of the allowlist, and the backend's token goes to the backend's origin only. -/
theorem download_confined {url : String} {headers : List (String × String)} {a : Answer (.openStream url headers)}
    (hrun : Run (SiteStep world) (server host service tasks)
      (pre ++ (i, .answered (.openStream url headers) a) :: post) s) :
    Admitted host service (told tasks i pre) ∧
      (∃ request, Wanted host (told tasks i pre) request ∧ ∃ media ∈ selected {} request.evidence.graph,
        ⟨media.mediaId, url⟩ ∈ request.assets) ∧
      ∃ parsed, Url.urlsplit host.toUrllib url.toList = .ok parsed ∧ parsed.scheme = "https".toList ∧
        hostnameOf host parsed ∈ service.settings.allowedHosts ∧
        ∀ text, ("Authorization", text) ∈ headers → ∃ token base,
          service.settings.backendAuthToken = some token ∧ text = "Bearer " ++ token ∧
          service.settings.backendBaseUrl = some base ∧ originOf host parsed = host.casefold (withoutSlashes base) := by
  obtain ⟨t, u, -, -, -, hdue, -⟩ := due_of_run (begins_server host service tasks) hrun
  obtain ⟨-, hadmitted, hfetch⟩ : due host service u (told tasks i pre) (.openStream url headers) t.store := hdue
  obtain ⟨parsed, hparsed, hinside, rfl⟩ := hfetch.confined
  have hallowed := of_decide_eq_false hinside
  push Not at hallowed
  refine ⟨hadmitted, hfetch.wanted, parsed, hparsed, hallowed.1, hallowed.2.1, ?_⟩
  intro text htext
  obtain ⟨token, htoken, rfl⟩ := authorization_mem htext
  obtain ⟨hbackend, base, hbase, horigin⟩ := tokenFor_eq_some htoken
  exact ⟨token, base, hbackend, rfl, hbase, horigin⟩

theorem download_confined_frame : ∃ url : String, ∃ parsed, Url.urlsplit frameHost.toUrllib url.toList = .ok parsed ∧
    parsed.scheme = "https".toList ∧ hostnameOf frameHost parsed ∈ ["backend.example"] := by
  obtain ⟨deed, pre, post, s, hdeed, hrun⟩ := exists_deed (p := isDownload) (.tail _ (.tail _ (.head _)))
  unfold isDownload at hdeed
  split at hdeed
  · obtain ⟨-, -, parsed, hparsed, hscheme, hallowed, -⟩ := download_confined hrun
    exact ⟨_, parsed, hparsed, hscheme, hallowed⟩
  · cases hdeed

/-- **What is published was found**: it is what a run has made of the very evidence that the backend gave
    this thread for the candidate of its request, and all that the run has detected the model has said of
    images of that evidence.  The candidates are as they were, and the thread has published nothing before. -/
theorem published_was_found {publication : Publication} {a : Answer (.publish publication)}
    (hrun : Run (SiteStep world) (server host service tasks)
      (pre ++ (i, .answered (.publish publication) a) :: post) s) :
    (told tasks i pre).published = false ∧ Admitted host service (told tasks i pre) ∧
      PublishDue host service (told tasks i pre) publication := by
  obtain ⟨t, u, -, -, -, hdue, -⟩ := due_of_run (begins_server host service tasks) hrun
  exact hdue

theorem published_was_found_frame : ∃ pre publication a post s,
    Run (SiteStep world) (server frameHost frameService frameTasks)
      (pre ++ (0, .answered (.publish publication) a) :: post) s ∧
    (told frameTasks 0 pre).published = false ∧
    PublishDue frameHost frameService (told frameTasks 0 pre) publication := by
  obtain ⟨deed, pre, post, s, hdeed, hrun⟩ :=
    exists_deed (p := isPublication) (.tail _ (.tail _ (.tail _ (.head _))))
  unfold isPublication at hdeed
  split at hdeed
  · obtain ⟨hunpublished, -, hdue⟩ := published_was_found hrun
    exact ⟨pre, _, _, post, s, hrun, hunpublished, hdue⟩
  · cases hdeed

/-! ## Answers -/

/-- The notes know whether there is an answer, and there is one at most. -/
def Counted (g : Notes) (as : List (Nat × Body)) : Prop :=
  (g.answered = false ∧ as = []) ∨ (g.answered = true ∧ ∃ answer, as = [answer])

theorem Counted.note {g : Notes} {as : List (Nat × Body)} (h : Counted g as) {q : Question} (a : Answer q) {u : Stage}
    {w : Memory} (hdue : due host service u g q w) :
    Counted (g.note q a) (as ++ (answerOf (.answered q a)).toList) := by
  by_cases hq : ∃ status body, q = .writeJson status body
  · obtain ⟨status, body, rfl⟩ := hq
    obtain ⟨hunanswered, -⟩ := hdue
    rcases h with ⟨-, rfl⟩ | ⟨hanswered, -⟩
    · exact Or.inr ⟨rfl, _, rfl⟩
    · rw [hunanswered] at hanswered
      cases hanswered
  · push Not at hq
    have hnone : answerOf (.answered q a) = none := by
      unfold answerOf
      split
      · rename_i status body a' heq
        cases heq
        exact absurd rfl (hq status body)
      · rfl
    have hkept : (g.note q a).answered = g.answered := answered_note hq a
    unfold Counted
    rw [hnone, hkept, Option.toList_none, List.append_nil]
    exact h

/-- An answer is due only where there is none. -/
theorem counted_of_run (hrun : Run (SiteStep world) (server host service tasks) ls s) :
    Counted (told tasks i ls) (answers i ls) :=
  logged_of_run (begins_server host service tasks) ⟨rfl, rfl, rfl, rfl⟩ (Or.inl ⟨rfl, rfl⟩)
    (fun g as q a u w hdue hI => hI.note a hdue) hrun

/-- **A request gets one answer, and one that is due**: a result is one of what the request gave, for a
    request that was admitted, and an error says what went wrong. -/
theorem one_answer_when_due {status : Nat} {body : Body} {a : Answer (.writeJson status body)}
    (hrun : Run (SiteStep world) (server host service tasks)
      (pre ++ (i, .answered (.writeJson status body) a) :: post) s) :
    answers i (pre ++ (i, .answered (.writeJson status body) a) :: post) = [(status, body)] ∧
      ∃ t, Run (SiteStep world) (server host service tasks) pre t ∧
        AnswerDue host service (told tasks i pre) t.store status body := by
  obtain ⟨t, u, hpre, -, -, hdue, -⟩ := due_of_run (begins_server host service tasks) hrun
  obtain ⟨hunanswered, hanswer⟩ : due host service u (told tasks i pre) (.writeJson status body) t.store := hdue
  refine ⟨?_, t, hpre, hanswer⟩
  have hmem : (status, body) ∈ answers i (pre ++ (i, .answered (.writeJson status body) a) :: post) :=
    List.mem_filterMap.mpr ⟨_, List.mem_append_right _ List.mem_cons_self, if_pos rfl⟩
  rcases counted_of_run (i := i) hrun with ⟨-, hnone⟩ | ⟨-, answer, hone⟩
  · rw [hnone] at hmem
    cases hmem
  · rw [hone] at hmem ⊢
    rw [List.mem_singleton.mp hmem]

theorem one_answer_when_due_frame : ∃ pre candidateId out receipt before after a post s,
    Run (SiteStep world) (server frameHost frameService frameTasks)
      (pre ++ (0, .answered (.writeJson 200 (.backendAnalysis candidateId out receipt before after)) a) :: post) s ∧
    answers 0 (pre ++ (0, .answered (.writeJson 200 (.backendAnalysis candidateId out receipt before after)) a) :: post)
      = [(200, .backendAnalysis candidateId out receipt before after)] ∧
    Given frameHost (told frameTasks 0 pre) (.backend candidateId) ∧ before = after := by
  obtain ⟨deed, pre, post, s, hdeed, hrun⟩ :=
    exists_deed (p := isResult) (.tail _ (.tail _ (.tail _ (.tail _ (.head _)))))
  unfold isResult at hdeed
  split at hdeed
  · obtain ⟨hone, t, -, -, -, hgiven, durable, -, -, -, rfl, rfl⟩ := one_answer_when_due hrun
    exact ⟨pre, _, _, _, _, _, _, post, s, hrun, hone, hgiven, rfl⟩
  · cases hdeed

/-! ## How it goes on, and how it ends -/

/-- **Nobody waits for ever**: while a thread has not ended, some thread can make a step. -/
theorem server_goes_on (hrun : Run (SiteStep world) (server host service tasks) ls s)
    (hunfinished : ∀ result, s.code i ≠ .done result) :
    ∃ j deed t, deed ≠ .killed ∧ SiteStep world s (j, deed) t := by
  refine exists_step (begins_server host service tasks) ?_ (fun q w _ => exists_answer q w) hrun (alive_of_run hrun)
    hunfinished
  rintro j g w (⟨e, local'⟩ | ⟨a, local'⟩) hended
  · exact hended.unlocked rfl
  · exact hended.unlocked rfl

theorem server_goes_on_frame : ∃ ls s, Run (SiteStep world) (server frameHost frameService frameTasks) ls s ∧
    s.holder = some 0 ∧ (s.code 1).isWaiting = true ∧ ∃ j deed t, deed ≠ .killed ∧ SiteStep world s (j, deed) t := by
  obtain ⟨ls, s, hrun, hholds, hwaiting⟩ := exists_waiting
  exact ⟨ls, s, hrun, hholds, hwaiting, server_goes_on (i := 1) hrun (Code.ne_done_of_isWaiting hwaiting)⟩

/-- **How a thread ends**: its lock is given back, a warm-up that returned has left the model for ever, and
    a request was answered once, or ended with an exception that the handler does not expect. -/
theorem thread_ends (hrun : Run (SiteStep world) (server host service tasks) ls s)
    {result : Except (PyExc × Option Runtime) (Unit × Option Runtime)} (hcode : s.code i = .done result) :
    s.holder ≠ some i ∧
      (tasks i = .warmup → result.isOk = true → ∃ runtime, s.store.Holds runtime) ∧
      ∀ request, tasks i = .request request → (∃ answer, answers i ls = [answer]) ∨
        (answers i ls = [] ∧ ∃ e model, result = .error (e, model) ∧ Unanswered host service (told tasks i ls) e) := by
  have hbegins := begins_server host service tasks
  have halive : ¬ s.killed i := alive_of_run hrun
  obtain ⟨stage, hs⟩ := owned_of_run hbegins hrun
  have hsound : s.store.Sound := hs.always
  obtain ⟨u, w, hrely, hended⟩ := ended_of_run hbegins hrun halive hcode
  refine ⟨?_, ?_⟩
  · intro hholds
    refine (holder_of_run hbegins ?_ hrun hholds).2 result hcode
    rintro j g w (⟨e, local'⟩ | ⟨a, local'⟩) hended
    · exact hended.unlocked rfl
    · exact hended.unlocked rfl
  have hcounted := counted_of_run (i := i) hrun
  rcases result with ⟨e, model⟩ | ⟨a, model⟩
  · refine ⟨fun _ hok => (by cases hok), fun request htask => ?_⟩
    rcases hcounted with ⟨hunanswered, hnone⟩ | ⟨-, hone⟩
    · refine Or.inr ⟨hnone, e, model, rfl, ?_⟩
      rcases hended.answered request htask with hanswered | ⟨e', he, hwhy⟩
      · exact absurd (hanswered.symm.trans hunanswered) (by decide)
      · obtain rfl := Except.error.inj he
        exact hwhy
    · exact Or.inl hone
  · refine ⟨fun htask _ => ?_, fun request htask => ?_⟩
    · obtain ⟨runtime, hruntime⟩ := hended.warmed htask rfl
      have hgrows : w.Grows s.store := Contract.locked_of_rely hrely
      exact ⟨runtime, hsound.holds (hgrows.runtime runtime hruntime)⟩
    · rcases hcounted with ⟨hunanswered, -⟩ | ⟨-, hone⟩
      · rcases hended.answered request htask with hanswered | ⟨e', he, -⟩
        · exact absurd (hanswered.symm.trans hunanswered) (by decide)
        · cases he
      · exact Or.inl hone

theorem thread_ends_frame : ∃ ls s, Run (SiteStep world) (server frameHost frameService frameTasks) ls s ∧
    (s.code 0).isDone = true ∧ s.holder ≠ some 0 := by
  obtain ⟨result, hresult⟩ := Code.exists_eq_done (Bool.and_eq_true_iff.mp frameLog_has).2
  obtain ⟨s, hrun, hs⟩ := run_solo (s := server frameHost frameService frameTasks) (i := 0) effect_answered
    (fun h => h) 100 false rfl
  have hended : s.code 0 = .done result := hs.code.trans hresult
  exact ⟨_, s, hrun, congrArg Code.isDone hended, (thread_ends hrun hended).1⟩

end Server

end Yolo

end FireviewerOrchestrator
