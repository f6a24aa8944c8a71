/-
  The terms on which the threads of the YOLO service share its runtime, and what a thread may ask when.

  `self._runtime` is assigned by whoever holds the lock, once.  A `Memory` also remembers which models were
  loaded at all, so that it can be said that there is one at most.  While the lock is free the service has
  assigned what was loaded; what is assigned stays (`terms`).

  `Notes` is what a thread has been told, and `due` what has to hold when it asks: of every question behind
  the head of a request, that the request was admitted; of a download, where it goes and which token goes
  with it; of an image, that it has the digest that was asked for; of an inference, that it runs on the one
  model, under the lock; of a publication and of a result, that they are made of what the thread was told;
  of an answer, that it is the first.
-/
import FireviewerOrchestrator.Vision.YoloService

set_option linter.unusedVariables false

namespace FireviewerOrchestrator

namespace Yolo

open EventEvidence EventVision Guarded

/-! ## The memory -/

/-- What the threads share: `self._runtime`, and the models that were loaded. -/
structure Memory where
  runtime : Option Runtime := none
  loaded : List Runtime := []
  deriving DecidableEq

namespace Memory

/-- One model at most was loaded, and no other is assigned. -/
structure Sound (w : Memory) : Prop where
  single : w.loaded.length ≤ 1
  assigned : ∀ runtime, w.runtime = some runtime → w.loaded = [runtime]

/-- What was loaded is assigned. -/
def Settled (w : Memory) : Prop := w.loaded = w.runtime.toList

/-- The model is there. -/
def Holds (w : Memory) (runtime : Runtime) : Prop := w.runtime = some runtime ∧ w.loaded = [runtime]

/-- What is assigned stays, and what was loaded was loaded. -/
structure Grows (w w' : Memory) : Prop where
  runtime : ∀ runtime, w.runtime = some runtime → w'.runtime = some runtime
  loaded : w.loaded <+: w'.loaded

theorem Grows.refl (w : Memory) : w.Grows w := ⟨fun _ h => h, List.prefix_refl _⟩

theorem Grows.trans {w w' w'' : Memory} (h : w.Grows w') (h' : w'.Grows w'') : w.Grows w'' :=
  ⟨fun runtime hruntime => h'.runtime runtime (h.runtime runtime hruntime), h.loaded.trans h'.loaded⟩

theorem Sound.holds {w : Memory} (h : w.Sound) {runtime : Runtime} (hruntime : w.runtime = some runtime) :
    w.Holds runtime := ⟨hruntime, h.assigned runtime hruntime⟩

theorem Holds.settled {w : Memory} {runtime : Runtime} (h : w.Holds runtime) : w.Settled := by
  unfold Settled
  rw [h.1, h.2]
  rfl

/-- Between the load and the assignment. -/
theorem sound_load {w : Memory} (h : w.loaded = []) (hsound : w.Sound) (runtime : Runtime) :
    Sound { w with loaded := w.loaded ++ [runtime] } := by
  constructor
  · show (w.loaded ++ [runtime]).length ≤ 1
    rw [h]
    rfl
  · intro assigned hassigned
    have hloaded := hsound.assigned assigned hassigned
    rw [h] at hloaded
    cases hloaded

theorem grows_load (w : Memory) (runtime : Runtime) : w.Grows { w with loaded := w.loaded ++ [runtime] } :=
  ⟨fun _ h => h, List.prefix_append _ _⟩

theorem sound_write {w : Memory} {runtime : Runtime} (h : w.loaded = [runtime]) :
    Sound { w with runtime := some runtime } := by
  constructor
  · show w.loaded.length ≤ 1
    rw [h]
    rfl
  · rintro assigned ⟨rfl⟩
    exact h

theorem grows_write {w : Memory} (h : w.runtime = none) (runtime : Runtime) :
    w.Grows { w with runtime := some runtime } := by
  refine ⟨fun assigned hassigned => ?_, List.prefix_refl _⟩
  rw [h] at hassigned
  cases hassigned

end Memory

/-- What a question does to the memory. -/
def effect : (q : Question) → Memory → Answer q → Memory → Prop
  | .readRuntime, w, a, w' => w' = w ∧ a = w.runtime
  | .writeRuntime runtime, w, _, w' => w' = { w with runtime := some runtime }
  | .loadModel, w, a, w' =>
      (∀ runtime, a = .ok runtime → w' = { w with loaded := w.loaded ++ [runtime] }) ∧ ∀ e, a = .error e → w' = w
  | _, w, _, w' => w' = w

/-- **The host of the threads.**  A thread is not killed alone. -/
def world : World Question Answer Memory where
  effect := effect
  torn _ w w' := w' = w
  kills := False

/-! ## Notes -/

/-- What a thread has been told.  What it was told of a candidate stands beside the candidate it had asked
    for, so that a theorem about the one is about the other. -/
structure Notes where
  task : Task
  /-- The body, or what was raised instead. -/
  raw : Option Bytes := none
  unread : Option PyExc := none
  /-- A read of the runtime has found none. -/
  missed : Bool := false
  durable : Option (String × DurableEventEvidence) := none
  located : Option (String × JsonValue) := none
  built : Option (String × JsonValue) := none
  /-- Images, each with the payload it was decoded from. -/
  pictures : List (Bytes × Image) := []
  /-- Images, each with what the model has said of it. -/
  inferences : List (Image × List YoloResult) := []
  /-- A publication was begun. -/
  published : Bool := false
  /-- What was published, and the receipt for it. -/
  receipt : Option (Publication × Receipt) := none
  /-- An answer was begun. -/
  answered : Bool := false

namespace Notes

/-- What is converted is still a picture of the same payload. -/
def converted (g : Notes) (image image' : Image) : List (Bytes × Image) :=
  (g.pictures.filter fun picture => picture.2 = image).map fun picture => (picture.1, image')

def note (g : Notes) : (q : Question) → Answer q → Notes
  | .readRuntime, a => match a with
      | some _ => g
      | none => { g with missed := true }
  | .readBody _, a => match a with
      | .ok raw => { g with raw := some raw }
      | .error e => { g with unread := some e }
  | .readBackend candidateId, a => match a with
      | .ok durable => { g with durable := some (candidateId, durable) }
      | .error _ => g
  | .locatePayload candidateId, a => match a with
      | .ok value => { g with located := some (candidateId, value) }
      | .error _ => g
  | .buildPayload candidateId, a => match a with
      | .ok value => { g with built := some (candidateId, value) }
      | .error _ => g
  | .decode payload, a => match a with
      | .ok image => { g with pictures := g.pictures ++ [(payload, image)] }
      | .error _ => g
  | .convert image, a => match a with
      | .ok image' => { g with pictures := g.pictures ++ g.converted image image' }
      | .error _ => g
  | .predict _ image, a => match a with
      | .ok results => { g with inferences := g.inferences ++ [(image, results)] }
      | .error _ => g
  | .publish publication, a => match a with
      | .ok receipt => { g with published := true, receipt := some (publication, receipt) }
      | .error _ => { g with published := true }
  | .writeJson _ _, _ => { g with answered := true }
  | _, _ => g

/-- The same request, read in the same way, and not answered since. -/
structure Serves (g g' : Notes) : Prop where
  task : g'.task = g.task
  raw : g'.raw = g.raw
  unread : g'.unread = g.unread
  answered : g'.answered = g.answered

theorem Serves.refl (g : Notes) : g.Serves g := ⟨rfl, rfl, rfl, rfl⟩

theorem Serves.trans {g g' g'' : Notes} (h : g.Serves g') (h' : g'.Serves g'') : g.Serves g'' :=
  ⟨h'.task.trans h.task, h'.raw.trans h.raw, h'.unread.trans h.unread, h'.answered.trans h.answered⟩

/-- What was seen is not forgotten. -/
structure Recalls (g g' : Notes) : Prop where
  pictures : ∀ picture ∈ g.pictures, picture ∈ g'.pictures
  inferences : ∀ inference ∈ g.inferences, inference ∈ g'.inferences

theorem Recalls.refl (g : Notes) : g.Recalls g := ⟨fun _ h => h, fun _ h => h⟩

theorem Recalls.trans {g g' g'' : Notes} (h : g.Recalls g') (h' : g'.Recalls g'') : g.Recalls g'' :=
  ⟨fun picture hmem => h'.pictures picture (h.pictures picture hmem),
    fun inference hmem => h'.inferences inference (h.inferences inference hmem)⟩

/-- More was seen, of the same backend, and nothing was published. -/
structure Seen (g g' : Notes) : Prop extends serves : Serves g g', recalls : Recalls g g' where
  durable : g'.durable = g.durable
  published : g'.published = g.published

theorem Seen.refl (g : Notes) : g.Seen g := ⟨.refl g, .refl g, rfl, rfl⟩

theorem Seen.trans {g g' g'' : Notes} (h : g.Seen g') (h' : g'.Seen g'') : g.Seen g'' :=
  ⟨h.serves.trans h'.serves, h.recalls.trans h'.recalls, h'.durable.trans h.durable,
    h'.published.trans h.published⟩

end Notes

/-! ## What is due -/

section Due

variable (host : YoloHost) (service : YoloEventService)

/-- The request is a `POST` to a path that is served. -/
structure Addressed (request : Request) : Prop where
  post : request.method = .post
  path : request.path ∈ postPaths

/-- The head of the request lets this many bytes in. -/
structure Admits (request : Request) (length : Int) : Prop extends addressed : Addressed request where
  token : authorized service.settings.authToken request = .ok true
  declared : ∃ rawLength, request.contentLength = some rawLength ∧ isDecimal host rawLength = true ∧
    intOfDecimal host rawLength = .ok length
  bounds : 0 < length ∧ length ≤ maxRequestBytes

/-- The thread's request was admitted. -/
def Admitted (g : Notes) : Prop := ∃ request length, g.task = .request request ∧ Admits host service request length

/-- The body was read, and says this. -/
def Given (g : Notes) (parsed : Parsed) : Prop :=
  ∃ request raw, g.task = .request request ∧ g.raw = some raw ∧ parseBody host request.path raw = .ok parsed

/-- The thread's request is one for this path. -/
def Asks (g : Notes) (method : Method) (path : String) : Prop :=
  ∃ request, g.task = .request request ∧ request.method = method ∧ request.path = path

/-- The body could not be read, or says nothing, and the handler expects that. -/
def Refused (g : Notes) : Prop :=
  ∃ e, isValueError e = true ∧ (g.unread = some e ∨ ∃ request raw, g.task = .request request ∧ g.raw = some raw ∧
    parseBody host request.path raw = .error e)

/-- What is to be analyzed: what the body gave, or what the backend has of the candidate in the body. -/
def Wanted (g : Notes) (request : YoloEventRequest) : Prop :=
  Given host g (.event request) ∨ ∃ candidateId durable, Given host g (.backend candidateId) ∧
    g.durable = some (candidateId, durable) ∧ YoloEventService.requestOf host durable = .ok request

/-- The thread warms up, or its request was admitted and its body accepted. -/
def Working (g : Notes) : Prop := g.task = .warmup ∨ (Admitted host service g ∧ ∃ parsed, Given host g parsed)

/-- The token that goes to an origin. -/
def tokenFor (parsed : Url.SplitResult) : Option String :=
  (Dict.ofPairs ((YoloEventService.bearerTokens service.settings).map fun entry =>
    (host.casefold (withoutSlashes entry.1), entry.2))).get? (originOf host parsed)

/-- **A download is due.** -/
structure FetchDue (g : Notes) (url : String) (headers : List (String × String)) : Prop where
  /-- It is the place of a photo or keyframe of the request. -/
  wanted : ∃ request, Wanted host g request ∧ ∃ media ∈ selected {} request.evidence.graph,
    ⟨media.mediaId, url⟩ ∈ request.assets
  /-- It is inside of the allowlist, and a token goes to its own origin only. -/
  confined : ∃ parsed, Url.urlsplit host.toUrllib url.toList = .ok parsed ∧
    isOutside host service.settings.allowedHosts parsed = false ∧
    headers = requestHeaders (tokenFor host service parsed)

/-- **The payload of an image is due**: its digest is the one that was asked for. -/
def PictureDue (g : Notes) (payload : Bytes) : Prop :=
  (∃ request, Wanted host g request ∧ ∃ media ∈ selected {} request.evidence.graph,
    host.sha256Hex payload = media.sha256 ∧ (payload = [] ∨ payload.length ≤ service.settings.maxDownloadBytes)) ∨
  ∃ request, Given host g (.transient request) ∧ host.b64decode request.contentBase64 = some payload ∧
    host.sha256Hex payload = request.contentSha256 ∧ payload.length ≤ 5 * 1024 * 1024

/-- The image was decoded from a payload that was due. -/
def Pictured (g : Notes) (image : Image) : Prop :=
  ∃ payload, (payload, image) ∈ g.pictures ∧ PictureDue host service g payload

/-- The image was decoded from a payload with this digest. -/
def Shows (g : Notes) (digest : String) (image : Image) : Prop :=
  ∃ payload, (payload, image) ∈ g.pictures ∧ host.sha256Hex payload = digest

/-- **What was detected in a medium**: it is well formed, and it is what the model has said of an image with
    the digest of the medium. -/
structure Detected (g : Notes) (media : EvidenceMedia) (result : DetectionResult) : Prop where
  formed : WellFormed result
  media_eq : result.mediaId = media.mediaId
  found : ∃ image results, Shows host g media.sha256 image ∧ (image, results) ∈ g.inferences ∧
    detectionResult host.toVisionHost media.mediaId image.width image.height results = .ok result

/-- **What a run of the detector over some evidence comes to**: for each medium, what was detected in it or
    an exception. -/
def RanAs (descriptor : ProviderDescriptor) (g : Notes) (evidence : EventEvidenceV1) (out : EventVisionRun) : Prop :=
  ∃ detect : EvidenceMedia → Except PyExc DetectionResult,
    (∀ media result, detect media = .ok result → Detected host g media result) ∧
    EventVision.run host.sha256 descriptor {} detect evidence = .ok out

def Ran (g : Notes) (evidence : EventEvidenceV1) (out : EventVisionRun) : Prop :=
  RanAs host (descriptorOf service.settings.torchThreads) g evidence out

/-- **A publication is due**: it is what a run has found over the evidence that the backend gave for the
    candidate of the request. -/
def PublishDue (g : Notes) (publication : Publication) : Prop :=
  Asks g .post backendDetectPath ∧ ∃ candidateId durable out, Given host g (.backend candidateId) ∧
    g.durable = some (candidateId, durable) ∧ Ran host service g durable.event out ∧
    out.evidence.graph.locationCandidates = durable.event.graph.locationCandidates ∧
    publication = YoloEventService.publicationOf candidateId durable out

/-- A payload that the thread was told of its candidate, on the path that asks for it. -/
def PayloadOf (g : Notes) (candidateId : String) (value : JsonValue) : Prop :=
  (Asks g .post hypothesesPath ∧ g.located = some (candidateId, value)) ∨
    (Asks g .post bundlesPath ∧ g.built = some (candidateId, value))

/-- **An answer is due.**  A result is due on its own path, and is what the thread was told; an error is due
    where the request has what the error says. -/
def AnswerDue (g : Notes) (w : Memory) : Nat → Body → Prop
  | 200, .health => Asks g .get "/healthz"
  | 200, .readiness text => Asks g .get "/readyz" ∧ text = "ready" ∧ ∃ runtime, w.runtime = some runtime
  | 503, .readiness text => Asks g .get "/readyz" ∧ (text = "ready" ∨ text = "loading") ∧ g.missed = true
  | 200, .analysis out => Admitted host service g ∧
      ∃ request, Given host g (.event request) ∧ Ran host service g request.evidence out
  | 200, .backendAnalysis candidateId out receipt before after => Admitted host service g ∧
      Asks g .post backendDetectPath ∧ Given host g (.backend candidateId) ∧
      ∃ durable, g.durable = some (candidateId, durable) ∧ Ran host service g durable.event out ∧
        g.receipt = some (YoloEventService.publicationOf candidateId durable out, receipt) ∧
        before = durable.event.graph.locationCandidates.length ∧ after = before
  | 200, .transient result => Admitted host service g ∧
      ∃ request, Given host g (.transient request) ∧ Detected host g (YoloEventService.transientMedia request) result
  | 200, .payload value => Admitted host service g ∧
      ∃ candidateId, Given host g (.backend candidateId) ∧ PayloadOf g candidateId value
  | 400, .error text => text = "invalid_event_evidence_request" ∧ Admitted host service g ∧ Refused host g ∧
      ¬∃ parsed, Given host g parsed
  | 401, .error text => text = "unauthorized" ∧ ∃ request, g.task = .request request ∧ Addressed request ∧
      authorized service.settings.authToken request = .ok false
  | 404, .error text => text = "not_found" ∧ ∃ request, g.task = .request request ∧
      ((request.method = .get ∧ request.path ≠ "/healthz" ∧ request.path ≠ "/readyz") ∨
        (request.method = .post ∧ request.path ∉ postPaths))
  | 411, .error text => text = "content_length_required" ∧ ∃ request, g.task = .request request ∧
      Addressed request ∧ authorized service.settings.authToken request = .ok true ∧
      ∀ rawLength, request.contentLength = some rawLength → isDecimal host rawLength = false
  | 413, .error text => text = "payload_too_large" ∧ ∃ request rawLength length, g.task = .request request ∧
      Addressed request ∧ authorized service.settings.authToken request = .ok true ∧
      request.contentLength = some rawLength ∧ isDecimal host rawLength = true ∧
      intOfDecimal host rawLength = .ok length ∧ (length ≤ 0 ∨ maxRequestBytes < length)
  | 500, .error text => Admitted host service g ∧ (∃ parsed, Given host g parsed) ∧
      ∃ request, g.task = .request request ∧ text = failureOfPath request.path
  | _, _ => False

/-- What has to hold when a question is asked. -/
def due (u : Stage) (g : Notes) : Question → Memory → Prop
  | .readRuntime, _ => True
  | .writeRuntime runtime, w => u = .inside ∧ w.runtime = none ∧ w.loaded = [runtime]
  | .loadModel, w => u = .inside ∧ w.runtime = none ∧ w.loaded = [] ∧ Working host service g
  | .readBody length, _ => ∃ request, g.task = .request request ∧ Admits host service request length
  | .openStream url headers, _ => u = .inside ∧ Admitted host service g ∧ FetchDue host service g url headers
  | .decode payload, _ => Admitted host service g ∧ PictureDue host service g payload
  | .convert image, _ => Admitted host service g ∧ Pictured host service g image
  | .predict runtime image, w => u = .inside ∧ w.Holds runtime ∧ Admitted host service g ∧
      Pictured host service g image
  | .readBackend candidateId, _ => Admitted host service g ∧ Asks g .post backendDetectPath ∧
      Given host g (.backend candidateId)
  | .publish publication, _ => g.published = false ∧ Admitted host service g ∧
      PublishDue host service g publication
  | .locatePayload candidateId, _ => Admitted host service g ∧ Asks g .post hypothesesPath ∧
      Given host g (.backend candidateId)
  | .buildPayload candidateId, _ => Admitted host service g ∧ Asks g .post bundlesPath ∧
      Given host g (.backend candidateId)
  | .writeJson status body, w => g.answered = false ∧ AnswerDue host service g w status body

/-- **The terms** on which threads share the service. -/
def terms : Contract Question Answer Memory Notes where
  toWorld := world
  note := Notes.note
  due := due host service
  always := Memory.Sound
  resting := Memory.Settled
  anytime := Eq
  locked := Memory.Grows
  anytime_refl _ := rfl
  anytime_trans h h' := h.trans h'
  locked_trans h h' := h.trans h'
  locked_of_anytime h := h ▸ Memory.Grows.refl _
  resting_of_anytime h hsettled := h ▸ hsettled
  resting_of_kills h := h.elim

end Due

/-! ## What the notes keep -/

section Notes

variable {host : YoloHost} {service : YoloEventService} {g g' : Notes}

theorem Admitted.serves (h : Admitted host service g) (hg : g.Serves g') : Admitted host service g' := by
  obtain ⟨request, length, htask, hadmits⟩ := h
  exact ⟨request, length, hg.task.trans htask, hadmits⟩

theorem Given.serves {parsed : Parsed} (h : Given host g parsed) (hg : g.Serves g') : Given host g' parsed := by
  obtain ⟨request, raw, htask, hraw, hparsed⟩ := h
  exact ⟨request, raw, hg.task.trans htask, hg.raw.trans hraw, hparsed⟩

theorem Asks.serves {method : Method} {path : String} (h : Asks g method path) (hg : g.Serves g') :
    Asks g' method path := by
  obtain ⟨request, htask, hrequest⟩ := h
  exact ⟨request, hg.task.trans htask, hrequest⟩

/-- A candidate is read from the body on the paths of the backend only. -/
theorem Given.backend_path {candidateId : String} {method : Method} {path : String}
    (h : Given host g (.backend candidateId)) (hasks : Asks g method path) : path ∈ backendPaths := by
  obtain ⟨request, raw, htask, -, hparsed⟩ := h
  obtain ⟨request', htask', -, rfl⟩ := hasks
  obtain rfl := Task.request.inj (htask.symm.trans htask')
  unfold parseBody at hparsed
  split at hparsed
  · assumption
  · split at hparsed
    · cases htransient : host.transientOf raw with
      | ok transient =>
        rw [htransient] at hparsed
        cases hparsed
      | error e =>
        rw [htransient] at hparsed
        cases hparsed
    · obtain ⟨⟨evidence, assets⟩, -, hparsed⟩ := Fallible.bind_eq_ok.mp hparsed
      obtain ⟨request, -, hparsed⟩ := Fallible.bind_eq_ok.mp hparsed
      cases hparsed

theorem Wanted.seen {request : YoloEventRequest} (h : Wanted host g request) (hg : g.Seen g') :
    Wanted host g' request := by
  rcases h with hgiven | ⟨candidateId, durable, hgiven, hdurable, hrequest⟩
  · exact Or.inl (hgiven.serves hg.serves)
  · exact Or.inr ⟨candidateId, durable, hgiven.serves hg.serves, hg.durable.trans hdurable, hrequest⟩

theorem PictureDue.seen {payload : Bytes} (h : PictureDue host service g payload) (hg : g.Seen g') :
    PictureDue host service g' payload := by
  rcases h with ⟨request, hwanted, hmedia⟩ | ⟨request, hgiven, hpayload⟩
  · exact Or.inl ⟨request, hwanted.seen hg, hmedia⟩
  · exact Or.inr ⟨request, hgiven.serves hg.serves, hpayload⟩

theorem Pictured.seen {image : Image} (h : Pictured host service g image) (hg : g.Seen g') :
    Pictured host service g' image := by
  obtain ⟨payload, hmem, hdue⟩ := h
  exact ⟨payload, hg.pictures _ hmem, hdue.seen hg⟩

theorem Shows.recalled {digest : String} {image : Image} (h : Shows host g digest image) (hg : g.Recalls g') :
    Shows host g' digest image := by
  obtain ⟨payload, hmem, hdigest⟩ := h
  exact ⟨payload, hg.pictures _ hmem, hdigest⟩

theorem Detected.recalled {media : EvidenceMedia} {result : DetectionResult} (h : Detected host g media result)
    (hg : g.Recalls g') : Detected host g' media result := by
  obtain ⟨image, results, hshows, hmem, hresult⟩ := h.found
  exact ⟨h.formed, h.media_eq, image, results, hshows.recalled hg, hg.inferences _ hmem, hresult⟩

theorem Ran.recalled {evidence : EventEvidenceV1} {out : EventVisionRun} (h : Ran host service g evidence out)
    (hg : g.Recalls g') : Ran host service g' evidence out := by
  obtain ⟨detect, hdetect, hrun⟩ := h
  exact ⟨detect, fun media result hresult => (hdetect media result hresult).recalled hg, hrun⟩

theorem Working.serves (h : Working host service g) (hg : g.Serves g') : Working host service g' := by
  rcases h with hwarmup | ⟨hadmitted, parsed, hgiven⟩
  · exact Or.inl (hg.task.trans hwarmup)
  · exact Or.inr ⟨hadmitted.serves hg, parsed, hgiven.serves hg⟩

theorem Working.admitted (hadmitted : Admitted host service g) {parsed : Parsed} (hgiven : Given host g parsed) :
    Working host service g := Or.inr ⟨hadmitted, parsed, hgiven⟩

/-! ### What an answer adds -/

theorem seen_readRuntime (g : Notes) (a : Option Runtime) : g.Seen (g.note .readRuntime a) := by
  cases a with
  | some runtime => exact .refl g
  | none => exact ⟨⟨rfl, rfl, rfl, rfl⟩, ⟨fun _ h => h, fun _ h => h⟩, rfl, rfl⟩

theorem seen_decode (g : Notes) (payload : Bytes) (a : Except PyExc Image) : g.Seen (g.note (.decode payload) a) := by
  cases a with
  | ok image => exact ⟨⟨rfl, rfl, rfl, rfl⟩, ⟨fun _ => List.mem_append_left _, fun _ h => h⟩, rfl, rfl⟩
  | error e => exact .refl g

theorem seen_convert (g : Notes) (image : Image) (a : Except PyExc Image) : g.Seen (g.note (.convert image) a) := by
  cases a with
  | ok image => exact ⟨⟨rfl, rfl, rfl, rfl⟩, ⟨fun _ => List.mem_append_left _, fun _ h => h⟩, rfl, rfl⟩
  | error e => exact .refl g

theorem seen_predict (g : Notes) (runtime : Runtime) (image : Image) (a : Except PyExc (List YoloResult)) :
    g.Seen (g.note (.predict runtime image) a) := by
  cases a with
  | ok results => exact ⟨⟨rfl, rfl, rfl, rfl⟩, ⟨fun _ h => h, fun _ => List.mem_append_left _⟩, rfl, rfl⟩
  | error e => exact .refl g

/-- What is decoded is a picture. -/
theorem mem_pictures_decode {payload : Bytes} {image : Image} :
    (payload, image) ∈ (g.note (.decode payload) (.ok image)).pictures :=
  List.mem_append_right _ (List.mem_singleton.mpr rfl)

/-- What is converted is one still. -/
theorem mem_pictures_convert {payload : Bytes} {image image' : Image} (h : (payload, image) ∈ g.pictures) :
    (payload, image') ∈ (g.note (.convert image) (.ok image')).pictures := by
  refine List.mem_append_right _ (List.mem_map.mpr ⟨(payload, image), ?_, rfl⟩)
  exact List.mem_filter.mpr ⟨h, decide_eq_true rfl⟩

theorem Pictured.convert {image image' : Image} (h : Pictured host service g image) :
    Pictured host service (g.note (.convert image) (.ok image')) image' := by
  obtain ⟨payload, hmem, hdue⟩ := h
  exact ⟨payload, mem_pictures_convert hmem, hdue.seen (seen_convert g image (.ok image'))⟩

theorem Shows.convert {digest : String} {image image' : Image} (h : Shows host g digest image) :
    Shows host (g.note (.convert image) (.ok image')) digest image' := by
  obtain ⟨payload, hmem, hdigest⟩ := h
  exact ⟨payload, mem_pictures_convert hmem, hdigest⟩

/-- What the model says of an image of a medium was detected in the medium. -/
theorem detected_predict {media : EvidenceMedia} {runtime : Runtime} {image : Image} {results : List YoloResult}
    {result : DetectionResult} (hshows : Shows host g media.sha256 image)
    (hresult : detectionResult host.toVisionHost media.mediaId image.width image.height results = .ok result) :
    Detected host (g.note (.predict runtime image) (.ok results)) media result := by
  obtain ⟨hformed, hmedia⟩ := detectionResult_wellFormed hresult
  refine ⟨hformed, hmedia, image, results, hshows.recalled (seen_predict g runtime image (.ok results)).recalls, ?_, hresult⟩
  exact List.mem_append_right _ (List.mem_singleton.mpr rfl)

theorem serves_readBackend (g : Notes) (candidateId : String) (a : Except PyExc DurableEventEvidence) :
    g.Serves (g.note (.readBackend candidateId) a) := by
  cases a with
  | ok durable => exact ⟨rfl, rfl, rfl, rfl⟩
  | error e => exact .refl g

theorem serves_publish (g : Notes) (publication : Publication) (a : Except PyExc Receipt) :
    g.Serves (g.note (.publish publication) a) := by
  cases a with
  | ok receipt => exact ⟨rfl, rfl, rfl, rfl⟩
  | error e => exact ⟨rfl, rfl, rfl, rfl⟩

theorem recalls_publish (g : Notes) (publication : Publication) (a : Except PyExc Receipt) :
    g.Recalls (g.note (.publish publication) a) := by
  cases a with
  | ok receipt => exact ⟨fun _ h => h, fun _ h => h⟩
  | error e => exact ⟨fun _ h => h, fun _ h => h⟩

theorem serves_locatePayload (g : Notes) (candidateId : String) (a : Except PyExc JsonValue) :
    g.Serves (g.note (.locatePayload candidateId) a) := by
  cases a with
  | ok value => exact ⟨rfl, rfl, rfl, rfl⟩
  | error e => exact .refl g

theorem serves_buildPayload (g : Notes) (candidateId : String) (a : Except PyExc JsonValue) :
    g.Serves (g.note (.buildPayload candidateId) a) := by
  cases a with
  | ok value => exact ⟨rfl, rfl, rfl, rfl⟩
  | error e => exact .refl g

/-- An answer is noted when one is begun, and not before. -/
theorem answered_note {q : Question} (hq : ∀ status body, q ≠ .writeJson status body) (a : Answer q) :
    (g.note q a).answered = g.answered := by
  cases q with
  | readRuntime => exact (seen_readRuntime g a).answered
  | writeRuntime runtime => rfl
  | loadModel => rfl
  | readBody length =>
    cases a with
    | ok raw => rfl
    | error e => rfl
  | openStream url headers => rfl
  | decode payload => exact (seen_decode g payload a).answered
  | convert image => exact (seen_convert g image a).answered
  | predict runtime image => exact (seen_predict g runtime image a).answered
  | readBackend candidateId => exact (serves_readBackend g candidateId a).answered
  | publish publication => exact (serves_publish g publication a).answered
  | locatePayload candidateId => exact (serves_locatePayload g candidateId a).answered
  | buildPayload candidateId => exact (serves_buildPayload g candidateId a).answered
  | writeJson status body => exact absurd rfl (hq status body)

/-- The token that goes with a download is the backend's, and the origin is the backend's too. -/
theorem tokenFor_eq_some {parsed : Url.SplitResult} {token : String} (h : tokenFor host service parsed = some token) :
    service.settings.backendAuthToken = some token ∧
      ∃ url, service.settings.backendBaseUrl = some url ∧
        originOf host parsed = host.casefold (withoutSlashes url) := by
  unfold tokenFor YoloEventService.bearerTokens at h
  split at h
  · rename_i url found hurl hfound
    split at h
    · obtain ⟨before, after, hpairs, -⟩ := Dict.get?_ofPairs_eq_some.mp h
      have hsingle : [(host.casefold (withoutSlashes url), found)] = before ++ (originOf host parsed, token) :: after :=
        hpairs
      have hmem : (originOf host parsed, token) ∈ [(host.casefold (withoutSlashes url), found)] := by
        rw [hsingle]
        exact List.mem_append_right _ List.mem_cons_self
      obtain ⟨horigin, rfl⟩ := Prod.mk.inj (List.mem_singleton.mp hmem)
      exact ⟨hfound, url, hurl, horigin⟩
    · cases h
  · cases h

end Notes

end Yolo

end FireviewerOrchestrator
