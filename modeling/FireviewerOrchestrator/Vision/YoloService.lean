/-
  `yolo_cpu_service.py`: a server that runs one detector over the images of many requests.

  Every request has a thread of its own.  The threads share the service's `_runtime`, which is read and
  assigned by questions, so that the reads of a thread and the moves of the others may come in any order.
  What the network, the backend and the model answer is not known, and whatever can raise may raise.
-/
import FireviewerOrchestrator.Library.Dict
import FireviewerOrchestrator.Library.Procedure
import FireviewerOrchestrator.Vision.YoloProvider

set_option linter.unusedVariables false

namespace FireviewerOrchestrator

namespace Yolo

open EventEvidence EventVision Guarded Proc

/-! ## Data -/

abbrev Bytes : Type := List UInt8

/-- A loaded model. -/
abbrev Runtime : Type := Nat

structure Image where
  number : Nat
  width : Nat
  height : Nat
  deriving DecidableEq, Repr

/-- A response, as `HttpEvidenceImageLoader` reads it.  `broken` is what the stream raises at its end. -/
structure HttpResponse where
  isRedirect : Bool
  isSuccess : Bool
  contentLength : Option String
  chunks : List Bytes
  broken : Option PyExc

structure EvidenceAssetLocation where
  mediaId : String
  workingFileUrl : String
  deriving DecidableEq, Repr

/-- The kinds of media that are looked at. -/
def isEligible (media : EvidenceMedia) : Bool := media.kind = .photo ∨ media.kind = .keyframe

/-- `YoloEventRequest`: every photo and keyframe has a place to be fetched from. -/
structure YoloEventRequest where
  evidence : EventEvidenceV1
  assets : List EvidenceAssetLocation
  sized : 1 ≤ assets.length ∧ assets.length ≤ 512
  unique : (assets.map EvidenceAssetLocation.mediaId).Nodup
  known : ∀ item ∈ assets, item.mediaId ∈ evidence.graph.mediaIds
  covered : ∀ media ∈ evidence.graph.media, isEligible media = true →
    media.mediaId ∈ assets.map EvidenceAssetLocation.mediaId

/-- `validate_assets`, behind the bounds of the field. -/
def YoloEventRequest.modelValidate (evidence : EventEvidenceV1) (assets : List EvidenceAssetLocation) :
    Except PyExc YoloEventRequest :=
  if hsized : 1 ≤ assets.length ∧ assets.length ≤ 512 then
    if hunique : (assets.map EvidenceAssetLocation.mediaId).Nodup then
      if hknown : ∀ item ∈ assets, item.mediaId ∈ evidence.graph.mediaIds then
        if hcovered : ∀ media ∈ evidence.graph.media, isEligible media = true →
            media.mediaId ∈ assets.map EvidenceAssetLocation.mediaId then
          .ok ⟨evidence, assets, hsized, hunique, hknown, hcovered⟩
        else .error (.validationError "YoloEventRequest" "every photo and keyframe requires a working_file_url")
      else .error (.validationError "YoloEventRequest" "asset location references unknown EventEvidence media")
    else .error (.validationError "YoloEventRequest" "asset locations must be uniquely keyed by media_id")
  else .error (.validationError "YoloEventRequest" "assets")

structure YoloTransientImageRequest where
  mediaId : String
  contentSha256 : String
  contentBase64 : String
  deriving DecidableEq, Repr

/-- `DurableEventEvidence`, as far as it is read here. -/
structure DurableEventEvidence where
  event : EventEvidenceV1
  mediaLocations : List EvidenceAssetLocation
  sourceRevisionSha256 : String

/-- `BackendVisualEvidenceReceipt`. -/
structure Receipt where
  candidateId : String
  observationCount : Nat
  replayed : Bool
  sourceRevisionSha256 : String
  deriving DecidableEq, Repr

/-- The arguments of `publish`. -/
structure Publication where
  candidateId : String
  sourceRevisionSha256 : String
  observations : List VisualObservation
  artifacts : Dict String DetectionResult

/-- What a response holds. -/
inductive Body where
  | health
  | readiness (text : String)
  | error (text : String)
  | analysis (run : EventVisionRun)
  | backendAnalysis (candidateId : String) (run : EventVisionRun) (receipt : Receipt) (before after : Nat)
  | transient (result : DetectionResult)
  | payload (value : JsonValue)

/-- What the service asks of its host's libraries. -/
structure YoloHost extends VisionHost where
  /-- `sha256(payload).hexdigest()`. -/
  sha256Hex : Bytes → String
  /-- `base64.b64decode(text, validate=True)`, or nothing where it raises. -/
  b64decode : String → Option Bytes
  /-- `str` of a URL, where it is one for `AnyHttpUrl`. -/
  httpUrl : String → Except PyExc String
  /-- `model_validate_json`, up to the validators of this module. -/
  eventParts : Bytes → Except PyExc (EventEvidenceV1 × List EvidenceAssetLocation)
  candidateOf : Bytes → Except PyExc String
  transientOf : Bytes → Except PyExc YoloTransientImageRequest

/-- `YoloCpuServiceSettings`, as far as a request reads them. -/
structure YoloCpuServiceSettings where
  authToken : String
  allowedHosts : List String
  backendBaseUrl : Option String := none
  backendAuthToken : Option String := none
  torchThreads : Int := 4
  maxDownloadBytes : Int := 64 * 1024 * 1024

/-- `YoloEventService`: its settings, and which of its parts are configured. -/
structure YoloEventService where
  settings : YoloCpuServiceSettings
  backendAdapter : Bool
  visualPublisher : Bool
  geographicService : Bool
  pointBundlePipeline : Bool

/-! ## Questions -/

inductive Question where
  /-- `self._runtime`. -/
  | readRuntime
  | writeRuntime (runtime : Runtime)
  /-- `self._model_loader()`. -/
  | loadModel
  /-- `self.rfile.read(length)`. -/
  | readBody (length : Int)
  /-- `client.stream("GET", url, headers=headers)`. -/
  | openStream (url : String) (headers : List (String × String))
  /-- `Image.open`, and `load`. -/
  | decode (payload : Bytes)
  /-- `convert("RGB")`. -/
  | convert (image : Image)
  | predict (runtime : Runtime) (image : Image)
  /-- The backend adapter's `read`. -/
  | readBackend (candidateId : String)
  | publish (publication : Publication)
  | locatePayload (candidateId : String)
  | buildPayload (candidateId : String)
  /-- `_write_json`. -/
  | writeJson (status : Nat) (body : Body)

def Answer : Question → Type
  | .readRuntime => Option Runtime
  | .writeRuntime _ => Unit
  | .loadModel => Except PyExc Runtime
  | .readBody _ => Except PyExc Bytes
  | .openStream _ _ => Except PyExc HttpResponse
  | .decode _ | .convert _ => Except PyExc Image
  | .predict _ _ => Except PyExc (List YoloResult)
  | .readBackend _ => Except PyExc DurableEventEvidence
  | .publish _ => Except PyExc Receipt
  | .locatePayload _ | .buildPayload _ => Except PyExc JsonValue
  | .writeJson _ _ => Except PyExc Unit

/-- A procedure of a thread.  Its local variable is the `_model` of the provider it has made. -/
abbrev Serving : Type → Type := Proc Question Answer (Option Runtime) PyExc

/-- `except ValueError`, by the names of its subclasses. -/
def isValueError (e : PyExc) : Bool :=
  ["ValueError", "ValidationError", "JSONDecodeError", "UnicodeError", "UnicodeDecodeError", "UnicodeEncodeError",
    "UnicodeTranslateError", "UnsupportedOperation"].contains e.typeName

/-- `except (UnidentifiedImageError, OSError)`. -/
def isImageError (e : PyExc) : Bool :=
  ["UnidentifiedImageError", "OSError", "BlockingIOError", "ChildProcessError", "ConnectionError", "BrokenPipeError",
    "ConnectionAbortedError", "ConnectionRefusedError", "ConnectionResetError", "FileExistsError",
    "FileNotFoundError", "InterruptedError", "IsADirectoryError", "NotADirectoryError", "PermissionError",
    "ProcessLookupError", "TimeoutError"].contains e.typeName

/-- `except httpx.HTTPError`. -/
def isHttpError (e : PyExc) : Bool :=
  ["HTTPError", "HTTPStatusError", "RequestError", "TransportError", "TimeoutException", "ConnectTimeout",
    "ReadTimeout", "WriteTimeout", "PoolTimeout", "NetworkError", "ConnectError", "ReadError", "WriteError",
    "CloseError", "ProtocolError", "LocalProtocolError", "RemoteProtocolError", "ProxyError",
    "UnsupportedProtocol", "DecodingError", "TooManyRedirects"].contains e.typeName

/-! ## Downloads -/

def downloadError (message : String) : PyExc := .raised "EvidenceDownloadError" message

/-- `text.rstrip("/")`. -/
def withoutSlashes (text : String) : String :=
  String.ofList (text.toList.reverse.dropWhile fun c => c = '/').reverse

section Program

variable (host : YoloHost)

/-- `HttpEvidenceImageLoader`. -/
structure HttpEvidenceImageLoader where
  locations : Dict String String
  allowedHosts : List String
  bearerTokensByOrigin : Dict String String
  maxDownloadBytes : Int
  hosts_nonempty : allowedHosts ≠ []

/-- `HttpEvidenceImageLoader(…)`. -/
def HttpEvidenceImageLoader.make (locations : List (String × String)) (allowedHosts : List String)
    (bearerTokens : List (String × String)) (maxDownloadBytes : Int) : Except PyExc HttpEvidenceImageLoader :=
  if hhosts : allowedHosts = [] then .error (.valueError "at least one evidence host must be allowlisted")
  else .ok
    { locations := .ofPairs locations
      allowedHosts := allowedHosts
      bearerTokensByOrigin := .ofPairs (bearerTokens.map fun entry =>
        (host.casefold (withoutSlashes entry.1), entry.2))
      maxDownloadBytes := maxDownloadBytes
      hosts_nonempty := hhosts }

/-- `(parsed.hostname or "").casefold()`. -/
def hostnameOf (parsed : Url.SplitResult) : String :=
  host.casefold (String.ofList ((parsed.hostname host.toUrllib).getD []))

/-- `f"https://{parsed.netloc.casefold()}"`. -/
def originOf (parsed : Url.SplitResult) : String := "https://" ++ host.casefold (String.ofList parsed.netloc)

/-- The URL is outside of the HTTPS host allowlist. -/
def isOutside (allowedHosts : List String) (parsed : Url.SplitResult) : Bool :=
  parsed.scheme ≠ "https".toList ∨ hostnameOf host parsed ∉ allowedHosts ∨ parsed.username ≠ none ∨
    parsed.password ≠ none

def authorization (bearerToken : Option String) : List (String × String) :=
  match bearerToken with
  | some token => [("Authorization", "Bearer " ++ token)]
  | none => []

def requestHeaders (bearerToken : Option String) : List (String × String) :=
  [("Accept", "image/*"), ("User-Agent", "FireViewer-YOLO/1.0 (+https://fireviewer.org)")]
    ++ authorization bearerToken

/-- `text.isdecimal()`. -/
def isDecimal (text : String) : Bool :=
  text ≠ "" ∧ text.toList.all fun c => c.isDigit || (127 < c.toNat && (host.decimal c).isSome)

/-- `int(text)` of a decimal text. -/
def intOfDecimal (text : String) : Except PyExc Int :=
  match Numerals.int? host.toNumeralTables text with
  | some n => .ok n
  | none => .error (.valueError "Exceeds the limit (4300 digits) for integer string conversion")

def tooLarge : PyExc := downloadError "evidence image exceeds the download limit"

/-- The check of the declared length. -/
def checkDeclared (limit : Int) (declared : Option String) : Except PyExc Unit :=
  match declared with
  | none => .ok ()
  | some text =>
      if isDecimal host text then do
        let length ← intOfDecimal host text
        if limit < length then .error tooLarge else .ok ()
      else .ok ()

/-- The loop over the chunks. -/
def takeChunks (limit : Int) : List Bytes → Bytes → Except PyExc Bytes
  | [], payload => .ok payload
  | chunk :: chunks, payload =>
      if limit < (payload ++ chunk).length then .error tooLarge else takeChunks limit chunks (payload ++ chunk)

/-- The check for redirects, and `raise_for_status`. -/
def checkStatus (response : HttpResponse) : Except PyExc Unit :=
  if response.isRedirect then .error (downloadError "evidence URL redirects are not allowed")
  else if response.isSuccess then .ok ()
  else .error (.raised "HTTPStatusError" "")

/-- The body of the `with` block. -/
def payloadOf (limit : Int) (response : HttpResponse) : Except PyExc Bytes := do
  checkStatus response
  checkDeclared host limit response.contentLength
  let payload ← takeChunks limit response.chunks []
  match response.broken with
  | some e => .error e
  | none => .ok payload

/-- `except httpx.HTTPError`. -/
def asDownloadError {α : Type} : Except PyExc α → Except PyExc α
  | .ok a => .ok a
  | .error e => .error (if isHttpError e then downloadError "evidence image download failed" else e)

/-- The decoding of a payload, where what is not an image is an error of this kind. -/
def decodeImage (payload : Bytes) (notAnImage : PyExc) : Serving Image :=
  exceptIf (call (.decode payload) id) isImageError fun _ => raise notAnImage

/-- `HttpEvidenceImageLoader.load`. -/
def HttpEvidenceImageLoader.load (loader : HttpEvidenceImageLoader) (media : EvidenceMedia) : Serving Image :=
  match loader.locations.get? media.mediaId with
  | none => raise (downloadError "missing working URL for evidence media")
  | some rawUrl => do
      let parsed ← ofExcept (Url.urlsplit host.toUrllib rawUrl.toList)
      if isOutside host loader.allowedHosts parsed then
        raise (downloadError "evidence URL is outside the HTTPS host allowlist")
      else do
        let response ← call (.openStream rawUrl
          (requestHeaders (loader.bearerTokensByOrigin.get? (originOf host parsed)))) asDownloadError
        let payload ← ofExcept (asDownloadError (payloadOf host loader.maxDownloadBytes response))
        if host.sha256Hex payload ≠ media.sha256 then
          raise (downloadError "evidence image SHA-256 differs from EventEvidence")
        else decodeImage payload (downloadError "evidence payload is not a supported image")

/-- The loaders of the two ways to get an image. -/
inductive ImageLoader where
  | http (loader : HttpEvidenceImageLoader)
  /-- `_StaticImageLoader`. -/
  | static (mediaId : String) (image : Image)

def ImageLoader.load (loader : ImageLoader) (media : EvidenceMedia) : Serving Image :=
  match loader with
  | .http loader => loader.load host media
  | .static mediaId image =>
      if media.mediaId ≠ mediaId then raise (.valueError "transient YOLO media identity mismatch")
      else pure image

/-! ## The provider -/

/-- `_require_runtime`. -/
def requireRuntime : Serving (Option Runtime) := do
  let first : Option Runtime ← call .readRuntime .ok
  match first with
  | none => raise (.runtimeError "YOLO runtime is not loaded")
  | some _ => call .readRuntime .ok

/-- The provider's `_runtime`. -/
def providerRuntime : Serving (Option Runtime) := do
  let model ← get
  match model with
  | some runtime => pure (some runtime)
  | none => do
      let loaded ← requireRuntime
      modify fun _ => loaded
      pure loaded

/-- `model.predict(…)`. -/
def predict (model : Option Runtime) (image : Image) : Serving (List YoloResult) :=
  match model with
  | none => raise (.raised "AttributeError" "'NoneType' object has no attribute 'predict'")
  | some runtime => call (.predict runtime image) id

/-- `YoloCpuVisionProvider.detect`. -/
def detect (loader : ImageLoader) (media : EvidenceMedia) : Serving DetectionResult := do
  let loaded ← loader.load host media
  let image : Image ← call (.convert loaded) id
  let model ← providerRuntime
  let results ← predict model image
  ofExcept (detectionResult host.toVisionHost media.mediaId image.width image.height results)

/-- `YoloCpuConfig(torch_threads=…)`. -/
def checkTorchThreads (torchThreads : Int) : Except PyExc Unit :=
  if 1 ≤ torchThreads ∧ torchThreads ≤ 64 then .ok ()
  else .error (.validationError "YoloCpuConfig" "torch_threads")

/-- The provider's `descriptor`. -/
def descriptorOf (torchThreads : Int) : ProviderDescriptor where
  providerId := "yolo-fire-smoke-cpu"
  providerVersion := "1.0.0"
  modelId := some modelId
  modelVersion := some modelRevision
  config := "\x7b\"device\":\"cpu\",\"input_size\":1024,\"iou_threshold\":0.45,\"max_detections\":128,"
    ++ "\"threshold\":0.1,\"torch_threads\":" ++ toString torchThreads ++ "\x7d"

/-- The outcome of a procedure, unless it is left by what is no `Exception`. -/
def attempt {α : Type} (p : Serving α) : Serving (Except PyExc α) :=
  exceptIf (p >>= fun a => pure (.ok a)) PyExc.isException fun e => pure (.error e)

/-- One round of the runner's loop. -/
def visitMedium (descriptor : ProviderDescriptor) (g : EvidenceGraph) (detect : EvidenceMedia → Serving DetectionResult)
    (media : EvidenceMedia) (acc : Accumulators) : Serving Accumulators := do
  let outcome ← attempt (detect media)
  pure (visit host.sha256 descriptor g acc (media, outcome))

/-- `EventVisionRunner(provider=provider).run(evidence)`, with a provider that asks. -/
def visionRun (descriptor : ProviderDescriptor) (detect : EvidenceMedia → Serving DetectionResult)
    (evidence : EventEvidenceV1) : Serving EventVisionRun := do
  let acc ← foldLoop (visitMedium host descriptor evidence.graph detect) (selected {} evidence.graph)
    (start host.sha256 {} evidence.graph)
  ofExcept (finish evidence.graph acc)

/-! ## The service -/

/-- `with self._lock`. -/
def withLock {α : Type} (p : Serving α) : Serving α := do
  acquireLock
  finallyDo p (releaseLock (.runtimeError "release unlocked lock"))

/-- `if self._runtime is None: self._runtime = self._model_loader()`. -/
def ensureRuntime : Serving Unit := do
  let current : Option Runtime ← call .readRuntime .ok
  match current with
  | some _ => pure ()
  | none => do
      let runtime : Runtime ← call .loadModel id
      call (.writeRuntime runtime) .ok

namespace YoloEventService

/-- `warmup`. -/
def warmup : Serving Unit := withLock ensureRuntime

/-- `bearer_tokens_by_origin`. -/
def bearerTokens (settings : YoloCpuServiceSettings) : List (String × String) :=
  match settings.backendBaseUrl, settings.backendAuthToken with
  | some url, some token => if url ≠ "" ∧ token ≠ "" then [(url, token)] else []
  | _, _ => []

variable (service : YoloEventService)

def loaderOf (request : YoloEventRequest) : Except PyExc HttpEvidenceImageLoader :=
  HttpEvidenceImageLoader.make host (request.assets.map fun item => (item.mediaId, item.workingFileUrl))
    service.settings.allowedHosts (bearerTokens service.settings) service.settings.maxDownloadBytes

/-- What is done under the lock. -/
def lockedRun (loader : HttpEvidenceImageLoader) (request : YoloEventRequest) : Serving EventVisionRun := do
  ensureRuntime
  ofExcept (checkTorchThreads service.settings.torchThreads)
  visionRun host (descriptorOf service.settings.torchThreads) (detect host (.http loader)) request.evidence

/-- `_run`. -/
def run (request : YoloEventRequest) : Serving EventVisionRun := do
  let loader ← ofExcept (service.loaderOf host request)
  withLock (service.lockedRun host loader request)

/-- `analyze`. -/
def analyze (request : YoloEventRequest) : Serving Body := do
  let out ← service.run host request
  pure (.analysis out)

/-- `EvidenceAssetLocation.model_validate(…)`. -/
def assetOf (item : EvidenceAssetLocation) : Except PyExc EvidenceAssetLocation := do
  let url ← host.httpUrl item.workingFileUrl
  pure ⟨item.mediaId, url⟩

/-- The request that is made of what the backend has. -/
def requestOf (durable : DurableEventEvidence) : Except PyExc YoloEventRequest := do
  let assets ← (durable.mediaLocations.filter fun item =>
    item.mediaId ∈ (durable.event.graph.media.filter isEligible).map EvidenceMedia.mediaId).mapM (assetOf host)
  YoloEventRequest.modelValidate durable.event assets

def publicationOf (candidateId : String) (durable : DurableEventEvidence) (out : EventVisionRun) : Publication where
  candidateId := candidateId
  sourceRevisionSha256 := durable.sourceRevisionSha256
  observations := out.evidence.graph.visualObservations.filter fun item =>
    item.resultReference ∈ out.artifacts.map VisionArtifact.resultReference
  artifacts := .ofPairs (out.artifacts.map fun item => (item.resultReference, item.result))

/-- `analyze_backend`. -/
def analyzeBackend (candidateId : String) : Serving Body :=
  if !(service.backendAdapter && service.visualPublisher) then
    raise (.runtimeError "backend EventEvidence integration is not configured")
  else do
    let durable : DurableEventEvidence ← call (.readBackend candidateId) id
    let request ← ofExcept (requestOf host durable)
    let out ← service.run host request
    if out.evidence.graph.locationCandidates ≠ durable.event.graph.locationCandidates then
      raise (.runtimeError "YOLO visual analysis attempted to modify geographic candidates")
    else do
      let receipt : Receipt ← call (.publish (publicationOf candidateId durable out)) id
      pure (.backendAnalysis candidateId out receipt durable.event.graph.locationCandidates.length
        out.evidence.graph.locationCandidates.length)

/-- `YoloTransientImageRequest.image`. -/
def transientImage (request : YoloTransientImageRequest) : Serving Image :=
  match host.b64decode request.contentBase64 with
  | none => raise (.valueError "transient YOLO image base64 is invalid")
  | some content =>
      if content = [] ∨ 5 * 1024 * 1024 < content.length then
        raise (.valueError "transient YOLO image exceeds its byte limit")
      else if host.sha256Hex content ≠ request.contentSha256 then
        raise (.valueError "transient YOLO image digest mismatch")
      else decodeImage content (.valueError "transient YOLO payload is not an image")

/-- The medium of a transient image. -/
def transientMedia (request : YoloTransientImageRequest) : EvidenceMedia where
  mediaId := request.mediaId
  sourceId := "SRC-TRANSIENT-PUBLIC"
  mediaGroupId := "GROUP-TRANSIENT-PUBLIC"
  originId := "ORIGIN-TRANSIENT-PUBLIC"
  kind := .photo
  sha256 := request.contentSha256

def lockedDetect (request : YoloTransientImageRequest) (image : Image) : Serving DetectionResult := do
  ensureRuntime
  ofExcept (checkTorchThreads service.settings.torchThreads)
  detect host (.static request.mediaId image) (transientMedia request)

/-- `analyze_transient`. -/
def analyzeTransient (request : YoloTransientImageRequest) : Serving Body := do
  let image ← transientImage host request
  let result ← withLock (service.lockedDetect host request image)
  pure (.transient result)

/-- `locate_backend`. -/
def locateBackend (candidateId : String) : Serving Body :=
  if service.geographicService then do
    let value ← call (.locatePayload candidateId) id
    pure (.payload value)
  else raise (.runtimeError "backend geographic integration is not configured")

/-- `build_point_bundles`. -/
def buildPointBundles (candidateId : String) : Serving Body :=
  if service.pointBundlePipeline then do
    let value ← call (.buildPayload candidateId) id
    pure (.payload value)
  else raise (.runtimeError "backend point bundle integration is not configured")

end YoloEventService

/-! ## The handler -/

inductive Method where
  | get | post
  deriving DecidableEq, Repr

/-- A request, as the handler finds it before it reads the body. -/
structure Request where
  method : Method
  path : String
  authorization : Option String
  contentLength : Option String
  deriving DecidableEq, Repr

def detectPath : String := "/v1/event-evidence/detect"
def backendDetectPath : String := "/v1/backend-event-evidence/detect"
def hypothesesPath : String := "/v1/backend-event-evidence/geographic-hypotheses"
def bundlesPath : String := "/v1/backend-event-evidence/point-bundles"
def transientPath : String := "/v1/transient-images/detect"

def postPaths : List String := [detectPath, backendDetectPath, hypothesesPath, bundlesPath, transientPath]

/-- The paths of a candidate of the backend. -/
def backendPaths : List String := [backendDetectPath, hypothesesPath, bundlesPath]

/-- The paths whose failures are geographic. -/
def geographicPaths : List String := [hypothesesPath, bundlesPath]

/-- `MAX_REQUEST_BYTES`. -/
def maxRequestBytes : Int := 8 * 1024 * 1024

/-- `_write_json`. -/
def writeJson (status : Nat) (body : Body) : Serving Unit := call (.writeJson status body) id

/-- `do_GET`. -/
def doGet (request : Request) : Serving Unit :=
  if request.path = "/healthz" then writeJson 200 .health
  else if request.path = "/readyz" then do
    -- the service's `ready` is read twice
    let first : Option Runtime ← call .readRuntime .ok
    let second : Option Runtime ← call .readRuntime .ok
    writeJson (if first.isSome then 200 else 503) (.readiness (if second.isSome then "ready" else "loading"))
  else writeJson 404 (.error "not_found")

/-- `_authorized`. -/
def authorized (authToken : String) (request : Request) : Except PyExc Bool :=
  compareDigest (request.authorization.getD "") ("Bearer " ++ authToken)

/-- A body that was accepted. -/
inductive Parsed where
  | backend (candidateId : String)
  | transient (request : YoloTransientImageRequest)
  | event (request : YoloEventRequest)

/-- The `model_validate_json` of a path. -/
def parseBody (path : String) (raw : Bytes) : Except PyExc Parsed :=
  if path ∈ backendPaths then (host.candidateOf raw).map .backend
  else if path = transientPath then (host.transientOf raw).map .transient
  else do
    let (evidence, assets) ← host.eventParts raw
    let request ← YoloEventRequest.modelValidate evidence assets
    pure (.event request)

/-- The first `try` block. -/
def readRequest (path : String) (length : Int) : Serving Parsed := do
  let raw ← call (.readBody length) id
  ofExcept (parseBody host path raw)

variable (service : YoloEventService)

/-- The second `try` block. -/
def serve (path : String) (parsed : Parsed) : Serving Body :=
  match parsed with
  | .backend candidateId =>
      if path = backendDetectPath then service.analyzeBackend host candidateId
      else if path = hypothesesPath then service.locateBackend candidateId
      else service.buildPointBundles candidateId
  | .transient request => service.analyzeTransient host request
  | .event request => service.analyze host request

/-- A block whose exceptions of a kind are answered, and end the request. -/
def orAnswer {α : Type} (p : Serving α) (catches : PyExc → Bool) (status : Nat) (text : String) : Serving (Option α) :=
  exceptIf (p >>= fun a => pure (some a)) catches fun _ => do
    writeJson status (.error text)
    pure none

def failureOfPath (path : String) : String :=
  if path ∈ geographicPaths then "geographic_hypotheses_failed" else "inference_failed"

/-- What follows the checks of the head. -/
def answerBody (path : String) (length : Int) : Serving Unit := do
  let parsed ← orAnswer (readRequest host path length) isValueError 400 "invalid_event_evidence_request"
  match parsed with
  | none => pure ()
  | some parsed => do
      let response ← orAnswer (serve host service path parsed) PyExc.isException 500 (failureOfPath path)
      match response with
      | none => pure ()
      | some response => writeJson 200 response

/-- What follows a known path and the right token. -/
def answerAuthorized (request : Request) : Serving Unit :=
  match request.contentLength with
  | none => writeJson 411 (.error "content_length_required")
  | some rawLength =>
      if isDecimal host rawLength then do
        let length ← ofExcept (intOfDecimal host rawLength)
        if length ≤ 0 ∨ maxRequestBytes < length then writeJson 413 (.error "payload_too_large")
        else answerBody host service request.path length
      else writeJson 411 (.error "content_length_required")

/-- `do_POST`. -/
def doPost (request : Request) : Serving Unit :=
  if request.path ∈ postPaths then do
    let isAuthorized ← ofExcept (authorized service.settings.authToken request)
    if isAuthorized then answerAuthorized host service request
    else writeJson 401 (.error "unauthorized")
  else writeJson 404 (.error "not_found")

/-- What a thread is started for. -/
inductive Task where
  | warmup
  | request (request : Request)
  deriving DecidableEq, Repr

/-- The program of a thread. -/
def perform (task : Task) : Serving Unit :=
  match task with
  | .warmup => YoloEventService.warmup
  | .request request => match request.method with
    | .get => doGet request
    | .post => doPost host service request

end Program

end Yolo

end FireviewerOrchestrator
