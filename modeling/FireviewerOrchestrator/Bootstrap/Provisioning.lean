/-
  How a pod makes sure of its models: `ensure_model_cache`, and the provisioning it calls.

  `os.environ` is a local variable of the process, so that a `finally` block, and what comes after an
  exception, see what was assigned before.  The lock of the volume is the lock of `Guarded`: it is waited
  for, and it is given back by whatever leaves the block.
-/
import FireviewerOrchestrator.Bootstrap.Environment

set_option linter.unusedVariables false

namespace FireviewerOrchestrator

namespace Bootstrap

open Guarded Proc

variable (py : Interpreter)

/-! ## Variables -/

/-- The variables of the process, to be read with the interpreter's tables. -/
def Process.variables (s : Process) : Variables where
  toTextTables := py.toTextTables
  getenv := s.environ

/-- `os.getenv(name, default)`. -/
def getenvOr (name default : String) : Boot String := do
  let s ← get
  pure ((s.environ name).getD default)

def setenv (name value : String) : Boot Unit := modify (Process.setenv name value)

/-- `value.strip()`. -/
def strip (value : String) : String :=
  let vars : Variables := { toTextTables := py.toTextTables, getenv := fun _ => none }
  String.ofList (vars.strip value.toList)

def lower (value : String) : String := String.ofList (py.lower value.toList)

/-- `int(text)`. -/
def int (text : String) : Except PyExc Int :=
  match Numerals.int? py.toNumeralTables text with
  | some n => .ok n
  | none => .error (.valueError ("invalid literal for int() with base 10: " ++ py.repr text))

/-- `_enabled`. -/
def enabled (value : Option String) (default : Bool) : Bool :=
  match value with
  | none => default
  | some text => ["1", "true", "yes", "on"].contains (lower py (strip py text))

/-! ## The model cache -/

def defaultCacheRoot : String := "/runpod-volume/huggingface-cache/hub"
def defaultRomaRoot : String := "/runpod-volume/firewarning-roma"

/-- `ROMA_ASSETS`. -/
def romaAssets : List AssetSpec :=
  [{ filename := "roma_extre.pth"
     size := 445618304
     sha256 := "368f9e0a59734fe293048496be201a57158278554f6f923f0b25a4424b30f6ae" },
    { filename := "dinov2_vitl14_pretrain.pth"
      size := 1217586395
      sha256 := "d5383ea8f4877b2472eb973e0fd72d557c7da5d3611bd527ceeb1d7162cbf428" }]

/-- `_manifest_path`. -/
def manifestPath (cacheRoot : Path) : Path := cacheRoot.parent ++ ["firewarning-model-cache.json"]

/-- `model_id.replace("/", "--")`. -/
def replaceSlashes (modelId : String) : String :=
  String.ofList (modelId.toList.flatMap fun c => if c = '/' then ['-', '-'] else [c])

/-- `_snapshot_path`, of an entry's model. -/
def snapshotPath (cacheRoot : Path) (entry : ManifestEntry) : Path :=
  cacheRoot ++ ["models--" ++ replaceSlashes entry.modelId, "snapshots", entry.revision]

/-- `_selected_models`. -/
def selectedModels : Boot (List ModelSpec) := do
  let s ← get
  pure (Models.enabledPublicModels (s.variables py))

/-- `_read_manifest`. -/
def readManifest (cacheRoot : Path) : Boot (Option Manifest) :=
  exceptIf (call (.readManifest (manifestPath cacheRoot)) id)
    (fun e => isOSError e || e.typeName = "JSONDecodeError") (fun _ => pure none)

/-- One round of the first loop of `cache_status`. -/
def checkSnapshot (cacheRoot : Path) (spec : ModelSpec) (missing : List String) : Boot (List String) := do
  let found ← call (.weightFiles (snapshotPath cacheRoot (entryOf spec))) id
  pure (if found then missing else missing ++ [spec.role.value])

/-- One round of the second. -/
def checkAsset (romaRoot : Path) (asset : AssetSpec) (missing : List String) : Boot (List String) := do
  let found ← call (.assetMatches (assetPath romaRoot asset) asset) id
  pure (if found then missing else missing ++ ["spatial_registration:" ++ asset.filename])

/-- The `models` a manifest has to hold. -/
def expectedModels (models : List ModelSpec) : List (Option ManifestEntry) :=
  models.map fun spec => some (entryOf spec)

/-- `cache_status(cache_root, roma_root).missing`. -/
def cacheStatus (cacheRoot romaRoot : Path) : Boot (List String) := do
  let models ← selectedModels py
  let manifest ← readManifest cacheRoot
  let missing ← foldLoop (checkSnapshot cacheRoot) models
    (if manifest.bind Manifest.models = some (expectedModels models) then [] else ["provisioning_manifest"])
  let missing ← foldLoop (checkAsset romaRoot) romaAssets missing
  pure missing.eraseDups

/-- `entry not in marked_entries or not _snapshot_weight_files(snapshot)`. -/
def needsDownload (snapshot : Path) (marked : List (Option ManifestEntry)) (entry : ManifestEntry) : Boot Bool :=
  if some entry ∈ marked then do
    let found ← call (.weightFiles snapshot) id
    pure (!found)
  else pure true

/-- The download of a model, where one is needed. -/
def downloadModel (spec : ModelSpec) (snapshot : Path) (needed : Bool) : Boot Unit :=
  if needed then do
    let s ← get
    call (.snapshotDownload spec.modelId spec.revision snapshot s.environ) id
  else pure ()

/-- One round of the loop of `provision_model_cache`, with the entries marked by the manifest before. -/
def provisionModel (cacheRoot : Path) (marked : List (Option ManifestEntry)) (spec : ModelSpec)
    (entries : List ManifestEntry) : Boot (List ManifestEntry) := do
  let snapshot := snapshotPath cacheRoot (entryOf spec)
  let needed ← needsDownload snapshot marked (entryOf spec)
  downloadModel spec snapshot needed
  let found ← call (.weightFiles snapshot) id
  if found then pure (entries ++ [entryOf spec])
  else runtimeError ("pinned snapshot contains no supported weights: " ++ snapshot.text)

/-- `provision_model_cache`. -/
def provisionModelCache (cacheRoot romaRoot : Path) : Boot Unit := do
  call (.makeDirs cacheRoot) id
  call (.makeDirs romaRoot) id
  call .importHub id
  let models ← selectedModels py
  let existing ← readManifest cacheRoot
  let marked := (existing.bind Manifest.models).getD []
  let entries ← foldLoop (provisionModel cacheRoot marked) models []
  let s ← get
  let revision ← call (.provisionAssets romaRoot romaAssets s.environ) id
  let manifest : Manifest := { models := some (entries.map some), romaSourceRevision := some revision }
  call (.writePartial (manifestPath cacheRoot) manifest) id
  call (.replaceManifest (manifestPath cacheRoot) manifest) id

/-- `with _volume_lock(path): …`. -/
def withVolumeLock {α : Type} (path : Path) (body : Boot α) : Boot α := do
  call (.makeDirs path.parent) id
  call (.openLock path) id
  acquireLock
  finallyDo body (do
    releaseLock (.raised "OSError" "")
    call (.closeLock path) id)

/-- The locked block of `ensure_model_cache`. -/
def provisionUnderLock (cacheRoot romaRoot : Path) : Boot Unit := do
  let missing ← cacheStatus py cacheRoot romaRoot
  if missing = [] then pure ()
  else do
    setenv "HF_HUB_OFFLINE" "0"
    setenv "TRANSFORMERS_OFFLINE" "0"
    finallyDo (provisionModelCache py cacheRoot romaRoot) (do
      setenv "HF_HUB_OFFLINE" "1"
      setenv "TRANSFORMERS_OFFLINE" "1")
    let missing ← cacheStatus py cacheRoot romaRoot
    if missing = [] then pure ()
    else runtimeError ("mounted model cache remains incomplete: " ++ ", ".intercalate missing)

/-- `ensure_model_cache`. -/
def ensureModelCache : Boot Unit := do
  let cacheText ← getenvOr "FW_HF_CACHE_ROOT" defaultCacheRoot
  let cacheRoot ← call (.resolve cacheText) id
  let romaText ← getenvOr "FW_ROMA_ROOT" defaultRomaRoot
  let romaRoot ← call (.resolve romaText) id
  let lockText ← getenvOr "FW_MODEL_PREFETCH_LOCK_PATH"
    (Path.text (cacheRoot.parent ++ [".firewarning-model-prefetch.lock"]))
  let lockPath ← call (.resolve lockText) id
  let missing ← cacheStatus py cacheRoot romaRoot
  if missing = [] then pure ()
  else do
    let s ← get
    if enabled py (s.environ "FW_AUTO_PREFETCH_MODELS") true then
      withVolumeLock lockPath (provisionUnderLock py cacheRoot romaRoot)
    else runtimeError ("mounted model cache is incomplete and auto-prefetch is disabled: "
      ++ ", ".intercalate missing)

end Bootstrap

end FireviewerOrchestrator
