/-
  `bootstrap.py`, from `main` down, line by line.

  What a function of the operating system answers is not known, and whatever can raise may raise.  A
  handler is a match on the exception, and a loop over paths is a `foldLoop`.  The one loop without a list
  waits for a socket: each of its rounds sleeps, so that its rounds are counted.
-/
import FireviewerOrchestrator.Bootstrap.Provisioning

set_option linter.unusedVariables false

namespace FireviewerOrchestrator

namespace Bootstrap

open Guarded Proc

variable (py : Interpreter)

/-! ## The runtime -/

def serverlessModule : String := "fireviewer_orchestrator.handler"
def podModule : String := "fireviewer_orchestrator.pod_server"
def podValidationModule : String := "fireviewer_orchestrator.pod_validation"

/-- `RUNTIME_MODULES`. -/
def runtimeModules : List (String × String) :=
  [("serverless", serverlessModule), ("pod", podModule), ("pod_validation", podValidationModule)]

/-- `RUNTIME_MODULES[mode]`. -/
def moduleOfMode (mode : String) : Except PyExc String :=
  match runtimeModules.lookup mode with
  | some module => .ok module
  | none => .error (.runtimeError ("unsupported FW_RUN_MODE: " ++ mode))

theorem moduleOfMode_ok {mode module : String} (h : moduleOfMode mode = .ok module) :
    runtimeModules.lookup mode = some module := by
  unfold moduleOfMode at h
  split at h
  · rename_i found hfound
    obtain rfl := Except.ok.inj h
    exact hfound
  · cases h

/-- `_runtime_module`. -/
def runtimeModule : Boot String := do
  let value ← getenvOr "FW_RUN_MODE" "serverless"
  ofExcept (moduleOfMode (lower py (strip py value)))

/-- One round of the loop over the distributions. -/
def requireDistribution (distribution : String) : Boot Unit :=
  exceptIf (call (.version distribution) id >>= fun _ => pure ())
    (fun e => e.typeName = "PackageNotFoundError")
    (fun _ => runtimeError ("required runtime dependency is absent: " ++ distribution))

/-- `report_runtime_dependencies`. -/
def reportRuntimeDependencies : Boot Unit := do
  requireDistribution "torch"
  requireDistribution "transformers"
  requireDistribution "flash-attn"
  let attention ← getenvOr "FW_ATTENTION_IMPLEMENTATION" ""
  if strip py attention ≠ "flash_attention_2" then
    runtimeError "FW_ATTENTION_IMPLEMENTATION must be flash_attention_2"
  else do
    let stackId ← call .stackId id
    let expected ← getenvOr "FW_MVP_STACK_ID" stackId
    if strip py expected ≠ stackId then
      runtimeError ("configured MVP stack " ++ py.repr (strip py expected) ++ " does not match "
        ++ py.repr stackId)
    else pure ()

/-! ## The storage of the models -/

def modelStorageGidsEnv : String := "FW_MODEL_STORAGE_GIDS"

/-- `int(value)` of each of some texts, in order. -/
def ints (texts : List String) : Except PyExc (List Int) := texts.mapM (int py)

/-- `_model_storage_gids`. -/
def modelStorageGids : Boot (List Int) := do
  let value ← getenvOr modelStorageGidsEnv ""
  let values := (value.toList.splitOn ',').map String.ofList
  let gids ← ofExcept (ints py (values.filter fun value => strip py value ≠ ""))
  pure (sortedDistinct gids)

/-- `",".join(str(gid) for gid in gids)`. -/
def joined (gids : List Int) : String := ",".intercalate (gids.map toString)

/-- `_assert_broker_cannot_read_models`. -/
def assertBrokerCannotReadModels (storageGids : List Int) : Boot Unit := do
  let broker ← call (.account "broker") id
  let brokerGids ← call (.groupList "broker" broker.gid) id
  let overlap := storageGids.filter fun gid => brokerGids.contains gid
  if overlap = [] then pure ()
  else runtimeError ("mounted model storage uses a group available to the network broker: "
    ++ joined (sortedDistinct overlap))

/-- `_secure_storage_path`. -/
def secureStoragePath (path : Path) (modelGid : Int) (directory : Bool) : Boot Int := do
  exceptIf (call (.chown path modelGid) id) (fun e => e.typeName = "PermissionError") fun _ => pure ()
  call (.chmod path (if directory then 0o750 else 0o640)) id
  call (.gidOf path) id

/-- One name of a directory. -/
def secureName (modelGid : Int) (directory : Path) (name : String) (gids : List Int) : Boot (List Int) := do
  let path := directory ++ [name]
  let link : Bool ← call (.isSymlink path) .ok
  if link then pure gids
  else do
    let isDirectory : Bool ← call (.isDir path) .ok
    let gid ← secureStoragePath path modelGid isDirectory
    pure (gids ++ [gid])

/-- One directory of a walk. -/
def secureDirectory (modelGid : Int) (entry : Path × List String × List String) (gids : List Int) :
    Boot (List Int) := do
  let gid ← secureStoragePath entry.1 modelGid true
  foldLoop (secureName modelGid entry.1) (entry.2.1 ++ entry.2.2) (gids ++ [gid])

/-- One root. -/
def secureRoot (modelGid : Int) (root : Path) (gids : List Int) : Boot (List Int) := do
  let entries : List (Path × List String × List String) ← call (.walk root) .ok
  foldLoop (secureDirectory modelGid) entries gids

/-- `payload.get(key)`. -/
def payloadGet (key : String) : JsonValue → Except PyExc (Option JsonValue)
  | .obj fields => .ok (fields.lookup key)
  | .null => .error (.raised "AttributeError" "'NoneType' object has no attribute 'get'")
  | .bool _ => .error (.raised "AttributeError" "'bool' object has no attribute 'get'")
  | .int _ => .error (.raised "AttributeError" "'int' object has no attribute 'get'")
  | .float _ => .error (.raised "AttributeError" "'float' object has no attribute 'get'")
  | .str _ => .error (.raised "AttributeError" "'str' object has no attribute 'get'")
  | .arr _ => .error (.raised "AttributeError" "'list' object has no attribute 'get'")

/-- `int(gid)`. -/
def gidOfJson : JsonValue → Except PyExc Int
  | .int n => .ok n
  | .bool b => .ok (if b then 1 else 0)
  | .float (.finite q) => .ok (if 0 ≤ q then ⌊q⌋ else ⌈q⌉)
  | .float .nan => .error (.valueError "cannot convert float NaN to integer")
  | .float _ => .error (.raised "OverflowError" "cannot convert float infinity to integer")
  | .str text => int py text
  | .null => .error (.raised "TypeError"
      "int() argument must be a string, a bytes-like object or a real number, not 'NoneType'")
  | .arr _ => .error (.raised "TypeError"
      "int() argument must be a string, a bytes-like object or a real number, not 'list'")
  | .obj _ => .error (.raised "TypeError"
      "int() argument must be a string, a bytes-like object or a real number, not 'dict'")

/-- `{int(gid) for gid in gids}`, of what the payload holds under `storage_gids`. -/
def gidsOfJson : Option JsonValue → Except PyExc (List Int)
  | none => .ok []
  | some (.arr items) => items.mapM (gidOfJson py)
  | some (.str text) => text.toList.mapM fun c => int py (String.ofList [c])
  | some (.obj fields) => fields.mapM fun field => int py field.1
  | some .null => .error (.raised "TypeError" "'NoneType' object is not iterable")
  | some (.bool _) => .error (.raised "TypeError" "'bool' object is not iterable")
  | some (.int _) => .error (.raised "TypeError" "'int' object is not iterable")
  | some (.float _) => .error (.raised "TypeError" "'float' object is not iterable")

/-- The groups a marker of the same manifest holds; none where there is no such marker. -/
def markedGids (marker : Path) (fingerprint : String) : Boot (List Int) := do
  let present : Bool ← call (.isFile marker) .ok
  if present then do
    let payload ← exceptIf (call (.readMarker marker) id)
      (fun e => isOSError e || ["ValueError", "TypeError", "JSONDecodeError", "UnicodeDecodeError"].contains
        e.typeName) (fun _ => pure (.obj []))
    let found ← ofExcept (payloadGet "fingerprint" payload)
    match found with
    | some (.str text) =>
        if text = fingerprint then do
          let gids ← ofExcept (payloadGet "storage_gids" payload)
          ofExcept (gidsOfJson py gids)
        else pure []
    | _ => pure []
  else pure []

/-- `secure_model_storage`. -/
def secureModelStorage : Boot (List Int) := do
  let uid : Int ← call .euid .ok
  if uid ≠ 0 then runtimeError "model storage permissions require root before privilege drop"
  else do
    let cacheText ← getenvOr "FW_HF_CACHE_ROOT" defaultCacheRoot
    let cacheRoot ← call (.resolve cacheText) id
    let romaText ← getenvOr "FW_ROMA_ROOT" defaultRomaRoot
    let romaRoot ← call (.resolve romaText) id
    let fingerprint ← call (.digest (cacheRoot.parent ++ ["firewarning-model-cache.json"])) id
    let marker := cacheRoot.parent ++ [".firewarning-model-permissions-v2.json"]
    let cached ← markedGids py marker fingerprint
    if cached ≠ [] then do
      assertBrokerCannotReadModels cached
      pure (sortedDistinct cached)
    else do
      let modelGid ← call (.groupGid "firewarning-model") id
      let storageGids ← foldLoop (secureRoot modelGid) [cacheRoot.parent, romaRoot] []
      assertBrokerCannotReadModels storageGids
      call (.writeMarker marker fingerprint (sortedDistinct storageGids)) id
      call (.chmod marker 0o600) id
      pure (sortedDistinct storageGids)

/-! ## Privileges -/

/-- `_drop_runtime_privileges`. -/
def dropRuntimePrivileges : Boot Unit := do
  let uid : Int ← call .euid .ok
  if uid ≠ 0 then pure ()
  else do
    let username ← getenvOr "FW_RUNTIME_USER" "worker"
    let account ← call (.account username) id
    call (.initgroups username account.gid) id
    let groups ← call .getgroups id
    let storageGids ← modelStorageGids py
    call (.setgroups (sortedDistinct (groups ++ storageGids))) id
    call (.setgid account.gid) id
    call (.setuid account.uid) id
    setenv "HOME" account.dir
    let uid : Int ← call .euid .ok
    if uid ≠ account.uid then runtimeError ("failed to drop privileges to " ++ username) else pure ()

/-! ## The research sandbox -/

/-- The variables a service inherits. -/
def passthrough : List String :=
  ["CUDA_VISIBLE_DEVICES", "NVIDIA_VISIBLE_DEVICES", "NVIDIA_DRIVER_CAPABILITIES", "LD_LIBRARY_PATH"]

/-- `_service_environment`. -/
def serviceEnvironment (username controlToken brokerSocket serviceSocket : String) :
    Boot (List (String × String)) := do
  let account ← call (.account username) id
  let s ← get
  let inherited := passthrough.filterMap fun key => match s.environ key with
    | some value => if value = "" then none else some (key, value)
    | none => none
  let own := [("HOME", account.dir), ("PATH", py.binDirectory), ("PYTHONUNBUFFERED", "1"),
    ("PYTHONDONTWRITEBYTECODE", "1"), ("FW_RESEARCH_BROKER_SOCKET", brokerSocket),
    ("FW_RESEARCH_SERVICE_SOCKET", serviceSocket), ("FW_RESEARCH_BROKER_CONTROL_TOKEN", controlToken)]
  let researcher := if username = "researcher" then
      [("HF_HUB_OFFLINE", "1"), ("TRANSFORMERS_OFFLINE", "1"),
        ("HF_HOME", (s.environ "HF_HOME").getD "/runpod-volume/huggingface-cache"),
        ("FW_HF_CACHE_ROOT", (s.environ "FW_HF_CACHE_ROOT").getD "/runpod-volume/huggingface-cache/hub"),
        ("FW_ATTENTION_IMPLEMENTATION", (s.environ "FW_ATTENTION_IMPLEMENTATION").getD "flash_attention_2"),
        ("FW_RESEARCH_MODEL_TIMEOUT_SECONDS", (s.environ "FW_RESEARCH_MODEL_TIMEOUT_SECONDS").getD "840")]
    else []
  pure (inherited ++ own ++ researcher)

/-- `path.name`. -/
def baseName (path : String) : String := String.ofList (path.toList.reverse.takeWhile (· ≠ '/')).reverse

/-- The rounds of `_wait_for_socket` before its deadline.  After as many sleeps the deadline has passed. -/
def waitForSocketUntil (path : String) (pid : Nat) (deadline : ℚ) : Nat → Boot Unit
  | 0 => runtimeError ("research child did not create " ++ baseName path)
  | rounds + 1 => do
      let now : ℚ ← call .monotonic .ok
      if now < deadline then do
        let exited ← call (.poll pid) id
        if exited.isSome then runtimeError ("research child exited before creating " ++ baseName path)
        else do
          let created : Bool ← call (.pathExists path) .ok
          if created then pure ()
          else do
            call (.sleep (1 / 20)) .ok
            waitForSocketUntil path pid deadline rounds
      else runtimeError ("research child did not create " ++ baseName path)

theorem waitForSocketUntil_succ (path : String) (pid : Nat) (deadline : ℚ) (rounds : Nat) :
    waitForSocketUntil path pid deadline (rounds + 1) = (do
      let now : ℚ ← call .monotonic .ok
      if now < deadline then do
        let exited ← call (.poll pid) id
        if exited.isSome then runtimeError ("research child exited before creating " ++ baseName path)
        else do
          let created : Bool ← call (.pathExists path) .ok
          if created then pure ()
          else do
            call (.sleep (1 / 20)) .ok
            waitForSocketUntil path pid deadline rounds
      else runtimeError ("research child did not create " ++ baseName path)) := rfl

/-- `_wait_for_socket`. -/
def waitForSocket (path : String) (pid : Nat) (timeout : ℚ) : Boot Unit := do
  let now : ℚ ← call .monotonic .ok
  waitForSocketUntil path pid (now + timeout) (⌈timeout * 20⌉.toNat + 1)

/-- `except Exception: child.terminate(); child.wait(timeout=5); raise`. -/
def terminateOnFailure {α : Type} (pid : Nat) (p : Boot α) : Boot α :=
  exceptIf p PyExc.isException fun e => do
    call (.terminate pid) id
    call (.wait pid) id
    raise e

/-- The command line of a sandboxed module. -/
def sandboxed (launcher module : String) : List String := [launcher, py.executable, "-m", module]

/-- What comes after the broker was started. -/
def startResearcher (launcher brokerSocket serviceSocket : String) (broker : Nat)
    (environment : List (String × String)) : Boot Nat := do
  waitForSocket brokerSocket broker 15
  let probe ← call (.runProbe (sandboxed py launcher "fireviewer_orchestrator.seccomp_probe") environment
    "researcher") id
  if probe.returncode ≠ 0 then
    runtimeError ("research seccomp probe failed: " ++ String.ofList
      (BootstrapStatus.last500 (strip py probe.stderr).toList))
  else do
    let research ← call (.popen (sandboxed py launcher "fireviewer_evidence_ingestion.research_service")
      environment "researcher") id
    terminateOnFailure research (waitForSocket serviceSocket research 15)
    pure research

/-- `start_research_runtime`. -/
def startResearchRuntime : Boot Unit := do
  let uid : Int ← call .euid .ok
  if uid ≠ 0 then runtimeError "research isolation bootstrap requires root before privilege drop"
  else do
    let runDirectory ← getenvOr "FW_RESEARCH_RUN_DIRECTORY" "/run/firewarning"
    let brokerSocket ← getenvOr "FW_RESEARCH_BROKER_SOCKET" (runDirectory ++ "/broker.sock")
    let serviceSocket ← getenvOr "FW_RESEARCH_SERVICE_SOCKET" (runDirectory ++ "/research.sock")
    let launcher ← getenvOr "FW_RESEARCH_SANDBOX_LAUNCHER" "/usr/local/bin/fw-research-sandbox"
    let present : Bool ← call (.launcherIsFile launcher) .ok
    if present = false then runtimeError "research seccomp launcher is absent"
    else do
      let sharedGid ← call (.groupGid "firewarning") id
      call (.prepareDirectory runDirectory sharedGid) id
      call (.unlink brokerSocket) id
      call (.unlink serviceSocket) id
      let controlToken ← call .token id
      let brokerEnvironment ← serviceEnvironment py "broker" controlToken brokerSocket serviceSocket
      let researchEnvironment ← serviceEnvironment py "researcher" controlToken brokerSocket serviceSocket
      let broker ← call (.popen [py.executable, "-m", "fireviewer_evidence_ingestion.research_broker"]
        brokerEnvironment "broker") id
      let research ← terminateOnFailure broker
        (startResearcher py launcher brokerSocket serviceSocket broker researchEnvironment)
      modify fun s => { s with researchChildren := s.researchChildren ++ [broker, research] }

/-! ## `main` -/

/-- `if status_server is not None: status_server.status.update(stage)`. -/
def updateStatus (stage : String) : Boot Unit := do
  let s ← get
  if s.statusServer then call (.updateStatus stage) .ok else pure ()

/-- The status server of a persistent pod. -/
def startStatusServer : Boot Unit := do
  let port ← getenvOr "FW_POD_PORT" "8000"
  let port ← ofExcept (int py port)
  call (.startStatusServer port) id
  modify fun s => { s with statusServer := true }
  updateStatus "validating_runtime"

/-- Only a persistent pod shows its status. -/
def showStatus (module : String) : Boot Unit :=
  if module = podModule then startStatusServer py else pure ()

/-- The research sandbox, where it is wanted. -/
def startResearch (module : String) : Boot Unit := do
  let s ← get
  if module ≠ podValidationModule ∧ enabled py (s.environ "FW_ENABLE_SOURCE_RESEARCH") true = true then do
    updateStatus "starting_research_sandbox"
    startResearchRuntime py
  else pure ()

/-- The last lines of the `try` block. -/
def launch (module : String) : Boot Unit := do
  setenv "HF_HUB_OFFLINE" "1"
  setenv "TRANSFORMERS_OFFLINE" "1"
  updateStatus "launching_worker"
  dropRuntimePrivileges py
  let s ← get
  call (.execv module s.environ) id

/-- The `try` block of `main`. -/
def boot : Boot Unit := do
  let module ← runtimeModule py
  showStatus py module
  reportRuntimeDependencies py
  updateStatus "provisioning_models"
  ensureModelCache py
  updateStatus "securing_model_storage"
  let storageGids ← secureModelStorage py
  setenv modelStorageGidsEnv (joined storageGids)
  startResearch py module
  launch py module

/-- The seconds for which a failure is shown. -/
def holdSeconds (s : Process) : Int :=
  match int py ((s.environ "FW_BOOTSTRAP_FAILURE_HOLD_SECONDS").getD "300") with
  | .ok n => n
  | .error _ => 300

/-- What a persistent pod shows of a failure. -/
def showFailure (e : PyExc) : Proc Question Answer Process Raised Unit := do
  let s ← get
  if s.statusServer then do
    call (.failStatus e.typeName (BootstrapStatus.safeDetail py.wide e.text)) .ok
    call (.sleep (max 0 (min (holdSeconds py s) 900) : ℤ)) .ok
    call .closeStatusServer raised
  else pure ()

/-- The `except` clause of `main`. -/
def reportFailure (e : PyExc) : Proc Question Answer Process Raised Unit := do
  showFailure py e
  raise (.systemExit 78)

/-- What the `except` clause of `main` catches. -/
def caughtByMain : Raised → Option (Proc Question Answer Process Raised Unit)
  | .py e => if e.isException then some (reportFailure py e) else none
  | .systemExit _ => none

/-- **The bootstrap.** -/
def main : Proc Question Answer Process Raised Unit := tryExcept (mapError .py (boot py)) (caughtByMain py)

end Bootstrap

end FireviewerOrchestrator
