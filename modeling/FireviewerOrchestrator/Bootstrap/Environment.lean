/-
  What the bootstrap of a pod asks of its host, and what the answers do to the mounted volume.

  The bootstrap talks to the operating system through `Question`s, and any of them that can raise may
  raise.  Only the model cache is kept as a store: several pods mount it, and a pod can be killed in the
  middle of a download.  So of a snapshot there are two facts: whether `cache_status` would find weights
  in it, and whether all of it is there, which nobody can look at.  The rest of the host (users, sockets,
  processes, the permissions of files) answers as it likes.
-/
import FireviewerOrchestrator.Bootstrap.SafeDetail
import FireviewerOrchestrator.Contracts.Configuration
import FireviewerOrchestrator.Contracts.Geometry
import FireviewerOrchestrator.Library.Procedure

set_option linter.unusedVariables false

namespace FireviewerOrchestrator

namespace Bootstrap

open Guarded

/-! ## Paths -/

/-- An absolute path without links, by its components. -/
abbrev Path := List String

namespace Path

def text (path : Path) : String := "/" ++ "/".intercalate path

def parent (path : Path) : Path := path.dropLast

end Path

/-! ## The model cache -/

/-- An entry of a manifest's `models`. -/
structure ManifestEntry where
  modelId : String
  revision : String
  role : String
  deriving DecidableEq, Repr

def entryOf (spec : ModelSpec) : ManifestEntry where
  modelId := spec.modelId
  revision := spec.revision
  role := spec.role.value

/-- A provisioning manifest, as far as it is looked at.  `models` is `none` where it is no list, and an
    element is `none` where it is no entry. -/
structure Manifest where
  models : Option (List (Option ManifestEntry))
  romaSourceRevision : Option String := none
  deriving DecidableEq, Repr

/-- `AssetSpec`. -/
structure AssetSpec where
  filename : String
  size : Nat
  sha256 : String
  deriving DecidableEq, Repr

/-- The mounted volume. -/
structure Volume where
  /-- The manifests that are JSON objects, by their path. -/
  manifests : Path → Option Manifest
  /-- Whether a snapshot's directory has weights in it. -/
  weights : Path → Bool
  /-- Whether a snapshot is there as a whole. -/
  complete : Path → Bool
  /-- Whether an asset is there, of the pinned size and digest. -/
  assets : Path → Bool

namespace Volume

/-- Files are added, and nothing that is there is lost. -/
structure Grows (w w' : Volume) : Prop where
  manifests : w'.manifests = w.manifests
  weights : ∀ path, w.weights path = true → w'.weights path = true
  complete : ∀ path, w.complete path = true → w'.complete path = true
  assets : ∀ path, w.assets path = true → w'.assets path = true

def writeManifest (path : Path) (manifest : Manifest) (w : Volume) : Volume :=
  { w with manifests := Function.update w.manifests path (some manifest) }

end Volume

/-! ## Processes -/

/-- What ends a process: an exception, or `SystemExit`. -/
inductive Raised where
  | py (e : PyExc)
  | systemExit (code : Int)
  deriving DecidableEq, Repr

/-- What the process of a bootstrap keeps: `os.environ`, whether it has a status server, and
    `_RESEARCH_CHILDREN`. -/
structure Process where
  environ : String → Option String
  statusServer : Bool := false
  researchChildren : List Nat := []

namespace Process

/-- `os.environ[name] = value`. -/
def setenv (name value : String) (s : Process) : Process :=
  { s with environ := Function.update s.environ name (some value) }

theorem setenv_environ (name value other : String) (s : Process) : (s.setenv name value).environ other
    = if other = name then some value else s.environ other := by
  show Function.update s.environ name (some value) other = _
  rw [Function.update_apply]

end Process

/-- An entry of the user database. -/
structure Account where
  uid : Int
  gid : Int
  dir : String
  deriving DecidableEq, Repr

/-- What a finished child says. -/
structure Completed where
  returncode : Int
  stdout : String
  stderr : String
  deriving DecidableEq, Repr

/-- The tables and constants of the host's interpreter. -/
structure Interpreter extends TextTables where
  wide : BootstrapStatus.WideChars
  /-- `sys.executable`, and its directory. -/
  executable : String
  binDirectory : String

/-! ## Questions -/

inductive Question where
  /-- `importlib.metadata.version`. -/
  | version (distribution : String)
  /-- `load_mvp_stack().stack_id`. -/
  | stackId
  | startStatusServer (port : Int)
  | updateStatus (stage : String)
  | failStatus (errorType errorDetail : String)
  | sleep (seconds : ℚ)
  | closeStatusServer
  /-- `Path(text).resolve()`. -/
  | resolve (text : String)
  | makeDirs (path : Path)
  /-- `json.loads(path.read_text())`: the manifest, if it is an object. -/
  | readManifest (path : Path)
  /-- Whether `_snapshot_weight_files(snapshot)` finds any. -/
  | weightFiles (snapshot : Path)
  /-- Whether the asset is a file of the pinned size. -/
  | assetMatches (path : Path) (asset : AssetSpec)
  /-- `path.open("a+b")`, and `fcntl.flock` as far as it can raise. -/
  | openLock (path : Path)
  | closeLock (path : Path)
  | importHub
  /-- `snapshot_download`, with the snapshot's directory and the variables of the process. -/
  | snapshotDownload (modelId revision : String) (snapshot : Path) (environ : String → Option String)
  /-- `provision_roma_assets`, which returns a source revision. -/
  | provisionAssets (root : Path) (assets : List AssetSpec) (environ : String → Option String)
  | writePartial (path : Path) (manifest : Manifest)
  /-- `os.replace(partial, path)`. -/
  | replaceManifest (path : Path) (manifest : Manifest)
  | euid
  | account (name : String)
  | groupGid (name : String)
  | groupList (name : String) (gid : Int)
  /-- The SHA-256 digest of a file. -/
  | digest (path : Path)
  | isFile (path : Path)
  | readMarker (path : Path)
  | writeMarker (path : Path) (fingerprint : String) (gids : List Int)
  /-- `os.walk`: directories, each with the names in it. -/
  | walk (root : Path)
  | isSymlink (path : Path)
  | isDir (path : Path)
  | chown (path : Path) (gid : Int)
  | chmod (path : Path) (mode : Nat)
  | gidOf (path : Path)
  /-- The same of the paths the research runtime is configured with. -/
  | launcherIsFile (path : String)
  | prepareDirectory (path : String) (gid : Int)
  | unlink (path : String)
  | token
  | popen (argv : List String) (environ : List (String × String)) (username : String)
  | runProbe (argv : List String) (environ : List (String × String)) (username : String)
  | monotonic
  | poll (pid : Nat)
  | pathExists (path : String)
  | terminate (pid : Nat)
  | wait (pid : Nat)
  | initgroups (username : String) (gid : Int)
  | getgroups
  | setgroups (gids : List Int)
  | setgid (gid : Int)
  | setuid (uid : Int)
  /-- `os.execv` of the interpreter on a module.  If it succeeds the process is another one. -/
  | execv (module : String) (environ : String → Option String)

/-- What a question is answered with: an exception, wherever the source can meet one. -/
def Answer : Question → Type
  | .version _ | .stackId | .token => Except PyExc String
  | .startStatusServer _ | .closeStatusServer | .makeDirs _ | .openLock _ | .closeLock _ | .importHub
  | .snapshotDownload _ _ _ _ | .writePartial _ _ | .replaceManifest _ _ | .writeMarker _ _ _
  | .chown _ _ | .chmod _ _ | .prepareDirectory _ _ | .unlink _ | .terminate _ | .wait _
  | .initgroups _ _ | .setgroups _ | .setgid _ | .setuid _ | .execv _ _ => Except PyExc Unit
  | .updateStatus _ | .failStatus _ _ | .sleep _ => Unit
  | .resolve _ => Except PyExc Path
  | .readManifest _ => Except PyExc (Option Manifest)
  | .weightFiles _ | .assetMatches _ _ => Except PyExc Bool
  | .provisionAssets _ _ _ => Except PyExc String
  | .euid => Int
  | .account _ => Except PyExc Account
  | .groupGid _ | .gidOf _ => Except PyExc Int
  | .groupList _ _ | .getgroups => Except PyExc (List Int)
  | .digest _ => Except PyExc String
  | .isFile _ | .isSymlink _ | .isDir _ | .launcherIsFile _ | .pathExists _ => Bool
  | .readMarker _ => Except PyExc JsonValue
  | .walk _ => List (Path × List String × List String)
  | .popen _ _ _ => Except PyExc Nat
  | .runProbe _ _ _ => Except PyExc Completed
  | .monotonic => ℚ
  | .poll _ => Except PyExc (Option Int)

/-! ## The world -/

/-- Where `provision_roma_assets` puts an asset. -/
def assetPath (root : Path) (asset : AssetSpec) : Path := root ++ ["weights", asset.filename]

/-- What is asked of the volume, and what an answer says of it and does to it.  `resolve` is what the
    links of the host come to. -/
def effect (resolve : String → Path) : (q : Question) → Volume → Answer q → Volume → Prop
  | .resolve text, w, a, w' => w' = w ∧ ∀ path, a = .ok path → path = resolve text
  | .readManifest path, w, a, w' => w' = w ∧ ∀ manifest, a = .ok manifest → manifest = w.manifests path
  | .weightFiles path, w, a, w' => w' = w ∧ ∀ found, a = .ok found → found = w.weights path
  | .assetMatches path _, w, a, w' => w' = w ∧ ∀ found, a = .ok found → w.assets path = true → found = true
  | .snapshotDownload _ _ path _, w, a, w' => w.Grows w' ∧ (a = .ok () → w'.complete path = true)
  | .provisionAssets root assets _, w, a, w' => w.Grows w' ∧
      ∀ revision, a = .ok revision → ∀ asset ∈ assets, w'.assets (assetPath root asset) = true
  | .replaceManifest path manifest, w, a, w' =>
      (a = .ok () → w' = w.writeManifest path manifest) ∧ (∀ e, a = .error e → w' = w)
  | _, w, _, w' => w' = w

/-- What is left when the pod is killed in the middle: a download may have got anywhere, and a manifest is
    replaced or it is not. -/
def torn : Question → Volume → Volume → Prop
  | .snapshotDownload _ _ _ _, w, w' | .provisionAssets _ _ _, w, w' => w.Grows w'
  | .replaceManifest path manifest, w, w' => w' = w ∨ w' = w.writeManifest path manifest
  | _, w, w' => w' = w

/-- **The host of the pods**, any of which may be killed. -/
def world (resolve : String → Path) : World Question Answer Volume where
  effect := effect resolve
  torn := torn
  kills := True

/-! ## Procedures of the bootstrap -/

/-- A procedure of `bootstrap.py`. -/
abbrev Boot := Proc Question Answer Process PyExc

/-- An answer, as `main` takes it outside of its `try` block. -/
def raised {α : Type} : Except PyExc α → Except Raised α
  | .ok a => .ok a
  | .error e => .error (.py e)

/-- `raise RuntimeError(message)`. -/
def runtimeError {α : Type} (message : String) : Boot α := Proc.raise (.runtimeError message)

/-- `except OSError`, by the names of its subclasses. -/
def isOSError (e : PyExc) : Bool :=
  ["OSError", "BlockingIOError", "ChildProcessError", "ConnectionError", "BrokenPipeError",
    "ConnectionAbortedError", "ConnectionRefusedError", "ConnectionResetError", "FileExistsError",
    "FileNotFoundError", "InterruptedError", "IsADirectoryError", "NotADirectoryError", "PermissionError",
    "ProcessLookupError", "TimeoutError"].contains e.typeName

end Bootstrap

end FireviewerOrchestrator
