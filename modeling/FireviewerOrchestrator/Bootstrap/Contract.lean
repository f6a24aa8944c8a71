/-
  The terms on which pods share a volume, and what the bootstrap may ask when.

  A manifest is `Sound`: whatever it lists is there as a whole.  It is replaced in one step, under the
  lock, after everything it lists was downloaded; and what is there as a whole is never lost.  So a
  manifest that was read once says enough for ever, even if it was read without the lock, and even if
  pods are killed in the middle of their downloads (`Sound.complete`, `locked_complete`).

  `Notes` is what a pod has been told, and `due` what has to hold when it asks: of a download, that the
  pod holds the lock, is online for it and needs it; of the marker of the storage's groups, that the
  broker has none of them; of the worker's start, all that the bootstrap is for.
-/
import FireviewerOrchestrator.Bootstrap.Program

set_option linter.unusedVariables false

namespace FireviewerOrchestrator

namespace Bootstrap

open Guarded

/-! ## The volume -/

/-- Where the volume is mounted, and the file its pods lock. -/
structure Mount where
  cacheRoot : Path
  romaRoot : Path
  lockPath : Path

namespace Mount

variable (mount : Mount)

/-- The models are there as a whole, and the assets are. -/
structure Complete (models : List ModelSpec) (w : Volume) : Prop where
  snapshots : ∀ spec ∈ models, w.complete (snapshotPath mount.cacheRoot (entryOf spec)) = true
  assets : ∀ asset ∈ romaAssets, w.assets (assetPath mount.romaRoot asset) = true

/-- The volume's manifest lists an entry. -/
def Lists (w : Volume) (entry : ManifestEntry) : Prop :=
  ∃ manifest entries, w.manifests (manifestPath mount.cacheRoot) = some manifest ∧
    manifest.models = some entries ∧ some entry ∈ entries

/-- **What the manifest lists is there as a whole.** -/
structure Sound (w : Volume) : Prop where
  snapshots : ∀ entry, mount.Lists w entry → w.complete (snapshotPath mount.cacheRoot entry) = true
  assets : ∀ manifest, w.manifests (manifestPath mount.cacheRoot) = some manifest →
    ∀ asset ∈ romaAssets, w.assets (assetPath mount.romaRoot asset) = true

/-- The variables of a pod that mounts the volume here. -/
structure Mounts (resolve : String → Path) (environ : String → Option String) : Prop where
  cacheRoot : resolve ((environ "FW_HF_CACHE_ROOT").getD defaultCacheRoot) = mount.cacheRoot
  romaRoot : resolve ((environ "FW_ROMA_ROOT").getD defaultRomaRoot) = mount.romaRoot
  lockPath : resolve ((environ "FW_MODEL_PREFETCH_LOCK_PATH").getD
    (Path.text (mount.cacheRoot.parent ++ [".firewarning-model-prefetch.lock"]))) = mount.lockPath

end Mount

/-- What whoever holds the lock does to the volume: nothing that is there as a whole is lost. -/
structure Volume.Keeps (w w' : Volume) : Prop where
  complete : ∀ path, w.complete path = true → w'.complete path = true
  assets : ∀ path, w.assets path = true → w'.assets path = true

section Volume

variable {mount : Mount} {models : List ModelSpec} {w w' w'' : Volume}

theorem Volume.Keeps.refl (w : Volume) : w.Keeps w := ⟨fun _ h => h, fun _ h => h⟩

theorem Volume.Keeps.trans (h : w.Keeps w') (h' : w'.Keeps w'') : w.Keeps w'' :=
  ⟨fun path hpath => h'.complete path (h.complete path hpath),
    fun path hpath => h'.assets path (h.assets path hpath)⟩

theorem Volume.Grows.keeps (h : w.Grows w') : w.Keeps w' := ⟨h.complete, h.assets⟩

theorem Mount.Complete.keeps (h : mount.Complete models w) (hw : w.Keeps w') : mount.Complete models w' :=
  ⟨fun spec hspec => hw.complete _ (h.snapshots spec hspec),
    fun asset hasset => hw.assets _ (h.assets asset hasset)⟩

/-- A download keeps a sound manifest sound. -/
theorem Mount.Sound.grows (h : mount.Sound w) (hw : w.Grows w') : mount.Sound w' := by
  constructor
  · rintro entry ⟨manifest, entries, hmanifest, hmodels, hentry⟩
    rw [hw.manifests] at hmanifest
    exact hw.complete _ (h.snapshots entry ⟨manifest, entries, hmanifest, hmodels, hentry⟩)
  · intro manifest hmanifest asset hasset
    rw [hw.manifests] at hmanifest
    exact hw.assets _ (h.assets manifest hmanifest asset hasset)

theorem Volume.writeManifest_manifests (path : Path) (manifest : Manifest) (w : Volume) :
    (w.writeManifest path manifest).manifests path = some manifest := by
  show Function.update w.manifests path (some manifest) path = _
  rw [Function.update_self]

theorem Volume.keeps_writeManifest (path : Path) (manifest : Manifest) (w : Volume) :
    w.Keeps (w.writeManifest path manifest) := ⟨fun _ h => h, fun _ h => h⟩

/-- A new manifest is sound if all it lists is there. -/
theorem Mount.sound_writeManifest {entries : List ManifestEntry} {revision : Option String}
    (hentries : ∀ entry ∈ entries, w.complete (snapshotPath mount.cacheRoot entry) = true)
    (hassets : ∀ asset ∈ romaAssets, w.assets (assetPath mount.romaRoot asset) = true) :
    mount.Sound (w.writeManifest (manifestPath mount.cacheRoot) ⟨some (entries.map some), revision⟩) := by
  constructor
  · rintro entry ⟨manifest, listed, hmanifest, hmodels, hentry⟩
    rw [Volume.writeManifest_manifests] at hmanifest
    obtain rfl := Option.some.inj hmanifest
    obtain rfl := Option.some.inj hmodels
    obtain ⟨entry', hmem, heq⟩ := List.mem_map.mp hentry
    obtain rfl := Option.some.inj heq
    exact hentries entry' hmem
  · exact fun _ _ => hassets

/-- **A manifest that lists the models is enough.** -/
theorem Mount.Sound.complete (h : mount.Sound w) {manifest : Manifest}
    (hmanifest : w.manifests (manifestPath mount.cacheRoot) = some manifest)
    (hmodels : manifest.models = some (expectedModels models)) : mount.Complete models w := by
  constructor
  · intro spec hspec
    refine h.snapshots _ ⟨manifest, _, hmanifest, hmodels, ?_⟩
    exact List.mem_map.mpr ⟨spec, hspec, rfl⟩
  · exact h.assets manifest hmanifest

end Volume

/-! ## Notes -/

/-- What a pod has been told. -/
structure Notes where
  /-- The last reading of the manifest raised. -/
  readFailed : Bool := false
  /-- The broker's groups. -/
  brokerGids : Option (List Int) := none
  /-- The sandbox probe has succeeded. -/
  probed : Bool := false
  /-- The children that were started, and those that were told to terminate. -/
  started : List Nat := []
  terminated : List Nat := []
  /-- The last account that was looked up. -/
  account : Option (String × Account) := none
  uid : Option Int := none
  /-- What the status server was told. -/
  stages : List String := []
  failures : List (String × String) := []
  /-- How its closing ended. -/
  closed : Option (Except PyExc Unit) := none
  /-- How long the process slept last. -/
  slept : Option ℚ := none
  executed : Bool := false

namespace Notes

def note (g : Notes) : (q : Question) → Answer q → Notes
  | .readManifest _, a => { g with readFailed := !Except.toBool a }
  | .groupList name _, a => { g with
      brokerGids := match a with
        | .ok gids => if name = "broker" then some gids else g.brokerGids
        | .error _ => g.brokerGids }
  | .runProbe _ _ _, a => { g with
      probed := match a with
        | .ok completed => completed.returncode == 0
        | .error _ => false }
  | .popen _ _ _, a => { g with
      started := match a with
        | .ok pid => g.started ++ [pid]
        | .error _ => g.started }
  | .terminate pid, _ => { g with terminated := g.terminated ++ [pid] }
  | .account name, a => { g with
      account := match a with
        | .ok account => some (name, account)
        | .error _ => g.account }
  | .euid, uid => { g with uid := some uid }
  | .updateStatus stage, _ => { g with stages := g.stages ++ [stage] }
  | .failStatus errorType errorDetail, _ => { g with failures := g.failures ++ [(errorType, errorDetail)] }
  | .sleep seconds, _ => { g with slept := some seconds }
  | .closeStatusServer, a => { g with closed := some a }
  | .execv _ _, a => { g with executed := Except.toBool a }
  | _, _ => g

end Notes

/-! ## What is due -/

section Due

variable (py : Interpreter) (mount : Mount)

/-- The models a process with these variables will look up. -/
def modelsOf (environ : String → Option String) : List ModelSpec :=
  Models.enabledPublicModels { toTextTables := py.toTextTables, getenv := environ }

/-- The process may use the network, or may not. -/
def Online (environ : String → Option String) : Prop :=
  environ "HF_HUB_OFFLINE" = some "0" ∧ environ "TRANSFORMERS_OFFLINE" = some "0"

def Offline (environ : String → Option String) : Prop :=
  environ "HF_HUB_OFFLINE" = some "1" ∧ environ "TRANSFORMERS_OFFLINE" = some "1"

/-- The stages, in their order. -/
def bootStages : List String :=
  ["validating_runtime", "provisioning_models", "securing_model_storage", "starting_research_sandbox",
    "launching_worker"]

/-- A download is due: the pod holds the lock and is online, one of its models is not there, and nothing
    has failed yet. -/
structure DownloadDue (u : Stage) (g : Notes) (modelId revision : String) (snapshot : Path)
    (environ : String → Option String) (w : Volume) : Prop where
  locked : u = .inside
  online : Online environ
  /-- It is the pinned revision of a model that is enabled, and is not both listed and there. -/
  needed : ∃ spec ∈ modelsOf py environ, spec.modelId = modelId ∧ spec.revision = revision ∧
    snapshot = snapshotPath mount.cacheRoot (entryOf spec) ∧
    (g.readFailed = false → mount.Lists w (entryOf spec) → w.weights snapshot = false)

/-- The groups are recorded, and the broker is in none of them. -/
def Unreadable (g : Notes) (gids : List Int) : Prop :=
  ∃ brokerGids, g.brokerGids = some brokerGids ∧ ∀ gid ∈ gids, gid ∉ brokerGids

/-- The process is not root, or it is this user. -/
def Dropped (g : Notes) (username : String) : Prop :=
  ∃ uid, g.uid = some uid ∧ (uid ≠ 0 ∨ ∃ account, g.account = some (username, account) ∧ uid = account.uid)

/-- **The worker's start is due.** -/
structure LaunchDue (u : Stage) (g : Notes) (module : String) (environ : String → Option String)
    (w : Volume) : Prop where
  unlocked : u ≠ .inside
  /-- The module is the one of the configured mode. -/
  mode : runtimeModules.lookup (lower py (strip py ((environ "FW_RUN_MODE").getD "serverless"))) = some module
  offline : Offline environ
  /-- Every model the worker will look up is there as a whole. -/
  complete : mount.Complete (modelsOf py environ) w
  /-- The broker can read none of them. -/
  unreadable : ∃ gids, environ modelStorageGidsEnv = some (joined gids) ∧ Unreadable g gids
  /-- Where research is wanted, its sandbox was probed and both of its children run. -/
  research : module ≠ podValidationModule → enabled py (environ "FW_ENABLE_SOURCE_RESEARCH") true = true →
    g.probed = true ∧ g.started.length = 2 ∧ g.terminated = []
  dropped : Dropped g ((environ "FW_RUNTIME_USER").getD "worker")
  unreported : g.failures = []

/-- What has to hold when a question is asked. -/
def due (u : Stage) (g : Notes) : Question → Volume → Prop
  | .snapshotDownload modelId revision snapshot environ, w =>
      DownloadDue py mount u g modelId revision snapshot environ w
  | .provisionAssets _ _ environ, _ => u = .inside ∧ Online environ
  | .writePartial _ _, _ | .replaceManifest _ _, _ => u = .inside
  | .writeMarker _ _ gids, _ => Unreadable g gids
  | .updateStatus stage, _ => (g.stages ++ [stage]).Sublist bootStages ∧ g.failures = []
  | .failStatus _ _, _ => g.failures = [] ∧ g.executed = false
  | .execv module environ, w => LaunchDue py mount u g module environ w
  | _, _ => True

/-- **The terms** on which pods share a volume. -/
def terms (resolve : String → Path) : Contract Question Answer Volume Notes where
  toWorld := world resolve
  note := Notes.note
  due := due py mount
  always := mount.Sound
  resting _ := True
  anytime := Eq
  locked := Volume.Keeps
  anytime_refl _ := rfl
  anytime_trans h h' := h.trans h'
  locked_trans h h' := h.trans h'
  locked_of_anytime h := h ▸ Volume.Keeps.refl _
  resting_of_anytime _ h := h
  resting_of_kills _ _ _ := trivial

end Due

/-! ## Quiet questions -/

/-- The questions that say nothing of the volume and are not noted. -/
def isQuiet : Question → Bool
  | .version _ | .stackId | .startStatusServer _ | .resolve _ | .makeDirs _ | .openLock _ | .closeLock _
  | .importHub | .groupGid _ | .digest _ | .isFile _ | .readMarker _ | .walk _ | .isSymlink _ | .isDir _
  | .chown _ _ | .chmod _ _ | .gidOf _ | .launcherIsFile _ | .prepareDirectory _ _ | .unlink _ | .token
  | .monotonic | .poll _ | .pathExists _ | .wait _ | .initgroups _ _ | .getgroups | .setgroups _ | .setgid _
  | .setuid _ | .weightFiles _ | .assetMatches _ _ => true
  | _ => false

theorem quiet_of_isQuiet (py : Interpreter) (mount : Mount) (resolve : String → Path) (u : Stage)
    (q : Question) (h : isQuiet q = true) : (terms py mount resolve).Quiet u q := by
  cases q
  all_goals first
    | exact Bool.noConfusion h
    | exact ⟨fun h => h, fun h => h, fun _ _ => trivial, fun _ _ => rfl⟩
    | exact ⟨fun h => h.1, fun h => h, fun _ _ => trivial, fun _ _ => rfl⟩

end Bootstrap

end FireviewerOrchestrator
