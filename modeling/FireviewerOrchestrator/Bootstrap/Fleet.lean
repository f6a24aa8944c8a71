/-
  Any number of pods, one volume: what holds in every run of their bootstraps.

  The pods start together or at different times, wait for each other at the lock, and are killed at any
  moment, also in the middle of a download.  All that `complies_main` says of one bootstrap then holds of
  each of them (`begins_fleet`).  The theorems read it off a log: of a worker's start, of a download, of
  what a status server was told, and of how a bootstrap ended.
-/
import FireviewerOrchestrator.Bootstrap.Booted

set_option linter.unusedVariables false

namespace FireviewerOrchestrator

namespace Bootstrap

open Guarded Transition

section Fleet

variable {θ : Type} [DecidableEq θ]

/-- The pods as they begin. -/
def fleet (py : Interpreter) (processes : θ → Process) (volume : Volume) :
    Site θ Question Answer Volume (Raised × Process) (Unit × Process) where
  code i := main py (processes i)
  store := volume
  killed _ := False

/-- All pods mount the volume in one place, and its manifest is sound. -/
structure Deployed (mount : Mount) (resolve : String → Path) (processes : θ → Process) (volume : Volume) :
    Prop where
  mounts : ∀ i, mount.Mounts resolve (processes i).environ
  childless : ∀ i, (processes i).researchChildren = []
  sound : mount.Sound volume

/-- What one pod has been told. -/
def told (i : θ) (ls : List (θ × Deed Question Answer)) : Notes := notes Notes.note {} i ls

variable {py : Interpreter} {mount : Mount} {resolve : String → Path} {processes : θ → Process} {volume : Volume}
  {s : Site θ Question Answer Volume (Raised × Process) (Unit × Process)}
  {ls pre post : List (θ × Deed Question Answer)} {i : θ}

omit [DecidableEq θ] in
/-- Every pod keeps the terms, and its answers say how it ends. -/
theorem begins_traced (py : Interpreter) (h : Deployed mount resolve processes volume) :
    Begins (terms py mount resolve).traced (fun i => (MainPost py (processes i)).on) (fun _ => ({}, []))
      (fleet py processes volume) where
  owns i := complies_main (h.mounts i) h.sound (h.childless i)
  free := rfl
  alive _ h := h
  always := h.sound
  resting := trivial

omit [DecidableEq θ] in
/-- Every pod keeps the terms. -/
theorem begins_fleet (py : Interpreter) (h : Deployed mount resolve processes volume) :
    Begins (terms py mount resolve) (fun i v g w r => ∃ answers, (MainPost py (processes i)).on v (g, answers) w r)
      (fun _ => {}) (fleet py processes volume) where
  owns i := ((begins_traced py h).owns i).untraced
  free := rfl
  alive _ h := h
  always := h.sound
  resting := trivial

/-- Nobody ends at the lock. -/
theorem not_ended_inside {p : Process} {g : Notes × List ((q : Question) × Answer q)} {w : Volume}
    {r : Except (Raised × Process) (Unit × Process)} : ¬ (MainPost py p).on .inside g w r := by
  rcases r with ⟨e, s⟩ | ⟨a, s⟩
  · exact fun hended => hended.1 rfl
  · exact fun hended => hended.1 rfl

/-- Every question has an answer. -/
theorem exists_answer (q : Question) (w : Volume) : ∃ a w', effect resolve q w a w' := by
  have e : PyExc := .raised "OSError" ""
  cases q
  case resolve text => exact ⟨.error e, w, rfl, fun path h => by cases h⟩
  case readManifest path => exact ⟨.error e, w, rfl, fun path h => by cases h⟩
  case weightFiles path => exact ⟨.error e, w, rfl, fun found h => by cases h⟩
  case assetMatches path asset => exact ⟨.error e, w, rfl, fun found h => by cases h⟩
  case snapshotDownload modelId revision snapshot environ =>
    exact ⟨.error e, w, ⟨rfl, fun _ h => h, fun _ h => h, fun _ h => h⟩, fun h => by cases h⟩
  case provisionAssets root assets environ =>
    exact ⟨.error e, w, ⟨rfl, fun _ h => h, fun _ h => h, fun _ h => h⟩, fun revision h => by cases h⟩
  case replaceManifest path manifest => exact ⟨.error e, w, ⟨fun h => (by cases h), fun _ _ => rfl⟩⟩
  case updateStatus | failStatus | sleep => exact ⟨(), w, rfl⟩
  case euid => exact ⟨(0 : ℤ), w, rfl⟩
  case monotonic => exact ⟨(0 : ℚ), w, rfl⟩
  case isFile | isSymlink | isDir | launcherIsFile | pathExists => exact ⟨false, w, rfl⟩
  case walk => exact ⟨[], w, rfl⟩
  all_goals exact ⟨.error e, w, rfl⟩

/-! ## Two pods -/

/-- A host that knows the ASCII characters, and has no links. -/
def asciiHost : Interpreter where
  toTextTables := .ascii
  wide := .ascii
  executable := "/usr/bin/python3"
  binDirectory := "/usr/bin"

def resolveText (text : String) : Path := ((text.toList.splitOn '/').filter (· ≠ [])).map String.ofList

/-- A pod that runs as root. -/
def configured (mode : String) : Process where
  environ name := [("FW_RUN_MODE", mode), ("FW_ATTENTION_IMPLEMENTATION", "flash_attention_2"),
    ("FW_RUNTIME_USER", "root")].lookup name

def defaultMount : Mount where
  cacheRoot := resolveText defaultCacheRoot
  romaRoot := resolveText defaultRomaRoot
  lockPath := resolveText (Path.text ((resolveText defaultCacheRoot).parent ++ [".firewarning-model-prefetch.lock"]))

def emptyVolume : Volume where
  manifests _ := none
  weights _ := false
  complete _ := false
  assets _ := false

def stockedVolume : Volume where
  manifests _ := some { models := some (expectedModels (modelsOf asciiHost (configured "pod_validation").environ)) }
  weights _ := true
  complete _ := true
  assets _ := true

/-- What a host without a network answers that mounts a volume. -/
def answerOf (w : Volume) : (q : Question) → Answer q
  | .version _ | .stackId | .token | .digest _ => .ok "1"
  | .snapshotDownload _ _ _ _ | .provisionAssets _ _ _ | .replaceManifest _ _ =>
      .error (.raised "OSError" "the network is unreachable")
  | .startStatusServer _ | .closeStatusServer | .makeDirs _ | .openLock _ | .closeLock _ | .importHub
  | .writePartial _ _ | .writeMarker _ _ _ | .chown _ _ | .chmod _ _ | .prepareDirectory _ _ | .unlink _
  | .terminate _ | .wait _ | .initgroups _ _ | .setgroups _ | .setgid _ | .setuid _ | .execv _ _ => .ok ()
  | .updateStatus _ | .failStatus _ _ | .sleep _ => ()
  | .resolve text => .ok (resolveText text)
  | .readManifest path => .ok (w.manifests path)
  | .weightFiles path => .ok (w.weights path)
  | .assetMatches path _ => .ok (w.assets path)
  | .euid => (0 : ℤ)
  | .account name => .ok ⟨0, 0, "/" ++ name⟩
  | .groupGid _ | .gidOf _ => .ok 2000
  | .groupList _ _ | .getgroups => .ok [0]
  | .isFile _ | .isSymlink _ | .isDir _ | .launcherIsFile _ | .pathExists _ => false
  | .readMarker _ => .ok .null
  | .walk root => [(root, [], ["weights"])]
  | .popen _ _ _ => .ok 7
  | .runProbe _ _ _ => .ok ⟨0, "", ""⟩
  | .monotonic => (0 : ℚ)
  | .poll _ => .ok none

/-- The answers leave the volume as it is. -/
def answered (q : Question) (w : Volume) : Answer q × Volume := (answerOf w q, w)

theorem effect_answered (q : Question) (w : Volume) :
    (world resolveText).effect q w (answered q w).1 (answered q w).2 := by
  cases q
  case resolve text => exact ⟨rfl, fun path h => (Except.ok.inj h).symm⟩
  case readManifest path => exact ⟨rfl, fun manifest h => (Except.ok.inj h).symm⟩
  case weightFiles path => exact ⟨rfl, fun found h => (Except.ok.inj h).symm⟩
  case assetMatches path asset => exact ⟨rfl, fun found h hassets => (Except.ok.inj h).symm.trans hassets⟩
  case snapshotDownload modelId revision snapshot environ =>
    exact ⟨⟨rfl, fun _ h => h, fun _ h => h, fun _ h => h⟩, fun h => by cases h⟩
  case provisionAssets root assets environ =>
    exact ⟨⟨rfl, fun _ h => h, fun _ h => h, fun _ h => h⟩, fun revision h => by cases h⟩
  case replaceManifest path manifest => exact ⟨fun h => (by cases h), fun _ _ => rfl⟩
  all_goals rfl

/-- The same host with a network: what is downloaded is there, and what is replaced is replaced. -/
def provided : (q : Question) → Volume → Answer q × Volume
  | .snapshotDownload _ _ snapshot _, w => (.ok (), { w with
      weights := fun path => path = snapshot || w.weights path
      complete := fun path => path = snapshot || w.complete path })
  | .provisionAssets root assets _, w => (.ok "1", { w with
      assets := fun path => (assets.map (assetPath root)).contains path || w.assets path })
  | .replaceManifest path manifest, w => (.ok (), w.writeManifest path manifest)
  | q, w => answered q w

/-- Two pods of one mode. -/
def twoPods (mode : String) (w : Volume) : Site (Fin 2) Question Answer Volume (Raised × Process) (Unit × Process) :=
  fleet asciiHost (fun _ => configured mode) w

theorem mounts_configured (mode : String) : defaultMount.Mounts resolveText (configured mode).environ := by
  constructor <;> rfl

theorem deployed_empty (mode : String) :
    Deployed defaultMount resolveText (fun _ : Fin 2 => configured mode) emptyVolume where
  mounts _ := mounts_configured mode
  childless _ := rfl
  sound := by
    constructor
    · rintro entry ⟨manifest, entries, hmanifest, -⟩
      cases hmanifest
    · intro manifest hmanifest
      cases hmanifest

theorem deployed_stocked (mode : String) :
    Deployed defaultMount resolveText (fun _ : Fin 2 => configured mode) stockedVolume where
  mounts _ := mounts_configured mode
  childless _ := rfl
  sound := ⟨fun _ _ => rfl, fun _ _ _ _ => rfl⟩

def isLaunch : Deed Question Answer → Bool
  | .answered (.execv _ _) _ => true
  | _ => false

def isDownload : Deed Question Answer → Bool
  | .answered (.snapshotDownload _ _ _ _) _ => true
  | _ => false

/-- On a stocked volume a worker is started. -/
theorem exists_launch : ∃ module environ a pre post s, Run (SiteStep (world resolveText))
    (twoPods "pod_validation" stockedVolume) (pre ++ (0, .answered (.execv module environ) a) :: post) s := by
  have hlaunch : (solo answered 100 false stockedVolume ((twoPods "pod_validation" stockedVolume).code 0)).log.any
      isLaunch = true := by decide +kernel
  obtain ⟨deed, pre, post, s, hdeed, hrun⟩ := exists_run_solo (s := twoPods "pod_validation" stockedVolume)
    effect_answered (fun h => h) rfl hlaunch
  unfold isLaunch at hdeed
  split at hdeed
  · exact ⟨_, _, _, pre, post, s, hrun⟩
  · cases hdeed

/-- On an empty one a download is tried. -/
theorem exists_download : ∃ modelId revision snapshot environ a pre post s, Run (SiteStep (world resolveText))
    (twoPods "pod" emptyVolume)
    (pre ++ (0, .answered (.snapshotDownload modelId revision snapshot environ) a) :: post) s := by
  have hdownload : (solo answered 100 false emptyVolume ((twoPods "pod" emptyVolume).code 0)).log.any
      isDownload = true := by decide +kernel
  obtain ⟨deed, pre, post, s, hdeed, hrun⟩ := exists_run_solo (s := twoPods "pod" emptyVolume) effect_answered
    (fun h => h) rfl hdownload
  unfold isDownload at hdeed
  split at hdeed
  · exact ⟨_, _, _, _, _, pre, post, s, hrun⟩
  · cases hdeed

/-- And then the bootstrap ends. -/
theorem exists_end : ∃ ls s result, Run (SiteStep (world resolveText)) (twoPods "pod" emptyVolume) ls s ∧
    ¬ s.killed 0 ∧ s.code 0 = .done result := by
  have hdone : (solo answered 100 false emptyVolume ((twoPods "pod" emptyVolume).code 0)).code.isDone = true := by
    decide +kernel
  obtain ⟨result, hresult⟩ := Code.exists_eq_done hdone
  obtain ⟨s, hrun, hs⟩ := run_solo (s := twoPods "pod" emptyVolume) (i := 0) effect_answered (fun h => h) 100 false rfl
  exact ⟨_, s, result, hrun, hs.killed ▸ fun h => h, hs.code.trans hresult⟩

/-- The second pod waits while the first is about to download. -/
theorem exists_waiting : ∃ ls s, Run (SiteStep (world resolveText)) (twoPods "pod" emptyVolume) ls s ∧
    s.holder = some 0 ∧ (s.code 1).isWaiting = true ∧ ∀ i, ¬ s.killed i := by
  have hwaits : waitsBehind answered 20 33 emptyVolume ((twoPods "pod" emptyVolume).code 1)
      ((twoPods "pod" emptyVolume).code 0) = true := by decide +kernel
  obtain ⟨ls, s, hrun, hholds, hwaiting, hkilled⟩ := exists_waiting_run (s := twoPods "pod" emptyVolume) (i := 0)
    effect_answered (fun _ h => h) rfl (by decide) hwaits
  exact ⟨ls, s, hrun, hholds, hwaiting, fun i => hkilled ▸ fun h => h⟩

/-! ## Every run -/

/-- **A worker starts behind its gates**: the module is the one of the configured mode, the lock is not
    held, the storage's groups are none of the broker's, the research sandbox was probed and both of its
    children run, and the process is not root unless root was configured. -/
theorem worker_behind_gates (h : Deployed mount resolve processes volume) {module : String}
    {environ : String → Option String} {a : Answer (.execv module environ)}
    (hrun : Run (SiteStep (world resolve)) (fleet py processes volume)
      (pre ++ (i, .answered (.execv module environ) a) :: post) s) :
    (∃ t, Run (SiteStep (world resolve)) (fleet py processes volume) pre t ∧ t.holder ≠ some i) ∧
      runtimeModules.lookup (lower py (strip py ((environ "FW_RUN_MODE").getD "serverless"))) = some module ∧
      (∃ gids, environ modelStorageGidsEnv = some (joined gids) ∧ Unreadable (told i pre) gids) ∧
      (module ≠ podValidationModule → enabled py (environ "FW_ENABLE_SOURCE_RESEARCH") true = true →
        (told i pre).probed = true ∧ (told i pre).started.length = 2 ∧ (told i pre).terminated = []) ∧
      Dropped (told i pre) ((environ "FW_RUNTIME_USER").getD "worker") := by
  obtain ⟨t, u, hpre, hholder, -, hdue, -⟩ := due_of_run (begins_fleet py h) hrun
  have hlaunch : LaunchDue py mount u (told i pre) module environ t.store := hdue
  refine ⟨⟨t, hpre, fun hholds => hlaunch.unlocked (hholder.mpr hholds)⟩, hlaunch.mode, hlaunch.unreadable,
    hlaunch.research, hlaunch.dropped⟩

theorem worker_behind_gates_stocked : ∃ (module : String) (environ : String → Option String)
      (pre : List (Fin 2 × Deed Question Answer)), runtimeModules.lookup
      (lower asciiHost (strip asciiHost ((environ "FW_RUN_MODE").getD "serverless"))) = some module ∧
    Dropped (told 0 pre) ((environ "FW_RUNTIME_USER").getD "worker") := by
  obtain ⟨module, environ, a, pre, post, s, hrun⟩ := exists_launch
  obtain ⟨-, hmode, -, -, hdropped⟩ := worker_behind_gates (deployed_stocked "pod_validation") hrun
  exact ⟨module, environ, pre, hmode, hdropped⟩

/-- **Nothing is downloaded needlessly, or by two pods at once**: whoever downloads holds the lock and is
    online, what is downloaded is the pinned revision of an enabled model, and it was not both listed and
    there. -/
theorem download_only_when_due (h : Deployed mount resolve processes volume) {modelId revision : String}
    {snapshot : Path} {environ : String → Option String}
    {a : Answer (.snapshotDownload modelId revision snapshot environ)}
    (hrun : Run (SiteStep (world resolve)) (fleet py processes volume)
      (pre ++ (i, .answered (.snapshotDownload modelId revision snapshot environ) a) :: post) s) :
    Online environ ∧ ∃ t, Run (SiteStep (world resolve)) (fleet py processes volume) pre t ∧ t.holder = some i ∧
      ∃ spec ∈ modelsOf py environ, spec.modelId = modelId ∧ spec.revision = revision ∧
        snapshot = snapshotPath mount.cacheRoot (entryOf spec) ∧
        ((told i pre).readFailed = false → mount.Lists t.store (entryOf spec) →
          t.store.weights snapshot = false) := by
  obtain ⟨t, u, hpre, hholder, -, hdue, -⟩ := due_of_run (begins_fleet py h) hrun
  have hdownload : DownloadDue py mount u (told i pre) modelId revision snapshot environ t.store := hdue
  exact ⟨hdownload.online, t, hpre, hholder.mp hdownload.locked, hdownload.needed⟩

theorem download_only_when_due_empty : ∃ environ modelId, Online environ ∧
    ∃ spec ∈ modelsOf asciiHost environ, spec.modelId = modelId := by
  obtain ⟨modelId, revision, snapshot, environ, a, pre, post, s, hrun⟩ := exists_download
  obtain ⟨honline, t, -, -, spec, hspec, hmodel, -⟩ := download_only_when_due (deployed_empty "pod") hrun
  exact ⟨environ, modelId, honline, spec, hspec, hmodel⟩

/-! ## What a status server is told -/

/-- What a status server is told: a stage, or a failure. -/
inductive Report where
  | stage (name : String)
  | failure (errorType errorDetail : String)
  deriving DecidableEq, Repr

def reportOf : Deed Question Answer → Option Report
  | .answered (.updateStatus stage) _ => some (.stage stage)
  | .answered (.failStatus errorType errorDetail) _ => some (.failure errorType errorDetail)
  | _ => none

/-- What the status server of one pod has been told. -/
def reports (i : θ) (ls : List (θ × Deed Question Answer)) : List Report :=
  ls.filterMap fun l => if l.1 = i then reportOf l.2 else none

/-- The reports are those of the notes, stages first. -/
structure InOrder (g : Notes) (reports : List Report) : Prop where
  reports_eq : reports = g.stages.map .stage ++ g.failures.map fun failure => .failure failure.1 failure.2
  stages : g.stages.Sublist bootStages
  failures : g.failures.length ≤ 1

theorem InOrder.note {g : Notes} {rs : List Report} (h : InOrder g rs) {q : Question} (a : Answer q) {u : Stage}
    {w : Volume} (hdue : due py mount u g q w) : InOrder (g.note q a) (rs ++ (reportOf (.answered q a)).toList) := by
  obtain ⟨hreports, hstages, hfailures⟩ := h
  cases q
  case updateStatus stage =>
    obtain ⟨hshown, hno⟩ := hdue
    refine ⟨?_, hshown, hfailures⟩
    show rs ++ [.stage stage] = (g.stages ++ [stage]).map .stage ++ g.failures.map _
    rw [hreports, hno]
    simp
  case failStatus errorType errorDetail =>
    obtain ⟨hno, -⟩ := hdue
    refine ⟨?_, hstages, ?_⟩
    · show rs ++ [.failure errorType errorDetail] = g.stages.map .stage ++ (g.failures ++ [(errorType, errorDetail)]).map _
      rw [hreports, hno]
      simp
    · show (g.failures ++ [(errorType, errorDetail)]).length ≤ 1
      rw [hno]
      simp
  all_goals exact ⟨(List.append_nil rs).trans hreports, hstages, hfailures⟩

/-- **A status server is told the stages in their order, then at most one failure**, and nothing after it. -/
theorem reports_in_order (h : Deployed mount resolve processes volume)
    (hrun : Run (SiteStep (world resolve)) (fleet py processes volume) ls s) :
    ∃ (stages : List String) (failures : List (String × String)),
      reports i ls = stages.map .stage ++ failures.map (fun failure => .failure failure.1 failure.2) ∧
      stages.Sublist bootStages ∧ failures.length ≤ 1 := by
  -- what is due keeps the order
  have horder : InOrder (told i ls) (reports i ls) :=
    logged_of_run (begins_fleet py h) ⟨rfl, rfl, rfl, rfl⟩ ⟨rfl, List.nil_sublist _, Nat.zero_le 1⟩
      (fun g rs q a u w hdue hI => hI.note a hdue) hrun
  exact ⟨(told i ls).stages, (told i ls).failures, horder.reports_eq, horder.stages, horder.failures⟩

theorem reports_in_order_two_pods : ∃ (ls : List (Fin 2 × Deed Question Answer)) (stages : List String)
      (failures : List (String × String)),
    reports 0 ls = stages.map .stage ++ failures.map (fun failure => .failure failure.1 failure.2) ∧
      stages.Sublist bootStages ∧ failures.length ≤ 1 := by
  obtain ⟨ls, s, result, hrun, -, -⟩ := exists_end
  exact ⟨ls, reports_in_order (deployed_empty "pod") hrun⟩

/-! ## How it goes on, and how it ends -/

/-- **Nobody waits for ever**: while a pod lives and has not ended, some pod can make a step. -/
theorem fleet_goes_on (h : Deployed mount resolve processes volume)
    (hrun : Run (SiteStep (world resolve)) (fleet py processes volume) ls s) (halive : ¬ s.killed i)
    (hunfinished : ∀ result, s.code i ≠ .done result) :
    ∃ j deed t, deed ≠ .killed ∧ SiteStep (world resolve) s (j, deed) t := by
  refine exists_step (begins_fleet py h) ?_ (fun q w _ => exists_answer q w) hrun halive hunfinished
  rintro j g w r ⟨answers, hended⟩
  exact not_ended_inside hended

/-- Where one waits for the other, and where that one has died of it. -/
theorem fleet_goes_on_two_pods : ∃ ls s t, Run (SiteStep (world resolveText)) (twoPods "pod" emptyVolume) ls s ∧
    s.holder = some 0 ∧ (s.code 1).isWaiting = true ∧
    (∃ j deed s', deed ≠ .killed ∧ SiteStep (world resolveText) s (j, deed) s') ∧
    SiteStep (world resolveText) s (0, .killed) t ∧ t.holder = none ∧
    ∃ j deed t', deed ≠ .killed ∧ SiteStep (world resolveText) t (j, deed) t' := by
  obtain ⟨ls, s, hrun, hholds, hwaiting, halive⟩ := exists_waiting
  have hkilled : SiteStep (world resolveText) s (0, .killed) _ := .killed trivial (halive 0) s.store (Or.inl rfl)
  refine ⟨ls, s, _, hrun, hholds, hwaiting, ?_, hkilled, if_pos hholds, ?_⟩
  · exact fleet_goes_on (i := 1) (deployed_empty "pod") hrun (halive 1) (Code.ne_done_of_isWaiting hwaiting)
  · refine fleet_goes_on (i := 1) (deployed_empty "pod") (hrun.snoc hkilled) ?_ (Code.ne_done_of_isWaiting hwaiting)
    simpa using halive 1

/-- **How a bootstrap ends**: it has started its worker, or an exception has left its `try` block and it
    exits as `Ending` says of that one.  Its lock is given back. -/
theorem bootstrap_ends (h : Deployed mount resolve processes volume)
    (hrun : Run (SiteStep (world resolve)) (fleet py processes volume) ls s) (halive : ¬ s.killed i)
    {result : Except (Raised × Process) (Unit × Process)} (hcode : s.code i = .done result) :
    s.holder ≠ some i ∧ ((∃ p, result = .ok ((), p) ∧ (told i ls).executed = true) ∨
      ∃ e raised p, result = .error (raised, p) ∧ (told i ls).executed = false ∧
        LeftBy py (processes i) (logged Deed.answer? i ls) e ∧ Ending py (told i ls) p e raised) := by
  obtain ⟨u, w, -, hended⟩ := ended_of_run (begins_traced py h) hrun halive hcode
  rw [notes_traced] at hended
  constructor
  · intro hholds
    exact (holder_of_run (begins_traced py h) (fun _ _ _ _ => not_ended_inside) hrun hholds).2 result hcode
  · rcases result with ⟨raised, p⟩ | ⟨a, p⟩
    · obtain ⟨-, hunstarted, e, hleft, hending⟩ := hended
      exact Or.inr ⟨e, raised, p, rfl, hunstarted, hleft, hending⟩
    · exact Or.inl ⟨p, rfl, hended.2⟩

/-- Without a network there are no models, and the failure is shown. -/
theorem bootstrap_ends_two_pods : ∃ ls s result, Run (SiteStep (world resolveText)) (twoPods "pod" emptyVolume) ls s ∧
    s.code 0 = .done result ∧ s.holder ≠ some 0 ∧ ((∃ p, result = .ok ((), p) ∧ (told 0 ls).executed = true) ∨
      ∃ e raised p, result = .error (raised, p) ∧ (told 0 ls).executed = false ∧
        LeftBy asciiHost (configured "pod") (logged Deed.answer? 0 ls) e ∧ Ending asciiHost (told 0 ls) p e raised) := by
  obtain ⟨ls, s, result, hrun, halive, hcode⟩ := exists_end
  obtain ⟨hfree, hending⟩ := bootstrap_ends (deployed_empty "pod") hrun halive hcode
  exact ⟨ls, s, result, hrun, hcode, hfree, hending⟩

end Fleet

end Bootstrap

end FireviewerOrchestrator
