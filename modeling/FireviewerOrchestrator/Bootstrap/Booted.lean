/-
  From `main` to the worker's start, or to the exit.

  `Booting` is what holds all through the `try` block of `main`: no lock is held, the volume is sound, the
  variables that were configured are as they were, and nothing has been reported.  Every stage keeps it
  and adds one of the facts that the worker's start needs; at the end they are put together
  (`Booting.launchDue`).  `Ending` lists how a bootstrap ends that does not start a worker.
-/
import FireviewerOrchestrator.Bootstrap.Launched

set_option linter.unusedVariables false

namespace FireviewerOrchestrator

namespace Bootstrap

open Guarded Proc

variable {py : Interpreter} {mount : Mount} {resolve : String → Path} {u : Stage} {g : Notes} {w : Volume}
  {s s₀ : Process} {k : Nat} {children : List Nat}

/-! ## The `try` block -/

/-- The variables that the bootstrap assigns. -/
def assigned : List String := ["HF_HUB_OFFLINE", "TRANSFORMERS_OFFLINE", modelStorageGidsEnv, "HOME"]

/-- The process began as `s₀`, has shown at most `k` stages, and runs these children. -/
structure Booting (mount : Mount) (s₀ : Process) (k : Nat) (children : List Nat) (u : Stage) (g : Notes)
    (w : Volume) (s : Process) : Prop where
  unlocked : u ≠ .inside
  sound : mount.Sound w
  environ : ∀ name, name ∉ assigned → s.environ name = s₀.environ name
  stages : g.stages.Sublist (bootStages.take k)
  unreported : g.failures = []
  executed : g.executed = false
  started : g.started = children
  terminated : g.terminated = []
  registered : s.researchChildren = children

/-- Every child that was started is registered, or has been told to terminate. -/
def Accounted (g : Notes) (s : Process) : Prop :=
  ∀ pid ∈ g.started, pid ∈ s.researchChildren ∨ pid ∈ g.terminated

/-- An exception has left the `try` block. -/
structure Stopped (mount : Mount) (e : PyExc) (u : Stage) (g : Notes) (w : Volume) (s : Process) : Prop where
  unlocked : u ≠ .inside
  sound : mount.Sound w
  unreported : g.failures = []
  executed : g.executed = false
  accounted : e.isException = true → Accounted g s

theorem Booting.stopped {e : PyExc} (h : Booting mount s₀ k children u g w s) : Stopped mount e u g w s := by
  refine ⟨h.unlocked, h.sound, h.unreported, h.executed, fun _ pid hpid => Or.inl ?_⟩
  rw [h.registered, ← h.started]
  exact hpid

/-- What a function leaves alone that only works for a stage. -/
structure Notes.SameReports (g g' : Notes) : Prop where
  stages : g'.stages = g.stages
  failures : g'.failures = g.failures
  executed : g'.executed = g.executed

theorem Notes.Reread.sameReports {g' : Notes} (h : g.Reread g') : g.SameReports g' := by
  obtain ⟨failed, rfl⟩ := h
  exact ⟨rfl, rfl, rfl⟩

theorem Notes.LookedUp.sameReports {g' : Notes} (h : g.LookedUp g') : g.SameReports g' := by
  obtain ⟨uid, account, brokerGids, rfl⟩ := h
  exact ⟨rfl, rfl, rfl⟩

theorem Notes.Ran.sameReports {g' : Notes} (h : g.Ran g') : g.SameReports g' := by
  obtain ⟨uid, account, probed, started, terminated, slept, rfl⟩ := h
  exact ⟨rfl, rfl, rfl⟩

/-- Which children there are, as the notes say. -/
structure Notes.SameChildren (g g' : Notes) : Prop where
  started : g'.started = g.started
  terminated : g'.terminated = g.terminated
  probed : g'.probed = g.probed

theorem Notes.Reread.sameChildren {g' : Notes} (h : g.Reread g') : g.SameChildren g' := by
  obtain ⟨failed, rfl⟩ := h
  exact ⟨rfl, rfl, rfl⟩

theorem Notes.LookedUp.sameChildren {g' : Notes} (h : g.LookedUp g') : g.SameChildren g' := by
  obtain ⟨uid, account, brokerGids, rfl⟩ := h
  exact ⟨rfl, rfl, rfl⟩

namespace Booting

variable {v : Stage} {g' : Notes} {w' : Volume} {s' : Process} {names : List String}

/-- **What a stage keeps.** -/
theorem frame (h : Booting mount s₀ k children u g w s) (hv : v ≠ .inside) (hsound : mount.Sound w')
    (hreports : g.SameReports g') (hchildren : g.SameChildren g') (hs : s.SameBut names s')
    (hnames : ∀ name ∈ names, name ∈ assigned) : Booting mount s₀ k children v g' w' s' where
  unlocked := hv
  sound := hsound
  environ name hname := (hs.environ name fun hmem => hname (hnames name hmem)).trans (h.environ name hname)
  stages := hreports.stages ▸ h.stages
  unreported := hreports.failures.trans h.unreported
  executed := hreports.executed.trans h.executed
  started := hchildren.started.trans h.started
  terminated := hchildren.terminated.trans h.terminated
  registered := hs.researchChildren.trans h.registered

theorem later (h : Booting mount s₀ k children u g w s) (hw : Elapsed py mount resolve u w v w') :
    Booting mount s₀ k children v g w' s := by
  obtain ⟨rfl, -, hsound⟩ := hw
  exact ⟨h.unlocked, hsound, h.environ, h.stages, h.unreported, h.executed, h.started, h.terminated, h.registered⟩

/-- A stage may be skipped. -/
theorem skip (h : Booting mount s₀ k children u g w s) : Booting mount s₀ (k + 1) children u g w s :=
  { h with stages := h.stages.trans (List.take_sublist_take_left (Nat.le_succ k)) }

theorem assign (name value : String) (h : Booting mount s₀ k children u g w s) (hname : name ∈ assigned) :
    Booting mount s₀ k children u g w (s.setenv name value) := by
  have hs : s.SameBut [name] (s.setenv name value) := .setenv value s (by simp)
  refine h.frame h.unlocked h.sound ⟨rfl, rfl, rfl⟩ ⟨rfl, rfl, rfl⟩ hs ?_
  simpa using hname

/-- The models are those that were configured. -/
theorem modelsOf (h : Booting mount s₀ k children u g w s) :
    modelsOf py s.environ = Bootstrap.modelsOf py s₀.environ :=
  modelsOf_congr (h.environ _ (by decide)) (h.environ _ (by decide)) (h.environ _ (by decide))

end Booting

/-! ## Stage by stage -/

/-- **The stages are shown in their order.** -/
theorem complies_updateStatus {stage : String} (hstage : bootStages[k]? = some stage)
    (h : Booting mount s₀ k children u g w s) :
    Complies (terms py mount resolve)
      (fun v g' w' r s' => r = .ok () ∧ Elapsed py mount resolve u w v w' ∧ s' = s ∧
        (∃ stages, g' = { g with stages := stages }) ∧ Booting mount s₀ (k + 1) children v g' w' s')
      u g w (updateStatus stage) s := by
  have hshown : (g.stages ++ [stage]).Sublist (bootStages.take (k + 1)) := by
    rw [List.take_add_one, hstage]
    exact h.stages.append (List.Sublist.refl [stage])
  refine complies_get_bind.mpr ?_
  by_cases hserver : s.statusServer = true
  · rw [if_pos hserver]
    refine complies_noted_call (.refl h.sound)
      (fun _ => ⟨hshown.trans (List.take_sublist _ _), h.unreported⟩) id id ?_
    intro w₁ _ hw₁
    refine ⟨rfl, hw₁, rfl, ⟨g.stages ++ [stage], rfl⟩, ?_⟩
    exact { h with sound := hw₁.sound, stages := hshown }
  · rw [if_neg hserver]
    exact ⟨rfl, .refl h.sound, rfl, ⟨g.stages, rfl⟩, h.skip⟩

/-- The first two stages in one: the mode, and the status server of a persistent pod. -/
theorem complies_showStatus {module : String} (h : Booting mount s₀ 0 children u g w s) :
    Complies (terms py mount resolve)
      (.either (fun _ v g' w' s' => v = u ∧ Booting mount s₀ 1 children v g' w' s')
        fun e v g' w' s' => Stopped mount e v g' w' s')
      u g w (showStatus py module) s := by
  unfold showStatus
  by_cases hpod : module = podModule
  · rw [if_pos hpod]
    refine complies_getenvOr_bind.mpr (complies_reads_bind reads_ofExcept (.refl h.sound) ?_
      fun w₁ e hw₁ => (h.later hw₁).stopped)
    intro w₁ port hw₁
    refine complies_reads_bind (reads_quiet rfl) hw₁ ?_ fun w₂ e hw₂ => (h.later hw₂).stopped
    intro w₂ _ hw₂
    have hserver : Booting mount s₀ 0 children u g w₂ { s with statusServer := true } := { h.later hw₂ with }
    refine complies_modify_bind.mpr ((complies_updateStatus rfl hserver).mono ?_)
    rintro v g' w' r s' ⟨rfl, hw', rfl, -, hbooting⟩
    exact ⟨hw'.stage, hbooting⟩
  · rw [if_neg hpod]
    exact ⟨rfl, h.skip⟩

/-- What was read of the mode. -/
theorem complies_runtimeModule : Complies (terms py mount resolve)
    (.either (fun module v g' w' s' => v = u ∧ g' = g ∧ w' = w ∧ s' = s ∧
        runtimeModules.lookup (lower py (strip py ((s.environ "FW_RUN_MODE").getD "serverless"))) = some module)
      fun _ v g' w' s' => v = u ∧ g' = g ∧ w' = w ∧ s' = s)
    u g w (runtimeModule py) s := by
  refine complies_getenvOr_bind.mpr (complies_ofExcept.mpr ?_)
  cases hmode : moduleOfMode (lower py (strip py ((s.environ "FW_RUN_MODE").getD "serverless"))) with
  | ok module => exact ⟨rfl, rfl, rfl, rfl, moduleOfMode_ok hmode⟩
  | error e => exact ⟨rfl, rfl, rfl, rfl⟩

/-- How the start of the research sandbox ends, where it is wanted or not. -/
def StaffedPost (py : Interpreter) (mount : Mount) (resolve : String → Path) (s₀ : Process) (module : String)
    (u : Stage) (g : Notes) (w : Volume) (s : Process) : Post Notes Volume Process PyExc Unit :=
  .either
    (fun _ v g' w' s' => Elapsed py mount resolve u w v w' ∧ g'.brokerGids = g.brokerGids ∧
      s'.environ = s.environ ∧ ∃ children, Booting mount s₀ 4 children v g' w' s' ∧
        (module ≠ podValidationModule → enabled py (s.environ "FW_ENABLE_SOURCE_RESEARCH") true = true →
          g'.probed = true ∧ children.length = 2))
    fun e v g' w' s' => Stopped mount e v g' w' s'

theorem complies_startResearch {module : String} (h : Booting mount s₀ 3 [] u g w s) :
    Complies (terms py mount resolve) (StaffedPost py mount resolve s₀ module u g w s) u g w
      (startResearch py module) s := by
  refine complies_get_bind.mpr ?_
  by_cases hwanted : module ≠ podValidationModule ∧ enabled py (s.environ "FW_ENABLE_SOURCE_RESEARCH") true = true
  · rw [if_pos hwanted]
    refine Complies.bind (complies_updateStatus rfl h) ?_ ?_
    · rintro v g₁ w₁ - s₁ ⟨-, hw₁, rfl, ⟨stages, rfl⟩, h₁⟩
      refine (complies_startResearchRuntime h₁.sound).mono ?_
      rintro v g₂ w₂ (e | _) s₂ hpost
      · obtain ⟨hw₂, rfl, hswept⟩ := hpost
        have hreports := hswept.ran.sameReports
        refine ⟨hw₂.stage ▸ h₁.unlocked, hw₂.sound, hreports.failures.trans h₁.unreported,
          hreports.executed.trans h₁.executed, fun he pid hpid => ?_⟩
        rcases hswept.terminated he pid hpid with hbefore | hterminated
        · rw [h₁.started] at hbefore
          cases hbefore
        · exact Or.inr hterminated
      · obtain ⟨hw₂, hran, hprobed, hterminated, broker, research, hstarted, rfl⟩ := hpost
        have hreports := hran.sameReports
        have hbroker : g₂.brokerGids = g.brokerGids := by
          obtain ⟨uid, account, probed, started, terminated, slept, rfl⟩ := hran
          rfl
        refine ⟨hw₁.trans hw₂, hbroker, rfl, [broker, research], ?_, fun _ _ => ⟨hprobed, rfl⟩⟩
        constructor
        · exact hw₂.stage ▸ h₁.unlocked
        · exact hw₂.sound
        · exact h₁.environ
        · exact hreports.stages ▸ h₁.stages
        · exact hreports.failures.trans h₁.unreported
        · exact hreports.executed.trans h₁.executed
        · rw [hstarted, h₁.started]
          rfl
        · exact hterminated.trans h₁.terminated
        · show s₁.researchChildren ++ [broker, research] = _
          rw [h₁.registered]
          rfl
    · rintro v g₁ w₁ e s₁ ⟨hok, -⟩
      cases hok
  · rw [if_neg hwanted]
    exact ⟨.refl h.sound, rfl, rfl, [], h.skip, fun hmodule henabled => absurd ⟨hmodule, henabled⟩ hwanted⟩

/-- **What the worker's start needs**, but for the last steps. -/
structure Equipped (py : Interpreter) (mount : Mount) (s₀ : Process) (module : String) (k : Nat)
    (children : List Nat) (u : Stage) (g : Notes) (w : Volume) (s : Process) : Prop
    extends Booting mount s₀ k children u g w s where
  mode : runtimeModules.lookup (lower py (strip py ((s₀.environ "FW_RUN_MODE").getD "serverless"))) = some module
  complete : mount.Complete (Bootstrap.modelsOf py s₀.environ) w
  unreadable : ∃ gids, s.environ modelStorageGidsEnv = some (joined gids) ∧ Unreadable g gids
  research : module ≠ podValidationModule → enabled py (s₀.environ "FW_ENABLE_SOURCE_RESEARCH") true = true →
    g.probed = true ∧ children.length = 2

/-- **The worker's start is due** once the process is offline and has dropped its privileges. -/
theorem Equipped.launchDue {module : String} (h : Equipped py mount s₀ module k children u g w s)
    (hoffline : Offline s.environ) (hdropped : Dropped g ((s.environ "FW_RUNTIME_USER").getD "worker")) :
    LaunchDue py mount u g module s.environ w where
  unlocked := h.unlocked
  mode := by
    rw [h.environ "FW_RUN_MODE" (by decide)]
    exact h.mode
  offline := hoffline
  complete := h.modelsOf ▸ h.complete
  unreadable := h.unreadable
  research hmodule henabled := by
    rw [h.environ "FW_ENABLE_SOURCE_RESEARCH" (by decide)] at henabled
    obtain ⟨hprobed, hlength⟩ := h.research hmodule henabled
    exact ⟨hprobed, h.started ▸ hlength, h.terminated⟩
  dropped := hdropped
  unreported := h.unreported

/-- How the `try` block ends. -/
def BootPost (mount : Mount) : Post Notes Volume Process PyExc Unit :=
  .either (fun _ v g' _ _ => v ≠ .inside ∧ g'.executed = true) fun e v g' w' s' => Stopped mount e v g' w' s'

theorem complies_launch {module : String} (h : Equipped py mount s₀ module 4 children u g w s) :
    Complies (terms py mount resolve) (BootPost mount) u g w (launch py module) s := by
  set offline := (s.setenv "HF_HUB_OFFLINE" "1").setenv "TRANSFORMERS_OFFLINE" "1" with hofflinedef
  have hoffline : Offline offline.environ := environ_switched s "1"
  have hassigned : Booting mount s₀ 4 children u g w offline :=
    (h.assign "HF_HUB_OFFLINE" "1" (by decide)).assign "TRANSFORMERS_OFFLINE" "1" (by decide)
  have hgids : offline.environ modelStorageGidsEnv = s.environ modelStorageGidsEnv :=
    (Process.SameBut.switched s "1").environ _ (by decide)
  refine complies_modify_bind.mpr (complies_modify_bind.mpr ?_)
  refine Complies.bind (complies_updateStatus rfl hassigned) ?_ ?_
  · rintro v g₁ w₁ - s₁ ⟨-, hw₁, rfl, ⟨stages, rfl⟩, h₁⟩
    refine Complies.bind (complies_dropRuntimePrivileges h₁.sound) ?_ ?_
    · rintro v₂ g₂ w₂ - s₂ ⟨hw₂, hhome, hlooked, hbroker, hdropped⟩
      have hnames : ∀ name ∈ ["HOME"], name ∈ assigned := by decide
      have h₂ := h₁.frame (hw₂.stage ▸ h₁.unlocked) hw₂.sound hlooked.sameReports hlooked.sameChildren hhome hnames
      have hkept : ∀ name, name ≠ "HOME" → s₂.environ name = offline.environ name :=
        fun name hname => hhome.environ name (by simpa using hname)
      obtain ⟨gids, hgids', brokerGids, hg, hunreadable⟩ := h.unreadable
      have hequipped : Equipped py mount s₀ module 5 children v₂ g₂ w₂ s₂ := by
        refine ⟨h₂, h.mode, (h.complete.keeps (keeps_of_rely hw₁.rely)).keeps (keeps_of_rely hw₂.rely), ?_, ?_⟩
        · refine ⟨gids, ?_, brokerGids, hbroker.trans hg, hunreadable⟩
          rw [hkept _ (by decide), hgids, hgids']
        · intro hmodule henabled
          obtain ⟨hprobed, hlength⟩ := h.research hmodule henabled
          exact ⟨hlooked.sameChildren.probed.trans hprobed, hlength⟩
      have hoffline₂ : Offline s₂.environ := by
        refine ⟨?_, ?_⟩
        · rw [hkept _ (by decide)]
          exact hoffline.1
        · rw [hkept _ (by decide)]
          exact hoffline.2
      have hdropped₂ : Dropped g₂ ((s₂.environ "FW_RUNTIME_USER").getD "worker") := by
        rw [hkept _ (by decide)]
        exact hdropped
      -- others may still provision models meanwhile; what is there stays
      refine complies_get_bind.mpr (Complies.call (fun w₃ hw₃ hsound₃ => ?_) ?_ ?_)
      · exact Equipped.launchDue { hequipped with
          sound := hsound₃, complete := hequipped.complete.keeps (keeps_of_rely hw₃) } hoffline₂ hdropped₂
      · rintro - w₃ w₄ hw₃ halways (rfl : w₄ = w₃)
        exact ⟨Contract.own_of_anytime rfl, halways⟩
      · rintro w₃ a w₄ hw₃ halways (rfl : w₄ = w₃)
        refine ⟨Contract.own_of_anytime rfl, halways, ?_⟩
        cases a with
        | ok _ => exact ⟨h₂.unlocked, rfl⟩
        | error e =>
          have h₃ : Booting mount s₀ 5 children v₂ g₂ w₄ s₂ := { h₂ with sound := halways }
          exact { h₃.stopped with executed := rfl }
    · rintro v₂ g₂ w₂ e s₂ ⟨hw₂, hhome, hlooked⟩
      have hnames : ∀ name ∈ ["HOME"], name ∈ assigned := by decide
      exact (h₁.frame (hw₂.stage ▸ h₁.unlocked) hw₂.sound hlooked.sameReports hlooked.sameChildren hhome
        hnames).stopped
  · rintro v g₁ w₁ e s₁ ⟨hok, -⟩
    cases hok

/-- What comes after the cache was ensured. -/
theorem complies_afterCache {module : String}
    (hmode : runtimeModules.lookup (lower py (strip py ((s₀.environ "FW_RUN_MODE").getD "serverless"))) = some module)
    (h : Booting mount s₀ 2 [] u g w s) (hcomplete : mount.Complete (Bootstrap.modelsOf py s₀.environ) w) :
    Complies (terms py mount resolve) (BootPost mount) u g w (do
      updateStatus "securing_model_storage"
      let storageGids ← secureModelStorage py
      setenv modelStorageGidsEnv (joined storageGids)
      startResearch py module
      launch py module) s := by
  refine Complies.bind (complies_updateStatus rfl h) ?_ ?_
  · rintro v g₁ w₁ - s₁ ⟨-, hw₁, rfl, ⟨stages, rfl⟩, h₁⟩
    refine Complies.bind (complies_secureModelStorage h₁.sound) ?_ ?_
    · rintro v₂ g₂ w₂ gids s₂ ⟨hw₂, rfl, hlooked, hunreadable⟩
      have hsame : s₂.SameBut [] s₂ := .refl s₂
      have h₂ := h₁.frame (hw₂.stage ▸ h₁.unlocked) hw₂.sound hlooked.sameReports hlooked.sameChildren hsame
        (fun name hname => by cases hname)
      have hassigned := h₂.assign modelStorageGidsEnv (joined gids) (by decide)
      refine complies_modify_bind.mpr (Complies.bind (complies_startResearch hassigned) ?_ ?_)
      · rintro v₃ g₃ w₃ - s₃ ⟨hw₃, hbroker, henviron, children, h₃, hresearch⟩
        refine complies_launch ⟨h₃, hmode, ?_, ?_, ?_⟩
        · exact ((hcomplete.keeps (keeps_of_rely hw₁.rely)).keeps (keeps_of_rely hw₂.rely)).keeps
            (keeps_of_rely hw₃.rely)
        · obtain ⟨brokerGids, hg, hno⟩ := hunreadable
          refine ⟨gids, ?_, brokerGids, hbroker.trans hg, hno⟩
          rw [henviron, Process.setenv_environ, if_pos rfl]
        · rw [hassigned.environ "FW_ENABLE_SOURCE_RESEARCH" (by decide)] at hresearch
          exact hresearch
      · exact fun v₃ g₃ w₃ e s₃ hstopped => hstopped
    · rintro v₂ g₂ w₂ e s₂ ⟨hw₂, rfl, hlooked⟩
      have hsame : s₂.SameBut [] s₂ := .refl s₂
      exact (h₁.frame (hw₂.stage ▸ h₁.unlocked) hw₂.sound hlooked.sameReports hlooked.sameChildren hsame
        (fun name hname => by cases hname)).stopped
  · rintro v g₁ w₁ e s₁ ⟨hok, -⟩
    cases hok

/-- **The `try` block of `main`** starts the worker when that is due, or is left by an exception. -/
theorem complies_boot (hmounts : mount.Mounts resolve s₀.environ) (hsound : mount.Sound w)
    (hregistered : s₀.researchChildren = []) :
    Complies (terms py mount resolve) (BootPost mount) .fresh {} w (boot py) s₀ := by
  have h₀ : Booting mount s₀ 0 [] .fresh {} w s₀ :=
    ⟨by decide, hsound, fun _ _ => rfl, List.nil_sublist _, rfl, rfl, rfl, rfl, hregistered⟩
  refine Complies.bind complies_runtimeModule ?_ ?_
  · rintro v g₁ w₁ module s₁ ⟨rfl, rfl, rfl, rfl, hmode⟩
    refine Complies.bind (complies_showStatus h₀) ?_ ?_
    · rintro v g₂ w₂ - s₂ ⟨rfl, h₂⟩
      refine complies_reads_bind reads_reportRuntimeDependencies (.refl h₂.sound) ?_
        fun w₃ e hw₃ => (h₂.later hw₃).stopped
      intro w₃ _ hw₃
      refine Complies.bind (complies_updateStatus rfl (h₂.later hw₃)) ?_ ?_
      · rintro v g₄ w₄ - s₄ ⟨-, hw₄, rfl, -, h₄⟩
        obtain rfl := hw₄.stage
        have hmounts₄ : mount.Mounts resolve s₄.environ := by
          constructor
          · rw [h₄.environ _ (by decide)]
            exact hmounts.cacheRoot
          · rw [h₄.environ _ (by decide)]
            exact hmounts.romaRoot
          · rw [h₄.environ _ (by decide)]
            exact hmounts.lockPath
        have honline : ∀ name ∈ onlineNames, name ∈ assigned := by decide
        have hensured : ∀ {v g' w' s'}, Ensured mount g₄ w₄ s₄ v g' w' s' → Booting mount s₁ 2 [] v g' w' s' := by
          intro v g' w' s' hended
          refine h₄.frame ?_ hended.sound hended.notes.sameReports hended.notes.sameChildren hended.locals honline
          rcases hended.stage with rfl | rfl
          · exact h₄.unlocked
          · decide
        refine Complies.bind (complies_ensureModelCache hmounts₄ h₄.sound) ?_ ?_
        · rintro v₅ g₅ w₅ - s₅ ⟨hended, hcomplete⟩
          have h₅ := hensured hended
          rw [h₄.modelsOf] at hcomplete
          exact complies_afterCache hmode h₅ hcomplete
        · exact fun v₅ g₅ w₅ e s₅ hended => (hensured hended).stopped
      · rintro v g₄ w₄ e s₄ ⟨hok, -⟩
        cases hok
    · exact fun v g₂ w₂ e s₂ hstopped => hstopped
  · rintro v g₁ w₁ e s₁ ⟨rfl, rfl, rfl, rfl⟩
    exact h₀.stopped

/-! ## The end -/

/-- The `try` block was left by this exception, as the first of the answers that were given say. -/
def LeftBy (py : Interpreter) (s₀ : Process) (answers : List ((q : Question) × Answer q)) (e : PyExc) : Prop :=
  ∃ first s', first <+: answers ∧ Gives (boot py s₀) first (.error (e, s'))

theorem LeftBy.later {answers : List ((q : Question) × Answer q)} {e : PyExc} (h : LeftBy py s₀ answers e)
    (more : List ((q : Question) × Answer q)) : LeftBy py s₀ (answers ++ more) e := by
  obtain ⟨first, s', hfirst, hgives⟩ := h
  exact ⟨first, s', hfirst.trans (List.prefix_append _ _), hgives⟩

/-- This failure was shown, for a quarter of an hour at most, and the status server's closing ended like this. -/
structure Reported (py : Interpreter) (g : Notes) (e : PyExc) (closed : Except PyExc Unit) : Prop where
  report : g.failures = [(e.typeName, BootstrapStatus.safeDetail py.wide e.text)]
  held : ∃ seconds : ℚ, g.slept = some seconds ∧ 0 ≤ seconds ∧ seconds ≤ 900
  closed : g.closed = some closed

/-- **How a bootstrap ends** that starts no worker, after `e` has left its `try` block. -/
inductive Ending (py : Interpreter) (g : Notes) (s : Process) (e : PyExc) : Raised → Prop
  | reported (hcaught : e.isException = true) (hserver : s.statusServer = true) (hreported : Reported py g e (.ok ()))
      (haccounted : Accounted g s) : Ending py g s e (.systemExit 78)
  | silent (hcaught : e.isException = true) (hserver : s.statusServer = false) (hunreported : g.failures = [])
      (haccounted : Accounted g s) : Ending py g s e (.systemExit 78)
  /-- The status server could not be closed: what that raised is what is raised. -/
  | unclosed (e' : PyExc) (hcaught : e.isException = true) (hserver : s.statusServer = true)
      (hreported : Reported py g e (.error e')) (haccounted : Accounted g s) : Ending py g s e (.py e')
  | passed (hexit : e.isException = false) (hunreported : g.failures = []) : Ending py g s e (.py e)

/-- How `main` ends.  Its notes are traced, so that it can be said what has left the `try` block. -/
def MainPost (py : Interpreter) (s₀ : Process) :
    Post (Notes × List ((q : Question) × Answer q)) Volume Process Raised Unit :=
  .either (fun _ v g' _ _ => v ≠ .inside ∧ g'.1.executed = true)
    fun r v g' _ s' => v ≠ .inside ∧ g'.1.executed = false ∧ ∃ e, LeftBy py s₀ g'.2 e ∧ Ending py g'.1 s' e r

/-- Under a status server, one failure is shown before the exit; without one, none is. -/
theorem complies_showFailure {e : PyExc} (he : e.isException = true) (h : Stopped mount e u g w s) :
    Complies (terms py mount resolve)
      (.either (fun _ v g' _ s' => v ≠ .inside ∧ g'.executed = false ∧ Ending py g' s' e (.systemExit 78))
        fun e' v g' _ s' => v ≠ .inside ∧ g'.executed = false ∧ Ending py g' s' e e')
      u g w (showFailure py e) s := by
  have haccounted := h.accounted he
  refine complies_get_bind.mpr ?_
  by_cases hserver : s.statusServer = true
  · rw [if_pos hserver]
    set report := (e.typeName, BootstrapStatus.safeDetail py.wide e.text) with hreport
    set seconds : ℤ := max 0 (min (holdSeconds py s) 900) with hseconds
    -- whatever the closing comes to, the report is the same
    have hreported : ∀ closed, Reported py { g with
        failures := g.failures ++ [report], slept := some (seconds : ℚ), closed := some closed } e closed := by
      intro closed
      have hlower : 0 ≤ seconds := by omega
      have hupper : seconds ≤ 900 := by omega
      refine ⟨?_, ⟨seconds, rfl, by exact_mod_cast hlower, by exact_mod_cast hupper⟩, rfl⟩
      show g.failures ++ [report] = [report]
      rw [h.unreported]
      rfl
    refine complies_noted_bind (.refl h.sound) (fun _ => ⟨h.unreported, h.executed⟩) id id ?_
      (by rintro w₁ a e' hw₁ ⟨⟩)
    intro w₁ _ _ hw₁ _
    refine complies_noted_bind hw₁ (fun _ => trivial) id id ?_ (by rintro w₂ a e' hw₂ ⟨⟩)
    intro w₂ _ _ hw₂ _
    refine complies_noted_call hw₂ (fun _ => trivial) id id ?_
    intro w₃ a hw₃
    cases a with
    | ok _ => exact ⟨h.unlocked, h.executed, .reported he hserver (hreported _) haccounted⟩
    | error e' => exact ⟨h.unlocked, h.executed, .unclosed e' he hserver (hreported _) haccounted⟩
  · rw [if_neg hserver]
    exact ⟨h.unlocked, h.executed, .silent he (by simpa using hserver) h.unreported haccounted⟩

/-- **The bootstrap starts the worker**, or exits as `Ending` says of the exception that left its `try`
    block. -/
theorem complies_main (hmounts : mount.Mounts resolve s₀.environ) (hsound : mount.Sound w)
    (hregistered : s₀.researchChildren = []) :
    Complies (terms py mount resolve).traced (MainPost py s₀) .fresh ({}, []) w (main py) s₀ := by
  refine Complies.tryExcept (R := .either (fun _ v g' _ _ => v ≠ .inside ∧ g'.1.executed = true)
    fun r v g' w' s' => ∃ e, r = .py e ∧ LeftBy py s₀ g'.2 e ∧ Stopped mount e v g'.1 w' s')
    (Complies.mapError ((complies_boot hmounts hsound hregistered).traced []) ?_ ?_) ?_ ?_ ?_
  · exact fun v g' w' a s' hended => hended.1
  · rintro v g' w' e s' ⟨hstopped, answers, hanswers, hgives⟩
    have hall : g'.2 = answers := hanswers.trans (List.nil_append answers)
    exact ⟨e, rfl, ⟨answers, s', hall ▸ List.prefix_refl answers, hgives⟩, hstopped⟩
  · exact fun v g' w' a s' hended => hended
  · rintro v ⟨g', answers⟩ w' r s' k ⟨e, rfl, hleft, hstopped⟩ hk
    obtain ⟨he, hk⟩ := Option.ite_none_right_eq_some.mp hk
    obtain rfl := Option.some.inj hk
    refine Complies.bind ((complies_showFailure he hstopped).traced answers) ?_ ?_
    · rintro v₁ g₁ w₁ _ s₁ ⟨⟨hout, hunstarted, hending⟩, more, hmore, -⟩
      exact ⟨hout, hunstarted, e, hmore ▸ hleft.later more, hending⟩
    · rintro v₁ g₁ w₁ e₁ s₁ ⟨⟨hout, hunstarted, hending⟩, more, hmore, -⟩
      exact ⟨hout, hunstarted, e, hmore ▸ hleft.later more, hending⟩
  · rintro v ⟨g', answers⟩ w' r s' ⟨e, rfl, hleft, hstopped⟩ hk
    have he : e.isException = false := by
      by_contra hne
      have htrue : e.isException = true := by simpa using hne
      have hsome : caughtByMain py (.py e) = some (reportFailure py e) := if_pos htrue
      rw [hsome] at hk
      cases hk
    exact ⟨hstopped.unlocked, hstopped.executed, e, hleft, .passed he hstopped.unreported⟩

end Bootstrap

end FireviewerOrchestrator
