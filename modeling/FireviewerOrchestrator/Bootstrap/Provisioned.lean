/-
  What `ensure_model_cache` keeps, of the terms and of the process.

  A status that finds nothing missing has read a manifest that lists all models, and a sound one says
  enough (`complies_cacheStatus`).  The provisioning is a loop, and its invariant is that the entries
  collected so far are there as a whole while the manifest is still the one that was read; so the
  manifest that replaces it is sound again (`complies_provisionModelCache`).

  Outside of the lock other pods may change the volume between any two looks; what is said of it there is
  only what they cannot undo (`Volume.Keeps`).  Under the lock the volume is this pod's own, and the proofs
  there identify it before and after a question (`rfl` in the patterns): nobody else provisions.
-/
import FireviewerOrchestrator.Bootstrap.Contract

set_option linter.unusedVariables false

namespace FireviewerOrchestrator

namespace Bootstrap

open Guarded Proc

variable {py : Interpreter} {mount : Mount} {resolve : String → Path} {u : Stage} {g : Notes} {w : Volume}
  {s : Process}

/-! ## Rules of the bootstrap's procedures -/

section Rules

variable {ε α β : Type} {R : Post Notes Volume Process PyExc α} {T : Post Notes Volume Process PyExc β}

/-- How a quiet question ends. -/
def QuietPost (py : Interpreter) (mount : Mount) (resolve : String → Path) (u : Stage) (g : Notes) (w : Volume)
    (s : Process) (q : Question) (result : Answer q → Except PyExc α) : Post Notes Volume Process PyExc α :=
  fun v g' w' r s' => v = u ∧ g' = g ∧ s' = s ∧ (terms py mount resolve).rely u w w' ∧ mount.Sound w' ∧
    ∃ a, (world resolve).mayAnswer q a ∧ result a = r

/-- **A quiet question** tells nothing that is noted, and changes nothing of its own; others may meanwhile. -/
theorem complies_quiet {q : Question} {result : Answer q → Except PyExc α} (hquiet : isQuiet q = true) :
    Complies (terms py mount resolve) (QuietPost py mount resolve u g w s q result) u g w (call q result) s := by
  have hq := quiet_of_isQuiet py mount resolve u q hquiet
  refine (Complies.ask (fun w₁ _ _ => hq.due g w₁) hq.effect_eq hq.torn_eq).mono ?_
  rintro v g' w' r s' ⟨rfl, rfl, hrely, hsound, a, hmay, rfl, ha⟩
  exact ⟨rfl, hq.note_eq g a, rfl, hrely, hsound, a, hmay, ha⟩

/-- A quiet question, and what follows. -/
theorem complies_quiet_bind {q : Question} {result : Answer q → Except PyExc α} {f : α → Boot β}
    (hquiet : isQuiet q = true)
    (hok : ∀ w₁ a b, (terms py mount resolve).rely u w w₁ → mount.Sound w₁ → (world resolve).mayAnswer q a →
      result a = .ok b → Complies (terms py mount resolve) T u g w₁ (f b) s)
    (herror : ∀ w₁ a e, (terms py mount resolve).rely u w w₁ → mount.Sound w₁ → result a = .error e →
      T u g w₁ (.error e) s) :
    Complies (terms py mount resolve) T u g w (call q result >>= f) s := by
  refine Complies.bind (complies_quiet hquiet) ?_ ?_
  · rintro v g' w' b s' ⟨rfl, rfl, rfl, hrely, hsound, a, hmay, ha⟩
    exact hok w' a b hrely hsound hmay ha
  · rintro v g' w' e s' ⟨rfl, rfl, rfl, hrely, hsound, a, -, ha⟩
    exact herror w' a e hrely hsound ha

/-- A variable is read without a question. -/
theorem complies_getenvOr_bind {name default : String} {f : String → Boot β} :
    Complies (terms py mount resolve) T u g w (getenvOr name default >>= f) s ↔
      Complies (terms py mount resolve) T u g w (f ((s.environ name).getD default)) s := Iff.rfl

/-- Whatever others did to the volume in between, what was there as a whole still is. -/
theorem keeps_of_rely {w' : Volume} (h : (terms py mount resolve).rely u w w') : w.Keeps w' :=
  Contract.locked_of_rely h

end Rules

/-! ## What stays the same -/

/-- Only the reading of the manifest was noted. -/
def Notes.Reread (g g' : Notes) : Prop := ∃ failed, g' = { g with readFailed := failed }

/-- It need not have been read. -/
theorem Notes.Reread.refl (g : Notes) : g.Reread g := ⟨g.readFailed, rfl⟩

/-- The last reading counts. -/
theorem Notes.Reread.trans {g g' g'' : Notes} (h : g.Reread g') (h' : g'.Reread g'') : g.Reread g'' := by
  obtain ⟨failed, rfl⟩ := h
  obtain ⟨failed', rfl⟩ := h'
  exact ⟨failed', rfl⟩

/-- Only these variables may differ. -/
structure Process.SameBut (names : List String) (s s' : Process) : Prop where
  environ : ∀ name, name ∉ names → s'.environ name = s.environ name
  statusServer : s'.statusServer = s.statusServer
  researchChildren : s'.researchChildren = s.researchChildren

/-- The two variables that let the process use the network. -/
def onlineNames : List String := ["HF_HUB_OFFLINE", "TRANSFORMERS_OFFLINE"]

namespace Process.SameBut

variable {names : List String} {s' s'' : Process}

/-- None differs. -/
theorem refl (s : Process) : s.SameBut names s := ⟨fun _ _ => rfl, rfl, rfl⟩

/-- And none of both steps. -/
theorem trans (h : s.SameBut names s') (h' : s'.SameBut names s'') : s.SameBut names s'' :=
  ⟨fun name hname => (h'.environ name hname).trans (h.environ name hname),
    h'.statusServer.trans h.statusServer, h'.researchChildren.trans h.researchChildren⟩

/-- An assignment, to one of these. -/
theorem setenv {name : String} (value : String) (s : Process) (hname : name ∈ names) :
    s.SameBut names (s.setenv name value) := by
  refine ⟨fun other hother => ?_, rfl, rfl⟩
  have hne : other ≠ name := by
    rintro rfl
    exact hother hname
  rw [setenv_environ, if_neg hne]

/-- The two assignments that switch the network on or off. -/
theorem switched (s : Process) (value : String) :
    s.SameBut onlineNames ((s.setenv "HF_HUB_OFFLINE" value).setenv "TRANSFORMERS_OFFLINE" value) := by
  have hhub : s.SameBut onlineNames (s.setenv "HF_HUB_OFFLINE" value) := setenv value s (by simp [onlineNames])
  exact hhub.trans (setenv value _ (by simp [onlineNames]))

end Process.SameBut

/-- Both are what was assigned, although the second assignment came after the first. -/
theorem environ_switched (s : Process) (value : String) :
    ((s.setenv "HF_HUB_OFFLINE" value).setenv "TRANSFORMERS_OFFLINE" value).environ "HF_HUB_OFFLINE" = some value ∧
      ((s.setenv "HF_HUB_OFFLINE" value).setenv "TRANSFORMERS_OFFLINE" value).environ "TRANSFORMERS_OFFLINE"
        = some value := by
  constructor
  · rw [Process.setenv_environ, if_neg (by decide), Process.setenv_environ, if_pos rfl]
  · rw [Process.setenv_environ, if_pos rfl]

/-- The enabled models depend on three variables. -/
theorem modelsOf_congr {environ environ' : String → Option String}
    (hensemble : environ' "FW_ENABLE_FIRE_DETECTOR_ENSEMBLE" = environ "FW_ENABLE_FIRE_DETECTOR_ENSEMBLE")
    (hbaseline : environ' "FW_ENABLE_RTDETR_BASELINE" = environ "FW_ENABLE_RTDETR_BASELINE")
    (hjudge : environ' "FW_ENABLE_CONSENSUS_JUDGE" = environ "FW_ENABLE_CONSENSUS_JUDGE") :
    modelsOf py environ' = modelsOf py environ := by
  have hdetectors : Models.detectorEnsembleEnabled { toTextTables := py.toTextTables, getenv := environ' }
      = Models.detectorEnsembleEnabled { toTextTables := py.toTextTables, getenv := environ } := by
    show Models.isOn _ ((environ' _).getD ((environ' _).getD "false"))
      = Models.isOn _ ((environ _).getD ((environ _).getD "false"))
    rw [hensemble, hbaseline]
    rfl
  have hjudges : Models.consensusJudgeEnabled { toTextTables := py.toTextTables, getenv := environ' }
      = Models.consensusJudgeEnabled { toTextTables := py.toTextTables, getenv := environ } := by
    show Models.isOn _ ((environ' _).getD "false") = Models.isOn _ ((environ _).getD "false")
    rw [hjudge]
    rfl
  unfold modelsOf Models.enabledPublicModels
  simp only [hdetectors, hjudges]

/-- Being online or not is none of the three. -/
theorem Process.SameBut.modelsOf {s' : Process} (h : s.SameBut onlineNames s') :
    modelsOf py s'.environ = modelsOf py s.environ :=
  modelsOf_congr (h.environ _ (by decide)) (h.environ _ (by decide)) (h.environ _ (by decide))

/-! ## The status of the cache -/

/-- How a reading of the manifest ended. -/
def ReadPost (py : Interpreter) (mount : Mount) (resolve : String → Path) (cacheRoot : Path) (u : Stage)
    (g : Notes) (w : Volume) (s : Process) : Post Notes Volume Process PyExc (Option Manifest) :=
  .either
    (fun manifest v g' w' s' => v = u ∧ s' = s ∧ (terms py mount resolve).rely u w w' ∧ mount.Sound w' ∧
      (manifest = w'.manifests (manifestPath cacheRoot) ∧ g' = { g with readFailed := false } ∨
        manifest = none ∧ g' = { g with readFailed := true }))
    (fun _ v g' w' s' => v = u ∧ s' = s ∧ (terms py mount resolve).rely u w w' ∧ mount.Sound w' ∧
      g' = { g with readFailed := true })

/-- The manifest as it is, or none; and the notes say whether it could be read. -/
theorem complies_readManifest (cacheRoot : Path) :
    Complies (terms py mount resolve) (ReadPost py mount resolve cacheRoot u g w s) u g w
      (readManifest cacheRoot) s := by
  refine Complies.exceptIf (R := ReadPost py mount resolve cacheRoot u g w s) (Complies.call ?_ ?_ ?_) ?_ ?_ ?_
  · exact fun _ _ _ => trivial
  · rintro - w₁ w₂ - halways (rfl : w₂ = w₁)
    exact ⟨Contract.own_of_anytime rfl, halways⟩
  · rintro w₁ a w₂ hrely halways ⟨rfl, ha⟩
    refine ⟨Contract.own_of_anytime rfl, halways, ?_⟩
    cases a with
    | ok manifest => exact ⟨rfl, rfl, hrely, halways, Or.inl ⟨ha manifest rfl, rfl⟩⟩
    | error e => exact ⟨rfl, rfl, hrely, halways, rfl⟩
  · exact fun _ _ _ _ _ h => h
  · rintro v g' w' e s' ⟨rfl, rfl, hrely, hsound, rfl⟩ -
    exact ⟨rfl, rfl, hrely, hsound, Or.inr ⟨rfl, rfl⟩⟩
  · exact fun _ _ _ _ _ h _ => h

/-- Time has passed, and at most the manifest was read. -/
structure Waited (py : Interpreter) (mount : Mount) (resolve : String → Path) (u : Stage) (g : Notes)
    (w : Volume) (s : Process) (v : Stage) (g' : Notes) (w' : Volume) (s' : Process) : Prop where
  stage : v = u
  notes : g.Reread g'
  locals : s' = s
  rely : (terms py mount resolve).rely u w w'
  sound : mount.Sound w'

/-- More time has passed. -/
theorem Waited.later {v : Stage} {g' : Notes} {w' w'' : Volume} {s' : Process}
    (h : Waited py mount resolve u g w s v g' w' s') (hrely : (terms py mount resolve).rely v w' w'')
    (hsound : mount.Sound w'') : Waited py mount resolve u g w s v g' w'' s' := by
  obtain ⟨rfl, hnotes, rfl, hrely', -⟩ := h
  exact ⟨rfl, hnotes, rfl, Contract.rely_trans hrely' hrely, hsound⟩

/-- And then some more. -/
theorem Waited.trans {v v' : Stage} {g' g'' : Notes} {w' w'' : Volume} {s' s'' : Process}
    (h : Waited py mount resolve u g w s v g' w' s') (h' : Waited py mount resolve v g' w' s' v' g'' w'' s'') :
    Waited py mount resolve u g w s v' g'' w'' s'' := by
  obtain ⟨rfl, hnotes, rfl, hrely, -⟩ := h
  obtain ⟨rfl, hnotes', rfl, hrely', hsound⟩ := h'
  exact ⟨rfl, hnotes.trans hnotes', rfl, Contract.rely_trans hrely hrely', hsound⟩

/-- A loop that asks one quiet question for each element.  Its list only grows. -/
theorem complies_checks {ι : Type} {body : ι → List String → Boot (List String)} {q : ι → Question}
    {result : ∀ i, Answer (q i) → Except PyExc Bool} {text : ι → String}
    (hbody : ∀ i missing, body i missing
      = (call (q i) (result i) >>= fun found => pure (if found then missing else missing ++ [text i])))
    (hquiet : ∀ i, isQuiet (q i) = true) (hsound : mount.Sound w) (is : List ι) (missing : List String) :
    Complies (terms py mount resolve)
      (.either (fun missing' v g' w' s' => Waited py mount resolve u g w s v g' w' s' ∧
          (missing' = [] → missing = []))
        fun _ v g' w' s' => Waited py mount resolve u g w s v g' w' s')
      u g w (foldLoop body is missing) s := by
  refine Complies.foldLoop
    (fun _ missing' v g' w' s' => Waited py mount resolve u g w s v g' w' s' ∧ (missing' = [] → missing = []))
    (fun _ v g' w' s' => Waited py mount resolve u g w s v g' w' s') ?_
    ⟨⟨rfl, .refl g, rfl, Contract.rely_refl u w, hsound⟩, id⟩
  rintro i is x v g' w' s' - ⟨hwaited, hx⟩
  rw [hbody]
  refine complies_quiet_bind (hquiet i) ?_ ?_
  · intro w₁ a found hw₁ hsound₁ _ _
    refine ⟨hwaited.later hw₁ hsound₁, ?_⟩
    cases found with
    | true => exact hx
    | false =>
      intro hnil
      simp at hnil
  · exact fun w₁ a e hw₁ hsound₁ _ => hwaited.later hw₁ hsound₁

/-- Without repetitions a list is empty where it was. -/
theorem eraseDups_eq_nil {α : Type} [BEq α] {xs : List α} (h : xs.eraseDups = []) : xs = [] := by
  cases xs with
  | nil => rfl
  | cons x xs =>
    rw [List.eraseDups_cons] at h
    cases h

/-- How a status ended. -/
def StatusPost (py : Interpreter) (mount : Mount) (resolve : String → Path) (u : Stage) (g : Notes) (w : Volume)
    (s : Process) : Post Notes Volume Process PyExc (List String) :=
  .either
    (fun missing v g' w' s' => Waited py mount resolve u g w s v g' w' s' ∧
      (missing = [] → mount.Complete (modelsOf py s.environ) w'))
    fun _ v g' w' s' => Waited py mount resolve u g w s v g' w' s'

/-- **A status that finds nothing missing tells the truth**, although it looks at one file after the other
    and may look without the lock. -/
theorem complies_cacheStatus (hsound : mount.Sound w) :
    Complies (terms py mount resolve) (StatusPost py mount resolve u g w s) u g w
      (cacheStatus py mount.cacheRoot mount.romaRoot) s := by
  show Complies _ _ u g w (readManifest mount.cacheRoot >>= _) s
  refine Complies.bind (complies_readManifest mount.cacheRoot) ?_ ?_
  · rintro v g₁ w₁ manifest s₁ ⟨rfl, rfl, hrely, hsound₁, hmanifest⟩
    have hwaited : Waited py mount resolve v g w s₁ v g₁ w₁ s₁ := by
      refine ⟨rfl, ?_, rfl, hrely, hsound₁⟩
      rcases hmanifest with ⟨-, rfl⟩ | ⟨-, rfl⟩
      · exact ⟨false, rfl⟩
      · exact ⟨true, rfl⟩
    -- a sound manifest that lists all models vouches for them; an unreadable one lists none
    have hlisted : manifest.bind Manifest.models = some (expectedModels (modelsOf py s₁.environ)) →
        mount.Complete (modelsOf py s₁.environ) w₁ := by
      intro hmodels
      obtain ⟨found, hfound, hmodels⟩ := Option.bind_eq_some_iff.mp hmodels
      rcases hmanifest with ⟨hread, -⟩ | ⟨hnone, -⟩
      · exact hsound₁.complete (hread.symm.trans hfound) hmodels
      · rw [hnone] at hfound
        cases hfound
    refine Complies.bind (complies_checks (q := fun spec => .weightFiles _) (fun _ _ => rfl) (fun _ => rfl)
      hsound₁ _ _) ?_ ?_
    · rintro v₂ g₂ w₂ missing s₂ ⟨hwaited₂, hgrown⟩
      refine Complies.bind (complies_checks (q := fun asset => .assetMatches _ _) (fun _ _ => rfl)
        (fun _ => rfl) hwaited₂.sound _ _) ?_ ?_
      · rintro v₃ g₃ w₃ missing' s₃ ⟨hwaited₃, hgrown'⟩
        refine ⟨hwaited.trans (hwaited₂.trans hwaited₃), fun hnil => ?_⟩
        -- the lists only grow, so an empty one was empty from the start
        have hfirst := hgrown (hgrown' (eraseDups_eq_nil hnil))
        by_cases hmodels : manifest.bind Manifest.models = some (expectedModels (modelsOf py s₁.environ))
        · exact (hlisted hmodels).keeps (keeps_of_rely (hwaited₂.trans hwaited₃).rely)
        · -- otherwise the list begins with the manifest
          split at hfirst
          · rename_i hmodels'
            exact absurd hmodels' hmodels
          · cases hfirst
      · exact fun v₃ g₃ w₃ e s₃ hwaited₃ => hwaited.trans (hwaited₂.trans hwaited₃)
    · exact fun v₂ g₂ w₂ e s₂ hwaited₂ => hwaited.trans hwaited₂
  · rintro v g₁ w₁ e s₁ ⟨rfl, rfl, hrely, hsound₁, rfl⟩
    exact ⟨rfl, ⟨true, rfl⟩, rfl, hrely, hsound₁⟩

/-! ## The provisioning -/

/-- The state in the middle of the loop, since the manifest was read as `w₀` has it. -/
structure Provisioning (mount : Mount) (g₀ : Notes) (w₀ : Volume) (s : Process) (v : Stage) (g' : Notes)
    (w' : Volume) (s' : Process) : Prop where
  stage : v = .inside
  notes : g' = g₀
  locals : s' = s
  sound : mount.Sound w'
  manifests : w'.manifests = w₀.manifests
  keeps : w₀.Keeps w'

/-- The entries are there as a whole. -/
def Mount.HasAll (mount : Mount) (entries : List ManifestEntry) (w : Volume) : Prop :=
  ∀ entry ∈ entries, w.complete (snapshotPath mount.cacheRoot entry) = true

/-- What others do takes none of them away. -/
theorem Mount.HasAll.keeps {entries : List ManifestEntry} {w' : Volume} (h : mount.HasAll entries w)
    (hw : w.Keeps w') : mount.HasAll entries w' := fun entry hentry => hw.complete _ (h entry hentry)

/-- What is listed is in the manifest only. -/
theorem Mount.lists_congr {w' : Volume} (h : w'.manifests = w.manifests) {entry : ManifestEntry} :
    mount.Lists w' entry ↔ mount.Lists w entry := by
  unfold Mount.Lists
  rw [h]

/-- What was marked is what the manifest lists, if it could be read. -/
structure Marked (mount : Mount) (g₀ : Notes) (w₀ : Volume) (marked : List (Option ManifestEntry)) : Prop where
  lists : ∀ entry, some entry ∈ marked → mount.Lists w₀ entry
  marked : g₀.readFailed = false → ∀ entry, mount.Lists w₀ entry → some entry ∈ marked

section Loop

variable {g₀ : Notes} {w₀ : Volume} {marked : List (Option ManifestEntry)} {spec : ModelSpec}
  {entries : List ManifestEntry}

/-- Whether a model has to be downloaded, and what either answer means. -/
theorem complies_needsDownload (hmarked : Marked mount g₀ w₀ marked)
    (h : Provisioning mount g₀ w₀ s u g w s) :
    Complies (terms py mount resolve)
      (.either (fun needed v g' w' s' => Provisioning mount g₀ w₀ s v g' w' s' ∧ w.Keeps w' ∧
          (needed = true → g₀.readFailed = false → mount.Lists w' (entryOf spec) →
            w'.weights (snapshotPath mount.cacheRoot (entryOf spec)) = false) ∧
          (needed = false → w'.complete (snapshotPath mount.cacheRoot (entryOf spec)) = true))
        fun _ v g' w' s' => Provisioning mount g₀ w₀ s v g' w' s')
      u g w (needsDownload (snapshotPath mount.cacheRoot (entryOf spec)) marked (entryOf spec)) s := by
  obtain ⟨rfl, rfl, -, hsound, hmanifests, hkeeps₀⟩ := h
  unfold needsDownload
  -- listed: then its weights are looked for; not listed: then it is due in any case
  by_cases hmem : some (entryOf spec) ∈ marked
  · rw [if_pos hmem]
    have hlists : mount.Lists w (entryOf spec) := (Mount.lists_congr hmanifests).mpr (hmarked.lists _ hmem)
    refine Complies.bind (R := .either
      (fun found v g' w' s' => Provisioning mount g w₀ s v g' w' s' ∧ w' = w ∧
        found = w.weights (snapshotPath mount.cacheRoot (entryOf spec)))
      fun _ v g' w' s' => Provisioning mount g w₀ s v g' w' s') (Complies.call ?_ ?_ ?_) ?_ ?_
    · exact fun _ _ _ => trivial
    · rintro - w₁ w₂ - halways (rfl : w₂ = w₁)
      exact ⟨Contract.own_of_anytime rfl, halways⟩
    · rintro w₁ a w₂ (rfl : w = w₁) halways ⟨rfl, ha⟩
      refine ⟨Contract.own_of_anytime rfl, halways, ?_⟩
      cases a with
      | ok found => exact ⟨⟨rfl, rfl, rfl, hsound, hmanifests, hkeeps₀⟩, rfl, ha found rfl⟩
      | error e => exact ⟨rfl, rfl, rfl, hsound, hmanifests, hkeeps₀⟩
    · rintro v g' w' found s' ⟨hprov, rfl, rfl⟩
      refine ⟨hprov, .refl _, ?_, ?_⟩
      · intro hneeded _ _
        simpa using hneeded
      · exact fun _ => hsound.snapshots _ hlists
    · exact fun _ _ _ _ _ hprov => hprov
  · rw [if_neg hmem]
    refine ⟨⟨rfl, rfl, rfl, hsound, hmanifests, hkeeps₀⟩, .refl _, ?_, ?_⟩
    · intro _ hread hlists
      exact absurd (hmarked.marked hread _ ((Mount.lists_congr hmanifests).mp hlists)) hmem
    · exact fun hneeded => absurd hneeded (by simp)

/-- **A download is due**, and leaves the snapshot there as a whole. -/
theorem complies_downloadModel (hspec : spec ∈ modelsOf py s.environ) (honline : Online s.environ) {needed : Bool}
    (h : Provisioning mount g₀ w₀ s u g w s)
    (hneeded : needed = true → g₀.readFailed = false → mount.Lists w (entryOf spec) →
      w.weights (snapshotPath mount.cacheRoot (entryOf spec)) = false)
    (hthere : needed = false → w.complete (snapshotPath mount.cacheRoot (entryOf spec)) = true) :
    Complies (terms py mount resolve)
      (.either (fun _ v g' w' s' => Provisioning mount g₀ w₀ s v g' w' s' ∧ w.Keeps w' ∧
          w'.complete (snapshotPath mount.cacheRoot (entryOf spec)) = true)
        fun _ v g' w' s' => Provisioning mount g₀ w₀ s v g' w' s')
      u g w (downloadModel spec (snapshotPath mount.cacheRoot (entryOf spec)) needed) s := by
  obtain ⟨rfl, rfl, -, hsound, hmanifests, hkeeps₀⟩ := h
  unfold downloadModel
  cases needed with
  | false => exact ⟨⟨rfl, rfl, rfl, hsound, hmanifests, hkeeps₀⟩, .refl w, hthere rfl⟩
  | true =>
    rw [if_pos rfl]
    refine complies_get_bind.mpr (Complies.call ?_ ?_ ?_)
    · rintro w₁ (rfl : w = w₁) halways
      exact ⟨rfl, honline, spec, hspec, rfl, rfl, rfl, hneeded rfl⟩
    · intro _ w₁ w₂ _ halways hgrows
      exact ⟨hgrows.keeps, halways.grows hgrows⟩
    · rintro w₁ a w₂ (rfl : w = w₁) halways ⟨hgrows, hcomplete⟩
      refine ⟨hgrows.keeps, halways.grows hgrows, ?_⟩
      have hprov : Provisioning mount g w₀ s .inside g w₂ s :=
        ⟨rfl, rfl, rfl, halways.grows hgrows, hgrows.manifests.trans hmanifests, hkeeps₀.trans hgrows.keeps⟩
      cases a with
      | ok a => exact ⟨hprov, hgrows.keeps, hcomplete rfl⟩
      | error e => exact hprov

/-- **One round of the loop.** -/
theorem complies_provisionModel (hmarked : Marked mount g₀ w₀ marked) (hspec : spec ∈ modelsOf py s.environ)
    (honline : Online s.environ) (h : Provisioning mount g₀ w₀ s u g w s) (hentries : mount.HasAll entries w) :
    Complies (terms py mount resolve)
      (.either (fun entries' v g' w' s' => Provisioning mount g₀ w₀ s v g' w' s' ∧ mount.HasAll entries' w')
        fun _ v g' w' s' => Provisioning mount g₀ w₀ s v g' w' s')
      u g w (provisionModel mount.cacheRoot marked spec entries) s := by
  unfold provisionModel
  refine Complies.bind (complies_needsDownload hmarked h) ?_ ?_
  · rintro v g₁ w₁ needed s₁ ⟨hprov, hkeeps, hneeded, hthere⟩
    obtain rfl := hprov.locals
    refine Complies.bind (complies_downloadModel hspec honline hprov hneeded hthere) ?_ ?_
    · rintro v₂ g₂ w₂ - s₂ ⟨hprov₂, hkeeps₂, hcomplete⟩
      obtain rfl := hprov₂.stage
      obtain rfl := hprov₂.locals
      refine complies_quiet_bind rfl ?_ ?_
      · rintro w₃ a found (rfl : w₂ = w₃) hsound - -
        cases found with
        | true =>
          refine ⟨hprov₂, fun entry hentry => ?_⟩
          rcases List.mem_append.mp hentry with hentry | hentry
          · exact (hentries.keeps (hkeeps.trans hkeeps₂)) entry hentry
          · rw [List.mem_singleton.mp hentry]
            exact hcomplete
        | false => exact hprov₂
      · rintro w₃ a e (rfl : w₂ = w₃) hsound -
        exact hprov₂
    · exact fun _ _ _ _ _ hprov₂ => hprov₂
  · exact fun _ _ _ _ _ hprov => hprov

end Loop

/-! ## Under the lock -/

/-- The state after some work under the lock. -/
structure Worked (mount : Mount) (g : Notes) (w : Volume) (s : Process) (v : Stage) (g' : Notes) (w' : Volume)
    (s' : Process) : Prop where
  stage : v = .inside
  notes : g.Reread g'
  locals : s' = s
  keeps : w.Keeps w'
  sound : mount.Sound w'

/-- Waiting under the lock is work that changes nothing. -/
theorem Waited.worked {g' : Notes} {w' : Volume} {s' : Process}
    (h : Waited py mount resolve .inside g w s u g' w' s') : Worked mount g w s u g' w' s' :=
  ⟨h.stage, h.notes, h.locals, keeps_of_rely h.rely, h.sound⟩

/-- **The provisioning leaves a sound manifest**, wherever it stops. -/
theorem complies_provisionModelCache (honline : Online s.environ) (hsound : mount.Sound w) :
    Complies (terms py mount resolve) (fun v g' w' _ s' => Worked mount g w s v g' w' s') .inside g w
      (provisionModelCache py mount.cacheRoot mount.romaRoot) s := by
  have hstart : Worked mount g w s .inside g w s := ⟨rfl, .refl g, rfl, .refl w, hsound⟩
  unfold provisionModelCache
  refine complies_quiet_bind rfl ?_ (by rintro w₁ a e (rfl : w = w₁) - -; exact hstart)
  rintro w₁ - - (rfl : w = w₁) - - -
  refine complies_quiet_bind rfl ?_ (by rintro w₁ a e (rfl : w = w₁) - -; exact hstart)
  rintro w₁ - - (rfl : w = w₁) - - -
  refine complies_quiet_bind rfl ?_ (by rintro w₁ a e (rfl : w = w₁) - -; exact hstart)
  rintro w₁ - - (rfl : w = w₁) - - -
  show Complies _ _ .inside g w (readManifest mount.cacheRoot >>= _) s
  refine Complies.bind (complies_readManifest mount.cacheRoot) ?_ ?_
  · rintro v g₀ w₀ existing s₀ ⟨rfl, rfl, (rfl : w = w₀), hsound₀, hexisting⟩
    have hreread : g.Reread g₀ := by
      rcases hexisting with ⟨-, rfl⟩ | ⟨-, rfl⟩
      · exact ⟨false, rfl⟩
      · exact ⟨true, rfl⟩
    -- what the loop is told of the manifest is what was read of it, or nothing if reading failed
    have hmarked : Marked mount g₀ w ((existing.bind Manifest.models).getD []) := by
      constructor
      · intro entry hentry
        cases hmodels : existing.bind Manifest.models with
        | none =>
          rw [hmodels] at hentry
          cases hentry
        | some listed =>
          rw [hmodels] at hentry
          obtain ⟨found, hfound, hlisted⟩ := Option.bind_eq_some_iff.mp hmodels
          rcases hexisting with ⟨hread, -⟩ | ⟨hnone, -⟩
          · exact ⟨found, listed, hread.symm.trans hfound, hlisted, hentry⟩
          · rw [hnone] at hfound
            cases hfound
      · rintro hread entry ⟨found, listed, hfound, hlisted, hentry⟩
        rcases hexisting with ⟨hmanifest, -⟩ | ⟨-, rfl⟩
        · rw [hmanifest, hfound]
          show some entry ∈ found.models.getD []
          rw [hlisted]
          exact hentry
        · cases hread
    have hworked : ∀ {v g' w' s'}, Provisioning mount g₀ w s₀ v g' w' s' → Worked mount g w s₀ v g' w' s' := by
      rintro v g' w' s' ⟨rfl, rfl, rfl, hsound', -, hkeeps⟩
      exact ⟨rfl, hreread, rfl, hkeeps, hsound'⟩
    -- the loop's invariant: what was collected is there, and the manifest is the one that was read
    refine Complies.bind (Complies.foldLoop
      (fun _ entries v g' w' s' => Provisioning mount g₀ w s₀ v g' w' s' ∧ mount.HasAll entries w')
      (fun _ v g' w' s' => Provisioning mount g₀ w s₀ v g' w' s') ?_
      ⟨⟨rfl, rfl, rfl, hsound₀, rfl, .refl w⟩, fun _ hentry => by cases hentry⟩) ?_ ?_
    · rintro spec is entries v g' w' s' hspec ⟨hprov, hentries⟩
      obtain rfl := hprov.locals
      exact complies_provisionModel hmarked hspec honline hprov hentries
    · rintro v g₁ w₁ entries s₁ ⟨hprov, hentries⟩
      obtain ⟨rfl, rfl, rfl, hsound₁, hmanifests, hkeeps⟩ := hprov
      refine complies_get_bind.mpr (Complies.bind (R := .either
        (fun _ v g' w' s' => Worked mount g w s₁ v g' w' s' ∧ mount.HasAll entries w' ∧
          ∀ asset ∈ romaAssets, w'.assets (assetPath mount.romaRoot asset) = true)
        fun _ v g' w' s' => Worked mount g w s₁ v g' w' s') (Complies.call ?_ ?_ ?_) ?_ ?_)
      · exact fun _ _ _ => ⟨rfl, honline⟩
      -- killed in the middle, the assets are there in part, and the manifest does not say otherwise
      · exact fun _ w₂ w₃ _ halways hgrows => ⟨hgrows.keeps, halways.grows hgrows⟩
      · rintro w₂ a w₃ (rfl : w₁ = w₂) halways ⟨hgrows, hassets⟩
        have hworked₃ : Worked mount g w s₁ .inside g₁ w₃ s₁ :=
          ⟨rfl, hreread, rfl, hkeeps.trans hgrows.keeps, halways.grows hgrows⟩
        refine ⟨hgrows.keeps, halways.grows hgrows, ?_⟩
        cases a with
        | ok revision => exact ⟨hworked₃, hentries.keeps hgrows.keeps, hassets revision rfl⟩
        | error e => exact hworked₃
      · rintro v g₂ w₂ revision s₂ ⟨hworked₂, hentries₂, hassets₂⟩
        obtain rfl := hworked₂.stage
        refine Complies.bind (Complies.ask (fun _ _ _ => rfl) id id) ?_ ?_
        · rintro v g₃ w₃ - s₃ ⟨rfl, rfl, (rfl : w₂ = w₃), -, a, -, rfl, -⟩
          -- the manifest is replaced in one step
          have hwritten : mount.Sound (w₂.writeManifest (manifestPath mount.cacheRoot)
              ⟨some (entries.map some), some revision⟩) := Mount.sound_writeManifest hentries₂ hassets₂
          have hkeeps₃ := Volume.keeps_writeManifest (manifestPath mount.cacheRoot)
            ⟨some (entries.map some), some revision⟩ w₂
          refine Complies.call (fun _ _ _ => rfl) ?_ ?_
          -- killed here, the manifest is the old one or the new one
          · rintro - w₄ w₅ (rfl : w₂ = w₄) halways (rfl | rfl)
            · exact ⟨Volume.Keeps.refl _, halways⟩
            · exact ⟨hkeeps₃, hwritten⟩
          · rintro w₄ a w₅ (rfl : w₂ = w₄) halways ⟨hok, herror⟩
            cases a with
            | ok _ =>
              obtain rfl := hok rfl
              exact ⟨hkeeps₃, hwritten, rfl, hworked₂.notes, hworked₂.locals, hworked₂.keeps.trans hkeeps₃, hwritten⟩
            | error e =>
              obtain rfl := herror e rfl
              exact ⟨Volume.Keeps.refl _, halways, hworked₂⟩
        · rintro v g₃ w₃ e s₃ ⟨rfl, rfl, (rfl : w₂ = w₃), -, a, -, rfl, -⟩
          exact hworked₂
      · exact fun _ _ _ _ _ hworked₂ => hworked₂
    · exact fun _ _ _ _ _ hprov => hworked hprov
  · rintro v g₀ w₀ e s₀ ⟨rfl, rfl, (rfl : w = w₀), hsound₀, rfl⟩
    exact ⟨rfl, ⟨true, rfl⟩, rfl, .refl w, hsound₀⟩

/-- The state after the cache was ensured, or was not. -/
structure Ensured (mount : Mount) (g : Notes) (w : Volume) (s : Process) (v : Stage) (g' : Notes) (w' : Volume)
    (s' : Process) : Prop where
  stage : v = .fresh ∨ v = .finished
  notes : g.Reread g'
  locals : s.SameBut onlineNames s'
  keeps : w.Keeps w'
  sound : mount.Sound w'

/-- The same inside the locked block. -/
structure Provided (mount : Mount) (g : Notes) (w : Volume) (s : Process) (v : Stage) (g' : Notes) (w' : Volume)
    (s' : Process) : Prop where
  stage : v = .inside
  notes : g.Reread g'
  locals : s.SameBut onlineNames s'
  keeps : w.Keeps w'
  sound : mount.Sound w'

/-- A status that is read under the lock changes nothing either. -/
theorem Waited.provided {g' g'' : Notes} {w' w'' : Volume} {s' s'' : Process}
    (h : Provided mount g w s .inside g' w' s') (h' : Waited py mount resolve .inside g' w' s' u g'' w'' s'') :
    Provided mount g w s u g'' w'' s'' := by
  obtain ⟨rfl, hnotes, rfl, hrely, hsound⟩ := h'
  exact ⟨rfl, h.notes.trans hnotes, h.locals, h.keeps.trans (keeps_of_rely hrely), hsound⟩

/-- **The locked block**: another pod may have provisioned the models meanwhile; otherwise this one goes
    online, and is offline again however the provisioning ends. -/
theorem complies_provisionUnderLock (hsound : mount.Sound w) :
    Complies (terms py mount resolve)
      (.either (fun _ v g' w' s' => Provided mount g w s v g' w' s' ∧
          mount.Complete (modelsOf py s.environ) w')
        fun _ v g' w' s' => Provided mount g w s v g' w' s')
      .inside g w (provisionUnderLock py mount.cacheRoot mount.romaRoot) s := by
  have hstart : Provided mount g w s .inside g w s := ⟨rfl, .refl g, .refl s, .refl w, hsound⟩
  unfold provisionUnderLock
  refine Complies.bind (complies_cacheStatus hsound) ?_ ?_
  · rintro v g₁ w₁ missing s₁ ⟨hwaited, hcomplete⟩
    have hprovided := hwaited.provided hstart
    obtain rfl := hwaited.stage
    obtain rfl := hwaited.locals
    by_cases hmissing : missing = []
    · rw [if_pos hmissing]
      exact ⟨hprovided, hcomplete hmissing⟩
    · rw [if_neg hmissing]
      set online := (s₁.setenv "HF_HUB_OFFLINE" "0").setenv "TRANSFORMERS_OFFLINE" "0" with honline
      show Complies _ _ .inside g₁ w₁ (finallyDo _ _ >>= _) online
      have hon : Online online.environ := environ_switched s₁ "0"
      refine Complies.bind (R := fun v g' w' _ s' => Provided mount g w s₁ v g' w' s')
        (Complies.finallyDo (complies_provisionModelCache hon hprovided.sound) ?_) ?_ ?_
      · rintro v g₂ w₂ r s₂ ⟨rfl, hnotes, rfl, hkeeps, hsound₂⟩
        -- the `finally`: whatever came of it, the variables are back at 1
        have hoffline := (Process.SameBut.switched s₁ "0").trans (.switched online "1")
        have hprovided₂ : Provided mount g w s₁ .inside g₂ w₂
            ((online.setenv "HF_HUB_OFFLINE" "1").setenv "TRANSFORMERS_OFFLINE" "1") :=
          ⟨rfl, hprovided.notes.trans hnotes, hoffline, hprovided.keeps.trans hkeeps, hsound₂⟩
        cases r with
        | ok a => exact hprovided₂
        | error e => exact hprovided₂
      · intro v g₂ w₂ a s₂ hprovided₂
        obtain rfl := hprovided₂.stage
        refine Complies.bind (complies_cacheStatus hprovided₂.sound) ?_ ?_
        · rintro v g₃ w₃ missing₃ s₃ ⟨hwaited₃, hcomplete₃⟩
          have hprovided₃ := hwaited₃.provided hprovided₂
          by_cases hmissing₃ : missing₃ = []
          · rw [if_pos hmissing₃]
            refine ⟨hprovided₃, ?_⟩
            -- the models are those that were enabled before the process went online
            rw [← hprovided₂.locals.modelsOf]
            exact hcomplete₃ hmissing₃
          · rw [if_neg hmissing₃]
            exact hprovided₃
        · exact fun v g₃ w₃ e s₃ hwaited₃ => hwaited₃.provided hprovided₂
      · exact fun v g₂ w₂ e s₂ hprovided₂ => hprovided₂
  · exact fun v g₁ w₁ e s₁ hwaited => hwaited.provided hstart

/-- A resolved path is what the links of the host make of it. -/
theorem resolved_of_mayAnswer {text : String} {a : Answer (.resolve text)} {path : Path}
    (hmay : (world resolve).mayAnswer (.resolve text) a) (ha : id a = .ok path) : path = resolve text := by
  obtain ⟨w, w', -, hpath⟩ := hmay
  cases a with
  | error e => cases ha
  | ok found =>
    obtain rfl := Except.ok.inj ha
    exact hpath found rfl

/-- **The lock is given back** by whatever leaves the block. -/
theorem complies_withVolumeLock (models : List ModelSpec) {path : Path} {body : Boot Unit}
    (hsound : mount.Sound w)
    (hbody : ∀ w₁, w.Keeps w₁ → mount.Sound w₁ → Complies (terms py mount resolve)
      (.either (fun _ v g' w' s' => Provided mount g w s v g' w' s' ∧ mount.Complete models w')
        fun _ v g' w' s' => Provided mount g w s v g' w' s') .inside g w₁ body s) :
    Complies (terms py mount resolve)
      (.either (fun _ v g' w' s' => Ensured mount g w s v g' w' s' ∧ mount.Complete models w')
        fun _ v g' w' s' => Ensured mount g w s v g' w' s')
      .fresh g w (withVolumeLock path body) s := by
  unfold withVolumeLock
  have hstart : ∀ w₁, w.Keeps w₁ → mount.Sound w₁ → Ensured mount g w s .fresh g w₁ s :=
    fun w₁ hkeeps hsound₁ => ⟨Or.inl rfl, .refl g, .refl s, hkeeps, hsound₁⟩
  refine complies_quiet_bind rfl ?_ fun w₁ a e hw₁ hsound₁ _ => hstart w₁ hw₁ hsound₁
  intro w₁ _ _ hw₁ hsound₁ _ _
  refine complies_quiet_bind rfl ?_ fun w₂ a e hw₂ hsound₂ _ => hstart w₂ (hw₁.trans hw₂) hsound₂
  intro w₂ _ _ hw₂ hsound₂ _ _
  refine Complies.bind (R := fun v g' w' r s' => r = .ok () ∧ v = .inside ∧ g' = g ∧ s' = s ∧ w.Keeps w' ∧
    mount.Sound w') (Complies.acquireLock rfl ?_) ?_ ?_
  · intro w₃ hw₃ hsound₃ _
    exact ⟨rfl, rfl, rfl, rfl, (hw₁.trans hw₂).trans hw₃, hsound₃⟩
  · rintro v g₃ w₃ - s₃ ⟨-, rfl, rfl, rfl, hkeeps, hsound₃⟩
    refine Complies.finallyDo (hbody w₃ hkeeps hsound₃) ?_
    -- the cleanup releases, and then closes the file
    intro v g₄ w₄ r s₄ hr
    have hprovided : Provided mount g₃ w s₃ v g₄ w₄ s₄ := by
      cases r with
      | ok a => exact hr.1
      | error e => exact hr
    have hensured : ∀ w₅, w₄.Keeps w₅ → mount.Sound w₅ → Ensured mount g₃ w s₃ .finished g₄ w₅ s₄ :=
      fun w₅ hkeeps₅ hsound₅ =>
        ⟨Or.inr rfl, hprovided.notes, hprovided.locals, hprovided.keeps.trans hkeeps₅, hsound₅⟩
    refine Complies.bind (R := fun v g' w' r' s' => r' = .ok () ∧ v = .finished ∧ g' = g₄ ∧ w' = w₄ ∧ s' = s₄)
      (Complies.releaseLock hprovided.stage ?_) ?_ ?_
    · intro w₅ hw₅ _
      rw [hprovided.stage] at hw₅
      exact ⟨trivial, rfl, rfl, rfl, hw₅.symm, rfl⟩
    · rintro v₅ g₅ w₅ - s₅ ⟨-, rfl, rfl, rfl, rfl⟩
      refine (complies_quiet (q := .closeLock path) rfl).mono ?_
      rintro v₆ g₆ w₆ r' s₆ ⟨rfl, rfl, rfl, hkeeps₆, hsound₆, -⟩
      cases r' with
      | error e => exact hensured w₆ hkeeps₆ hsound₆
      | ok _ =>
        cases r with
        | ok a => exact ⟨hensured w₆ hkeeps₆ hsound₆, hr.2.keeps hkeeps₆⟩
        | error e => exact hensured w₆ hkeeps₆ hsound₆
    · rintro v₅ g₅ w₅ e s₅ ⟨hok, -⟩
      cases hok
  · rintro v g₃ w₃ e s₃ ⟨hok, -⟩
    cases hok

/-- How `ensure_model_cache` ends. -/
def EnsuredPost (py : Interpreter) (mount : Mount) (g : Notes) (w : Volume) (s : Process) :
    Post Notes Volume Process PyExc Unit :=
  .either (fun _ v g' w' s' => Ensured mount g w s v g' w' s' ∧ mount.Complete (modelsOf py s.environ) w')
    fun _ v g' w' s' => Ensured mount g w s v g' w' s'

/-- **A pod that goes on has all of its models.** -/
theorem complies_ensureModelCache (hmounts : mount.Mounts resolve s.environ) (hsound : mount.Sound w) :
    Complies (terms py mount resolve) (EnsuredPost py mount g w s) .fresh g w (ensureModelCache py) s := by
  have hfresh : ∀ w₁, w.Keeps w₁ → mount.Sound w₁ → Ensured mount g w s .fresh g w₁ s :=
    fun w₁ hkeeps hsound₁ => ⟨Or.inl rfl, .refl g, .refl s, hkeeps, hsound₁⟩
  unfold ensureModelCache
  refine complies_getenvOr_bind.mpr (complies_quiet_bind rfl ?_ fun w₁ a e hw₁ hsound₁ _ => hfresh w₁ hw₁ hsound₁)
  intro w₁ a cacheRoot hw₁ hsound₁ hmay ha
  obtain rfl := (resolved_of_mayAnswer hmay ha).trans hmounts.cacheRoot
  refine complies_getenvOr_bind.mpr (complies_quiet_bind rfl ?_
    fun w₂ a e hw₂ hsound₂ _ => hfresh w₂ (hw₁.trans hw₂) hsound₂)
  intro w₂ a romaRoot hw₂ hsound₂ hmay ha
  obtain rfl := (resolved_of_mayAnswer hmay ha).trans hmounts.romaRoot
  refine complies_getenvOr_bind.mpr (complies_quiet_bind rfl ?_
    fun w₃ a e hw₃ hsound₃ _ => hfresh w₃ ((hw₁.trans hw₂).trans hw₃) hsound₃)
  intro w₃ a lockPath hw₃ hsound₃ hmay ha
  have hkeeps₃ : w.Keeps w₃ := (hw₁.trans hw₂).trans hw₃
  refine Complies.bind (complies_cacheStatus hsound₃) ?_ ?_
  · rintro v g₄ w₄ missing s₄ ⟨⟨rfl, hnotes, rfl, hrely, hsound₄⟩, hcomplete⟩
    have hkeeps₄ : w.Keeps w₄ := hkeeps₃.trans hrely
    have hensured : ∀ {v g' w' s'}, Ensured mount g₄ w₄ s₄ v g' w' s' → Ensured mount g w s₄ v g' w' s' :=
      fun h => ⟨h.stage, hnotes.trans h.notes, h.locals, hkeeps₄.trans h.keeps, h.sound⟩
    have hhere : Ensured mount g w s₄ .fresh g₄ w₄ s₄ := ⟨Or.inl rfl, hnotes, .refl s₄, hkeeps₄, hsound₄⟩
    by_cases hmissing : missing = []
    · rw [if_pos hmissing]
      exact ⟨hhere, hcomplete hmissing⟩
    · rw [if_neg hmissing]
      refine complies_get_bind.mpr ?_
      by_cases hprefetch : enabled py (s₄.environ "FW_AUTO_PREFETCH_MODELS") true = true
      · rw [if_pos hprefetch]
        refine (complies_withVolumeLock (modelsOf py s₄.environ) hsound₄ fun w₅ hkeeps₅ hsound₅ =>
          (complies_provisionUnderLock hsound₅).mono ?_).mono ?_
        · rintro v g₆ w₆ (e | a) s₆ hprovided
          · exact ⟨hprovided.stage, hprovided.notes, hprovided.locals, hkeeps₅.trans hprovided.keeps, hprovided.sound⟩
          · obtain ⟨hprovided, hcomplete₆⟩ := hprovided
            exact ⟨⟨hprovided.stage, hprovided.notes, hprovided.locals, hkeeps₅.trans hprovided.keeps,
              hprovided.sound⟩, hcomplete₆⟩
        · rintro v g₆ w₆ (e | a) s₆ hended
          · exact hensured hended
          · exact ⟨hensured hended.1, hended.2⟩
      · rw [if_neg hprefetch]
        exact hhere
  · rintro v g₄ w₄ e s₄ ⟨rfl, hnotes, rfl, hrely, hsound₄⟩
    exact ⟨Or.inl rfl, hnotes, .refl s₄, hkeeps₃.trans hrely, hsound₄⟩

end Bootstrap

end FireviewerOrchestrator
