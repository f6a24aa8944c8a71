/-
  What the rest of the bootstrap keeps: the storage's groups, the sandbox, the privileges.

  One lemma for each function says what it leaves of the notes and of the process.  They are needed as
  they stand when the worker's start is due; what a function does not say, it did not touch.

  Most questions of these functions are quiet: they change neither the volume nor the notes, and a
  program that asks no others only lets time pass (`reads_…`, `complies_reads_bind`).  What is left
  to prove are the few questions that are noted, and the three promises behind them:
    * the groups that are handed on are none of the broker's (`Unreadable`), because the check is the
      last thing that is done with them;
    * whoever goes on is not root (`Dropped`), because the code asks for its user again after the change;
    * of the two children either both run, or none is left (`Notes.Swept`), because each is guarded
      from the moment it was started.
-/
import FireviewerOrchestrator.Bootstrap.Provisioned

set_option linter.unusedVariables false

namespace FireviewerOrchestrator

namespace Bootstrap

open Guarded Proc

variable {py : Interpreter} {mount : Mount} {resolve : String → Path} {u : Stage} {g : Notes} {w : Volume}
  {s : Process}

/-! ## Functions that only read -/

section Reads

variable {α : Type}

/-- The quiet questions. -/
def Quiet (q : Question) : Prop := isQuiet q = true

/-- A quiet question. -/
theorem reads_quiet {q : Question} {result : Answer q → Except PyExc α} (h : isQuiet q = true) :
    Reads Quiet (call q result : Boot α) := reads_call h

/-- Raising asks nothing. -/
theorem reads_runtimeError (message : String) : Reads Quiet (runtimeError message : Boot α) := reads_raise

/-- A variable is the process's own. -/
theorem reads_getenvOr (name default : String) : Reads Quiet (getenvOr name default) :=
  reads_get.bind fun _ => reads_pure

/-- What is not installed is reported under its own name. -/
theorem reads_requireDistribution (distribution : String) : Reads Quiet (requireDistribution distribution) :=
  Reads.exceptIf ((reads_quiet rfl).bind fun _ => reads_pure) fun _ => reads_runtimeError _

/-- The report of the installed packages only looks, also where it ends with an exception. -/
theorem reads_reportRuntimeDependencies : Reads Quiet (reportRuntimeDependencies py) := by
  refine (reads_requireDistribution _).bind fun _ => (reads_requireDistribution _).bind fun _ =>
    (reads_requireDistribution _).bind fun _ => (reads_getenvOr _ _).bind fun attention => ?_
  refine reads_ite (reads_runtimeError _) ((reads_quiet rfl).bind fun stackId => ?_)
  exact (reads_getenvOr _ _).bind fun expected => reads_ite (reads_runtimeError _) reads_pure

/-- Owner and mode of a file are outside of what is said of the volume: they make no snapshot incomplete. -/
theorem reads_secureStoragePath (path : Path) (modelGid : Int) (directory : Bool) :
    Reads Quiet (secureStoragePath path modelGid directory) :=
  (Reads.exceptIf (reads_quiet rfl) fun _ => reads_pure).bind fun _ => (reads_quiet rfl).bind fun _ => reads_quiet rfl

/-- One walk over the storage.  The two loops are folds, over the directories and over the names in each, so
    that there is no invariant to find. -/
theorem reads_secureRoot (modelGid : Int) (root : Path) (gids : List Int) :
    Reads Quiet (secureRoot modelGid root gids) := by
  -- a link is passed over; a file and a directory are treated alike, but for their mode
  have hname : ∀ (directory : Path) (name : String) (gids : List Int),
      Reads Quiet (secureName modelGid directory name gids) := fun directory name gids =>
    (reads_quiet rfl).bind fun link => reads_ite reads_pure ((reads_quiet rfl).bind fun isDirectory =>
      (reads_secureStoragePath _ _ _).bind fun gid => reads_pure)
  refine (reads_quiet rfl).bind fun entries => reads_foldLoop (fun entry gids => ?_) entries gids
  exact (reads_secureStoragePath _ _ _).bind fun gid => reads_foldLoop (hname entry.1) _ _

/-- A marker is only read. -/
theorem reads_markedGids (marker : Path) (fingerprint : String) :
    Reads Quiet (markedGids py marker fingerprint) := by
  refine (reads_quiet rfl).bind fun present => reads_ite ?_ reads_pure
  refine (Reads.exceptIf (reads_quiet rfl) fun _ => reads_pure).bind fun payload => reads_ofExcept.bind fun found => ?_
  split
  · exact reads_ite (reads_ofExcept.bind fun gids => reads_ofExcept) reads_pure
  · exact reads_pure

/-- The groups are read back from the variable they were written to. -/
theorem reads_modelStorageGids : Reads Quiet (modelStorageGids py) :=
  (reads_getenvOr _ _).bind fun _ => reads_ofExcept.bind fun _ => reads_pure

end Reads

/-! ## Time -/

/-- Time has passed. -/
structure Elapsed (py : Interpreter) (mount : Mount) (resolve : String → Path) (u : Stage) (w : Volume)
    (v : Stage) (w' : Volume) : Prop where
  stage : v = u
  rely : (terms py mount resolve).rely u w w'
  sound : mount.Sound w'

section Elapsed

variable {ε α β : Type} {T : Post Notes Volume Process PyExc β} {u₀ : Stage} {w₀ : Volume}

/-- At first none has. -/
theorem Elapsed.refl (hsound : mount.Sound w) : Elapsed py mount resolve u w u w :=
  ⟨rfl, Contract.rely_refl u w, hsound⟩

/-- Time passes once more. -/
theorem Elapsed.later {w' : Volume} (h : Elapsed py mount resolve u₀ w₀ u w)
    (hrely : (terms py mount resolve).rely u w w') (hsound : mount.Sound w') :
    Elapsed py mount resolve u₀ w₀ u w' := by
  obtain ⟨rfl, hrely', -⟩ := h
  exact ⟨rfl, Contract.rely_trans hrely' hrely, hsound⟩

/-- One function after another. -/
theorem Elapsed.trans {v : Stage} {w' : Volume} (h : Elapsed py mount resolve u₀ w₀ u w)
    (h' : Elapsed py mount resolve u w v w') : Elapsed py mount resolve u₀ w₀ v w' := by
  obtain ⟨rfl, hrely, -⟩ := h
  obtain ⟨rfl, hrely', hsound⟩ := h'
  exact ⟨rfl, Contract.rely_trans hrely hrely', hsound⟩

/-- A function that only reads, and what follows. -/
theorem complies_reads_bind {p : Boot α} {f : α → Boot β} (h : Reads Quiet p)
    (helapsed : Elapsed py mount resolve u₀ w₀ u w)
    (hok : ∀ w₁ a, Elapsed py mount resolve u₀ w₀ u w₁ →
      Complies (terms py mount resolve) T u g w₁ (f a) s)
    (herror : ∀ w₁ e, Elapsed py mount resolve u₀ w₀ u w₁ → T u g w₁ (.error e) s) :
    Complies (terms py mount resolve) T u g w (p >>= f) s := by
  refine Complies.bind (h.complies (fun q hq => quiet_of_isQuiet py mount resolve u q hq) helapsed.sound) ?_ ?_
  · rintro v g' w' a s' ⟨rfl, rfl, rfl, hrely, hsound'⟩
    exact hok w' a (helapsed.later hrely hsound')
  · rintro v g' w' e s' ⟨rfl, rfl, rfl, hrely, hsound'⟩
    exact herror w' e (helapsed.later hrely hsound')

/-- A question that the volume does not notice. -/
theorem complies_noted_call {T : Post Notes Volume Process ε α} {q : Question} {result : Answer q → Except ε α}
    (helapsed : Elapsed py mount resolve u₀ w₀ u w)
    (hdue : ∀ w₁, due py mount u g q w₁) (heffect : ∀ {w a w'}, effect resolve q w a w' → w' = w)
    (htorn : ∀ {w w'}, torn q w w' → w' = w)
    (h : ∀ w₁ a, Elapsed py mount resolve u₀ w₀ u w₁ → T u (g.note q a) w₁ (result a) s) :
    Complies (terms py mount resolve) T u g w (call q result) s := by
  refine (Complies.ask (fun w₁ _ _ => hdue w₁) heffect htorn).mono ?_
  rintro v g' w' r s' ⟨rfl, rfl, hrely, hsound, a, -, rfl, rfl⟩
  exact h w' a (helapsed.later hrely hsound)

/-- The same, and what follows. -/
theorem complies_noted_bind {T : Post Notes Volume Process ε β} {q : Question} {result : Answer q → Except ε α}
    {f : α → Proc Question Answer Process ε β} (helapsed : Elapsed py mount resolve u₀ w₀ u w)
    (hdue : ∀ w₁, due py mount u g q w₁) (heffect : ∀ {w a w'}, effect resolve q w a w' → w' = w)
    (htorn : ∀ {w w'}, torn q w w' → w' = w)
    (hok : ∀ w₁ a b, Elapsed py mount resolve u₀ w₀ u w₁ → result a = .ok b →
      Complies (terms py mount resolve) T u (g.note q a) w₁ (f b) s)
    (herror : ∀ w₁ a e, Elapsed py mount resolve u₀ w₀ u w₁ → result a = .error e →
      T u (g.note q a) w₁ (.error e) s) :
    Complies (terms py mount resolve) T u g w (call q result >>= f) s := by
  refine Complies.bind (Complies.ask (fun w₁ _ _ => hdue w₁) heffect htorn) ?_ ?_
  · rintro v g' w' b s' ⟨rfl, rfl, hrely, hsound, a, -, rfl, ha⟩
    exact hok w' a b (helapsed.later hrely hsound) ha
  · rintro v g' w' e s' ⟨rfl, rfl, hrely, hsound, a, -, rfl, ha⟩
    exact herror w' a e (helapsed.later hrely hsound) ha

end Elapsed

/-! ## The storage -/

/-- Only accounts and groups were looked up. -/
def Notes.LookedUp (g g' : Notes) : Prop :=
  ∃ uid account brokerGids, g' = { g with uid := uid, account := account, brokerGids := brokerGids }

/-- Nothing was. -/
theorem Notes.LookedUp.refl (g : Notes) : g.LookedUp g := ⟨g.uid, g.account, g.brokerGids, rfl⟩

/-- First one, then the other. -/
theorem Notes.LookedUp.trans {g g' g'' : Notes} (h : g.LookedUp g') (h' : g'.LookedUp g'') : g.LookedUp g'' := by
  obtain ⟨uid, account, brokerGids, rfl⟩ := h
  obtain ⟨uid', account', brokerGids', rfl⟩ := h'
  exact ⟨uid', account', brokerGids', rfl⟩

/-- The three questions that are noted as lookups. -/
theorem Notes.lookedUp_euid (g : Notes) (uid : Int) : g.LookedUp (g.note .euid uid) :=
  ⟨some uid, g.account, g.brokerGids, rfl⟩

theorem Notes.lookedUp_account (g : Notes) (name : String) (a : Except PyExc Account) :
    g.LookedUp (g.note (.account name) a) := ⟨g.uid, _, g.brokerGids, rfl⟩

theorem Notes.lookedUp_groupList (g : Notes) (name : String) (gid : Int) (a : Except PyExc (List Int)) :
    g.LookedUp (g.note (.groupList name gid) a) := ⟨g.uid, g.account, _, rfl⟩

/-- How a function ends that looks groups up: those it returns are none of the broker's. -/
def SecuredPost {α : Type} (gids : α → List Int) (py : Interpreter) (mount : Mount) (resolve : String → Path)
    (u : Stage) (g : Notes) (w : Volume) (s : Process) : Post Notes Volume Process PyExc α :=
  .either
    (fun a v g' w' s' => Elapsed py mount resolve u w v w' ∧ s' = s ∧ g.LookedUp g' ∧ Unreadable g' (gids a))
    fun _ v g' w' s' => Elapsed py mount resolve u w v w' ∧ s' = s ∧ g.LookedUp g'

/-- Groups the broker has in common with the storage are named. -/
theorem unreadable_of_overlap {storageGids brokerGids : List Int} (hg : g.brokerGids = some brokerGids)
    (h : (storageGids.filter fun gid => brokerGids.contains gid) = []) : Unreadable g storageGids := by
  refine ⟨brokerGids, hg, fun gid hgid hmem => ?_⟩
  have hno := List.filter_eq_nil_iff.mp h gid hgid
  simp [hmem] at hno

/-- The code hands the groups on without repetition and in order. -/
theorem unreadable_sorted {gids : List Int} (h : Unreadable g gids) : Unreadable g (sortedDistinct gids) := by
  obtain ⟨brokerGids, hg, hgids⟩ := h
  exact ⟨brokerGids, hg, fun gid hgid => hgids gid (mem_sortedDistinct.mp hgid)⟩

/-- **Whoever passes the check** has groups that the broker is not in. -/
theorem complies_assertBroker (hsound : mount.Sound w) (storageGids : List Int) :
    Complies (terms py mount resolve) (SecuredPost (fun _ => storageGids) py mount resolve u g w s) u g w
      (assertBrokerCannotReadModels storageGids) s := by
  unfold assertBrokerCannotReadModels
  refine complies_noted_bind (.refl hsound) (fun _ => trivial) id id ?_ ?_
  · intro w₁ a account hw₁ ha
    have hlooked := g.lookedUp_account "broker" a
    refine complies_noted_bind hw₁ (fun _ => trivial) id id ?_ ?_
    · intro w₂ b brokerGids hw₂ hb
      -- from here on both lookups are noted, whether the second one raised or not
      have hlooked₂ := hlooked.trans (Notes.lookedUp_groupList _ "broker" account.gid b)
      cases b with
      | error e => cases hb
      | ok found =>
        obtain rfl := Except.ok.inj hb
        by_cases hoverlap : (storageGids.filter fun gid => found.contains gid) = []
        · rw [if_pos hoverlap]
          exact ⟨hw₂, rfl, hlooked₂, unreadable_of_overlap rfl hoverlap⟩
        · rw [if_neg hoverlap]
          exact ⟨hw₂, rfl, hlooked₂⟩
    · intro w₂ b e hw₂ hb
      exact ⟨hw₂, rfl, hlooked.trans (Notes.lookedUp_groupList _ "broker" account.gid b)⟩
  · intro w₁ a e hw₁ ha
    exact ⟨hw₁, rfl, g.lookedUp_account "broker" a⟩

/-- **The storage's groups are none of the broker's**, whether a marker names them or the walk found them. -/
theorem complies_secureModelStorage (hsound : mount.Sound w) :
    Complies (terms py mount resolve) (SecuredPost id py mount resolve u g w s) u g w (secureModelStorage py) s := by
  unfold secureModelStorage
  refine complies_noted_bind (.refl hsound) (fun _ => trivial) id id ?_ (by rintro w₁ a e hw₁ ⟨⟩)
  intro w₁ uid _ hw₁ _
  have hlooked := g.lookedUp_euid uid
  -- of this note it is only used that it is a lookup
  generalize g.note .euid uid = g₁ at hlooked
  have hfail : ∀ w' (e : PyExc), Elapsed py mount resolve u w u w' →
      SecuredPost id py mount resolve u g w s u g₁ w' (.error e) s := fun w' e hw' => ⟨hw', rfl, hlooked⟩
  split
  · exact ⟨hw₁, rfl, hlooked⟩
  · refine complies_getenvOr_bind.mpr (complies_reads_bind (reads_quiet rfl) hw₁ ?_ hfail)
    intro w₂ cacheRoot hw₂
    refine complies_getenvOr_bind.mpr (complies_reads_bind (reads_quiet rfl) hw₂ ?_ hfail)
    intro w₃ romaRoot hw₃
    refine complies_reads_bind (reads_quiet rfl) hw₃ ?_ hfail
    intro w₄ fingerprint hw₄
    refine complies_reads_bind (reads_markedGids _ fingerprint) hw₄ ?_ hfail
    intro w₅ cached hw₅
    -- the groups of a marker are checked like those of a walk
    by_cases hcached : cached ≠ []
    · rw [if_pos hcached]
      refine Complies.bind (complies_assertBroker hw₅.sound cached) ?_ ?_
      · rintro v₆ g₆ w₆ _ s₆ ⟨hw₆, rfl, hlooked₆, hunreadable⟩
        exact ⟨hw₅.trans hw₆, rfl, hlooked.trans hlooked₆, unreadable_sorted hunreadable⟩
      · rintro v₆ g₆ w₆ e s₆ ⟨hw₆, rfl, hlooked₆⟩
        exact ⟨hw₅.trans hw₆, rfl, hlooked.trans hlooked₆⟩
    · rw [if_neg hcached]
      refine complies_reads_bind (reads_quiet rfl) hw₅ ?_ hfail
      intro w₆ modelGid hw₆
      -- no marker: the storage is walked, and then checked before anything is written
      refine complies_reads_bind (reads_foldLoop (fun root gids => reads_secureRoot modelGid root gids) _ _) hw₆
        ?_ hfail
      intro w₇ storageGids hw₇
      refine Complies.bind (complies_assertBroker hw₇.sound storageGids) ?_ ?_
      · rintro v₈ g₈ w₈ _ s₈ ⟨hw₈, rfl, hlooked₈, hunreadable⟩
        obtain rfl := hw₈.stage
        have hlooked' := hlooked.trans hlooked₈
        have hsorted := unreadable_sorted hunreadable
        -- the marker is written of groups that were checked
        refine complies_noted_bind (hw₇.trans hw₈) (fun _ => hsorted) id id ?_ ?_
        · intro w₉ a _ hw₉ _
          refine complies_reads_bind (reads_quiet rfl) hw₉ ?_ ?_
          · exact fun w' _ hw' => ⟨hw', rfl, hlooked', hsorted⟩
          · exact fun w' _ hw' => ⟨hw', rfl, hlooked'⟩
        · exact fun w₉ a e hw₉ _ => ⟨hw₉, rfl, hlooked'⟩
      · rintro v₈ g₈ w₈ e s₈ ⟨hw₈, rfl, hlooked₈⟩
        exact ⟨hw₇.trans hw₈, rfl, hlooked.trans hlooked₈⟩

/-! ## Privileges -/

/-- How `_drop_runtime_privileges` ends. -/
def DroppedPost (py : Interpreter) (mount : Mount) (resolve : String → Path) (u : Stage) (g : Notes) (w : Volume)
    (s : Process) : Post Notes Volume Process PyExc Unit :=
  .either
    (fun _ v g' w' s' => Elapsed py mount resolve u w v w' ∧ s.SameBut ["HOME"] s' ∧ g.LookedUp g' ∧
      g'.brokerGids = g.brokerGids ∧ Dropped g' ((s.environ "FW_RUNTIME_USER").getD "worker"))
    fun _ v g' w' s' => Elapsed py mount resolve u w v w' ∧ s.SameBut ["HOME"] s' ∧ g.LookedUp g'

/-- **Whoever goes on is not root**, unless root is who was configured. -/
theorem complies_dropRuntimePrivileges (hsound : mount.Sound w) :
    Complies (terms py mount resolve) (DroppedPost py mount resolve u g w s) u g w (dropRuntimePrivileges py) s := by
  unfold dropRuntimePrivileges
  refine complies_noted_bind (.refl hsound) (fun _ => trivial) id id ?_ (by rintro w₁ a e hw₁ ⟨⟩)
  rintro w₁ uid _ hw₁ ⟨⟩
  have hlooked := g.lookedUp_euid uid
  split
  · rename_i huid
    -- the process was not root from the start
    exact ⟨hw₁, .refl s, hlooked, rfl, uid, rfl, Or.inl huid⟩
  · refine complies_getenvOr_bind.mpr ?_
    set username := (s.environ "FW_RUNTIME_USER").getD "worker" with husername
    refine complies_noted_bind hw₁ (fun _ => trivial) id id ?_
      fun w₂ a e hw₂ _ => ⟨hw₂, .refl s, hlooked.trans (Notes.lookedUp_account _ username a)⟩
    intro w₂ a account hw₂ ha
    cases a with
    | error e => cases ha
    | ok found =>
      obtain rfl := Except.ok.inj ha
      have hlooked₂ := hlooked.trans (Notes.lookedUp_account _ username (.ok found))
      have hfail : ∀ w' (e : PyExc), Elapsed py mount resolve u w u w' →
          DroppedPost py mount resolve u g w s u ((g.note .euid uid).note (.account username) (.ok found)) w'
            (.error e) s := fun w' e hw' => ⟨hw', .refl s, hlooked₂⟩
      refine complies_reads_bind (reads_quiet rfl) hw₂ ?_ hfail
      intro w₃ _ hw₃
      refine complies_reads_bind (reads_quiet rfl) hw₃ ?_ hfail
      intro w₄ groups hw₄
      refine complies_reads_bind reads_modelStorageGids hw₄ ?_ hfail
      intro w₅ storageGids hw₅
      refine complies_reads_bind (reads_quiet rfl) hw₅ ?_ hfail
      intro w₆ _ hw₆
      refine complies_reads_bind (reads_quiet rfl) hw₆ ?_ hfail
      intro w₇ _ hw₇
      refine complies_reads_bind (reads_quiet rfl) hw₇ ?_ hfail
      intro w₈ _ hw₈
      have hhome : s.SameBut ["HOME"] (s.setenv "HOME" found.dir) := .setenv found.dir s (by simp)
      -- the user is asked for again, after `setuid`: it is the answer to this that counts
      refine complies_modify_bind.mpr (complies_noted_bind hw₈ (fun _ => trivial) id id ?_
        (by rintro w₉ a e hw₉ ⟨⟩))
      rintro w₉ uid' _ hw₉ ⟨⟩
      -- what was looked up in between is not noted
      have hlooked₉ := hlooked₂.trans (Notes.lookedUp_euid _ uid')
      split
      · exact ⟨hw₉, hhome, hlooked₉⟩
      · rename_i huid
        exact ⟨hw₉, hhome, hlooked₉, rfl, uid', rfl, Or.inr ⟨found, rfl, not_not.mp huid⟩⟩

/-! ## The sandbox -/

/-- Only the sandbox was worked on. -/
def Notes.Ran (g g' : Notes) : Prop :=
  ∃ uid account probed started terminated slept, g' = { g with
    uid := uid, account := account, probed := probed, started := started, terminated := terminated, slept := slept }

/-- The sandbox could not be started.  After an `Exception` every child that was started since has been told
    to terminate. -/
structure Notes.Swept (g : Notes) (e : PyExc) (g' : Notes) : Prop where
  ran : g.Ran g'
  terminated : e.isException = true → ∀ pid ∈ g'.started, pid ∈ g.started ∨ pid ∈ g'.terminated

/-- Nothing was done yet. -/
theorem Notes.Ran.refl (g : Notes) : g.Ran g :=
  ⟨g.uid, g.account, g.probed, g.started, g.terminated, g.slept, rfl⟩

/-- One function after another. -/
theorem Notes.Ran.trans {g g' g'' : Notes} (h : g.Ran g') (h' : g'.Ran g'') : g.Ran g'' := by
  obtain ⟨uid, account, probed, started, terminated, slept, rfl⟩ := h
  obtain ⟨uid', account', probed', started', terminated', slept', rfl⟩ := h'
  exact ⟨uid', account', probed', started', terminated', slept', rfl⟩

/-- Only a sleep was noted. -/
def Notes.Slept (g g' : Notes) : Prop := ∃ slept, g' = { g with slept := slept }

/-- Not even that. -/
theorem Notes.Slept.refl (g : Notes) : g.Slept g := ⟨g.slept, rfl⟩

/-- Sleeping is part of the work. -/
theorem Notes.Slept.ran {g g' : Notes} (h : g.Slept g') : g.Ran g' := by
  obtain ⟨slept, rfl⟩ := h
  exact ⟨g.uid, g.account, g.probed, g.started, g.terminated, slept, rfl⟩

/-- Sleep after sleep. -/
theorem Notes.Slept.trans {g g' g'' : Notes} (h : g.Slept g') (h' : g'.Slept g'') : g.Slept g'' := by
  obtain ⟨slept, rfl⟩ := h
  obtain ⟨slept', rfl⟩ := h'
  exact ⟨slept', rfl⟩

/-- Waiting for a socket does nothing but sleep.  The induction is on the rounds. -/
theorem complies_waitForSocketUntil (path : String) (pid : Nat) (deadline : ℚ) (rounds : Nat)
    (hsound : mount.Sound w) : Complies (terms py mount resolve)
      (fun v g' w' _ s' => Elapsed py mount resolve u w v w' ∧ s' = s ∧ g.Slept g') u g w
      (waitForSocketUntil path pid deadline rounds) s := by
  induction rounds generalizing g w with
  | zero => exact ⟨.refl hsound, rfl, .refl g⟩
  | succ rounds ih =>
    rw [waitForSocketUntil_succ]
    refine complies_reads_bind (reads_quiet rfl) (.refl hsound) ?_ fun w' e hw' => ⟨hw', rfl, .refl g⟩
    intro w₁ now hw₁
    by_cases hnow : now < deadline
    · rw [if_pos hnow]
      refine complies_reads_bind (reads_quiet rfl) hw₁ ?_ fun w' e hw' => ⟨hw', rfl, .refl g⟩
      intro w₂ exited hw₂
      by_cases hexited : exited.isSome = true
      · rw [if_pos hexited]
        exact ⟨hw₂, rfl, .refl g⟩
      · rw [if_neg hexited]
        refine complies_reads_bind (reads_quiet rfl) hw₂ ?_ fun w' e hw' => ⟨hw', rfl, .refl g⟩
        intro w₃ created hw₃
        by_cases hcreated : created = true
        · rw [if_pos hcreated]
          exact ⟨hw₃, rfl, .refl g⟩
        · rw [if_neg hcreated]
          refine complies_noted_bind hw₃ (fun _ => trivial) id id ?_ (by rintro w₄ a e hw₄ ⟨⟩)
          intro w₄ a _ hw₄ _
          refine (ih hw₄.sound).mono ?_
          rintro v g' w' r s' ⟨hw', rfl, hslept⟩
          exact ⟨hw₄.trans hw', rfl, Notes.Slept.trans ⟨some _, rfl⟩ hslept⟩
    · rw [if_neg hnow]
      exact ⟨hw₁, rfl, .refl g⟩

/-- The deadline is computed once, before the rounds. -/
theorem complies_waitForSocket (path : String) (pid : Nat) (timeout : ℚ) (hsound : mount.Sound w) :
    Complies (terms py mount resolve)
      (fun v g' w' _ s' => Elapsed py mount resolve u w v w' ∧ s' = s ∧ g.Slept g') u g w
      (waitForSocket path pid timeout) s := by
  refine complies_reads_bind (reads_quiet rfl) (.refl hsound) ?_ fun w' e hw' => ⟨hw', rfl, .refl g⟩
  intro w₁ now hw₁
  refine (complies_waitForSocketUntil path pid _ _ hw₁.sound).mono ?_
  rintro v g' w' r s' ⟨hw', rfl, hslept⟩
  exact ⟨hw₁.trans hw', rfl, hslept⟩

/-- What comes after a child was started ends like this, whatever it returns. -/
def SandboxPost {α : Type} (returned : α → Notes → Prop) (py : Interpreter) (mount : Mount)
    (resolve : String → Path) (u : Stage) (g : Notes) (w : Volume) (s : Process) :
    Post Notes Volume Process PyExc α :=
  .either
    (fun a v g' w' s' => Elapsed py mount resolve u w v w' ∧ s' = s ∧ g.Ran g' ∧ returned a g')
    fun e v g' w' s' => Elapsed py mount resolve u w v w' ∧ s' = s ∧ g.Swept e g'

/-- Where no child was started there is none to terminate. -/
theorem Notes.swept_of_started {g' : Notes} {e : PyExc} (h : g.Ran g') (hstarted : g'.started = g.started) :
    g.Swept e g' := ⟨h, fun _ pid hpid => Or.inl (hstarted ▸ hpid)⟩

/-- And whoever only slept has started none. -/
theorem Notes.Slept.swept {g' : Notes} {e : PyExc} (h : g.Slept g') : g.Swept e g' := by
  obtain ⟨slept, rfl⟩ := h
  exact Notes.swept_of_started (Notes.Slept.ran ⟨slept, rfl⟩) rfl

/-- A child more that was told to terminate. -/
theorem Notes.Swept.terminate {g₁ g₂ : Notes} {e e' : PyExc} {pid : Nat} (h : g₁.Swept e g₂)
    (he : e.isException = true) (hran : g.Ran g₁) (hstarted : g₁.started = g.started ++ [pid]) :
    g.Swept e' { g₂ with terminated := g₂.terminated ++ [pid] } := by
  constructor
  · exact (hran.trans h.ran).trans ⟨g₂.uid, g₂.account, g₂.probed, g₂.started, g₂.terminated ++ [pid], g₂.slept, rfl⟩
  · intro _ other hother
    -- a child was started before this one, or is this one, or was started inside of the guarded part
    rcases h.terminated he other hother with hbefore | hsince
    · rw [hstarted] at hbefore
      rcases List.mem_append.mp hbefore with hbefore | hpid
      · exact Or.inl hbefore
      · exact Or.inr (List.mem_append.mpr (Or.inr hpid))
    · exact Or.inr (List.mem_append.mpr (Or.inl hsince))

/-- **A child whose start fails is told to terminate**, and so is all that was started after it. -/
theorem complies_terminateOnFailure {α : Type} {R : α → Notes → Prop} {pid : Nat} {p : Boot α} {g₁ : Notes}
    {w₁ : Volume} (hw₁ : Elapsed py mount resolve u w u w₁) (hran : g.Ran g₁)
    (hstarted : g₁.started = g.started ++ [pid])
    (h : Complies (terms py mount resolve) (SandboxPost R py mount resolve u g₁ w₁ s) u g₁ w₁ p s) :
    Complies (terms py mount resolve) (SandboxPost R py mount resolve u g w s) u g₁ w₁
      (terminateOnFailure pid p) s := by
  refine Complies.exceptIf h ?_ ?_ ?_
  · rintro v g₂ w₂ a s₂ ⟨hw₂, rfl, hran₂, hreturned⟩
    exact ⟨hw₁.trans hw₂, rfl, hran.trans hran₂, hreturned⟩
  · rintro v g₂ w₂ e s₂ ⟨hw₂, rfl, hswept⟩ hcatches
    obtain rfl := hw₂.stage
    have hterminated : ∀ e' : PyExc, g.Swept e' { g₂ with terminated := g₂.terminated ++ [pid] } :=
      fun e' => hswept.terminate hcatches hran hstarted
    -- the child is told even if telling it raises
    refine complies_noted_bind (hw₁.trans hw₂) (fun _ => trivial) id id ?_ ?_
    · intro w₃ a _ hw₃ _
      refine complies_reads_bind (reads_quiet rfl) hw₃ ?_ ?_
      · exact fun w₄ _ hw₄ => ⟨hw₄, rfl, hterminated _⟩
      · exact fun w₄ e' hw₄ => ⟨hw₄, rfl, hterminated e'⟩
    · exact fun w₃ a e' hw₃ _ => ⟨hw₃, rfl, hterminated e'⟩
  · rintro v g₂ w₂ e s₂ ⟨hw₂, rfl, hswept⟩ hcatches
    -- an exception that is not caught is no `Exception`
    refine ⟨hw₁.trans hw₂, rfl, hran.trans hswept.ran, fun he => ?_⟩
    rw [hcatches] at he
    cases he

/-- The two questions of the sandbox that are noted. -/
theorem Notes.ran_popen (g : Notes) (argv : List String) (environ : List (String × String)) (username : String)
    (a : Except PyExc Nat) : g.Ran (g.note (.popen argv environ username) a) :=
  ⟨g.uid, g.account, g.probed, _, g.terminated, g.slept, rfl⟩

theorem Notes.ran_runProbe (g : Notes) (argv : List String) (environ : List (String × String)) (username : String)
    (a : Except PyExc Completed) : g.Ran (g.note (.runProbe argv environ username) a) :=
  ⟨g.uid, g.account, _, g.started, g.terminated, g.slept, rfl⟩

/-- **The researcher is started in a sandbox that was probed**, or nothing of it is left. -/
theorem complies_startResearcher (launcher brokerSocket serviceSocket : String) (broker : Nat)
    (environment : List (String × String)) (hsound : mount.Sound w) :
    Complies (terms py mount resolve)
      (SandboxPost (fun research g' => g'.probed = true ∧ g'.started = g.started ++ [research] ∧
        g'.terminated = g.terminated) py mount resolve u g w s) u g w
      (startResearcher py launcher brokerSocket serviceSocket broker environment) s := by
  unfold startResearcher
  refine Complies.bind (complies_waitForSocket brokerSocket broker 15 hsound) ?_ ?_
  · rintro v g₁ w₁ - s₁ ⟨hw₁, rfl, slept, rfl⟩
    obtain rfl := hw₁.stage
    have hran₁ : g.Ran { g with slept := slept } := Notes.Slept.ran ⟨slept, rfl⟩
    refine complies_noted_bind hw₁ (fun _ => trivial) id id ?_ ?_
    · intro w₂ a probe hw₂ ha
      cases a with
      | error e => cases ha
      | ok found =>
        obtain rfl := Except.ok.inj ha
        have hran₂ := hran₁.trans (Notes.ran_runProbe _ (sandboxed py launcher "fireviewer_orchestrator.seccomp_probe")
          environment "researcher" (.ok found))
        by_cases hprobe : found.returncode ≠ 0
        · rw [if_pos hprobe]
          exact ⟨hw₂, rfl, Notes.swept_of_started hran₂ rfl⟩
        · rw [if_neg hprobe]
          -- the probe is passed from here on
          have hzero : found.returncode = 0 := not_not.mp hprobe
          refine complies_noted_bind hw₂ (fun _ => trivial) id id ?_ ?_
          · intro w₃ b research hw₃ hb
            cases b with
            | error e => cases hb
            | ok child =>
              obtain rfl := Except.ok.inj hb
              have hran₃ := hran₂.trans (Notes.ran_popen _
                (sandboxed py launcher "fireviewer_evidence_ingestion.research_service") environment "researcher"
                (.ok child))
              -- the researcher's own guard; the broker's is around all of this
              refine Complies.bind (complies_terminateOnFailure (R := fun _ g' => g'.probed = true ∧
                g'.started = g.started ++ [child] ∧ g'.terminated = g.terminated) hw₃ hran₃ rfl ?_) ?_ ?_
              · refine (complies_waitForSocket serviceSocket child 15 hw₃.sound).mono ?_
                rintro v g₄ w₄ (e | _) s₄ ⟨hw₄, rfl, slept', rfl⟩
                · exact ⟨hw₄, rfl, Notes.Slept.swept ⟨slept', rfl⟩⟩
                · exact ⟨hw₄, rfl, Notes.Slept.ran ⟨slept', rfl⟩, by simp [Notes.note, hzero], rfl, rfl⟩
              · rintro v g₄ w₄ _ s₄ ⟨hw₄, rfl, hran₄, hreturned⟩
                exact ⟨hw₄, rfl, hran₄, hreturned⟩
              · rintro v g₄ w₄ e s₄ ⟨hw₄, rfl, hswept⟩
                exact ⟨hw₄, rfl, hswept⟩
          · intro w₃ b e hw₃ hb
            cases b with
            | ok child => cases hb
            | error e' =>
              exact ⟨hw₃, rfl, Notes.swept_of_started (hran₂.trans (Notes.ran_popen _ _ environment _ _)) rfl⟩
    · intro w₂ a e hw₂ ha
      exact ⟨hw₂, rfl, Notes.swept_of_started (hran₁.trans (Notes.ran_runProbe _ _ environment _ a)) rfl⟩
  · rintro v g₁ w₁ e s₁ ⟨hw₁, rfl, hslept⟩
    exact ⟨hw₁, rfl, hslept.swept⟩

/-- The variables of a service: at most an account was looked up. -/
theorem complies_serviceEnvironment (username controlToken brokerSocket serviceSocket : String)
    (hsound : mount.Sound w) : Complies (terms py mount resolve)
      (fun v g' w' _ s' => Elapsed py mount resolve u w v w' ∧ s' = s ∧ ∃ account, g' = { g with account := account })
      u g w (serviceEnvironment py username controlToken brokerSocket serviceSocket) s := by
  unfold serviceEnvironment
  refine complies_noted_bind (.refl hsound) (fun _ => trivial) id id ?_ ?_
  · exact fun w₁ a _ hw₁ _ => ⟨hw₁, rfl, _, rfl⟩
  · exact fun w₁ a e hw₁ _ => ⟨hw₁, rfl, _, rfl⟩

/-- How `start_research_runtime` ends: both children run and are registered, or neither is left. -/
def ResearchPost (py : Interpreter) (mount : Mount) (resolve : String → Path) (u : Stage) (g : Notes) (w : Volume)
    (s : Process) : Post Notes Volume Process PyExc Unit :=
  .either
    (fun _ v g' w' s' => Elapsed py mount resolve u w v w' ∧ g.Ran g' ∧ g'.probed = true ∧
      g'.terminated = g.terminated ∧ ∃ broker research, g'.started = g.started ++ [broker, research] ∧
        s' = { s with researchChildren := s.researchChildren ++ [broker, research] })
    fun e v g' w' s' => Elapsed py mount resolve u w v w' ∧ s' = s ∧ g.Swept e g'

/-- **The sandbox runs as a whole, or not at all.** -/
theorem complies_startResearchRuntime (hsound : mount.Sound w) :
    Complies (terms py mount resolve) (ResearchPost py mount resolve u g w s) u g w (startResearchRuntime py) s := by
  unfold startResearchRuntime
  refine complies_noted_bind (.refl hsound) (fun _ => trivial) id id ?_ (by rintro w₁ a e hw₁ ⟨⟩)
  rintro w₁ uid _ hw₁ ⟨⟩
  -- until the first child is started, every failure leaves none behind
  have hran : g.Ran (g.note .euid uid) := ⟨some uid, g.account, g.probed, g.started, g.terminated, g.slept, rfl⟩
  have hfail : ∀ w' (e : PyExc), Elapsed py mount resolve u w u w' →
      ResearchPost py mount resolve u g w s u (g.note .euid uid) w' (.error e) s :=
    fun w' e hw' => ⟨hw', rfl, Notes.swept_of_started hran rfl⟩
  split
  · exact hfail w₁ _ hw₁
  refine complies_getenvOr_bind.mpr (complies_getenvOr_bind.mpr (complies_getenvOr_bind.mpr
    (complies_getenvOr_bind.mpr (complies_reads_bind (reads_quiet rfl) hw₁ ?_ hfail))))
  intro w₂ present hw₂
  split
  · exact hfail w₂ _ hw₂
  refine complies_reads_bind (reads_quiet rfl) hw₂ ?_ hfail
  intro w₃ sharedGid hw₃
  refine complies_reads_bind (reads_quiet rfl) hw₃ ?_ hfail
  intro w₄ _ hw₄
  refine complies_reads_bind (reads_quiet rfl) hw₄ ?_ hfail
  intro w₅ _ hw₅
  refine complies_reads_bind (reads_quiet rfl) hw₅ ?_ hfail
  intro w₆ _ hw₆
  refine complies_reads_bind (reads_quiet rfl) hw₆ ?_ hfail
  intro w₇ controlToken hw₇
  refine Complies.bind (complies_serviceEnvironment "broker" controlToken _ _ hw₇.sound) ?_ ?_
  · rintro v g₈ w₈ brokerEnvironment s₈ ⟨hw₈, rfl, account, rfl⟩
    obtain rfl := hw₈.stage
    refine Complies.bind (complies_serviceEnvironment "researcher" controlToken _ _ hw₈.sound) ?_ ?_
    · rintro v g₉ w₉ researchEnvironment s₉ ⟨hw₉, rfl, account', rfl⟩
      obtain rfl := hw₉.stage
      have hw := (hw₇.trans hw₈).trans hw₉
      have hran₉ : g.Ran { (g.note .euid uid) with account := account' } :=
        ⟨some uid, account', g.probed, g.started, g.terminated, g.slept, rfl⟩
      refine complies_noted_bind hw (fun _ => trivial) id id ?_ ?_
      · intro w₁₀ a broker hw₁₀ ha
        cases a with
        | error e => cases ha
        | ok child =>
          obtain rfl := Except.ok.inj ha
          have hran₁₀ := hran₉.trans (Notes.ran_popen _
            [py.executable, "-m", "fireviewer_evidence_ingestion.research_broker"] brokerEnvironment "broker"
            (.ok child))
          -- the broker runs: from here on a failure terminates it
          refine Complies.bind (complies_terminateOnFailure hw₁₀ hran₁₀ rfl
            (complies_startResearcher _ _ _ child _ hw₁₀.sound)) ?_ ?_
          -- both are registered in one assignment, when nothing can fail any more
          · rintro v g₁₁ w₁₁ research s₁₁ ⟨hw₁₁, rfl, hran₁₁, hprobed, hstarted, hterminated⟩
            refine ⟨hw₁₁, hran₁₁, hprobed, hterminated, child, research, ?_, rfl⟩
            rw [hstarted]
            simp [Notes.note]
          · rintro v g₁₁ w₁₁ e s₁₁ ⟨hw₁₁, rfl, hswept⟩
            exact ⟨hw₁₁, rfl, hswept⟩
      · intro w₁₀ a e hw₁₀ ha
        cases a with
        | ok child => cases ha
        | error e' =>
          exact ⟨hw₁₀, rfl, Notes.swept_of_started (hran₉.trans (Notes.ran_popen _ _ brokerEnvironment _ _)) rfl⟩
    · rintro v g₉ w₉ e s₉ ⟨hw₉, rfl, account', rfl⟩
      exact ⟨(hw₇.trans hw₈).trans hw₉, rfl, Notes.swept_of_started
        ⟨some uid, account', g.probed, g.started, g.terminated, g.slept, rfl⟩ rfl⟩
  · rintro v g₈ w₈ e s₈ ⟨hw₈, rfl, account, rfl⟩
    exact ⟨hw₇.trans hw₈, rfl, Notes.swept_of_started
      ⟨some uid, account, g.probed, g.started, g.terminated, g.slept, rfl⟩ rfl⟩

end Bootstrap

end FireviewerOrchestrator
