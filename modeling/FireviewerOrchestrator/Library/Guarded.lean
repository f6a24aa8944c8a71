/-
  Programs that take turns at a lock.

  A program is a tree: it asks the outside questions, takes or releases one lock, and ends by
  returning or raising.  `Keeps` is its weakest precondition, with the typestate of the lock built
  in: a program that keeps a postcondition acquires at most once, releases exactly what it acquired,
  and asks what is `allowed` at each stage.  The rules of sequences and handlers are equivalences, so
  what a program keeps can be computed as well as proved.

  Any number of such programs run side by side in a `System`, in any interleaving.  `orderly_of_run`
  turns the discipline of each into what holds of all: they exclude each other, and each of them
  gives back what it took.
-/
import FireviewerOrchestrator.Library.Transition
import Mathlib.Data.List.Count
import Mathlib.Logic.Function.Basic

set_option linter.unusedVariables false

namespace Guarded

open Transition

/-! ## Programs -/

/-- A program over the questions `Q`, whose answers are of the types `A`. -/
inductive Code (Q : Type) (A : Q → Type) (ε α : Type) : Type where
  /-- It returned or raised. -/
  | done (result : Except ε α)
  /-- It waits for the lock. -/
  | acquire (next : Code Q A ε α)
  /-- It tries the lock, and is told whether it got it. -/
  | tryAcquire (next : Bool → Code Q A ε α)
  /-- It releases the lock, and is told whether the lock was held, by anyone. -/
  | release (next : Bool → Code Q A ε α)
  | ask (q : Q) (next : A q → Code Q A ε α)

namespace Code

variable {Q : Type} {A : Q → Type} {ε δ α β γ : Type}

/-- What comes after a program has returned or raised. -/
def andThen (k : Except ε α → Code Q A δ β) : Code Q A ε α → Code Q A δ β
  | done result => k result
  | acquire next => acquire (next.andThen k)
  | tryAcquire next => tryAcquire fun got => (next got).andThen k
  | release next => release fun wasHeld => (next wasHeld).andThen k
  | ask q next => ask q fun a => (next a).andThen k

protected def bind (c : Code Q A ε α) (f : α → Code Q A ε β) : Code Q A ε β :=
  c.andThen fun
    | .ok a => f a
    | .error e => done (.error e)

instance : Monad (Code Q A ε) where
  pure a := done (.ok a)
  bind := Code.bind

def ofExcept (result : Except ε α) : Code Q A ε α := done result

def raise (e : ε) : Code Q A ε α := done (.error e)

/-- A question whose answer is a result, raised if it is an exception. -/
def call {q : Q} (result : A q → Except ε α) : Code Q A ε α := ask q fun a => done (result a)

/-- `try: … except …`: the handler takes the exceptions it names and gives `none` for the others. -/
def tryExcept (c : Code Q A ε α) (handler : ε → Option (Code Q A ε α)) : Code Q A ε α :=
  c.andThen fun
    | .ok a => done (.ok a)
    | .error e => (handler e).getD (done (.error e))

/-- `try: … finally …`: the cleanup's own exception wins. -/
def finallyDo (c : Code Q A ε α) (cleanup : Code Q A ε Unit) : Code Q A ε α :=
  c.andThen fun result => cleanup.andThen fun
    | .ok _ => done result
    | .error e => done (.error e)

/-- `lock.release()`, which raises on a lock nobody holds. -/
def releaseLock (unlocked : ε) : Code Q A ε Unit :=
  release fun wasHeld => if wasHeld then done (.ok ()) else done (.error unlocked)

/-- `with lock: …`. -/
def withLock (unlocked : ε) (c : Code Q A ε α) : Code Q A ε α :=
  acquire (c.finallyDo (releaseLock unlocked))

end Code

/-! ## The discipline of one program -/

/-- Where a program stands with the lock. -/
inductive Stage where
  /-- It has not tried. -/
  | fresh
  /-- It holds the lock. -/
  | inside
  /-- It held the lock and released it. -/
  | finished
  /-- It tried, and the lock was held. -/
  | refused
  deriving DecidableEq, Repr

section Keeps

variable {Q : Type} {A : Q → Type} {ε α β : Type}

/-- **The weakest precondition.**  Whatever it is answered, as long as that is `permitted`, the program
    tries the lock only while `fresh`, releases it only `inside`, asks at each stage what is
    `allowed`, and ends in a stage and with a result that satisfy `P`. -/
def Keeps (permitted : ∀ q, A q → Prop) (allowed : Stage → Q → Prop) (P : Stage → Except ε α → Prop) :
    Stage → Code Q A ε α → Prop
  | u, .done result => P u result
  | u, .acquire next => u = .fresh ∧ Keeps permitted allowed P .inside next
  | u, .tryAcquire next => u = .fresh ∧ Keeps permitted allowed P .inside (next true) ∧
      Keeps permitted allowed P .refused (next false)
  | u, .release next => u = .inside ∧ Keeps permitted allowed P .finished (next true)
  | u, .ask q next => allowed u q ∧ ∀ a, permitted q a → Keeps permitted allowed P u (next a)

variable {permitted : ∀ q, A q → Prop} {allowed : Stage → Q → Prop} {P : Stage → Except ε α → Prop}
  {R : Stage → Except ε β → Prop} {u : Stage}

/-- **Sequencing.** -/
theorem keeps_andThen {k : Except ε α → Code Q A ε β} {c : Code Q A ε α} :
    Keeps permitted allowed R u (c.andThen k) ↔
      Keeps permitted allowed (fun v result => Keeps permitted allowed R v (k result)) u c := by
  induction c generalizing u with
  | done result => exact Iff.rfl
  | acquire next ih => exact and_congr_right fun _ => ih
  | tryAcquire next ih => exact and_congr_right fun _ => and_congr (ih true) (ih false)
  | release next ih => exact and_congr_right fun _ => ih true
  | ask q next ih => exact and_congr_right fun _ => forall_congr' fun a => imp_congr_right fun _ => ih a

/-- A weaker postcondition under weaker demands. -/
theorem Keeps.mono {permitted' : ∀ q, A q → Prop} {allowed' : Stage → Q → Prop}
    {P' : Stage → Except ε α → Prop} (hpermitted : ∀ q a, permitted' q a → permitted q a)
    (hallowed : ∀ v q, allowed v q → allowed' v q) (hP : ∀ v result, P v result → P' v result)
    {c : Code Q A ε α} (h : Keeps permitted allowed P u c) : Keeps permitted' allowed' P' u c := by
  induction c generalizing u with
  | done result => exact hP u result h
  | acquire next ih => exact ⟨h.1, ih h.2⟩
  | tryAcquire next ih => exact ⟨h.1, ih true h.2.1, ih false h.2.2⟩
  | release next ih => exact ⟨h.1, ih true h.2⟩
  | ask q next ih => exact ⟨hallowed u q h.1, fun a ha => ih a (h.2 a (hpermitted q a ha))⟩

@[simp] theorem keeps_done {result : Except ε α} :
    Keeps permitted allowed P u (.done result : Code Q A ε α) ↔ P u result := Iff.rfl

@[simp] theorem keeps_pure {a : α} :
    Keeps permitted allowed P u (pure a : Code Q A ε α) ↔ P u (.ok a) := Iff.rfl

@[simp] theorem keeps_ofExcept {result : Except ε α} :
    Keeps permitted allowed P u (Code.ofExcept result : Code Q A ε α) ↔ P u result := Iff.rfl

@[simp] theorem keeps_raise {e : ε} :
    Keeps permitted allowed P u (Code.raise e : Code Q A ε α) ↔ P u (.error e) := Iff.rfl

@[simp] theorem keeps_call {q : Q} {result : A q → Except ε α} :
    Keeps permitted allowed P u (Code.call result) ↔
      allowed u q ∧ ∀ a, permitted q a → P u (result a) := Iff.rfl

theorem keeps_bind {f : α → Code Q A ε β} {c : Code Q A ε α} :
    Keeps permitted allowed R u (c >>= f) ↔ Keeps permitted allowed (fun v result => match result with
      | .ok a => Keeps permitted allowed R v (f a)
      | .error e => R v (.error e)) u c := by
  show Keeps permitted allowed R u (c.andThen _) ↔ _
  rw [keeps_andThen]
  refine iff_of_eq (congrArg (fun P => Keeps permitted allowed P u c) ?_)
  funext v result
  cases result with
  | ok a => rfl
  | error e => rfl

theorem keeps_finallyDo {cleanup : Code Q A ε Unit} {c : Code Q A ε α} :
    Keeps permitted allowed P u (c.finallyDo cleanup) ↔ Keeps permitted allowed (fun v result =>
      Keeps permitted allowed (fun w cleaned => match cleaned with
        | .ok _ => P w result
        | .error e => P w (.error e)) v cleanup) u c := by
  show Keeps permitted allowed P u (c.andThen _) ↔ _
  rw [keeps_andThen]
  refine iff_of_eq (congrArg (fun P => Keeps permitted allowed P u c) ?_)
  funext v result
  rw [eq_iff_iff, keeps_andThen]
  refine iff_of_eq (congrArg (fun P => Keeps permitted allowed P v cleanup) ?_)
  funext w cleaned
  cases cleaned with
  | ok a => rfl
  | error e => rfl

/-- Who is inside releases, and is never told that the lock was free. -/
@[simp] theorem keeps_releaseLock {unlocked : ε} {P : Stage → Except ε Unit → Prop} :
    Keeps permitted allowed P u (Code.releaseLock unlocked : Code Q A ε Unit) ↔
      u = .inside ∧ P .finished (.ok ()) := Iff.rfl

theorem keeps_withLock {unlocked : ε} {c : Code Q A ε α} :
    Keeps permitted allowed P u (c.withLock unlocked) ↔ u = .fresh ∧
      Keeps permitted allowed (fun v result => v = .inside ∧ P .finished result) .inside c := by
  show u = .fresh ∧ Keeps permitted allowed P .inside (c.finallyDo _) ↔ _
  rw [keeps_finallyDo]
  rfl

end Keeps

/-! ## Programs side by side -/

/-- What a program does at the lock, or is answered. -/
inductive Act (Q : Type) where
  | acquired
  | refused
  | released
  | answered (q : Q)
  deriving DecidableEq

/-- The programs of all calls, and the call that holds the lock. -/
structure System (θ Q : Type) (A : Q → Type) (ε α : Type) where
  holder : Option θ := none
  code : θ → Code Q A ε α

section System

variable {θ Q : Type} [DecidableEq θ] {A : Q → Type} {ε α : Type}

/-- One step of one call.  A lock is released whoever holds it. -/
inductive Step (permitted : ∀ q, A q → Prop) :
    System θ Q A ε α → θ × Act Q → System θ Q A ε α → Prop
  | acquired {s : System θ Q A ε α} {i : θ} {next : Code Q A ε α} (hcode : s.code i = .acquire next)
      (hfree : s.holder = none) :
      Step permitted s (i, .acquired) { holder := some i, code := Function.update s.code i next }
  | taken {s : System θ Q A ε α} {i : θ} {next : Bool → Code Q A ε α}
      (hcode : s.code i = .tryAcquire next) (hfree : s.holder = none) :
      Step permitted s (i, .acquired) { holder := some i, code := Function.update s.code i (next true) }
  | refused {s : System θ Q A ε α} {i : θ} {next : Bool → Code Q A ε α}
      (hcode : s.code i = .tryAcquire next) (hheld : s.holder ≠ none) :
      Step permitted s (i, .refused) { s with code := Function.update s.code i (next false) }
  | released {s : System θ Q A ε α} {i : θ} {next : Bool → Code Q A ε α}
      (hcode : s.code i = .release next) :
      Step permitted s (i, .released)
        { holder := none, code := Function.update s.code i (next s.holder.isSome) }
  | answered {s : System θ Q A ε α} {i : θ} {q : Q} {next : A q → Code Q A ε α}
      (hcode : s.code i = .ask q next) (a : A q) (ha : permitted q a) :
      Step permitted s (i, .answered q) { s with code := Function.update s.code i (next a) }

def Act.stage (u : Stage) : Act Q → Stage
  | .acquired => .inside
  | .refused => .refused
  | .released => .finished
  | .answered _ => u

/-- Where the log says that a call stands. -/
def stageOf (ls : List (θ × Act Q)) (i : θ) : Stage :=
  ls.foldl (fun u l => if l.1 = i then l.2.stage u else u) .fresh

@[simp] theorem stageOf_nil (i : θ) : stageOf ([] : List (θ × Act Q)) i = .fresh := rfl

theorem stageOf_snoc (ls : List (θ × Act Q)) (i : θ) (act : Act Q) :
    stageOf (ls ++ [(i, act)]) i = act.stage (stageOf ls i) := by
  simp [stageOf]

theorem stageOf_snoc_other (ls : List (θ × Act Q)) {i j : θ} (act : Act Q) (h : j ≠ i) :
    stageOf (ls ++ [(i, act)]) j = stageOf ls j := by
  simp [stageOf, h.symm]

/-- How often the log says that a call acquired, and released, the lock. -/
def acquisitions (ls : List (θ × Act Q)) (i : θ) : Nat :=
  ls.countP fun l => decide (l.1 = i) && match l.2 with
    | .acquired => true
    | _ => false

def releases (ls : List (θ × Act Q)) (i : θ) : Nat :=
  ls.countP fun l => decide (l.1 = i) && match l.2 with
    | .released => true
    | _ => false

def Stage.acquisitions : Stage → Nat
  | .fresh | .refused => 0
  | .inside | .finished => 1

def Stage.releases : Stage → Nat
  | .fresh | .refused | .inside => 0
  | .finished => 1

variable {permitted : ∀ q, A q → Prop} {allowed : Stage → Q → Prop} {P : θ → Stage → Except ε α → Prop}
  {init s t : System θ Q A ε α} {ls : List (θ × Act Q)} {i j : θ}

/-- What a log and the state it leads to say of each other, if every program keeps the discipline. -/
structure Disciplined (permitted : ∀ q, A q → Prop) (allowed : Stage → Q → Prop)
    (P : θ → Stage → Except ε α → Prop) (ls : List (θ × Act Q)) (s : System θ Q A ε α) : Prop where
  keeps : ∀ i, Keeps permitted allowed (P i) (stageOf ls i) (s.code i)
  holder_iff : ∀ i, s.holder = some i ↔ stageOf ls i = .inside
  acquisitions_eq : ∀ i, acquisitions ls i = (stageOf ls i).acquisitions
  releases_eq : ∀ i, releases ls i = (stageOf ls i).releases
  refused_stays : ∀ i, (i, Act.refused) ∈ ls → stageOf ls i = .refused
  /-- Who never held the lock was refused it, or only asked. -/
  quiet : ∀ i, stageOf ls i = .fresh ∨ stageOf ls i = .refused → ∀ act, (i, act) ∈ ls →
    act = .refused ∨ ∃ u q, u ≠ .inside ∧ act = .answered q ∧ allowed u q

theorem acquisitions_snoc (ls : List (θ × Act Q)) (i j : θ) (act : Act Q) :
    acquisitions (ls ++ [(i, act)]) j
      = acquisitions ls j + if i = j ∧ act.stage .fresh = .inside then 1 else 0 := by
  rw [acquisitions, List.countP_append, acquisitions, List.countP_singleton]
  by_cases h : i = j <;> cases act <;> simp [h, Act.stage]

theorem releases_snoc (ls : List (θ × Act Q)) (i j : θ) (act : Act Q) :
    releases (ls ++ [(i, act)]) j
      = releases ls j + if i = j ∧ act.stage .fresh = .finished then 1 else 0 := by
  rw [releases, List.countP_append, releases, List.countP_singleton]
  by_cases h : i = j <;> cases act <;> simp [h, Act.stage]

/-- The steps the discipline allows a call that stands at a stage. -/
inductive Moves (allowed : Stage → Q → Prop) : Stage → Act Q → Prop
  | acquired : Moves allowed .fresh .acquired
  | refused : Moves allowed .fresh .refused
  | released : Moves allowed .inside .released
  | answered {u : Stage} {q : Q} (h : allowed u q) : Moves allowed u (.answered q)

/-- The account after a step of one call. -/
theorem Disciplined.snoc (h : Disciplined permitted allowed P ls s) {act : Act Q} {code : Code Q A ε α}
    {u : Stage} (hu : stageOf ls i = u) (hmoves : Moves allowed u act) {holder : Option θ}
    (hkeeps : Keeps permitted allowed (P i) (act.stage u) code)
    (hself : holder = some i ↔ act.stage u = .inside)
    (hothers : ∀ j, j ≠ i → (holder = some j ↔ s.holder = some j)) :
    Disciplined permitted allowed P (ls ++ [(i, act)])
      { holder := holder, code := Function.update s.code i code } := by
  have hstage : stageOf (ls ++ [(i, act)]) i = act.stage u := by rw [stageOf_snoc, hu]
  constructor
  · intro j
    show Keeps permitted allowed (P j) _ (Function.update s.code i code j)
    by_cases hj : j = i
    · subst hj
      rw [hstage, Function.update_self]
      exact hkeeps
    · rw [stageOf_snoc_other _ _ hj, Function.update_of_ne hj]
      exact h.keeps j
  · intro j
    by_cases hj : j = i
    · subst hj
      rw [hstage]
      exact hself
    · rw [stageOf_snoc_other _ _ hj]
      exact (hothers j hj).trans (h.holder_iff j)
  · intro j
    rw [acquisitions_snoc]
    by_cases hj : j = i
    · subst hj
      rw [hstage, h.acquisitions_eq, hu]
      cases hmoves <;> simp [Act.stage, Stage.acquisitions]
    · rw [stageOf_snoc_other _ _ hj, h.acquisitions_eq, if_neg fun hi => hj hi.1.symm, Nat.add_zero]
  · intro j
    rw [releases_snoc]
    by_cases hj : j = i
    · subst hj
      rw [hstage, h.releases_eq, hu]
      cases hmoves <;> simp [Act.stage, Stage.releases]
    · rw [stageOf_snoc_other _ _ hj, h.releases_eq, if_neg fun hi => hj hi.1.symm, Nat.add_zero]
  · intro j hmem
    by_cases hj : j = i
    · subst hj
      rw [hstage]
      rcases List.mem_append.mp hmem with hmem | hmem
      · -- after a refusal only questions are asked
        have hrefused := h.refused_stays j hmem
        rw [hu] at hrefused
        subst hrefused
        cases hmoves
        rfl
      · obtain ⟨-, rfl⟩ := Prod.mk.inj (List.mem_singleton.mp hmem)
        rfl
    · rw [stageOf_snoc_other _ _ hj]
      refine h.refused_stays j ?_
      rcases List.mem_append.mp hmem with hmem | hmem
      · exact hmem
      · exact absurd (Prod.mk.inj (List.mem_singleton.mp hmem)).1 hj
  · intro j hquiet act' hmem
    by_cases hj : j = i
    · subst hj
      rw [hstage] at hquiet
      have hbefore : u = .fresh ∨ u = .refused := by
        cases hmoves <;> simp_all [Act.stage]
      rcases List.mem_append.mp hmem with hmem | hmem
      · exact h.quiet j (hu ▸ hbefore) act' hmem
      · obtain ⟨-, rfl⟩ := Prod.mk.inj (List.mem_singleton.mp hmem)
        cases hmoves with
        | acquired => simp [Act.stage] at hquiet
        | refused => exact Or.inl rfl
        | released => simp [Act.stage] at hquiet
        | answered hallowed =>
          refine Or.inr ⟨u, _, ?_, rfl, hallowed⟩
          rintro rfl
          rcases hbefore with hbefore | hbefore <;> cases hbefore
    · rw [stageOf_snoc_other _ _ hj] at hquiet
      refine h.quiet j hquiet act' ?_
      rcases List.mem_append.mp hmem with hmem | hmem
      · exact hmem
      · exact absurd (Prod.mk.inj (List.mem_singleton.mp hmem)).1 hj

/-- **One step keeps the account**, and is one the discipline allows. -/
theorem Disciplined.step (h : Disciplined permitted allowed P ls s) {act : Act Q}
    (hstep : Step permitted s (i, act) t) :
    Moves allowed (stageOf ls i) act ∧ Disciplined permitted allowed P (ls ++ [(i, act)]) t := by
  have hkeeps := h.keeps i
  have hholder := h.holder_iff i
  cases hstep with
  | acquired hcode hfree =>
    rw [hcode] at hkeeps
    obtain ⟨hfresh, hnext⟩ := hkeeps
    refine ⟨hfresh ▸ .acquired, h.snoc hfresh .acquired hnext (by simp [Act.stage]) ?_⟩
    intro j hj
    simp [hfree, hj.symm]
  | taken hcode hfree =>
    rw [hcode] at hkeeps
    obtain ⟨hfresh, hnext, -⟩ := hkeeps
    refine ⟨hfresh ▸ .acquired, h.snoc hfresh .acquired hnext (by simp [Act.stage]) ?_⟩
    intro j hj
    simp [hfree, hj.symm]
  | refused hcode hheld =>
    rw [hcode] at hkeeps
    obtain ⟨hfresh, -, hnext⟩ := hkeeps
    refine ⟨hfresh ▸ .refused, h.snoc hfresh .refused hnext ?_ fun j hj => Iff.rfl⟩
    rw [hholder, hfresh]
    simp [Act.stage]
  | released hcode =>
    rw [hcode] at hkeeps
    obtain ⟨hinside, hnext⟩ := hkeeps
    have hself : s.holder = some i := hholder.mpr hinside
    refine ⟨hinside ▸ .released, h.snoc hinside .released ?_ (by simp [Act.stage]) ?_⟩
    · rw [hself]
      exact hnext
    · intro j hj
      simp [hself, hj.symm]
  | answered hcode a ha =>
    rw [hcode] at hkeeps
    obtain ⟨hallowed, hnext⟩ := hkeeps
    exact ⟨.answered hallowed, h.snoc rfl (.answered hallowed) (hnext a ha) hholder fun j hj => Iff.rfl⟩

theorem disciplined_start (h : ∀ i, Keeps permitted allowed (P i) .fresh (init.code i))
    (hfree : init.holder = none) : Disciplined permitted allowed P [] init := by
  constructor
  · exact h
  · intro i
    simp [hfree]
  · exact fun i => rfl
  · exact fun i => rfl
  · exact fun i hmem => absurd hmem List.not_mem_nil
  · exact fun i _ act hmem => absurd hmem List.not_mem_nil

/-- **Every run keeps the account.** -/
theorem disciplined_of_run (h : ∀ i, Keeps permitted allowed (P i) .fresh (init.code i))
    (hfree : init.holder = none) (hrun : Run (Step permitted) init ls s) :
    Disciplined permitted allowed P ls s := by
  refine hrun.history (I := Disciplined permitted allowed P) ?_ (disciplined_start h hfree)
  rintro ls s ⟨i, act⟩ t hstep hs
  exact (hs.step hstep).2

/-! ## What holds of all of them -/

/-- The log says that the call acquired the lock and has not released it. -/
def Holds (ls : List (θ × Act Q)) (i : θ) : Prop := releases ls i < acquisitions ls i

theorem Disciplined.holds_iff (h : Disciplined permitted allowed P ls s) (i : θ) :
    Holds ls i ↔ stageOf ls i = .inside := by
  rw [Holds, h.acquisitions_eq, h.releases_eq]
  cases stageOf ls i <;> simp [Stage.acquisitions, Stage.releases]

/-- **The programs take turns**: the questions of the `guarded` kind are only asked while holding the
    lock, and `Refused` is what a refused program may end with. -/
structure Orderly (guarded : Q → Prop) (Refused : θ → Except ε α → Prop) (ls : List (θ × Act Q))
    (s : System θ Q A ε α) : Prop where
  exclusive : ∀ i j, Holds ls i → Holds ls j → i = j
  /-- Who waits for the answer of a guarded question holds the lock. -/
  asking : ∀ i q next, s.code i = .ask q next → guarded q → Holds ls i
  asked : ∀ pre post i q, ls = pre ++ (i, .answered q) :: post → guarded q → Holds pre i
  /-- A call releases only what it acquired, acquires once, and has released when it ends. -/
  releases_own : ∀ pre post i, ls = pre ++ (i, .released) :: post → Holds pre i
  acquires_once : ∀ i, acquisitions ls i ≤ 1
  balanced : ∀ i result, s.code i = .done result → acquisitions ls i = releases ls i
  /-- A refused call leaves the lock alone and asks no guarded question. -/
  refused : ∀ i, (i, Act.refused) ∈ ls →
    (∀ act, (i, act) ∈ ls → act = .refused ∨ ∃ q, act = .answered q ∧ ¬ guarded q) ∧
    ∀ result, s.code i = .done result → Refused i result

/-- **Discipline makes order.**  If every program asks guarded questions only inside, does not end
    there, and ends as it should where it was refused, then in every run they take turns. -/
theorem orderly_of_run {guarded : Q → Prop} {Refused : θ → Except ε α → Prop}
    (h : ∀ i, Keeps permitted (fun u q => guarded q → u = .inside)
      (fun u result => u ≠ .inside ∧ (u = .refused → Refused i result)) .fresh (init.code i))
    (hfree : init.holder = none) (hrun : Run (Step permitted) init ls s) :
    Orderly guarded Refused ls s := by
  have hend := disciplined_of_run (P := fun i u result => u ≠ .inside ∧ (u = .refused → Refused i result))
    h hfree hrun
  have hat : ∀ pre post i act, ls = pre ++ (i, act) :: post →
      (Holds pre i ↔ stageOf pre i = .inside) ∧
        Moves (fun u q => guarded q → u = .inside) (stageOf pre i) act := by
    rintro pre post i act rfl
    obtain ⟨t, t', hpre, hstep, -⟩ := hrun.at_label
    have hbefore := disciplined_of_run
      (P := fun i u result => u ≠ .inside ∧ (u = .refused → Refused i result)) h hfree hpre
    exact ⟨hbefore.holds_iff i, (hbefore.step hstep).1⟩
  constructor
  · intro i j hi hj
    rw [hend.holds_iff, ← hend.holder_iff] at hi hj
    exact Option.some.inj (hi.symm.trans hj)
  · intro i q next hcode hguarded
    have hkeeps := hend.keeps i
    rw [hcode] at hkeeps
    exact (hend.holds_iff i).mpr (hkeeps.1 hguarded)
  · intro pre post i q hls hguarded
    obtain ⟨hholds, hmoves⟩ := hat pre post i _ hls
    generalize stageOf pre i = u at hholds hmoves
    cases hmoves with
    | answered hallowed => exact hholds.mpr (hallowed hguarded)
  · intro pre post i hls
    obtain ⟨hholds, hmoves⟩ := hat pre post i _ hls
    generalize stageOf pre i = u at hholds hmoves
    cases hmoves
    exact hholds.mpr rfl
  · intro i
    rw [hend.acquisitions_eq]
    cases stageOf ls i <;> simp [Stage.acquisitions]
  · intro i result hcode
    have hkeeps := hend.keeps i
    rw [hcode] at hkeeps
    rw [hend.acquisitions_eq, hend.releases_eq]
    cases hu : stageOf ls i with
    | inside => exact absurd hu hkeeps.1
    | fresh => rfl
    | finished => rfl
    | refused => rfl
  · intro i hmem
    have hrefused := hend.refused_stays i hmem
    constructor
    · intro act hact
      rcases hend.quiet i (Or.inr hrefused) act hact with heq | ⟨u, q, hu, heq, hallowed⟩
      · exact Or.inl heq
      · exact Or.inr ⟨q, heq, fun hguarded => hu (hallowed hguarded)⟩
    · intro result hcode
      have hkeeps := hend.keeps i
      rw [hcode] at hkeeps
      exact hkeeps.2 hrefused

end System

end Guarded
