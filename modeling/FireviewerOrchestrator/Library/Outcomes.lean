/-
  What a program can end with.

  `Ends` is the relational semantics of one program by itself, under any answers that are permitted:
  whoever releases the lock holds it.  `Yields` is its triple, with one postcondition for what is
  returned and one for what is raised, and a rule for each combinator of programs.  `Gives` is one
  execution: the answers that a program was given decide how it ended.  `AsksOnly` reads a program for
  the questions it may ask and nothing else.
-/
import FireviewerOrchestrator.Library.Guarded

set_option linter.unusedVariables false

namespace Guarded

variable {Q : Type} {A : Q → Type} {ε α β : Type}

/-- What comes after what comes after. -/
theorem Code.andThen_andThen {γ : Type} {k : Except ε α → Code Q A ε β} {k' : Except ε β → Code Q A ε γ}
    (c : Code Q A ε α) : (c.andThen k).andThen k' = c.andThen fun r => (k r).andThen k' := by
  induction c with
  | done r => rfl
  | acquire next ih => exact congrArg Code.acquire ih
  | tryAcquire next ih => exact congrArg Code.tryAcquire (funext ih)
  | release next ih => exact congrArg Code.release (funext ih)
  | ask q next ih => exact congrArg (Code.ask q) (funext ih)

/-! ## Outcomes -/

/-- **The program can end with the result**, if every question is answered as permitted. -/
def Ends (permitted : ∀ q, A q → Prop) : Code Q A ε α → Except ε α → Prop
  | .done r, result => r = result
  | .acquire next, result => Ends permitted next result
  | .tryAcquire next, result => ∃ got, Ends permitted (next got) result
  | .release next, result => Ends permitted (next true) result
  | .ask q next, result => ∃ a, permitted q a ∧ Ends permitted (next a) result

/-- What comes after a program goes on from one of its ends. -/
theorem ends_andThen {permitted : ∀ q, A q → Prop} {k : Except ε α → Code Q A ε β} {c : Code Q A ε α}
    {out : Except ε β} : Ends permitted (c.andThen k) out ↔
      ∃ r, Ends permitted c r ∧ Ends permitted (k r) out := by
  induction c with
  | done r =>
    constructor
    · exact fun h => ⟨r, rfl, h⟩
    · rintro ⟨r', rfl, h⟩
      exact h
  | acquire next ih => exact ih
  | tryAcquire next ih =>
    constructor
    · rintro ⟨got, h⟩
      obtain ⟨r, hr, h⟩ := (ih got).mp h
      exact ⟨r, ⟨got, hr⟩, h⟩
    · rintro ⟨r, ⟨got, hr⟩, h⟩
      exact ⟨got, (ih got).mpr ⟨r, hr, h⟩⟩
  | release next ih => exact ih true
  | ask q next ih =>
    constructor
    · rintro ⟨a, ha, h⟩
      obtain ⟨r, hr, h⟩ := (ih a).mp h
      exact ⟨r, ⟨a, ha, hr⟩, h⟩
    · rintro ⟨r, ⟨a, ha, hr⟩, h⟩
      exact ⟨a, ha, (ih a).mpr ⟨r, hr, h⟩⟩

/-! ## Triples -/

/-- The result is `P` if it was returned and `E` if it was raised. -/
def Satisfies (E : ε → Prop) (P : α → Prop) : Except ε α → Prop
  | .ok a => P a
  | .error e => E e

/-- **Whatever the program ends with** is `P` if it was returned and `E` if it was raised. -/
def Yields (permitted : ∀ q, A q → Prop) (E : ε → Prop) (P : α → Prop) (c : Code Q A ε α) : Prop :=
  ∀ r, Ends permitted c r → Satisfies E P r

section Yields

variable {permitted : ∀ q, A q → Prop} {E E' : ε → Prop} {P P' : α → Prop} {R : β → Prop}
  {c : Code Q A ε α}

theorem yields_done {r : Except ε α} (h : Satisfies E P r) : Yields permitted E P (.done r) := by
  rintro _ rfl
  exact h

theorem yields_pure {a : α} (h : P a) : Yields permitted E P (pure a) := yields_done h

theorem yields_raise {e : ε} (h : E e) : Yields permitted E P (.raise e) := yields_done h

/-- Nothing is said. -/
theorem yields_trivial : Yields permitted (fun _ => True) (fun _ => True) c := by
  rintro (e | a) _
  · exact trivial
  · exact trivial

theorem Yields.mono (h : Yields permitted E' P' c) (hE : ∀ e, E' e → E e) (hP : ∀ a, P' a → P a) :
    Yields permitted E P c := by
  rintro (e | a) hr
  · exact hE e (h _ hr)
  · exact hP a (h _ hr)

theorem Yields.andThen {k : Except ε α → Code Q A ε β} (h : Yields permitted E' P' c)
    (hk : ∀ r, Satisfies E' P' r → Yields permitted E R (k r)) : Yields permitted E R (c.andThen k) := by
  intro out hout
  obtain ⟨r, hr, hout⟩ := ends_andThen.mp hout
  exact hk r (h r hr) out hout

/-- **Sequencing.** -/
theorem Yields.bind {f : α → Code Q A ε β} (h : Yields permitted E P c)
    (hf : ∀ a, P a → Yields permitted E R (f a)) : Yields permitted E R (c >>= f) := by
  refine Yields.andThen h ?_
  rintro (e | a) hr
  · exact yields_raise hr
  · exact hf a hr

/-- The handler takes over from what is raised. -/
theorem Yields.tryExcept {handler : ε → Option (Code Q A ε α)} (h : Yields permitted E' P c)
    (hhandler : ∀ e, E' e → Yields permitted E P ((handler e).getD (.raise e))) :
    Yields permitted E P (c.tryExcept handler) := by
  refine Yields.andThen h ?_
  rintro (e | a) hr
  · exact hhandler e hr
  · exact yields_pure hr

/-- The cleanup may raise as well. -/
theorem Yields.finallyDo {cleanup : Code Q A ε Unit} (h : Yields permitted E P c)
    (hcleanup : Yields permitted E (fun _ => True) cleanup) : Yields permitted E P (c.finallyDo cleanup) := by
  refine Yields.andThen h fun r hr => Yields.andThen hcleanup ?_
  rintro (e | u) hcleaned
  · exact yields_raise hcleaned
  · exact yields_done hr

/-- Releasing the lock that is held raises nothing. -/
theorem yields_releaseLock {unlocked : ε} :
    Yields permitted E (fun _ => True) (.releaseLock unlocked : Code Q A ε Unit) := by
  rintro _ rfl
  exact trivial

theorem Yields.withLock {unlocked : ε} (h : Yields permitted E P c) :
    Yields permitted E P (c.withLock unlocked) := h.finallyDo yields_releaseLock

/-- Whether or not the lock is free. -/
theorem yields_tryAcquire {next : Bool → Code Q A ε α} (h : ∀ got, Yields permitted E P (next got)) :
    Yields permitted E P (.tryAcquire next) := by
  rintro r ⟨got, hr⟩
  exact h got r hr

end Yields

/-! ## One execution -/

/-- **Given these answers, in this order, the program ends with the result.**  Of the lock it is not said
    who else wants it; whoever releases it holds it. -/
def Gives : Code Q A ε α → List ((q : Q) × A q) → Except ε α → Prop
  | .done r, answers, result => answers = [] ∧ r = result
  | .acquire next, answers, result => Gives next answers result
  | .tryAcquire next, answers, result => ∃ got, Gives (next got) answers result
  | .release next, answers, result => Gives (next true) answers result
  | .ask q next, answers, result => ∃ a rest, answers = ⟨q, a⟩ :: rest ∧ Gives (next a) rest result

/-! ## Questions -/

/-- The program leaves the lock alone and asks nothing but these questions. -/
def AsksOnly (asked : Q → Prop) : Code Q A ε α → Prop
  | .done _ => True
  | .ask q next => asked q ∧ ∀ a, AsksOnly asked (next a)
  | .acquire _ | .tryAcquire _ | .release _ => False

section AsksOnly

variable {asked : Q → Prop} {c : Code Q A ε α}

@[simp] theorem asksOnly_done {r : Except ε α} : AsksOnly asked (.done r : Code Q A ε α) := trivial

@[simp] theorem asksOnly_pure {a : α} : AsksOnly asked (pure a : Code Q A ε α) := trivial

theorem asksOnly_call {q : Q} {r : A q → Except ε α} (h : asked q) : AsksOnly asked (.call r) :=
  ⟨h, fun _ => trivial⟩

theorem AsksOnly.mono {asked' : Q → Prop} (h : AsksOnly asked c) (hasked : ∀ q, asked q → asked' q) :
    AsksOnly asked' c := by
  induction c with
  | done r => exact trivial
  | ask q next ih => exact ⟨hasked q h.1, fun a => ih a (h.2 a)⟩
  | acquire next ih => cases h
  | tryAcquire next ih => cases h
  | release next ih => cases h

theorem AsksOnly.andThen {k : Except ε α → Code Q A ε β} (h : AsksOnly asked c)
    (hk : ∀ r, AsksOnly asked (k r)) : AsksOnly asked (c.andThen k) := by
  induction c with
  | done r => exact hk r
  | ask q next ih => exact ⟨h.1, fun a => ih a (h.2 a)⟩
  | acquire next ih => cases h
  | tryAcquire next ih => cases h
  | release next ih => cases h

theorem AsksOnly.bind {f : α → Code Q A ε β} (h : AsksOnly asked c) (hf : ∀ a, AsksOnly asked (f a)) :
    AsksOnly asked (c >>= f) := by
  refine AsksOnly.andThen h ?_
  rintro (e | a)
  · exact asksOnly_done
  · exact hf a

theorem AsksOnly.tryExcept {handler : ε → Option (Code Q A ε α)} (h : AsksOnly asked c)
    (hhandler : ∀ e k, handler e = some k → AsksOnly asked k) : AsksOnly asked (c.tryExcept handler) := by
  refine AsksOnly.andThen h ?_
  rintro (e | a)
  · show AsksOnly asked ((handler e).getD (.done (.error e)))
    cases hk : handler e with
    | none => exact asksOnly_done
    | some k => exact hhandler e k hk
  · exact asksOnly_done

theorem AsksOnly.finallyDo {cleanup : Code Q A ε Unit} (h : AsksOnly asked c)
    (hcleanup : AsksOnly asked cleanup) : AsksOnly asked (c.finallyDo cleanup) := by
  refine AsksOnly.andThen h fun r => AsksOnly.andThen hcleanup ?_
  rintro (e | a)
  · exact asksOnly_done
  · exact asksOnly_done

/-- It ends at the stage where it began, if it may ask there what it asks. -/
theorem AsksOnly.keeps {permitted : ∀ q, A q → Prop} {allowed : Stage → Q → Prop}
    {P : Stage → Except ε α → Prop} {u : Stage} (h : AsksOnly asked c)
    (hallowed : ∀ q, asked q → allowed u q) (hP : ∀ r, Ends permitted c r → P u r) :
    Keeps permitted allowed P u c := by
  induction c with
  | done r => exact hP r rfl
  | ask q next ih =>
    exact ⟨hallowed q h.1, fun a ha => ih a (h.2 a) fun r hr => hP r ⟨a, ha, hr⟩⟩
  | acquire next ih => cases h
  | tryAcquire next ih => cases h
  | release next ih => cases h

/-- A sequence that begins with questions. -/
theorem AsksOnly.keeps_bind {permitted : ∀ q, A q → Prop} {allowed : Stage → Q → Prop}
    {P : Stage → Except ε β → Prop} {u : Stage} {f : α → Code Q A ε β} (h : AsksOnly asked c)
    (hallowed : ∀ q, asked q → allowed u q)
    (hf : ∀ a, Ends permitted c (.ok a) → Keeps permitted allowed P u (f a))
    (herror : ∀ e, P u (.error e)) : Keeps permitted allowed P u (c >>= f) := by
  refine keeps_andThen.mpr (h.keeps hallowed ?_)
  rintro (e | a) hr
  · exact herror e
  · exact hf a hr

end AsksOnly

end Guarded
