/-
  Traced programs: imperative code seen from its boundary.

  A `Prog ω σ ε E α` is a piece of imperative code that
    * talks to a world `ω` it knows nothing about (every answer of the world is possible),
    * reads and writes its own local variables `σ`,
    * emits events `E` (the record of what it asked of the world, and what was answered),
    * ends in a value `α` or in an exception `ε`.
  Unlike `Except` over `State`, an exception KEEPS the locals and the world as they were when it
  was raised: that is what a handler, or a cleanup block, sees in a language with `try`.

  The logic is one predicate: `Sat p s Q` says that, started with locals `s` in ANY world, `p`
  ends so that `Q result locals events` holds.  There is no precondition on the world, so a
  `Sat` fact is a fact about every environment at once.  Every constructor of `Prog` has one rule,
  stated backwards (what must be shown of the parts), so a proof follows the text of the program
  line by line.  A loop is understood through its `passes`, one record per iteration.

  Nothing here depends on what the programs compute.
-/
import Mathlib.Data.List.Basic

set_option linter.unusedVariables false

namespace Traced

/-! ## Programs -/

/-- How a program ended: its value or its exception, and what it left behind. -/
structure Outcome (ω σ ε E α : Type) where
  result : Except ε α
  world : ω
  locals : σ
  events : List E

/-- Imperative code over a world `ω` with locals `σ`, exceptions `ε` and events `E`. -/
def Prog (ω σ ε E α : Type) : Type := ω → σ → Outcome ω σ ε E α

namespace Prog

variable {ω σ τ ε E α β ι : Type}

/-- Sequencing: the events of both parts in order; an exception skips the rest. -/
protected def bind (p : Prog ω σ ε E α) (f : α → Prog ω σ ε E β) : Prog ω σ ε E β := fun w s =>
  match p w s with
  | ⟨.ok a, w₁, s₁, es⟩ =>
      let o := f a w₁ s₁
      ⟨o.result, o.world, o.locals, es ++ o.events⟩
  | ⟨.error e, w₁, s₁, es⟩ => ⟨.error e, w₁, s₁, es⟩

instance : Monad (Prog ω σ ε E) where
  pure a := fun w s => ⟨.ok a, w, s, []⟩
  bind := Prog.bind

/-- The value of a pure computation that may raise. -/
def ofExcept (x : Except ε α) : Prog ω σ ε E α := fun w s => ⟨x, w, s, []⟩

def raise (e : ε) : Prog ω σ ε E α := ofExcept (.error e)

/-- Read the local variables. -/
def get : Prog ω σ ε E σ := fun w s => ⟨.ok s, w, s, []⟩

/-- Assign to the local variables. -/
def modify (g : σ → σ) : Prog ω σ ε E Unit := fun w s => ⟨.ok (), w, g s, []⟩

def emit (ev : E) : Prog ω σ ε E Unit := fun w s => ⟨.ok (), w, s, [ev]⟩

/-- A question the world always answers. -/
def ask (f : ω → α × ω) : Prog ω σ ε E α := fun w s =>
  let (a, w₁) := f w
  ⟨.ok a, w₁, s, []⟩

/-- A call to the world, which may raise. -/
def call (f : ω → Except ε α × ω) : Prog ω σ ε E α := fun w s =>
  let (r, w₁) := f w
  ⟨r, w₁, s, []⟩

/-- Run `p` and record how it ended. -/
def observe (mk : Except ε α → E) (p : Prog ω σ ε E α) : Prog ω σ ε E α := fun w s =>
  let o := p w s
  ⟨o.result, o.world, o.locals, o.events ++ [mk o.result]⟩

/-- Run `p` and hand over how it ended; never raises.  `try … except … else` is a `match` on it. -/
def capture (p : Prog ω σ ε E α) : Prog ω σ ε E (Except ε α) := fun w s =>
  let o := p w s
  ⟨.ok o.result, o.world, o.locals, o.events⟩

/-- `try: p  finally: cleanup` — the exception of `p` comes back unless `cleanup` raises its own. -/
def finallyDo (p : Prog ω σ ε E α) (cleanup : Prog ω σ ε E Unit) : Prog ω σ ε E α :=
  capture p >>= fun r => cleanup >>= fun _ => ofExcept r

/-- A call of a function with its own local variables, initially `init`. -/
def scope (init : τ) (p : Prog ω τ ε E α) : Prog ω σ ε E α := fun w s =>
  let o := p w init
  ⟨o.result, o.world, s, o.events⟩

/-- `for i in xs: body i`. -/
def forEach : List ι → (ι → Prog ω σ ε E α) → Prog ω σ ε E Unit
  | [], _ => pure ()
  | i :: xs, body => body i >>= fun _ => forEach xs body

end Prog

/-! ## The logic -/

variable {ω σ τ ε E α β ι : Type}

open Prog

/-- Started with locals `s` in any world, `p` ends with `Q result locals events`. -/
def Sat (p : Prog ω σ ε E α) (s : σ) (Q : Except ε α → σ → List E → Prop) : Prop :=
  ∀ w, Q (p w s).result (p w s).locals (p w s).events

/-- `r` is one of the answers the external call `f` can give. -/
def MayReturn (f : ω → Except ε α × ω) (r : Except ε α) : Prop := ∃ w, (f w).1 = r

theorem Sat.mono {p : Prog ω σ ε E α} {s : σ} {P Q : Except ε α → σ → List E → Prop}
    (h : Sat p s P) (hPQ : ∀ r s' es, P r s' es → Q r s' es) : Sat p s Q :=
  fun w => hPQ _ _ _ (h w)

theorem Sat.and {p : Prog ω σ ε E α} {s : σ} {P Q : Except ε α → σ → List E → Prop}
    (hP : Sat p s P) (hQ : Sat p s Q) : Sat p s (fun r s' es => P r s' es ∧ Q r s' es) :=
  fun w => ⟨hP w, hQ w⟩

/-- Sequencing, in the form every other rule is used through: the continuation is run on each
    value the first part can end with, its events placed behind those already emitted. -/
theorem Sat.bind {p : Prog ω σ ε E α} {f : α → Prog ω σ ε E β} {s : σ}
    {P : Except ε α → σ → List E → Prop} {Q : Except ε β → σ → List E → Prop}
    (hp : Sat p s P)
    (hok : ∀ a s₁ es, P (.ok a) s₁ es → Sat (f a) s₁ (fun r s₂ es' => Q r s₂ (es ++ es')))
    (herr : ∀ e s₁ es, P (.error e) s₁ es → Q (.error e) s₁ es) :
    Sat (p >>= f) s Q := by
  intro w
  have h := hp w
  show Q ((Prog.bind p f w s).result) ((Prog.bind p f w s).locals) ((Prog.bind p f w s).events)
  unfold Prog.bind
  rcases hpw : p w s with ⟨r, w₁, s₁, es⟩
  rw [hpw] at h
  cases r with
  | ok a => exact hok a s₁ es h w₁
  | error e => exact herr e s₁ es h

theorem Sat.pure {a : α} {s : σ} {Q : Except ε α → σ → List E → Prop} (h : Q (.ok a) s []) :
    Sat (pure a : Prog ω σ ε E α) s Q := fun _ => h

theorem Sat.ofExcept {x : Except ε α} {s : σ} {Q : Except ε α → σ → List E → Prop}
    (h : Q x s []) : Sat (Prog.ofExcept x : Prog ω σ ε E α) s Q := fun _ => h

theorem Sat.raise {e : ε} {s : σ} {Q : Except ε α → σ → List E → Prop} (h : Q (.error e) s []) :
    Sat (Prog.raise e : Prog ω σ ε E α) s Q := fun _ => h

theorem Sat.get {s : σ} {Q : Except ε σ → σ → List E → Prop} (h : Q (.ok s) s []) :
    Sat (Prog.get : Prog ω σ ε E σ) s Q := fun _ => h

theorem Sat.modify {g : σ → σ} {s : σ} {Q : Except ε Unit → σ → List E → Prop}
    (h : Q (.ok ()) (g s) []) : Sat (Prog.modify g : Prog ω σ ε E Unit) s Q := fun _ => h

theorem Sat.emit {ev : E} {s : σ} {Q : Except ε Unit → σ → List E → Prop}
    (h : Q (.ok ()) s [ev]) : Sat (Prog.emit ev : Prog ω σ ε E Unit) s Q := fun _ => h

theorem Sat.ask {f : ω → α × ω} {s : σ} {Q : Except ε α → σ → List E → Prop}
    (h : ∀ a, Q (.ok a) s []) : Sat (Prog.ask f : Prog ω σ ε E α) s Q := fun _ => h _

theorem Sat.call {f : ω → Except ε α × ω} {s : σ} {Q : Except ε α → σ → List E → Prop}
    (h : ∀ r, MayReturn f r → Q r s []) : Sat (Prog.call f : Prog ω σ ε E α) s Q :=
  fun w => h _ ⟨w, rfl⟩

theorem Sat.observe {mk : Except ε α → E} {p : Prog ω σ ε E α} {s : σ}
    {Q : Except ε α → σ → List E → Prop} (h : Sat p s (fun r s' es => Q r s' (es ++ [mk r]))) :
    Sat (Prog.observe mk p) s Q := fun w => h w

theorem Sat.capture {p : Prog ω σ ε E α} {s : σ} {Q : Except ε (Except ε α) → σ → List E → Prop}
    (h : Sat p s (fun r s' es => Q (.ok r) s' es)) : Sat (Prog.capture p) s Q := fun w => h w

theorem Sat.scope {init : τ} {p : Prog ω τ ε E α} {s : σ} {Q : Except ε α → σ → List E → Prop}
    (h : Sat p init (fun r _ es => Q r s es)) : Sat (Prog.scope init p) s Q := fun w => h w

/-- `finally`: the cleanup runs after either way of ending, with the locals left by the body. -/
theorem Sat.finallyDo {p : Prog ω σ ε E α} {cleanup : Prog ω σ ε E Unit} {s : σ}
    {P : Except ε α → σ → List E → Prop} {Q : Except ε α → σ → List E → Prop}
    (hp : Sat p s P)
    (hc : ∀ r s₁ es, P r s₁ es → Sat cleanup s₁ (fun r' s₂ es' => match r' with
      | .ok _ => Q r s₂ (es ++ es')
      | .error e => Q (.error e) s₂ (es ++ es'))) :
    Sat (Prog.finallyDo p cleanup) s Q := by
  unfold Prog.finallyDo
  refine Sat.bind (P := fun x s₁ es => ∃ r, x = .ok r ∧ P r s₁ es)
    (Sat.capture (hp.mono fun r s' es h => ⟨r, rfl, h⟩)) ?_ ?_
  · rintro r s₁ es ⟨_, ⟨rfl⟩, hP⟩
    refine Sat.bind (hc _ s₁ es hP) ?_ ?_
    · intro _ s₂ es' hQ
      exact Sat.ofExcept (by simpa using hQ)
    · intro e s₂ es' hQ
      exact hQ
  · rintro e s₁ es ⟨_, h, _⟩
    cases h

/-! ### One line of a program at a time -/

theorem Sat.ask_bind {f : ω → α × ω} {k : α → Prog ω σ ε E β} {s : σ}
    {Q : Except ε β → σ → List E → Prop} (h : ∀ a, Sat (k a) s Q) :
    Sat (Prog.ask f >>= k) s Q :=
  Sat.bind (P := fun r s₁ es => ∃ a, r = .ok a ∧ s₁ = s ∧ es = []) (Sat.ask fun a => ⟨a, rfl, rfl, rfl⟩)
    (by rintro _ _ _ ⟨a, ⟨rfl⟩, rfl, rfl⟩; simpa using h _)
    (by rintro _ _ _ ⟨_, h, _⟩; cases h)

theorem Sat.call_bind {f : ω → Except ε α × ω} {k : α → Prog ω σ ε E β} {s : σ}
    {Q : Except ε β → σ → List E → Prop} (hok : ∀ a, MayReturn f (.ok a) → Sat (k a) s Q)
    (herr : ∀ e, MayReturn f (.error e) → Q (.error e) s []) :
    Sat (Prog.call f >>= k) s Q :=
  Sat.bind (P := fun r s₁ es => MayReturn f r ∧ s₁ = s ∧ es = []) (Sat.call fun r hr => ⟨hr, rfl, rfl⟩)
    (by rintro a _ _ ⟨hr, rfl, rfl⟩; simpa using hok a hr)
    (by rintro e _ _ ⟨hr, rfl, rfl⟩; exact herr e hr)

theorem Sat.observe_call_bind {mk : Except ε α → E} {f : ω → Except ε α × ω}
    {k : α → Prog ω σ ε E β} {s : σ} {Q : Except ε β → σ → List E → Prop}
    (hok : ∀ a, MayReturn f (.ok a) → Sat (k a) s (fun r s' es => Q r s' (mk (.ok a) :: es)))
    (herr : ∀ e, MayReturn f (.error e) → Q (.error e) s [mk (.error e)]) :
    Sat (Prog.observe mk (Prog.call f) >>= k) s Q :=
  Sat.bind (P := fun r s₁ es => MayReturn f r ∧ s₁ = s ∧ es = [mk r])
    (Sat.observe (Sat.call fun r hr => ⟨hr, rfl, rfl⟩))
    (by rintro a _ _ ⟨hr, rfl, rfl⟩; exact hok a hr)
    (by rintro e _ _ ⟨hr, rfl, rfl⟩; exact herr e hr)

theorem Sat.ofExcept_bind {x : Except ε α} {k : α → Prog ω σ ε E β} {s : σ}
    {Q : Except ε β → σ → List E → Prop} (hok : ∀ a, x = .ok a → Sat (k a) s Q)
    (herr : ∀ e, x = .error e → Q (.error e) s []) :
    Sat (Prog.ofExcept x >>= k) s Q :=
  Sat.bind (P := fun r s₁ es => r = x ∧ s₁ = s ∧ es = []) (Sat.ofExcept ⟨rfl, rfl, rfl⟩)
    (by rintro a _ _ ⟨hr, rfl, rfl⟩; simpa using hok a hr.symm)
    (by rintro e _ _ ⟨hr, rfl, rfl⟩; exact herr e hr.symm)

theorem Sat.get_bind {k : σ → Prog ω σ ε E β} {s : σ} {Q : Except ε β → σ → List E → Prop}
    (h : Sat (k s) s Q) : Sat (Prog.get >>= k) s Q :=
  Sat.bind (P := fun r s₁ es => r = .ok s ∧ s₁ = s ∧ es = []) (Sat.get ⟨rfl, rfl, rfl⟩)
    (by rintro _ _ _ ⟨⟨rfl⟩, rfl, rfl⟩; simpa using h)
    (by rintro _ _ _ ⟨h, _⟩; cases h)

theorem Sat.modify_bind {g : σ → σ} {k : Unit → Prog ω σ ε E β} {s : σ}
    {Q : Except ε β → σ → List E → Prop} (h : Sat (k ()) (g s) Q) :
    Sat (Prog.modify g >>= k) s Q :=
  Sat.bind (P := fun r s₁ es => r = .ok () ∧ s₁ = g s ∧ es = []) (Sat.modify ⟨rfl, rfl, rfl⟩)
    (by rintro _ _ _ ⟨⟨rfl⟩, rfl, rfl⟩; simpa using h)
    (by rintro _ _ _ ⟨h, _⟩; cases h)

/-- A captured computation: the rest of the program continues from either way of ending. -/
theorem Sat.capture_bind {p : Prog ω σ ε E α} {k : Except ε α → Prog ω σ ε E β} {s : σ}
    {P : Except ε α → σ → List E → Prop} {Q : Except ε β → σ → List E → Prop} (hp : Sat p s P)
    (h : ∀ r s₁ es, P r s₁ es → Sat (k r) s₁ (fun r' s₂ es' => Q r' s₂ (es ++ es'))) :
    Sat (Prog.capture p >>= k) s Q :=
  Sat.bind (P := fun x s₁ es => ∃ r, x = .ok r ∧ P r s₁ es)
    (Sat.capture (hp.mono fun r s' es hr => ⟨r, rfl, hr⟩))
    (by rintro _ s₁ es ⟨r, ⟨rfl⟩, hP⟩; exact h _ s₁ es hP)
    (by rintro _ _ _ ⟨_, hx, _⟩; cases hx)

/-! ### Outcomes

  `Sat` forgets which world a program was started in.  Where two programs have to be related from
  one and the same world, their outcomes are computed. -/

theorem bind_of_ok {p : Prog ω σ ε E α} {f : α → Prog ω σ ε E β} {w : ω} {s : σ} {a : α}
    (h : (p w s).result = .ok a) :
    (p >>= f) w s = ⟨(f a (p w s).world (p w s).locals).result, (f a (p w s).world (p w s).locals).world,
      (f a (p w s).world (p w s).locals).locals,
      (p w s).events ++ (f a (p w s).world (p w s).locals).events⟩ := by
  show Prog.bind p f w s = _
  unfold Prog.bind
  rcases hp : p w s with ⟨r, w₁, s₁, es⟩
  rw [hp] at h
  cases h
  rfl

theorem bind_of_error {p : Prog ω σ ε E α} {f : α → Prog ω σ ε E β} {w : ω} {s : σ} {e : ε}
    (h : (p w s).result = .error e) :
    (p >>= f) w s = ⟨.error e, (p w s).world, (p w s).locals, (p w s).events⟩ := by
  show Prog.bind p f w s = _
  unfold Prog.bind
  rcases hp : p w s with ⟨r, w₁, s₁, es⟩
  rw [hp] at h
  cases h
  rfl

/-- The log of `try … finally` is the body's, then the cleanup's. -/
theorem finallyDo_events (p : Prog ω σ ε E α) (cleanup : Prog ω σ ε E Unit) (w : ω) (s : σ) :
    (Prog.finallyDo p cleanup w s).events
      = (p w s).events ++ (cleanup (p w s).world (p w s).locals).events := by
  have hp : (Prog.capture p w s).result = .ok (p w s).result := rfl
  unfold Prog.finallyDo
  rw [bind_of_ok hp]
  cases hc : (cleanup (p w s).world (p w s).locals).result with
  | ok u =>
    have hc' : (cleanup (Prog.capture p w s).world (Prog.capture p w s).locals).result = .ok u := hc
    rw [bind_of_ok hc']
    exact congrArg _ (List.append_nil _)
  | error e =>
    have hc' : (cleanup (Prog.capture p w s).world (Prog.capture p w s).locals).result = .error e := hc
    rw [bind_of_error hc']
    rfl

/-- `try … finally` ends the way its body does, unless the cleanup raises. -/
theorem finallyDo_result (p : Prog ω σ ε E α) (cleanup : Prog ω σ ε E Unit) (w : ω) (s : σ) :
    (Prog.finallyDo p cleanup w s).result = match (cleanup (p w s).world (p w s).locals).result with
      | .ok _ => (p w s).result
      | .error e => .error e := by
  have hp : (Prog.capture p w s).result = .ok (p w s).result := rfl
  unfold Prog.finallyDo
  rw [bind_of_ok hp]
  cases hc : (cleanup (p w s).world (p w s).locals).result with
  | ok u =>
    have hc' : (cleanup (Prog.capture p w s).world (Prog.capture p w s).locals).result = .ok u := hc
    rw [bind_of_ok hc']
    rfl
  | error e =>
    have hc' : (cleanup (Prog.capture p w s).world (Prog.capture p w s).locals).result = .error e := hc
    rw [bind_of_error hc']

/-! ### Results alone

  What a program can raise, and what is true of what it returns, whatever its locals and its events. -/

/-- **A triple without a state**: started anywhere, the program returns what is `R` or raises what is `P`. -/
def Returns (P : ε → Prop) (R : α → Prop) (p : Prog ω σ ε E α) : Prop :=
  ∀ w s, match (p w s).result with
    | .ok a => R a
    | .error e => P e

section Returns

variable {P P' : ε → Prop} {R R' : α → Prop} {R₂ : β → Prop} {p : Prog ω σ ε E α}

theorem Returns.mono (h : Returns P' R' p) (hP : ∀ e, P' e → P e) (hR : ∀ a, R' a → R a) : Returns P R p := by
  intro w s
  have hresult := h w s
  split at hresult
  · exact hR _ hresult
  · exact hP _ hresult

/-- Sequencing. -/
theorem Returns.bind {f : α → Prog ω σ ε E β} (hp : Returns P R p) (hf : ∀ a, R a → Returns P R₂ (f a)) :
    Returns P R₂ (p >>= f) := by
  intro w s
  have hresult := hp w s
  cases hr : (p w s).result with
  | ok a =>
    rw [hr] at hresult
    rw [bind_of_ok hr]
    exact hf a hresult _ _
  | error e =>
    rw [hr] at hresult
    rw [bind_of_error hr]
    exact hresult

theorem returns_pure {a : α} (h : R a) : Returns P R (pure a : Prog ω σ ε E α) := fun _ _ => h

theorem returns_raise {e : ε} (h : P e) : Returns P R (Prog.raise e : Prog ω σ ε E α) := fun _ _ => h

theorem Returns.observe {mk : Except ε α → E} (h : Returns P R p) : Returns P R (Prog.observe mk p) := h

theorem Returns.scope {init : τ} {q : Prog ω τ ε E α} (h : Returns P R q) :
    Returns P R (Prog.scope init q : Prog ω σ ε E α) := fun w _ => h w init

/-- What was captured is handed on as it ended. -/
theorem Returns.capture_bind {k : Except ε α → Prog ω σ ε E β} (hp : Returns P' R p)
    (hok : ∀ a, R a → Returns P R₂ (k (.ok a))) (herror : ∀ e, P' e → Returns P R₂ (k (.error e))) :
    Returns P R₂ (Prog.capture p >>= k) := by
  have hcapture : Returns P (fun r : Except ε α => (∀ a, r = .ok a → R a) ∧ ∀ e, r = .error e → P' e)
      (Prog.capture p) := by
    intro w s
    have hresult := hp w s
    show (∀ a, (p w s).result = .ok a → R a) ∧ ∀ e, (p w s).result = .error e → P' e
    generalize (p w s).result = r at hresult
    constructor
    · rintro a rfl
      exact hresult
    · rintro e rfl
      exact hresult
  refine hcapture.bind fun r hr => ?_
  cases r with
  | ok a => exact hok a (hr.1 a rfl)
  | error e => exact herror e (hr.2 e rfl)

theorem Returns.finallyDo {cleanup : Prog ω σ ε E Unit} (hp : Returns P R p)
    (hcleanup : Returns P (fun _ => True) cleanup) : Returns P R (Prog.finallyDo p cleanup) := by
  refine Returns.capture_bind hp ?_ ?_
  · exact fun a ha => hcleanup.bind fun _ _ => returns_pure ha
  · exact fun e he => hcleanup.bind fun _ _ => returns_raise he

end Returns

/-! ## The passes of a loop

  A loop's outcome hides its iterations.  `passes` is the list of them, each with the locals it
  started from and how it ended, up to the last or to the first that raised; the lemmas below say
  that nothing of the loop is lost in the list. -/

/-- One iteration: its index, the locals it started from, how it ended. -/
structure Pass (ω σ ε E α ι : Type) where
  index : ι
  before : σ
  outcome : Outcome ω σ ε E α

namespace Pass

/-- The locals the iteration leaves. -/
def after (p : Pass ω σ ε E α ι) : σ := p.outcome.locals

def events (p : Pass ω σ ε E α ι) : List E := p.outcome.events

/-- The iteration ended with this value. -/
def Returned (p : Pass ω σ ε E α ι) (a : α) : Prop := p.outcome.result = .ok a

/-- The value the iteration ended with, if it did not raise. -/
def values (p : Pass ω σ ε E α ι) : List α :=
  match p.outcome.result with
  | .ok a => [a]
  | .error _ => []

theorem mem_values {p : Pass ω σ ε E α ι} {a : α} : a ∈ p.values ↔ p.Returned a := by
  unfold Returned values
  cases p.outcome.result with
  | ok b =>
    rw [List.mem_singleton, Except.ok.injEq]
    exact eq_comm
  | error e => simp

theorem values_of_returned {p : Pass ω σ ε E α ι} {a : α} (h : p.Returned a) : p.values = [a] := by
  unfold Returned at h
  unfold values
  rw [h]

end Pass

/-- The iterations of `for i in xs: body i`, in order. -/
def passes (body : ι → Prog ω σ ε E α) : List ι → ω → σ → List (Pass ω σ ε E α ι)
  | [], _, _ => []
  | i :: xs, w, s =>
      ⟨i, s, body i w s⟩ :: match (body i w s).result with
        | .ok _ => passes body xs (body i w s).world (body i w s).locals
        | .error _ => []

/-- Each pass starts from the locals the one before it left. -/
inductive Linked : σ → List (Pass ω σ ε E α ι) → σ → Prop
  | nil (s : σ) : Linked s [] s
  | cons {p : Pass ω σ ε E α ι} {ps : List (Pass ω σ ε E α ι)} {s' : σ} :
      Linked p.after ps s' → Linked p.before (p :: ps) s'

section Passes

variable {body : ι → Prog ω σ ε E α}

theorem forEach_cons_ok {i : ι} {xs : List ι} {w : ω} {s : σ} {a : α} (h : (body i w s).result = .ok a) :
    forEach (i :: xs) body w s =
      ⟨(forEach xs body (body i w s).world (body i w s).locals).result,
        (forEach xs body (body i w s).world (body i w s).locals).world,
        (forEach xs body (body i w s).world (body i w s).locals).locals,
        (body i w s).events ++ (forEach xs body (body i w s).world (body i w s).locals).events⟩ :=
  bind_of_ok h

theorem forEach_cons_error {i : ι} {xs : List ι} {w : ω} {s : σ} {e : ε}
    (h : (body i w s).result = .error e) :
    forEach (i :: xs) body w s =
      ⟨.error e, (body i w s).world, (body i w s).locals, (body i w s).events⟩ :=
  bind_of_error h

/-- The loop's log is the logs of its passes, in order. -/
theorem forEach_events_eq : ∀ (xs : List ι) (w : ω) (s : σ),
    (forEach xs body w s).events = (passes body xs w s).flatMap Pass.events := by
  intro xs
  induction xs with
  | nil => exact fun w s => rfl
  | cons i xs ih =>
    intro w s
    rw [passes, List.flatMap_cons]
    cases h : (body i w s).result with
    | ok a =>
      rw [forEach_cons_ok h]
      exact congrArg _ (ih _ _)
    | error e =>
      rw [forEach_cons_error h]
      simp [Pass.events]

/-- A loop that ends well went through all its indices, each pass ended with a value, and the
    locals are handed from pass to pass. -/
theorem forEach_ok : ∀ (xs : List ι) (w : ω) (s : σ), (forEach xs body w s).result = .ok () →
    (passes body xs w s).map Pass.index = xs ∧
    (∀ p ∈ passes body xs w s, ∃ a, p.Returned a) ∧
    Linked s (passes body xs w s) (forEach xs body w s).locals := by
  intro xs
  induction xs with
  | nil => exact fun w s _ => ⟨rfl, by simp [passes], .nil s⟩
  | cons i xs ih =>
    intro w s hok
    cases h : (body i w s).result with
    | ok a =>
      rw [forEach_cons_ok h] at hok ⊢
      obtain ⟨hidx, hall, hlink⟩ := ih _ _ hok
      rw [passes, h]
      refine ⟨congrArg (i :: ·) hidx, ?_, .cons (p := ⟨i, s, body i w s⟩) hlink⟩
      intro p hp
      rcases List.mem_cons.mp hp with rfl | hp
      · exact ⟨a, h⟩
      · exact hall p hp
    | error e =>
      rw [forEach_cons_error h] at hok
      cases hok

/-- A loop that raises does so because its last pass did. -/
theorem forEach_error : ∀ (xs : List ι) (w : ω) (s : σ) {e : ε}, (forEach xs body w s).result = .error e →
    ∃ p ∈ passes body xs w s, p.outcome.result = .error e := by
  intro xs
  induction xs with
  | nil =>
    intro w s e h
    cases h
  | cons i xs ih =>
    intro w s e hraise
    cases h : (body i w s).result with
    | ok a =>
      rw [forEach_cons_ok h] at hraise
      obtain ⟨p, hp, hpe⟩ := ih _ _ hraise
      refine ⟨p, ?_, hpe⟩
      rw [passes, h]
      exact List.mem_cons_of_mem _ hp
    | error e' =>
      rw [forEach_cons_error h] at hraise
      cases hraise
      exact ⟨_, by rw [passes]; exact List.mem_cons_self, h⟩

/-- What is proved of the body is true of every pass. -/
theorem passes_sat {Q : ι → σ → Except ε α → σ → List E → Prop}
    (h : ∀ i s, Sat (body i) s (Q i s)) : ∀ (xs : List ι) (w : ω) (s : σ),
    ∀ p ∈ passes body xs w s, Q p.index p.before p.outcome.result p.after p.events := by
  intro xs
  induction xs with
  | nil =>
    intro w s p hp
    cases hp
  | cons i xs ih =>
    intro w s p hp
    rw [passes] at hp
    rcases List.mem_cons.mp hp with rfl | hp
    · exact h i s w
    · cases hr : (body i w s).result with
      | ok a =>
        rw [hr] at hp
        exact ih _ _ p hp
      | error e =>
        rw [hr] at hp
        cases hp

end Passes

namespace Linked

variable {s s' : σ} {ps : List (Pass ω σ ε E α ι)}

/-- A log kept in the locals grows by what each pass appends to it. -/
theorem telescope {κ : Type} (log : σ → List κ) (new : Pass ω σ ε E α ι → List κ) (h : Linked s ps s')
    (hstep : ∀ p ∈ ps, log p.after = log p.before ++ new p) : log s' = log s ++ ps.flatMap new := by
  induction h with
  | nil s => simp
  | @cons p ps s' _ ih =>
    rw [ih fun q hq => hstep q (List.mem_cons_of_mem _ hq), hstep p List.mem_cons_self,
      List.flatMap_cons, List.append_assoc]

/-- What every pass keeps holds before and after each of them, and at the end. -/
theorem invariant {I : σ → Prop} (h : Linked s ps s') (hs : I s)
    (hstep : ∀ p ∈ ps, I p.before → I p.after) : (∀ p ∈ ps, I p.before) ∧ I s' := by
  induction h with
  | nil s => exact ⟨by simp, hs⟩
  | @cons p ps s' _ ih =>
    have hafter := hstep p List.mem_cons_self hs
    obtain ⟨hall, hlast⟩ := ih hafter fun q hq => hstep q (List.mem_cons_of_mem _ hq)
    refine ⟨?_, hlast⟩
    intro q hq
    rcases List.mem_cons.mp hq with rfl | hq
    · exact hs
    · exact hall q hq

/-- What one pass brought about and every pass keeps holds at the end. -/
theorem eventually {I : σ → Prop} (h : Linked s ps s') (hstep : ∀ p ∈ ps, I p.before → I p.after) :
    ∀ p ∈ ps, I p.after → I s' := by
  induction h with
  | nil s =>
    intro p hp
    cases hp
  | @cons p ps s' hrest ih =>
    have hlater : ∀ q ∈ ps, I q.before → I q.after := fun q hq => hstep q (List.mem_cons_of_mem _ hq)
    intro q hq hafter
    rcases List.mem_cons.mp hq with rfl | hq
    · exact (hrest.invariant hafter hlater).2
    · exact ih hlater q hq hafter

end Linked

end Traced
