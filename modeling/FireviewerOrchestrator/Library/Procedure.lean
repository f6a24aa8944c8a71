/-
  Procedures: the programs of `Guarded` with local variables.

  A `Proc` threads its locals `σ` through a program, and an exception leaves them as they were when it
  was raised: that is what a handler, or a cleanup, finds.  `Complies` is `Owns` for procedures.  Each
  combinator has one rule, stated backwards, so that a proof follows the text of a procedure.
-/
import FireviewerOrchestrator.Library.Shared

set_option linter.unusedVariables false

namespace Guarded

variable {Q : Type} {A : Q → Type} {W S σ ε δ α β ι : Type}

/-! ## Procedures -/

/-- A program whose exceptions are among those of another type. -/
def Code.mapError (f : ε → δ) (c : Code Q A ε α) : Code Q A δ α := c.andThen fun r => .done (r.mapError f)

/-- A program with local variables. -/
def Proc (Q : Type) (A : Q → Type) (σ ε α : Type) : Type := σ → Code Q A (ε × σ) (α × σ)

/-- The locals put beside a result. -/
def tagged (s : σ) : Except ε α → Except (ε × σ) (α × σ)
  | .ok a => .ok (a, s)
  | .error e => .error (e, s)

namespace Proc

protected def bind (p : Proc Q A σ ε α) (f : α → Proc Q A σ ε β) : Proc Q A σ ε β := fun s =>
  (p s).andThen fun
    | .ok (a, s') => f a s'
    | .error (e, s') => .done (.error (e, s'))

instance : Monad (Proc Q A σ ε) where
  pure a := fun s => .done (.ok (a, s))
  bind := Proc.bind

def ofExcept (result : Except ε α) : Proc Q A σ ε α := fun s => .done (tagged s result)

def raise (e : ε) : Proc Q A σ ε α := ofExcept (.error e)

def get : Proc Q A σ ε σ := fun s => .done (.ok (s, s))

def modify (f : σ → σ) : Proc Q A σ ε Unit := fun s => .done (.ok ((), f s))

/-- A question, and what its answer comes to. -/
def call (q : Q) (result : A q → Except ε α) : Proc Q A σ ε α := fun s =>
  .ask q fun a => .done (tagged s (result a))

def acquireLock : Proc Q A σ ε Unit := fun s => .acquire (.done (.ok ((), s)))

def releaseLock (unlocked : ε) : Proc Q A σ ε Unit := fun s =>
  .release fun wasHeld => .done (if wasHeld then .ok ((), s) else .error (unlocked, s))

/-- `try: … except …`, where the handler gives `none` for what it does not catch. -/
def tryExcept (p : Proc Q A σ ε α) (handler : ε → Option (Proc Q A σ ε α)) : Proc Q A σ ε α := fun s =>
  (p s).andThen fun
    | .ok (a, s') => .done (.ok (a, s'))
    | .error (e, s') => match handler e with
      | some k => k s'
      | none => .done (.error (e, s'))

/-- `try: … finally: …`, where the cleanup's own exception wins. -/
def finallyDo (p : Proc Q A σ ε α) (cleanup : Proc Q A σ ε Unit) : Proc Q A σ ε α := fun s =>
  (p s).andThen fun
    | .ok (a, s') => (cleanup >>= fun _ => pure a) s'
    | .error (e, s') => (cleanup >>= fun _ => raise e) s'

/-- `try: … except …` of the exceptions of a kind. -/
def exceptIf (p : Proc Q A σ ε α) (catches : ε → Bool) (handler : ε → Proc Q A σ ε α) : Proc Q A σ ε α :=
  tryExcept p fun e => if catches e then some (handler e) else none

def mapError (f : ε → δ) (p : Proc Q A σ ε α) : Proc Q A σ δ α := fun s => (p s).mapError (Prod.map f id)

/-- `for i in xs: x = body(i, x)`. -/
def foldLoop (body : ι → α → Proc Q A σ ε α) : List ι → α → Proc Q A σ ε α
  | [], x => pure x
  | i :: is, x => body i x >>= foldLoop body is

theorem foldLoop_cons (body : ι → α → Proc Q A σ ε α) (i : ι) (is : List ι) (x : α) :
    foldLoop body (i :: is) x = (body i x >>= foldLoop body is) := rfl

end Proc

/-! ## The rules -/

theorem Code.owns_mapError {f : ε → δ} {C : Contract Q A W S} {P : Stage → S → W → Except δ α → Prop} {u : Stage}
    {g : S} {w : W} {c : Code Q A ε α} : Owns C P u g w (c.mapError f) ↔
      Owns C (fun v g' w' r => P v g' w' (r.mapError f)) u g w c := owns_andThen

/-- What a procedure ends with, and what it leaves behind. -/
abbrev Post (S W σ ε α : Type) : Type := Stage → S → W → Except ε α → σ → Prop

/-- One condition for what is returned, and one for what is raised. -/
def Post.either (returned : α → Stage → S → W → σ → Prop) (thrown : ε → Stage → S → W → σ → Prop) :
    Post S W σ ε α
  | u, g, w, .ok a, s => returned a u g w s
  | u, g, w, .error e, s => thrown e u g w s

/-- What a cleanup leaves, if its own exception wins over how the body ended. -/
def Post.after (T : Post S W σ ε α) (r : Except ε α) : Post S W σ ε Unit :=
  .either (fun _ u g w s => T u g w r s) (fun e u g w s => T u g w (.error e) s)

def Post.on (R : Post S W σ ε α) (u : Stage) (g : S) (w : W) : Except (ε × σ) (α × σ) → Prop
  | .ok (a, s) => R u g w (.ok a) s
  | .error (e, s) => R u g w (.error e) s

/-- **The procedure keeps the contract** and ends in `R`. -/
def Complies (C : Contract Q A W S) (R : Post S W σ ε α) (u : Stage) (g : S) (w : W) (p : Proc Q A σ ε α)
    (s : σ) : Prop :=
  Owns C R.on u g w (p s)

section Rules

variable {C : Contract Q A W S} {R : Post S W σ ε α} {T : Post S W σ ε β} {u : Stage} {g : S} {w : W}
  {s : σ} {p : Proc Q A σ ε α}

theorem Complies.mono {R' : Post S W σ ε α} (h : Complies C R u g w p s)
    (hR : ∀ v g' w' r s', R v g' w' r s' → R' v g' w' r s') : Complies C R' u g w p s := by
  refine Owns.mono h ?_
  rintro v g' w' (⟨e, s'⟩ | ⟨a, s'⟩) hr
  · exact hR v g' w' (.error e) s' hr
  · exact hR v g' w' (.ok a) s' hr

/-- **Sequencing.** -/
theorem Complies.bind {f : α → Proc Q A σ ε β} (h : Complies C R u g w p s)
    (hok : ∀ v g' w' a s', R v g' w' (.ok a) s' → Complies C T v g' w' (f a) s')
    (herror : ∀ v g' w' e s', R v g' w' (.error e) s' → T v g' w' (.error e) s') :
    Complies C T u g w (p >>= f) s := by
  show Owns C T.on u g w ((p s).andThen _)
  refine owns_andThen.mpr (Owns.mono h ?_)
  rintro v g' w' (⟨e, s'⟩ | ⟨a, s'⟩) hr
  · exact herror v g' w' e s' hr
  · exact hok v g' w' a s' hr

theorem Complies.tryExcept {handler : ε → Option (Proc Q A σ ε α)} {T : Post S W σ ε α}
    (h : Complies C R u g w p s) (hok : ∀ v g' w' a s', R v g' w' (.ok a) s' → T v g' w' (.ok a) s')
    (hhandled : ∀ v g' w' e s' k, R v g' w' (.error e) s' → handler e = some k → Complies C T v g' w' k s')
    (hpassed : ∀ v g' w' e s', R v g' w' (.error e) s' → handler e = none → T v g' w' (.error e) s') :
    Complies C T u g w (Proc.tryExcept p handler) s := by
  show Owns C T.on u g w ((p s).andThen _)
  refine owns_andThen.mpr (Owns.mono h ?_)
  rintro v g' w' (⟨e, s'⟩ | ⟨a, s'⟩) hr
  · dsimp only
    split
    · rename_i k hk
      exact hhandled v g' w' e s' k hr hk
    · rename_i hk
      exact hpassed v g' w' e s' hr hk
  · exact hok v g' w' a s' hr

/-- What a procedure ends with is what its answers give. -/
theorem Complies.traced (h : Complies C R u g w p s) (before : List ((q : Q) × A q)) :
    Complies C.traced (fun v g' w' r s' => R v g'.1 w' r s' ∧
      ∃ answers, g'.2 = before ++ answers ∧ Gives (p s) answers (tagged s' r)) u (g, before) w p s := by
  refine (Owns.traced h before).mono ?_
  rintro v g' w' (⟨e, s'⟩ | ⟨a, s'⟩) hr
  · exact hr
  · exact hr

/-- The exceptions of the kind go to the handler, and the others pass. -/
theorem Complies.exceptIf {catches : ε → Bool} {handler : ε → Proc Q A σ ε α} {T : Post S W σ ε α}
    (h : Complies C R u g w p s) (hok : ∀ v g' w' a s', R v g' w' (.ok a) s' → T v g' w' (.ok a) s')
    (hcaught : ∀ v g' w' e s', R v g' w' (.error e) s' → catches e = true →
      Complies C T v g' w' (handler e) s')
    (hpassed : ∀ v g' w' e s', R v g' w' (.error e) s' → catches e = false → T v g' w' (.error e) s') :
    Complies C T u g w (Proc.exceptIf p catches handler) s := by
  refine Complies.tryExcept h hok ?_ ?_
  · intro v g' w' e s' k hR hk
    obtain ⟨hcatches, hk⟩ := Option.ite_none_right_eq_some.mp hk
    obtain rfl := Option.some.inj hk
    exact hcaught v g' w' e s' hR hcatches
  · intro v g' w' e s' hR hk
    refine hpassed v g' w' e s' hR (Bool.eq_false_iff.mpr fun hcatches => ?_)
    rw [if_pos hcatches] at hk
    cases hk

theorem Complies.mapError {f : ε → δ} {T : Post S W σ δ α} (h : Complies C R u g w p s)
    (hok : ∀ v g' w' a s', R v g' w' (.ok a) s' → T v g' w' (.ok a) s')
    (herror : ∀ v g' w' e s', R v g' w' (.error e) s' → T v g' w' (.error (f e)) s') :
    Complies C T u g w (Proc.mapError f p) s := by
  refine Code.owns_mapError.mpr (Owns.mono h ?_)
  rintro v g' w' (⟨e, s'⟩ | ⟨a, s'⟩) hr
  · exact herror v g' w' e s' hr
  · exact hok v g' w' a s' hr

theorem complies_raise {e : ε} : Complies C R u g w (Proc.raise e) s ↔ R u g w (.error e) s := Iff.rfl

theorem complies_ofExcept {r : Except ε α} : Complies C R u g w (Proc.ofExcept r) s ↔ R u g w r s := by
  cases r with
  | ok a => exact Iff.rfl
  | error e => exact Iff.rfl

theorem complies_get_bind {f : σ → Proc Q A σ ε β} :
    Complies C T u g w (Proc.get >>= f) s ↔ Complies C T u g w (f s) s := Iff.rfl

theorem complies_modify_bind {m : σ → σ} {f : Unit → Proc Q A σ ε β} :
    Complies C T u g w (Proc.modify m >>= f) s ↔ Complies C T u g w (f ()) (m s) := Iff.rfl

/-- The cleanup runs after either end. -/
theorem Complies.finallyDo {cleanup : Proc Q A σ ε Unit} {T : Post S W σ ε α} (h : Complies C R u g w p s)
    (hcleanup : ∀ v g' w' r s', R v g' w' r s' → Complies C (T.after r) v g' w' cleanup s') :
    Complies C T u g w (Proc.finallyDo p cleanup) s := by
  show Owns C T.on u g w ((p s).andThen _)
  refine owns_andThen.mpr (Owns.mono h ?_)
  rintro v g' w' (⟨e, s'⟩ | ⟨a, s'⟩) hr
  · refine Complies.bind (T := T) (hcleanup v g' w' (.error e) s' hr) ?_ ?_
    · exact fun _ _ _ _ _ h => h
    · exact fun _ _ _ _ _ h => h
  · refine Complies.bind (T := T) (hcleanup v g' w' (.ok a) s' hr) ?_ ?_
    · exact fun _ _ _ _ _ h => h
    · exact fun _ _ _ _ _ h => h

/-- **A question.** -/
theorem Complies.call {q : Q} {result : A q → Except ε α} (hdue : ∀ w₁, C.rely u w w₁ → C.always w₁ → C.due u g q w₁)
    (htorn : C.kills → ∀ w₁ w₂, C.rely u w w₁ → C.always w₁ → C.torn q w₁ w₂ →
      C.own u w₁ w₂ ∧ C.always w₂)
    (heffect : ∀ w₁ a w₂, C.rely u w w₁ → C.always w₁ → C.effect q w₁ a w₂ →
      C.own u w₁ w₂ ∧ C.always w₂ ∧ R u (C.note g q a) w₂ (result a) s) :
    Complies C R u g w (Proc.call q result) s := by
  intro w₁ hrely halways
  refine ⟨hdue w₁ hrely halways, fun hkills w₂ ht => htorn hkills w₁ w₂ hrely halways ht, fun a w₂ he => ?_⟩
  obtain ⟨hown, halways₂, hr⟩ := heffect w₁ a w₂ hrely halways he
  refine ⟨hown, halways₂, ?_⟩
  show R.on u (C.note g q a) w₂ (tagged s (result a))
  cases hresult : result a with
  | ok b =>
    rw [hresult] at hr
    exact hr
  | error e =>
    rw [hresult] at hr
    exact hr

/-- How a question ends that leaves the store alone. -/
def Asked (C : Contract Q A W S) (u : Stage) (g : S) (w : W) (s : σ) (q : Q) (result : A q → Except ε α) :
    Post S W σ ε α :=
  fun v g' w' r s' => v = u ∧ s' = s ∧ C.rely u w w' ∧ C.always w' ∧
    ∃ a, C.mayAnswer q a ∧ g' = C.note g q a ∧ result a = r

theorem Complies.ask {q : Q} {result : A q → Except ε α} (hdue : ∀ w₁, C.rely u w w₁ → C.always w₁ → C.due u g q w₁)
    (heffect : ∀ {w a w'}, C.effect q w a w' → w' = w) (htorn : ∀ {w w'}, C.torn q w w' → w' = w) :
    Complies C (Asked C u g w s q result) u g w (Proc.call q result) s := by
  refine Complies.call hdue ?_ ?_
  · intro _ w₁ w₂ _ halways ht
    obtain rfl := htorn ht
    exact ⟨C.own_of_anytime (C.anytime_refl _), halways⟩
  · intro w₁ a w₂ hrely halways he
    have hmay : C.mayAnswer q a := ⟨w₁, w₂, he⟩
    obtain rfl := heffect he
    exact ⟨C.own_of_anytime (C.anytime_refl _), halways, rfl, rfl, hrely, halways, a, hmay, rfl, rfl⟩

theorem Complies.acquireLock {R : Post S W σ ε Unit} (hu : u = .fresh)
    (h : ∀ w₁, C.rely u w w₁ → C.always w₁ → C.resting w₁ → R .inside g w₁ (.ok ()) s) :
    Complies C R u g w Proc.acquireLock s := ⟨hu, h⟩

theorem Complies.releaseLock {R : Post S W σ ε Unit} {unlocked : ε} (hu : u = .inside)
    (h : ∀ w₁, C.rely u w w₁ → C.always w₁ → C.resting w₁ ∧ R .finished g w₁ (.ok ()) s) :
    Complies C R u g w (Proc.releaseLock unlocked) s := ⟨hu, h⟩

/-- **Loops**: what one round keeps, the loop keeps. -/
theorem Complies.foldLoop {body : ι → α → Proc Q A σ ε α} {xs : List ι}
    (I : List ι → α → Stage → S → W → σ → Prop) (E : ε → Stage → S → W → σ → Prop)
    (hbody : ∀ i is x v g' w' s', i ∈ xs → I (i :: is) x v g' w' s' →
      Complies C (.either (I is) E) v g' w' (body i x) s')
    {x : α} (h : I xs x u g w s) : Complies C (.either (I []) E) u g w (Proc.foldLoop body xs x) s := by
  -- the induction is on the rest of the list
  suffices hrest : ∀ (is : List ι) (x : α) (u : Stage) (g : S) (w : W) (s : σ), (∀ i ∈ is, i ∈ xs) →
      I is x u g w s → Complies C (.either (I []) E) u g w (Proc.foldLoop body is x) s from
    hrest xs x u g w s (fun i hi => hi) h
  clear h
  intro is
  induction is with
  | nil =>
    intro x u g w s _ hI
    exact hI
  | cons i is ih =>
    intro x u g w s hxs hI
    rw [Proc.foldLoop_cons]
    refine Complies.bind (hbody i is x u g w s (hxs i List.mem_cons_self) hI) ?_ ?_
    · intro v g' w' y s' hy
      exact ih y v g' w' s' (fun j hj => hxs j (List.mem_cons_of_mem i hj)) hy
    · exact fun _ _ _ _ _ he => he

/-! ### Procedures that only read -/

/-- **The procedure only reads**: it asks nothing but these questions, and assigns nothing. -/
structure Proc.Reads (asked : Q → Prop) (p : Proc Q A σ ε α) : Prop where
  asks : ∀ s, AsksOnly asked (p s)
  locals : ∀ {permitted : ∀ q, A q → Prop} {s s' : σ} {r : Except ε α},
    Ends permitted (p s) (tagged s' r) → s' = s

theorem tagged_inj {s s' : σ} (r r' : Except ε α) (h : tagged s r = tagged s' r') : s = s' ∧ r = r' := by
  cases r <;> cases r' <;> cases h <;> exact ⟨rfl, rfl⟩

/-- Every end of a procedure is a result beside some locals. -/
theorem exists_tagged (out : Except (ε × σ) (α × σ)) : ∃ r s, out = tagged s r := by
  rcases out with ⟨e, s⟩ | ⟨a, s⟩
  · exact ⟨.error e, s, rfl⟩
  · exact ⟨.ok a, s, rfl⟩

namespace Proc

variable {asked : Q → Prop}

theorem reads_ofExcept {r : Except ε α} : Reads asked (ofExcept r : Proc Q A σ ε α) where
  asks _ := trivial
  locals h := (tagged_inj _ _ h).1.symm

theorem reads_pure {a : α} : Reads asked (pure a : Proc Q A σ ε α) := reads_ofExcept (r := .ok a)

theorem reads_raise {e : ε} : Reads asked (raise e : Proc Q A σ ε α) := reads_ofExcept

theorem reads_get : Reads asked (get : Proc Q A σ ε σ) where
  asks _ := trivial
  locals {permitted s s' r} h := by
    cases r with
    | ok a => exact (Prod.mk.inj (Except.ok.inj h)).2.symm
    | error e => cases h

theorem reads_call {q : Q} {result : A q → Except ε α} (h : asked q) :
    Reads asked (call q result : Proc Q A σ ε α) where
  asks _ := ⟨h, fun _ => trivial⟩
  locals {permitted s s' r} hend := by
    obtain ⟨a, -, ha⟩ := hend
    exact (tagged_inj _ _ ha).1.symm

theorem Reads.bind {f : α → Proc Q A σ ε β} (h : Reads asked p) (hf : ∀ a, Reads asked (f a)) :
    Reads asked (p >>= f) := by
  constructor
  · intro s
    refine Guarded.AsksOnly.andThen (h.asks s) ?_
    rintro (⟨e, s'⟩ | ⟨a, s'⟩)
    · exact trivial
    · exact (hf a).asks s'
  · intro permitted s s' r hend
    obtain ⟨out, hout, hend⟩ := ends_andThen.mp hend
    obtain ⟨r₁, s₁, rfl⟩ := exists_tagged out
    obtain rfl := h.locals hout
    cases r₁ with
    | ok a => exact (hf a).locals hend
    | error e => exact (tagged_inj (.error e) r hend).1.symm

theorem Reads.tryExcept {handler : ε → Option (Proc Q A σ ε α)} (h : Reads asked p)
    (hhandler : ∀ e k, handler e = some k → Reads asked k) : Reads asked (Proc.tryExcept p handler) := by
  constructor
  · intro s
    refine Guarded.AsksOnly.andThen (h.asks s) ?_
    rintro (⟨e, s'⟩ | ⟨a, s'⟩)
    · dsimp only
      split
      · rename_i k hk
        exact (hhandler e k hk).asks s'
      · exact trivial
    · exact trivial
  · intro permitted s s' r hend
    obtain ⟨out, hout, hend⟩ := ends_andThen.mp hend
    obtain ⟨r₁, s₁, rfl⟩ := exists_tagged out
    obtain rfl := h.locals hout
    cases r₁ with
    | ok a => exact (tagged_inj (.ok a) r hend).1.symm
    | error e =>
      dsimp only [tagged] at hend
      split at hend
      · rename_i k hk
        exact (hhandler e k hk).locals hend
      · exact (tagged_inj (.error e) r hend).1.symm

theorem Reads.exceptIf {catches : ε → Bool} {handler : ε → Proc Q A σ ε α} (h : Reads asked p)
    (hhandler : ∀ e, Reads asked (handler e)) : Reads asked (Proc.exceptIf p catches handler) := by
  refine h.tryExcept fun e k hk => ?_
  obtain rfl := Option.some.inj (Option.ite_none_right_eq_some.mp hk).2
  exact hhandler e

theorem reads_foldLoop {body : ι → α → Proc Q A σ ε α} (h : ∀ i x, Reads asked (body i x)) :
    ∀ (is : List ι) (x : α), Reads asked (foldLoop body is x)
  | [], _ => reads_pure
  | i :: is, x => (h i x).bind fun y => reads_foldLoop h is y

theorem reads_ite {c : Prop} [Decidable c] {p' : Proc Q A σ ε α} (h : Reads asked p) (h' : Reads asked p') :
    Reads asked (if c then p else p') := by
  split
  · exact h
  · exact h'

end Proc

/-- **Reading quietly** only lets time pass. -/
theorem Proc.Reads.complies {quiet : Q → Prop} (h : Proc.Reads quiet p)
    (hquiet : ∀ q, quiet q → C.Quiet u q) (halways : C.always w) :
    Complies C (fun v g' w' r s' => v = u ∧ g' = g ∧ s' = s ∧ C.rely u w w' ∧ C.always w') u g w p s := by
  refine (h.asks s).owns hquiet halways fun w₁ out hrely halways₁ hend => ?_
  obtain ⟨r, s', rfl⟩ := exists_tagged out
  obtain rfl := h.locals hend
  cases r with
  | ok a => exact ⟨rfl, rfl, rfl, hrely, halways₁⟩
  | error e => exact ⟨rfl, rfl, rfl, hrely, halways₁⟩

end Rules

end Guarded
