/-
  Programs that follow a protocol.

  A protocol is a labelled transition system whose labels are a program's events: its states say what
  the program may do next.  `Follows u p V` says that `p`, started where the protocol stands at `u`,
  only emits events the protocol allows, and leaves it at a state in `V` if it returns, or at one that
  is safe to stop in if it raises.  So the rules are those of a typestate discipline: consecutive
  parts are glued at the state between them, and a loop needs a state for each rest of its list.
-/
import FireviewerOrchestrator.Library.Traced
import FireviewerOrchestrator.Library.Transition

set_option linter.unusedVariables false

namespace Traced

open Transition Prog

variable {S ω σ ε E α β ι : Type} {Step : S → E → S → Prop} {Safe : S → Prop} {u v : S}

/-! ## Silence -/

/-- The program emits nothing, however it ends. -/
def Silent (p : Prog ω σ ε E α) : Prop := ∀ s, Sat p s fun _ _ es => es = []

theorem Silent.pure (a : α) : Silent (pure a : Prog ω σ ε E α) := fun _ => Sat.pure rfl

theorem Silent.ofExcept (x : Except ε α) : Silent (Prog.ofExcept x : Prog ω σ ε E α) :=
  fun _ => Sat.ofExcept rfl

theorem Silent.modify (g : σ → σ) : Silent (Prog.modify g : Prog ω σ ε E Unit) := fun _ => Sat.modify rfl

theorem Silent.ask (f : ω → α × ω) : Silent (Prog.ask f : Prog ω σ ε E α) := fun _ => Sat.ask fun _ => rfl

theorem Silent.bind {p : Prog ω σ ε E α} {f : α → Prog ω σ ε E β} (hp : Silent p)
    (hf : ∀ a, Silent (f a)) : Silent (p >>= f) := by
  intro s
  refine Sat.bind (hp s) ?_ ?_
  · intro a s₁ es hes
    rw [hes]
    exact hf a s₁
  · intro e s₁ es hes
    exact hes

/-! ## Following a protocol -/

variable (Step Safe) in
/-- The events of `p` are a run of the protocol from `u`: to a state in `V` if `p` returns, to a safe
    state if it raises. -/
def Follows (u : S) (p : Prog ω σ ε E α) (V : S → Prop) : Prop :=
  ∀ s, Sat p s fun r _ es => match r with
    | .ok _ => ∃ v, V v ∧ Run Step u es v
    | .error _ => ∃ t, Safe t ∧ Run Step u es t

theorem Follows.pure {V : S → Prop} (a : α) (hu : V u) :
    Follows Step Safe u (pure a : Prog ω σ ε E α) V := fun _ => Sat.pure ⟨u, hu, .nil u⟩

theorem Follows.emit {e : E} (h : Step u e v) :
    Follows Step Safe u (Prog.emit e : Prog ω σ ε E Unit) (· = v) := fun _ => Sat.emit ⟨v, rfl, .single h⟩

/-- What stays silent follows any protocol, from any state it is safe to stop in. -/
theorem Follows.of_silent {p : Prog ω σ ε E α} (hu : Safe u) (hp : Silent p) :
    Follows Step Safe u p (· = u) := by
  intro s
  refine (hp s).mono ?_
  intro r s' es hes
  rw [hes]
  cases r with
  | ok a => exact ⟨u, rfl, .nil u⟩
  | error e => exact ⟨u, hu, .nil u⟩

/-- **Sequencing**: the parts are glued at the state between them. -/
theorem Follows.bind {p : Prog ω σ ε E α} {f : α → Prog ω σ ε E β} {V W : S → Prop}
    (hp : Follows Step Safe u p V) (hf : ∀ a v, V v → Follows Step Safe v (f a) W) :
    Follows Step Safe u (p >>= f) W := by
  intro s
  refine Sat.bind (hp s) ?_ ?_
  · rintro a s₁ es ⟨v, hv, hrun⟩
    refine (hf a v hv s₁).mono ?_
    intro r s₂ es' hr
    cases r with
    | ok b =>
      obtain ⟨w, hw, hrest⟩ := hr
      exact ⟨w, hw, Run.append hrun hrest⟩
    | error e =>
      obtain ⟨t, ht, hrest⟩ := hr
      exact ⟨t, ht, Run.append hrun hrest⟩
  · intro e s₁ es h
    exact h

/-- Sequencing at one known state. -/
theorem Follows.seq {p : Prog ω σ ε E α} {f : α → Prog ω σ ε E β} {W : S → Prop}
    (hp : Follows Step Safe u p (· = v)) (hf : ∀ a, Follows Step Safe v (f a) W) :
    Follows Step Safe u (p >>= f) W := by
  refine Follows.bind hp ?_
  intro a t ht
  rw [ht]
  exact hf a

/-- A silent beginning. -/
theorem Follows.skip {p : Prog ω σ ε E α} {f : α → Prog ω σ ε E β} {W : S → Prop} (hu : Safe u)
    (hp : Silent p) (hf : ∀ a, Follows Step Safe u (f a) W) : Follows Step Safe u (p >>= f) W :=
  Follows.seq (Follows.of_silent hu hp) hf

theorem Follows.get_bind {k : σ → Prog ω σ ε E β} {W : S → Prop}
    (h : ∀ s, Follows Step Safe u (k s) W) : Follows Step Safe u (Prog.get >>= k) W :=
  fun s => Sat.get_bind (h s s)

/-- **Loops**: one state for each rest of the list. -/
theorem Follows.forEach {body : ι → Prog ω σ ε E α} {g : List ι → S}
    (h : ∀ i xs, Follows Step Safe (g (i :: xs)) (body i) (· = g xs)) :
    ∀ xs : List ι, Follows Step Safe (g xs) (forEach xs body) (· = g []) := by
  intro xs
  induction xs with
  | nil => exact Follows.pure () rfl
  | cons i xs ih => exact Follows.seq (h i xs) fun _ => ih

/-- Whichever way the program ends, its log is a run of the protocol. -/
theorem Follows.exists_run {p : Prog ω σ ε E α} {V : S → Prop} (h : Follows Step Safe u p V)
    (hV : ∀ v, V v → Safe v) (x : ω) (s : σ) : ∃ t, Safe t ∧ Run Step u (p x s).events t := by
  have hsat := h s x
  cases hr : (p x s).result with
  | ok a =>
    rw [hr] at hsat
    obtain ⟨v, hv, hrun⟩ := hsat
    exact ⟨v, hV v hv, hrun⟩
  | error e =>
    rw [hr] at hsat
    exact hsat

end Traced
