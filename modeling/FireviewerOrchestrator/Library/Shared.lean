/-
  Programs that share a store.

  The programs of `Guarded` take turns at a lock.  Here what they ask also changes a store that all of
  them see.  A `World` says what every question does to the store, and what it may have done when the
  program that asked it was killed in the middle.  A `Contract` is the rely and the guarantee of every
  program at once: what anybody may do to the store at any time, what the holder of the lock may do,
  what holds of the store at every moment, and what while the lock is free.

  `Owns` is the weakest precondition of one program under a contract, with the moves of the others
  between any two of its own.  Beside it runs a ghost, the program's notes of what it was told, and
  `due` is what has to hold of the stage, the notes and the store when a question is asked.

  The notes of a contract keep what its author wants to know.  The `traced` contract keeps every answer
  as well, and `Owns.traced` turns what is known of one execution into what is known of the answers: that
  is how a theorem about runs speaks of the exception that a part of a program ended with.

  Any number of programs make a `Site`, in any interleaving, and each of them may be killed at any
  moment.  The crux is `Owned.step`: what one program does is within what the others rely on, because
  only one of them is inside.  From it, `due_of_run` and `ended_of_run` say of every run what `Owns`
  says of one program, and `exists_step` that a run can only stop when all programs have ended.
-/
import FireviewerOrchestrator.Library.Outcomes
import Mathlib.Data.List.Induction

set_option linter.unusedVariables false

namespace Guarded

open Transition

/-! ## Worlds and contracts -/

/-- What the questions do to the store. -/
structure World (Q : Type) (A : Q → Type) (W : Type) where
  effect : (q : Q) → W → A q → W → Prop
  /-- What a question may have done when the program that asked it was killed. -/
  torn : Q → W → W → Prop
  /-- Whether programs are ever killed. -/
  kills : Prop

/-- The terms on which programs share the store.  `S` is the type of a program's notes. -/
structure Contract (Q : Type) (A : Q → Type) (W S : Type) extends World Q A W where
  note : S → (q : Q) → A q → S
  due : Stage → S → Q → W → Prop
  always : W → Prop
  /-- What holds while the lock is free. -/
  resting : W → Prop
  anytime : W → W → Prop
  locked : W → W → Prop
  anytime_refl : ∀ w, anytime w w
  anytime_trans : ∀ {w w₁ w₂}, anytime w w₁ → anytime w₁ w₂ → anytime w w₂
  locked_trans : ∀ {w w₁ w₂}, locked w w₁ → locked w₁ w₂ → locked w w₂
  locked_of_anytime : ∀ {w w₁}, anytime w w₁ → locked w w₁
  resting_of_anytime : ∀ {w w₁}, anytime w w₁ → resting w → resting w₁
  resting_of_kills : kills → ∀ {w}, always w → resting w

variable {Q : Type} {A : Q → Type} {W S ε δ α β : Type}

namespace Contract

variable (C : Contract Q A W S)

/-- What the others may do while a program stands at a stage. -/
def rely : Stage → W → W → Prop
  | .inside => C.anytime
  | .fresh | .finished | .refused => C.locked

/-- What a program may do itself. -/
def own : Stage → W → W → Prop
  | .inside => C.locked
  | .fresh | .finished | .refused => C.anytime

variable {C} {u v : Stage} {w w₁ w₂ : W}

theorem locked_refl (w : W) : C.locked w w := C.locked_of_anytime (C.anytime_refl w)

theorem rely_refl (u : Stage) (w : W) : C.rely u w w := by
  cases u with
  | inside => exact C.anytime_refl w
  | fresh => exact C.locked_refl w
  | finished => exact C.locked_refl w
  | refused => exact C.locked_refl w

theorem rely_trans (h : C.rely u w w₁) (h' : C.rely u w₁ w₂) : C.rely u w w₂ := by
  cases u with
  | inside => exact C.anytime_trans h h'
  | fresh => exact C.locked_trans h h'
  | finished => exact C.locked_trans h h'
  | refused => exact C.locked_trans h h'

theorem rely_of_anytime (h : C.anytime w w₁) : C.rely u w w₁ := by
  cases u with
  | inside => exact h
  | fresh => exact C.locked_of_anytime h
  | finished => exact C.locked_of_anytime h
  | refused => exact C.locked_of_anytime h

theorem rely_of_ne (h : u ≠ .inside) : C.rely u = C.locked := by
  cases u with
  | inside => exact absurd rfl h
  | fresh => rfl
  | finished => rfl
  | refused => rfl

theorem own_of_ne (h : u ≠ .inside) : C.own u = C.anytime := by
  cases u with
  | inside => exact absurd rfl h
  | fresh => rfl
  | finished => rfl
  | refused => rfl

theorem own_of_anytime (h : C.anytime w w₁) : C.own u w w₁ := by
  cases u with
  | inside => exact C.locked_of_anytime h
  | fresh => exact h
  | finished => exact h
  | refused => exact h

theorem locked_of_own (h : C.own u w w₁) : C.locked w w₁ := by
  cases u with
  | inside => exact h
  | fresh => exact C.locked_of_anytime h
  | finished => exact C.locked_of_anytime h
  | refused => exact C.locked_of_anytime h

theorem locked_of_rely (h : C.rely u w w₁) : C.locked w w₁ := by
  cases u with
  | inside => exact C.locked_of_anytime h
  | fresh => exact h
  | finished => exact h
  | refused => exact h

/-- **Only one is inside**, so what a program does the others rely on. -/
theorem rely_of_own (h : C.own u w w₁) (hout : u = .inside → v ≠ .inside) : C.rely v w w₁ := by
  by_cases hu : u = .inside
  · rw [rely_of_ne (hout hu)]
    exact locked_of_own h
  · rw [own_of_ne hu] at h
    exact rely_of_anytime h

end Contract

/-! ## The weakest precondition -/

/-- **The program keeps the contract**: started at a stage, with its notes and a store, and whatever the
    others do in between, it asks what is due, changes the store as it may, and ends in `P`. -/
def Owns (C : Contract Q A W S) (P : Stage → S → W → Except ε α → Prop) :
    Stage → S → W → Code Q A ε α → Prop
  | u, g, w, .done result => P u g w result
  | u, g, w, .acquire next => u = .fresh ∧
      ∀ w₁, C.rely u w w₁ → C.always w₁ → C.resting w₁ → Owns C P .inside g w₁ next
  | u, g, w, .tryAcquire next => u = .fresh ∧ ∀ w₁, C.rely u w w₁ → C.always w₁ →
      (C.resting w₁ → Owns C P .inside g w₁ (next true)) ∧ Owns C P .refused g w₁ (next false)
  | u, g, w, .release next => u = .inside ∧
      ∀ w₁, C.rely u w w₁ → C.always w₁ → C.resting w₁ ∧ Owns C P .finished g w₁ (next true)
  | u, g, w, .ask q next => ∀ w₁, C.rely u w w₁ → C.always w₁ → C.due u g q w₁ ∧
      (C.kills → ∀ w₂, C.torn q w₁ w₂ → C.own u w₁ w₂ ∧ C.always w₂) ∧
      ∀ a w₂, C.effect q w₁ a w₂ → C.own u w₁ w₂ ∧ C.always w₂ ∧ Owns C P u (C.note g q a) w₂ (next a)

section Rules

variable {C : Contract Q A W S} {P : Stage → S → W → Except ε α → Prop}
  {R : Stage → S → W → Except δ β → Prop} {u : Stage} {g : S} {w : W}

/-- **Sequencing.** -/
theorem owns_andThen {k : Except ε α → Code Q A δ β} {c : Code Q A ε α} : Owns C R u g w (c.andThen k) ↔
    Owns C (fun v g' w' result => Owns C R v g' w' (k result)) u g w c := by
  induction c generalizing u g w with
  | done result => exact Iff.rfl
  | acquire next ih =>
    refine and_congr_right fun _ => forall_congr' fun w₁ => ?_
    exact imp_congr_right fun _ => imp_congr_right fun _ => imp_congr_right fun _ => ih
  | tryAcquire next ih =>
    refine and_congr_right fun _ => forall_congr' fun w₁ => ?_
    refine imp_congr_right fun _ => imp_congr_right fun _ => and_congr ?_ (ih false)
    exact imp_congr_right fun _ => ih true
  | release next ih =>
    refine and_congr_right fun _ => forall_congr' fun w₁ => ?_
    exact imp_congr_right fun _ => imp_congr_right fun _ => and_congr_right fun _ => ih true
  | ask q next ih =>
    refine forall_congr' fun w₁ => imp_congr_right fun _ => imp_congr_right fun _ => ?_
    refine and_congr_right fun _ => and_congr_right fun _ => ?_
    refine forall_congr' fun a => forall_congr' fun w₂ => imp_congr_right fun _ => ?_
    exact and_congr_right fun _ => and_congr_right fun _ => ih a

theorem Owns.mono {P' : Stage → S → W → Except ε α → Prop} {c : Code Q A ε α} (h : Owns C P u g w c)
    (hP : ∀ v g' w' result, P v g' w' result → P' v g' w' result) : Owns C P' u g w c := by
  induction c generalizing u g w with
  | done result => exact hP u g w result h
  | acquire next ih => exact ⟨h.1, fun w₁ hw halways hrest => ih (h.2 w₁ hw halways hrest)⟩
  | tryAcquire next ih =>
    refine ⟨h.1, fun w₁ hw halways => ⟨fun hrest => ?_, ih false (h.2 w₁ hw halways).2⟩⟩
    exact ih true ((h.2 w₁ hw halways).1 hrest)
  | release next ih =>
    exact ⟨h.1, fun w₁ hw halways => ⟨(h.2 w₁ hw halways).1, ih true (h.2 w₁ hw halways).2⟩⟩
  | ask q next ih =>
    intro w₁ hw halways
    obtain ⟨hdue, htorn, hnext⟩ := h w₁ hw halways
    refine ⟨hdue, htorn, fun a w₂ heffect => ?_⟩
    obtain ⟨hown, halways₂, hrest⟩ := hnext a w₂ heffect
    exact ⟨hown, halways₂, ih a hrest⟩

/-- Questions that leave the store alone, are always due, and are not noted. -/
structure Contract.Quiet (C : Contract Q A W S) (u : Stage) (q : Q) : Prop where
  effect_eq : ∀ {w a w'}, C.effect q w a w' → w' = w
  torn_eq : ∀ {w w'}, C.torn q w w' → w' = w
  due : ∀ g w, C.due u g q w
  note_eq : ∀ g a, C.note g q a = g

/-- What the world may answer at all. -/
def World.mayAnswer (world : World Q A W) (q : Q) (a : A q) : Prop := ∃ w w', world.effect q w a w'

/-- **A quiet program** only lets time pass. -/
theorem AsksOnly.owns {quiet : Q → Prop} {c : Code Q A ε α} (h : AsksOnly quiet c)
    (hquiet : ∀ q, quiet q → C.Quiet u q) (halways : C.always w)
    (hP : ∀ w₁ r, C.rely u w w₁ → C.always w₁ → Ends C.mayAnswer c r → P u g w₁ r) : Owns C P u g w c := by
  induction c generalizing w with
  | done r => exact hP w r (C.rely_refl u w) halways rfl
  | ask q next ih =>
    obtain ⟨hq, hnext⟩ := h
    have hqq := hquiet q hq
    intro w₁ hw halways₁
    refine ⟨hqq.due g w₁, fun _ w₂ htorn => ?_, fun a w₂ heffect => ?_⟩
    · obtain rfl := hqq.torn_eq htorn
      exact ⟨C.own_of_anytime (C.anytime_refl _), halways₁⟩
    · have hmay : C.mayAnswer q a := ⟨w₁, w₂, heffect⟩
      obtain rfl := hqq.effect_eq heffect
      refine ⟨C.own_of_anytime (C.anytime_refl _), halways₁, ?_⟩
      rw [hqq.note_eq]
      refine ih a (hnext a) halways₁ fun w₃ r hw₃ halways₃ hr => ?_
      exact hP w₃ r (C.rely_trans hw hw₃) halways₃ ⟨a, hmay, hr⟩
  | acquire next ih => cases h
  | tryAcquire next ih => cases h
  | release next ih => cases h

end Rules

/-! ## Traced contracts -/

/-- The same terms, where the notes also hold every answer, in order.  So what a program notes says which
    execution it was. -/
def Contract.traced (C : Contract Q A W S) : Contract Q A W (S × List ((q : Q) × A q)) where
  toWorld := C.toWorld
  note g q a := (C.note g.1 q a, g.2 ++ [⟨q, a⟩])
  due u g := C.due u g.1
  always := C.always
  resting := C.resting
  anytime := C.anytime
  locked := C.locked
  anytime_refl := C.anytime_refl
  anytime_trans := C.anytime_trans
  locked_trans := C.locked_trans
  locked_of_anytime := C.locked_of_anytime
  resting_of_anytime := C.resting_of_anytime
  resting_of_kills := C.resting_of_kills

section Traced

variable {C : Contract Q A W S} {P : Stage → S → W → Except ε α → Prop} {u : Stage} {g : S} {w : W}

theorem Contract.rely_traced (C : Contract Q A W S) (u : Stage) : C.traced.rely u = C.rely u := by
  cases u <;> rfl

theorem Contract.own_traced (C : Contract Q A W S) (u : Stage) : C.traced.own u = C.own u := by
  cases u <;> rfl

/-- **A program ends as its answers say.** -/
theorem Owns.traced {c : Code Q A ε α} (h : Owns C P u g w c) (before : List ((q : Q) × A q)) :
    Owns C.traced (fun v g' w' result => P v g'.1 w' result ∧
      ∃ answers, g'.2 = before ++ answers ∧ Gives c answers result) u (g, before) w c := by
  induction c generalizing u g w before with
  | done result => exact ⟨h, [], (List.append_nil before).symm, rfl, rfl⟩
  | acquire next ih => exact ⟨h.1, fun w₁ hw halways hrest => ih (h.2 w₁ (C.rely_traced u ▸ hw) halways hrest) before⟩
  | tryAcquire next ih =>
    refine ⟨h.1, fun w₁ hw halways => ?_⟩
    obtain ⟨htaken, hrefused⟩ := h.2 w₁ (C.rely_traced u ▸ hw) halways
    have hgot : ∀ {got : Bool} {v : Stage} {g' : S × List ((q : Q) × A q)} {w' : W} {result : Except ε α},
        (P v g'.1 w' result ∧ ∃ answers, g'.2 = before ++ answers ∧ Gives (next got) answers result) →
        P v g'.1 w' result ∧ ∃ answers, g'.2 = before ++ answers ∧ Gives (.tryAcquire next) answers result := by
      rintro got v g' w' result ⟨hP, answers, hanswers, hgives⟩
      exact ⟨hP, answers, hanswers, got, hgives⟩
    exact ⟨fun hrest => (ih true (htaken hrest) before).mono fun _ _ _ _ => hgot,
      (ih false hrefused before).mono fun _ _ _ _ => hgot⟩
  | release next ih =>
    refine ⟨h.1, fun w₁ hw halways => ?_⟩
    obtain ⟨hrest, hnext⟩ := h.2 w₁ (C.rely_traced u ▸ hw) halways
    exact ⟨hrest, ih true hnext before⟩
  | ask q next ih =>
    intro w₁ hw halways
    obtain ⟨hdue, htorn, hnext⟩ := h w₁ (C.rely_traced u ▸ hw) halways
    refine ⟨hdue, fun hkills w₂ ht => ?_, fun a w₂ heffect => ?_⟩
    · rw [C.own_traced u]
      exact htorn hkills w₂ ht
    · obtain ⟨hown, halways₂, hrest⟩ := hnext a w₂ heffect
      rw [C.own_traced u]
      refine ⟨hown, halways₂, (ih a hrest (before ++ [⟨q, a⟩])).mono ?_⟩
      rintro v g' w' result ⟨hP, answers, hanswers, hgives⟩
      refine ⟨hP, ⟨q, a⟩ :: answers, ?_, a, answers, rfl, hgives⟩
      rw [hanswers, List.append_assoc, List.singleton_append]

/-- Whoever keeps the traced contract keeps the contract. -/
theorem Owns.untraced {P : Stage → S × List ((q : Q) × A q) → W → Except ε α → Prop} {c : Code Q A ε α}
    {before : List ((q : Q) × A q)} (h : Owns C.traced P u (g, before) w c) :
    Owns C (fun v g' w' result => ∃ answers, P v (g', answers) w' result) u g w c := by
  induction c generalizing u g w before with
  | done result => exact ⟨before, h⟩
  | acquire next ih => exact ⟨h.1, fun w₁ hw halways hrest => ih (h.2 w₁ (C.rely_traced u ▸ hw) halways hrest)⟩
  | tryAcquire next ih =>
    refine ⟨h.1, fun w₁ hw halways => ?_⟩
    obtain ⟨htaken, hrefused⟩ := h.2 w₁ (C.rely_traced u ▸ hw) halways
    exact ⟨fun hrest => ih true (htaken hrest), ih false hrefused⟩
  | release next ih =>
    refine ⟨h.1, fun w₁ hw halways => ?_⟩
    obtain ⟨hrest, hnext⟩ := h.2 w₁ (C.rely_traced u ▸ hw) halways
    exact ⟨hrest, ih true hnext⟩
  | ask q next ih =>
    intro w₁ hw halways
    obtain ⟨hdue, htorn, hnext⟩ := h w₁ (C.rely_traced u ▸ hw) halways
    rw [C.own_traced u] at htorn hnext
    refine ⟨hdue, htorn, fun a w₂ heffect => ?_⟩
    obtain ⟨hown, halways₂, hrest⟩ := hnext a w₂ heffect
    exact ⟨hown, halways₂, ih a hrest⟩

end Traced

/-! ## Programs side by side -/

/-- The programs, the lock and the store. -/
structure Site (θ Q : Type) (A : Q → Type) (W ε α : Type) extends System θ Q A ε α where
  store : W
  killed : θ → Prop

/-- What happens to a program. -/
inductive Deed (Q : Type) (A : Q → Type) where
  | acquired
  | refused
  | released
  | answered (q : Q) (a : A q)
  | killed

def Deed.note (note : S → (q : Q) → A q → S) (g : S) : Deed Q A → S
  | .answered q a => note g q a
  | .acquired | .refused | .released | .killed => g

section Site

variable {θ : Type} [DecidableEq θ]

/-- The notes of one program after a log. -/
def notes (note : S → (q : Q) → A q → S) (g : S) (i : θ) (ls : List (θ × Deed Q A)) : S :=
  ls.foldl (fun g l => if l.1 = i then l.2.note note g else g) g

theorem notes_snoc (note : S → (q : Q) → A q → S) (g : S) (i : θ) (ls : List (θ × Deed Q A)) (deed : Deed Q A) :
    notes note g i (ls ++ [(i, deed)]) = deed.note note (notes note g i ls) := by
  simp [notes]

theorem notes_snoc_other (note : S → (q : Q) → A q → S) (g : S) {i j : θ} (ls : List (θ × Deed Q A))
    (deed : Deed Q A) (h : i ≠ j) : notes note g j (ls ++ [(i, deed)]) = notes note g j ls := by
  simp [notes, h]

/-- What the deeds of one program come to, in their order. -/
def logged {β : Type} (f : Deed Q A → Option β) (i : θ) (ls : List (θ × Deed Q A)) : List β :=
  ls.filterMap fun l => if l.1 = i then f l.2 else none

theorem logged_snoc {β : Type} (f : Deed Q A → Option β) (i : θ) (ls : List (θ × Deed Q A)) (deed : Deed Q A) :
    logged f i (ls ++ [(i, deed)]) = logged f i ls ++ (f deed).toList := by
  cases hf : f deed with
  | none => simp [logged, hf]
  | some b => simp [logged, hf]

theorem logged_snoc_other {β : Type} (f : Deed Q A → Option β) {i j : θ} (ls : List (θ × Deed Q A))
    (deed : Deed Q A) (h : j ≠ i) : logged f i (ls ++ [(j, deed)]) = logged f i ls := by
  simp [logged, h]

/-- What a program was answered, if it was. -/
def Deed.answer? : Deed Q A → Option ((q : Q) × A q)
  | .answered q a => some ⟨q, a⟩
  | .acquired | .refused | .released | .killed => none

/-- The traced notes are the notes, beside the answers in the log. -/
theorem notes_traced (C : Contract Q A W S) (g : S) (i : θ) (ls : List (θ × Deed Q A)) :
    notes C.traced.note (g, []) i ls = (notes C.note g i ls, logged Deed.answer? i ls) := by
  induction ls using List.reverseRecOn with
  | nil => rfl
  | append_singleton ls l ih =>
    obtain ⟨j, deed⟩ := l
    by_cases hj : j = i
    · subst hj
      rw [notes_snoc, notes_snoc, logged_snoc, ih]
      cases deed with
      | answered q a => rfl
      | acquired => exact Prod.ext rfl (List.append_nil _).symm
      | refused => exact Prod.ext rfl (List.append_nil _).symm
      | released => exact Prod.ext rfl (List.append_nil _).symm
      | killed => exact Prod.ext rfl (List.append_nil _).symm
    · rw [notes_snoc_other _ _ _ _ hj, notes_snoc_other _ _ _ _ hj, logged_snoc_other _ _ _ hj, ih]

/-- One step of one program. -/
inductive SiteStep (world : World Q A W) : Site θ Q A W ε α → θ × Deed Q A → Site θ Q A W ε α → Prop
  | acquired {s : Site θ Q A W ε α} {i : θ} {next : Code Q A ε α} (halive : ¬ s.killed i)
      (hcode : s.code i = .acquire next) (hfree : s.holder = none) :
      SiteStep world s (i, .acquired) { s with holder := some i, code := Function.update s.code i next }
  | taken {s : Site θ Q A W ε α} {i : θ} {next : Bool → Code Q A ε α} (halive : ¬ s.killed i)
      (hcode : s.code i = .tryAcquire next) (hfree : s.holder = none) :
      SiteStep world s (i, .acquired)
        { s with holder := some i, code := Function.update s.code i (next true) }
  | refused {s : Site θ Q A W ε α} {i : θ} {next : Bool → Code Q A ε α} (halive : ¬ s.killed i)
      (hcode : s.code i = .tryAcquire next) (hheld : s.holder ≠ none) :
      SiteStep world s (i, .refused) { s with code := Function.update s.code i (next false) }
  | released {s : Site θ Q A W ε α} {i : θ} {next : Bool → Code Q A ε α} (halive : ¬ s.killed i)
      (hcode : s.code i = .release next) :
      SiteStep world s (i, .released)
        { s with holder := none, code := Function.update s.code i (next s.holder.isSome) }
  | answered {s : Site θ Q A W ε α} {i : θ} {q : Q} {next : A q → Code Q A ε α} (halive : ¬ s.killed i)
      (hcode : s.code i = .ask q next) (a : A q) (w : W) (heffect : world.effect q s.store a w) :
      SiteStep world s (i, .answered q a) { s with store := w, code := Function.update s.code i (next a) }
  /-- A killed program gives its lock back, and its question is torn. -/
  | killed {s : Site θ Q A W ε α} {i : θ} (hkills : world.kills) (halive : ¬ s.killed i) (w : W)
      (htorn : w = s.store ∨ ∃ q next, s.code i = .ask q next ∧ world.torn q s.store w) :
      SiteStep world s (i, .killed)
        { s with
          store := w
          holder := if s.holder = some i then none else s.holder
          killed := Function.update s.killed i True }

variable {C : Contract Q A W S} {P : θ → Stage → S → W → Except ε α → Prop} {g₀ : θ → S}
  {init s t : Site θ Q A W ε α} {ls : List (θ × Deed Q A)} {stage : θ → Stage} {i : θ}

/-- Where everybody stands. -/
structure Owned (C : Contract Q A W S) (P : θ → Stage → S → W → Except ε α → Prop) (g₀ : θ → S)
    (ls : List (θ × Deed Q A)) (stage : θ → Stage) (s : Site θ Q A W ε α) : Prop where
  owns : ∀ i, ¬ s.killed i →
    ∃ w, C.rely (stage i) w s.store ∧ Owns C (P i) (stage i) (notes C.note (g₀ i) i ls) w (s.code i)
  holder_iff : ∀ i, s.holder = some i ↔ ¬ s.killed i ∧ stage i = .inside
  always : C.always s.store
  resting : s.holder = none → C.resting s.store

namespace Owned

/-- What the others see of a program's own move. -/
theorem rely_others (h : Owned C P g₀ ls stage s) {w : W} (halive : ¬ s.killed i)
    (hown : C.own (stage i) s.store w) {j : θ} (hj : j ≠ i) (hjalive : ¬ s.killed j) :
    C.rely (stage j) s.store w := by
  refine Contract.rely_of_own hown fun hi hinside => hj ?_
  have hholds := (h.holder_iff i).mpr ⟨halive, hi⟩
  have hholds' := (h.holder_iff j).mpr ⟨hjalive, hinside⟩
  exact Option.some.inj (hholds'.symm.trans hholds)

/-- **A move of a living program.** -/
theorem move (h : Owned C P g₀ ls stage s) {deed : Deed Q A} {code : Code Q A ε α} {u : Stage}
    {holder : Option θ} {w : W} (halive : ¬ s.killed i) (hown : C.own (stage i) s.store w)
    (halways : C.always w) (howns : Owns C (P i) u (deed.note C.note (notes C.note (g₀ i) i ls)) w code)
    (hself : holder = some i ↔ u = .inside) (hothers : ∀ j, j ≠ i → (holder = some j ↔ s.holder = some j))
    (hresting : holder = none → C.resting w) :
    Owned C P g₀ (ls ++ [(i, deed)]) (Function.update stage i u)
      { s with holder := holder, store := w, code := Function.update s.code i code } := by
  constructor
  · intro j hjalive
    by_cases hj : j = i
    · subst hj
      refine ⟨w, C.rely_refl _ w, ?_⟩
      rw [notes_snoc]
      simpa using howns
    · obtain ⟨w₀, hrely, hj'⟩ := h.owns j hjalive
      rw [notes_snoc_other _ _ _ _ (Ne.symm hj)]
      show ∃ w', C.rely (Function.update stage i u j) w' w ∧ Owns C (P j) (Function.update stage i u j) _ w'
        (Function.update s.code i code j)
      rw [Function.update_of_ne hj, Function.update_of_ne hj]
      exact ⟨w₀, C.rely_trans hrely (h.rely_others halive hown hj hjalive), hj'⟩
  · intro j
    show holder = some j ↔ ¬ s.killed j ∧ Function.update stage i u j = .inside
    by_cases hj : j = i
    · subst hj
      rw [Function.update_self, hself]
      exact ⟨fun hu => ⟨halive, hu⟩, fun hu => hu.2⟩
    · rw [Function.update_of_ne hj, hothers j hj]
      exact h.holder_iff j
  · exact halways
  · exact hresting

/-- **The death of a program.** -/
theorem death (h : Owned C P g₀ ls stage s) (hkills : C.kills) {w : W} (halive : ¬ s.killed i)
    (hown : C.own (stage i) s.store w) (halways : C.always w) :
    Owned C P g₀ (ls ++ [(i, .killed)]) stage
      { s with
        store := w
        holder := if s.holder = some i then none else s.holder
        killed := Function.update s.killed i True } := by
  constructor
  · intro j hjalive
    have hj : j ≠ i := by
      rintro rfl
      exact hjalive (by simp)
    have hjalive' : ¬ s.killed j := by
      simpa [Function.update_of_ne hj] using hjalive
    obtain ⟨w₀, hrely, hj'⟩ := h.owns j hjalive'
    rw [notes_snoc_other _ _ _ _ (Ne.symm hj)]
    exact ⟨w₀, C.rely_trans hrely (h.rely_others halive hown hj hjalive'), hj'⟩
  · intro j
    show (if s.holder = some i then none else s.holder) = some j ↔
      ¬ Function.update s.killed i True j ∧ stage j = .inside
    by_cases hj : j = i
    · subst hj
      by_cases hholds : s.holder = some j
      · simp [hholds]
      · simp [hholds]
    · rw [Function.update_of_ne hj, ← h.holder_iff j]
      by_cases hholds : s.holder = some i
      · simp [hholds, Ne.symm hj]
      · simp [hholds]
  · exact halways
  · exact fun _ => C.resting_of_kills hkills halways

/-- An answered question was due, and its answer changed what its program may change. -/
theorem own_of_answer (h : Owned C P g₀ ls stage s) (halive : ¬ s.killed i) {q : Q} {next : A q → Code Q A ε α}
    (hcode : s.code i = .ask q next) {a : A q} {w : W} (heffect : C.effect q s.store a w) :
    C.due (stage i) (notes C.note (g₀ i) i ls) q s.store ∧ C.own (stage i) s.store w ∧ C.always w ∧
      Owns C (P i) (stage i) (C.note (notes C.note (g₀ i) i ls) q a) w (next a) := by
  obtain ⟨w₀, hrely, howns⟩ := h.owns i halive
  rw [hcode] at howns
  obtain ⟨hdue, -, hnext⟩ := howns _ hrely h.always
  exact ⟨hdue, hnext a w heffect⟩

/-- So does what a torn question leaves behind. -/
theorem own_of_torn (h : Owned C P g₀ ls stage s) (hkills : C.kills) (halive : ¬ s.killed i) {w : W}
    (htorn : w = s.store ∨ ∃ q next, s.code i = .ask q next ∧ C.torn q s.store w) :
    C.own (stage i) s.store w ∧ C.always w := by
  obtain ⟨w₀, hrely, howns⟩ := h.owns i halive
  rcases htorn with rfl | ⟨q, next, hcode, htorn⟩
  · exact ⟨C.own_of_anytime (C.anytime_refl _), h.always⟩
  · rw [hcode] at howns
    exact (howns _ hrely h.always).2.1 hkills w htorn

/-- **One step keeps everybody's contract.**  An answered question was due. -/
theorem step (h : Owned C P g₀ ls stage s) {deed : Deed Q A} (hstep : SiteStep C.toWorld s (i, deed) t) :
    (∃ stage', Owned C P g₀ (ls ++ [(i, deed)]) stage' t) ∧
      ∀ q a, deed = .answered q a → C.due (stage i) (notes C.note (g₀ i) i ls) q s.store := by
  cases hstep with
  | acquired halive hcode hfree =>
    obtain ⟨w, hrely, howns⟩ := h.owns i halive
    rw [hcode] at howns
    have hout : stage i ≠ .inside := by
      intro hinside
      rw [(h.holder_iff i).mpr ⟨halive, hinside⟩] at hfree
      cases hfree
    refine ⟨⟨_, h.move halive (C.own_of_anytime (C.anytime_refl _)) h.always
      (howns.2 _ hrely h.always (h.resting hfree)) (by simp) ?_ (by simp)⟩, by simp⟩
    intro j hj
    simp [hfree, Ne.symm hj]
  | taken halive hcode hfree =>
    obtain ⟨w, hrely, howns⟩ := h.owns i halive
    rw [hcode] at howns
    refine ⟨⟨_, h.move halive (C.own_of_anytime (C.anytime_refl _)) h.always
      ((howns.2 _ hrely h.always).1 (h.resting hfree)) (by simp) ?_ (by simp)⟩, by simp⟩
    intro j hj
    simp [hfree, Ne.symm hj]
  | refused halive hcode hheld =>
    obtain ⟨w, hrely, howns⟩ := h.owns i halive
    rw [hcode] at howns
    refine ⟨⟨_, h.move halive (C.own_of_anytime (C.anytime_refl _)) h.always
      (howns.2 _ hrely h.always).2 ?_ (fun j hj => Iff.rfl) h.resting⟩, by simp⟩
    rw [h.holder_iff, howns.1]
    simp
  | released halive hcode =>
    obtain ⟨w, hrely, howns⟩ := h.owns i halive
    rw [hcode] at howns
    obtain ⟨hinside, hnext⟩ := howns
    obtain ⟨hrest, hnext⟩ := hnext _ hrely h.always
    have hholds : s.holder = some i := (h.holder_iff i).mpr ⟨halive, hinside⟩
    have hself : (none : Option θ) = some i ↔ Stage.finished = .inside := by simp
    refine ⟨⟨_, h.move halive (C.own_of_anytime (C.anytime_refl _)) h.always ?_ hself ?_
      fun _ => hrest⟩, by simp⟩
    · rw [hholds]
      exact hnext
    · intro j hj
      simp [hholds, Ne.symm hj]
  | answered halive hcode a w heffect =>
    obtain ⟨hdue, hown, halways, hnext⟩ := h.own_of_answer halive hcode heffect
    have hresting : s.holder = none → C.resting w := by
      intro hfree
      -- nobody is inside, so the answer changed what anybody may change
      have hout : stage i ≠ .inside := by
        intro hinside
        rw [(h.holder_iff i).mpr ⟨halive, hinside⟩] at hfree
        cases hfree
      rw [Contract.own_of_ne hout] at hown
      exact C.resting_of_anytime hown (h.resting hfree)
    refine ⟨⟨_, h.move halive hown halways hnext ?_ (fun j hj => Iff.rfl) hresting⟩, ?_⟩
    · rw [h.holder_iff]
      exact ⟨fun hi => hi.2, fun hi => ⟨halive, hi⟩⟩
    · rintro q' a' heq
      cases heq
      exact hdue
  | killed hkills halive w htorn =>
    have hown := h.own_of_torn hkills halive htorn
    exact ⟨⟨_, h.death hkills halive hown.1 hown.2⟩, by simp⟩

/-- Whoever moves, the store changes as the holder of the lock may change it. -/
theorem locked (h : Owned C P g₀ ls stage s) {deed : Deed Q A} (hstep : SiteStep C.toWorld s (i, deed) t) :
    C.locked s.store t.store := by
  cases hstep with
  | acquired halive hcode hfree => exact C.locked_refl _
  | taken halive hcode hfree => exact C.locked_refl _
  | refused halive hcode hheld => exact C.locked_refl _
  | released halive hcode => exact C.locked_refl _
  | answered halive hcode a w heffect => exact Contract.locked_of_own (h.own_of_answer halive hcode heffect).2.1
  | killed hkills halive w htorn => exact Contract.locked_of_own (h.own_of_torn hkills halive htorn).1

end Owned

/-! ## Every run -/

/-- Where all programs begin. -/
structure Begins (C : Contract Q A W S) (P : θ → Stage → S → W → Except ε α → Prop) (g₀ : θ → S)
    (init : Site θ Q A W ε α) : Prop where
  owns : ∀ i, Owns C (P i) .fresh (g₀ i) init.store (init.code i)
  free : init.holder = none
  alive : ∀ i, ¬ init.killed i
  always : C.always init.store
  resting : C.resting init.store

/-- **Every run keeps everybody's contract.** -/
theorem owned_of_run (h : Begins C P g₀ init) (hrun : Run (SiteStep C.toWorld) init ls s) :
    ∃ stage, Owned C P g₀ ls stage s := by
  refine hrun.history (I := fun ls s => ∃ stage, Owned C P g₀ ls stage s) ?_ ?_
  · rintro ls s ⟨i, deed⟩ t hstep ⟨stage, hs⟩
    exact (hs.step hstep).1
  · refine ⟨fun _ => .fresh, ?_, ?_, h.always, fun _ => h.resting⟩
    · exact fun i _ => ⟨_, C.rely_refl _ _, h.owns i⟩
    · intro i
      simp [h.free]

/-- What happens to the store after a moment of a run. -/
theorem locked_of_run (h : Begins C P g₀ init) {pre post : List (θ × Deed Q A)}
    (hpre : Run (SiteStep C.toWorld) init pre t) (hpost : Run (SiteStep C.toWorld) t post s) :
    C.locked t.store s.store := by
  induction hpost generalizing pre with
  | nil t => exact C.locked_refl _
  | @cons t t' u l ls hstep hrest ih =>
    obtain ⟨stage, ht⟩ := owned_of_run h hpre
    exact C.locked_trans (ht.locked hstep) (ih (hpre.snoc hstep))

/-- **Whatever was asked was due**, of the store as it was then, and whoever asked from inside held the
    lock.  What has happened to the store since, the holders of the lock may do. -/
theorem due_of_run (h : Begins C P g₀ init) {pre post : List (θ × Deed Q A)} {q : Q} {a : A q}
    (hrun : Run (SiteStep C.toWorld) init (pre ++ (i, .answered q a) :: post) s) :
    ∃ (t : Site θ Q A W ε α) (u : Stage), Run (SiteStep C.toWorld) init pre t ∧
      (u = .inside ↔ t.holder = some i) ∧ C.always t.store ∧
      C.due u (notes C.note (g₀ i) i pre) q t.store ∧ C.locked t.store s.store := by
  obtain ⟨t, t', hpre, hstep, hpost⟩ := hrun.at_label
  obtain ⟨stage, ht⟩ := owned_of_run h hpre
  have hlater : C.locked t.store s.store := locked_of_run h hpre (.cons hstep hpost)
  refine ⟨t, stage i, hpre, ?_, ht.always, (ht.step hstep).2 q a rfl, hlater⟩
  rw [ht.holder_iff]
  have halive : ¬ t.killed i := by
    cases hstep
    assumption
  exact ⟨fun hi => ⟨halive, hi⟩, fun hi => hi.2⟩

/-- **Whoever has ended** has ended as it should, on a store that only the others have changed since. -/
theorem ended_of_run (h : Begins C P g₀ init) (hrun : Run (SiteStep C.toWorld) init ls s)
    (halive : ¬ s.killed i) {result : Except ε α} (hcode : s.code i = .done result) :
    ∃ (u : Stage) (w : W), C.rely u w s.store ∧ P i u (notes C.note (g₀ i) i ls) w result := by
  obtain ⟨stage, hs⟩ := owned_of_run h hrun
  obtain ⟨w, hrely, howns⟩ := hs.owns i halive
  rw [hcode] at howns
  exact ⟨stage i, w, hrely, howns⟩

/-- **What every due question keeps of a program's notes and log**, every run keeps. -/
theorem logged_of_run {β : Type} {f : Deed Q A → Option β} {I : S → List β → Prop} (h : Begins C P g₀ init)
    (hf : f .acquired = none ∧ f .refused = none ∧ f .released = none ∧ f .killed = none) (h0 : I (g₀ i) [])
    (hnote : ∀ g bs q a u w, C.due u g q w → I g bs → I (C.note g q a) (bs ++ (f (.answered q a)).toList))
    (hrun : Run (SiteStep C.toWorld) init ls s) : I (notes C.note (g₀ i) i ls) (logged f i ls) := by
  refine (hrun.history (I := fun ls s =>
    (∃ stage, Owned C P g₀ ls stage s) ∧ I (notes C.note (g₀ i) i ls) (logged f i ls)) ?_
    ⟨owned_of_run h (.nil _), h0⟩).2
  rintro ls s ⟨j, deed⟩ t hstep ⟨⟨stage, hs⟩, hI⟩
  obtain ⟨hs', hdue⟩ := hs.step hstep
  refine ⟨hs', ?_⟩
  by_cases hj : j = i
  · subst hj
    rw [logged_snoc, notes_snoc]
    obtain ⟨hacquired, hrefused, hreleased, hkilled⟩ := hf
    cases deed with
    | answered q a => exact hnote _ _ q a (stage j) s.store (hdue q a rfl) hI
    | acquired => simpa [hacquired, Deed.note] using hI
    | refused => simpa [hrefused, Deed.note] using hI
    | released => simpa [hreleased, Deed.note] using hI
    | killed => simpa [hkilled, Deed.note] using hI
  · rw [logged_snoc_other f ls deed hj, notes_snoc_other _ _ _ _ hj]
    exact hI

/-- Whoever holds the lock lives, and has not ended. -/
theorem holder_of_run (h : Begins C P g₀ init) (hout : ∀ i g w r, ¬ P i .inside g w r)
    (hrun : Run (SiteStep C.toWorld) init ls s) (hholds : s.holder = some i) :
    ¬ s.killed i ∧ ∀ result, s.code i ≠ .done result := by
  obtain ⟨stage, hs⟩ := owned_of_run h hrun
  obtain ⟨halive, hinside⟩ := (hs.holder_iff i).mp hholds
  refine ⟨halive, fun result hcode => ?_⟩
  obtain ⟨w, -, howns⟩ := hs.owns i halive
  rw [hcode, hinside] at howns
  exact hout i _ _ _ howns

/-- **Nobody waits for ever at a lock nobody gives back.**  If every question has an answer, a run goes on
    as long as some living program has not ended. -/
theorem exists_step (h : Begins C P g₀ init) (hout : ∀ i g w r, ¬ P i .inside g w r)
    (hanswers : ∀ q w, C.always w → ∃ a w', C.effect q w a w')
    (hrun : Run (SiteStep C.toWorld) init ls s) (halive : ¬ s.killed i)
    (hunfinished : ∀ result, s.code i ≠ .done result) :
    ∃ j deed t, deed ≠ .killed ∧ SiteStep C.toWorld s (j, deed) t := by
  obtain ⟨stage, hs⟩ := owned_of_run h hrun
  -- whoever is inside can go on: it does not wait for the lock
  have hinside : ∀ j, s.holder = some j → ∃ deed t, deed ≠ .killed ∧ SiteStep C.toWorld s (j, deed) t := by
    intro j hholds
    obtain ⟨hjalive, hj⟩ := (hs.holder_iff j).mp hholds
    obtain ⟨w, hrely, howns⟩ := hs.owns j hjalive
    rw [hj] at howns
    cases hcode : s.code j with
    | done result =>
      rw [hcode] at howns
      exact absurd howns (hout j _ _ _)
    | acquire next =>
      rw [hcode] at howns
      exact absurd howns.1 (by decide)
    | tryAcquire next =>
      rw [hcode] at howns
      exact absurd howns.1 (by decide)
    | release next => exact ⟨_, _, by simp, .released hjalive hcode⟩
    | ask q next =>
      obtain ⟨a, w', heffect⟩ := hanswers q s.store hs.always
      exact ⟨_, _, by simp, .answered hjalive hcode a w' heffect⟩
  cases hholder : s.holder with
  | some j =>
    obtain ⟨deed, t, hdeed, hstep⟩ := hinside j hholder
    exact ⟨j, deed, t, hdeed, hstep⟩
  | none =>
    cases hcode : s.code i with
    | done result => exact absurd hcode (hunfinished result)
    | acquire next => exact ⟨i, _, _, by simp, .acquired halive hcode hholder⟩
    | tryAcquire next => exact ⟨i, _, _, by simp, .taken halive hcode hholder⟩
    | release next => exact ⟨i, _, _, by simp, .released halive hcode⟩
    | ask q next =>
      obtain ⟨a, w', heffect⟩ := hanswers q s.store hs.always
      exact ⟨i, _, _, by simp, .answered halive hcode a w' heffect⟩

/-! ## One program alone -/

/-- The next step of a program that runs alone, where the world answers from a table. -/
def soloStep (answer : ∀ q, W → A q × W) (held : Bool) (w : W) :
    Code Q A ε α → Option (Deed Q A × Bool × W × Code Q A ε α)
  | .done _ => none
  | .acquire next => if held then none else some (.acquired, true, w, next)
  | .tryAcquire next => if held then some (.refused, true, w, next false) else some (.acquired, true, w, next true)
  | .release next => some (.released, false, w, next held)
  | .ask q next => some (.answered q (answer q w).1, held, (answer q w).2, next (answer q w).1)

/-- What has become of a program that ran alone. -/
structure Alone (Q : Type) (A : Q → Type) (W ε α : Type) where
  log : List (Deed Q A)
  held : Bool
  store : W
  code : Code Q A ε α

/-- What it does in at most so many steps. -/
def solo (answer : ∀ q, W → A q × W) : Nat → Bool → W → Code Q A ε α → Alone Q A W ε α
  | 0, held, w, code => ⟨[], held, w, code⟩
  | n + 1, held, w, code => match soloStep answer held w code with
    | none => ⟨[], held, w, code⟩
    | some (deed, held', w', code') =>
        let rest := solo answer n held' w' code'
        { rest with log := deed :: rest.log }

/-- The site after one of its programs ran alone. -/
structure Alone.At (out : Alone Q A W ε α) (i : θ) (s t : Site θ Q A W ε α) : Prop where
  code : t.code i = out.code
  store : t.store = out.store
  holder : t.holder = if out.held then some i else none
  others : ∀ j, j ≠ i → t.code j = s.code j
  killed : t.killed = s.killed

/-- One step of it. -/
theorem step_solo {world : World Q A W} {answer : ∀ q, W → A q × W}
    (hanswer : ∀ q w, world.effect q w (answer q w).1 (answer q w).2) (halive : ¬ s.killed i) {held held' : Bool}
    (hheld : s.holder = if held then some i else none) {deed : Deed Q A} {w' : W} {code' : Code Q A ε α}
    (hnext : soloStep answer held s.store (s.code i) = some (deed, held', w', code')) :
    ∃ t, SiteStep world s (i, deed) t ∧ Alone.At ⟨[], held', w', code'⟩ i s t := by
  have hself : ∀ code : Code Q A ε α, Function.update s.code i code i = code := fun code => by simp
  have hothers : ∀ (code : Code Q A ε α) j, j ≠ i → Function.update s.code i code j = s.code j :=
    fun code j hj => Function.update_of_ne hj _ _
  cases hcode : s.code i with
  | done result =>
    rw [hcode] at hnext
    cases hnext
  | acquire next =>
    rw [hcode] at hnext
    cases held with
    | true => cases hnext
    | false =>
      cases hnext
      exact ⟨_, .acquired halive hcode hheld, hself _, rfl, rfl, hothers _, rfl⟩
  | tryAcquire next =>
    rw [hcode] at hnext
    cases held with
    | true =>
      cases hnext
      exact ⟨_, .refused halive hcode (by simp [hheld]), hself _, rfl, hheld, hothers _, rfl⟩
    | false =>
      cases hnext
      exact ⟨_, .taken halive hcode hheld, hself _, rfl, rfl, hothers _, rfl⟩
  | release next =>
    rw [hcode] at hnext
    cases hnext
    have hsome : s.holder.isSome = held := by cases held <;> simp [hheld]
    exact ⟨_, .released halive hcode, (hself _).trans (congrArg next hsome), rfl, rfl, hothers _, rfl⟩
  | ask q next =>
    rw [hcode] at hnext
    cases hnext
    exact ⟨_, .answered halive hcode (answer q s.store).1 (answer q s.store).2 (hanswer q s.store), hself _, rfl,
      hheld, hothers _, rfl⟩

/-- **One program alone** makes a run, if the world may answer as the table says. -/
theorem run_solo {world : World Q A W} {answer : ∀ q, W → A q × W}
    (hanswer : ∀ q w, world.effect q w (answer q w).1 (answer q w).2)
    (halive : ¬ s.killed i) (n : Nat) (held : Bool) (hheld : s.holder = if held then some i else none) :
    ∃ t, Run (SiteStep world) s ((solo answer n held s.store (s.code i)).log.map fun deed => (i, deed)) t ∧
      (solo answer n held s.store (s.code i)).At i s t := by
  induction n generalizing held s with
  | zero => exact ⟨s, .nil s, rfl, rfl, hheld, fun _ _ => rfl, rfl⟩
  | succ n ih =>
    unfold solo
    cases hnext : soloStep answer held s.store (s.code i) with
    | none => exact ⟨s, .nil s, rfl, rfl, hheld, fun _ _ => rfl, rfl⟩
    | some step =>
      obtain ⟨deed, held', w', code'⟩ := step
      obtain ⟨t, hstep, ht⟩ := step_solo hanswer halive hheld hnext
      have halive' : ¬ t.killed i := ht.killed ▸ halive
      obtain ⟨t', hrun, hend⟩ := ih (s := t) halive' held' ht.holder
      have hstore : t.store = w' := ht.store
      have hcode : t.code i = code' := ht.code
      rw [hstore, hcode] at hrun hend
      exact ⟨t', .cons hstep hrun, hend.code, hend.store, hend.holder,
        fun j hj => (hend.others j hj).trans (ht.others j hj), hend.killed.trans ht.killed⟩

def Code.isDone : Code Q A ε α → Bool
  | .done _ => true
  | .acquire _ | .tryAcquire _ | .release _ | .ask _ _ => false

/-- It waits for the lock. -/
def Code.isWaiting : Code Q A ε α → Bool
  | .acquire _ => true
  | .done _ | .tryAcquire _ | .release _ | .ask _ _ => false

theorem Code.exists_eq_done {c : Code Q A ε α} (h : c.isDone = true) : ∃ result, c = .done result := by
  cases c with
  | done result => exact ⟨result, rfl⟩
  | acquire next => cases h
  | tryAcquire next => cases h
  | release next => cases h
  | ask q next => cases h

/-- Whoever waits has not ended. -/
theorem Code.ne_done_of_isWaiting {c : Code Q A ε α} (h : c.isWaiting = true) (result : Except ε α) :
    c ≠ .done result := by
  rintro rfl
  cases h

/-- So whatever it does alone, it does in some run. -/
theorem exists_run_solo {world : World Q A W} {answer : ∀ q, W → A q × W}
    (hanswer : ∀ q w, world.effect q w (answer q w).1 (answer q w).2) (halive : ¬ s.killed i) (hfree : s.holder = none)
    {n : Nat} {p : Deed Q A → Bool} (h : (solo answer n false s.store (s.code i)).log.any p = true) :
    ∃ deed pre post t, p deed = true ∧ Run (SiteStep world) s (pre ++ (i, deed) :: post) t := by
  obtain ⟨deed, hmem, hp⟩ := List.any_eq_true.mp h
  obtain ⟨before, after, hlog⟩ := List.append_of_mem hmem
  obtain ⟨t, hrun, -⟩ := run_solo hanswer halive n false hfree
  rw [hlog, List.map_append, List.map_cons] at hrun
  exact ⟨deed, _, _, t, hp, hrun⟩

/-- The one program comes to the lock, and the other takes it in so many steps. -/
def waitsBehind (answer : ∀ q, W → A q × W) (n m : Nat) (w : W) (c c' : Code Q A ε α) : Bool :=
  let out := solo answer n false w c
  !out.held && out.code.isWaiting && (solo answer m false out.store c').held

/-- **One waits while another holds the lock**, in a run of these two. -/
theorem exists_waiting_run {world : World Q A W} {answer : ∀ q, W → A q × W}
    (hanswer : ∀ q w, world.effect q w (answer q w).1 (answer q w).2) (halive : ∀ j, ¬ s.killed j)
    (hfree : s.holder = none) {j : θ} (hj : j ≠ i) {n m : Nat}
    (h : waitsBehind answer n m s.store (s.code j) (s.code i) = true) :
    ∃ ls t, Run (SiteStep world) s ls t ∧ t.holder = some i ∧ (t.code j).isWaiting = true ∧ t.killed = s.killed := by
  simp only [waitsBehind, Bool.and_eq_true, Bool.not_eq_true'] at h
  obtain ⟨⟨hfreed, hwaits⟩, hheld⟩ := h
  obtain ⟨t₁, hrun₁, ht₁⟩ := run_solo hanswer (halive j) n false hfree
  have hfree₁ : t₁.holder = none := by
    rw [ht₁.holder, hfreed]
    rfl
  obtain ⟨t₂, hrun₂, ht₂⟩ := run_solo hanswer (ht₁.killed ▸ halive i) m false hfree₁
  rw [ht₁.store, ht₁.others i hj.symm] at hrun₂ ht₂
  refine ⟨_, t₂, hrun₁.append hrun₂, ?_, ?_, ht₂.killed.trans ht₁.killed⟩
  · rw [ht₂.holder, hheld]
    rfl
  · rw [ht₂.others j hj, ht₁.code]
    exact hwaits

end Site

end Guarded
