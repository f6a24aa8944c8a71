/-
  Labelled transition systems.

  A system is its step relation `Step : S → L → S → Prop`.  `Run Step s ls t` says that the labels
  `ls`, in this order, lead from `s` to `t`.  Two uses of it:
    * a concurrent object, whose labels are the atomic steps of its threads in any interleaving:
      `Run.invariant` turns what one step keeps into what every run keeps;
    * a usage protocol, whose labels are the events a program emits: `Run.split` reads off what the
      protocol says at any point of the log, and `Run.append` glues the logs of consecutive parts.
-/
import Mathlib.Data.List.Basic

set_option linter.unusedVariables false

namespace Transition

variable {S L : Type} {Step : S → L → S → Prop}

/-- The labels `ls` lead from the first state to the second. -/
inductive Run (Step : S → L → S → Prop) : S → List L → S → Prop
  | nil (s : S) : Run Step s [] s
  | cons {s t u : S} {l : L} {ls : List L} : Step s l t → Run Step t ls u → Run Step s (l :: ls) u

namespace Run

/-- A run of a stricter system is a run. -/
theorem imp {Step' : S → L → S → Prop} (h : ∀ s l t, Step s l t → Step' s l t) {s t : S} {ls : List L}
    (hrun : Run Step s ls t) : Run Step' s ls t := by
  induction hrun with
  | nil s => exact .nil s
  | cons hstep _ ih => exact .cons (h _ _ _ hstep) ih

theorem single {s t : S} {l : L} (h : Step s l t) : Run Step s [l] t := .cons h (.nil t)

theorem append {s t u : S} {ls ls' : List L} (h : Run Step s ls t) (h' : Run Step t ls' u) :
    Run Step s (ls ++ ls') u := by
  induction h with
  | nil s => exact h'
  | cons hstep _ ih => exact .cons hstep (ih h')

/-- One more step at the end. -/
theorem snoc {s t u : S} {l : L} {ls : List L} (h : Run Step s ls t) (hstep : Step t l u) :
    Run Step s (ls ++ [l]) u := h.append (single hstep)

theorem split {s u : S} {ls ls' : List L} (h : Run Step s (ls ++ ls') u) :
    ∃ t, Run Step s ls t ∧ Run Step t ls' u := by
  induction ls generalizing s with
  | nil => exact ⟨s, .nil s, h⟩
  | cons l ls ih =>
    cases h with
    | cons hstep hrest =>
      obtain ⟨t, hl, hr⟩ := ih hrest
      exact ⟨t, .cons hstep hl, hr⟩

theorem of_cons {s u : S} {l : L} {ls : List L} (h : Run Step s (l :: ls) u) :
    ∃ t, Step s l t ∧ Run Step t ls u := by
  cases h with
  | cons hstep hrest => exact ⟨_, hstep, hrest⟩

/-- What the system does at one position of a run. -/
theorem at_label {s u : S} {pre post : List L} {l : L} (h : Run Step s (pre ++ l :: post) u) :
    ∃ t t', Run Step s pre t ∧ Step t l t' ∧ Run Step t' post u := by
  obtain ⟨t, hpre, hrest⟩ := h.split
  obtain ⟨t', hstep, hpost⟩ := hrest.of_cons
  exact ⟨t, t', hpre, hstep, hpost⟩

/-- **The invariant rule.**  What every step keeps, every run keeps. -/
theorem invariant {I : S → Prop} (hI : ∀ s l t, Step s l t → I s → I t) {s t : S} {ls : List L}
    (h : Run Step s ls t) (hs : I s) : I t := by
  induction h with
  | nil => exact hs
  | cons hstep _ ih => exact ih (hI _ _ _ hstep hs)

/-- The invariant rule for a property of the state together with the labels that led to it. -/
theorem history {I : List L → S → Prop}
    (hI : ∀ ls s l t, Step s l t → I ls s → I (ls ++ [l]) t) {s t : S} {ls : List L}
    (h : Run Step s ls t) (hs : I [] s) : I ls t := by
  -- the induction is on the rest of the run, behind any labels already seen
  suffices hrest : ∀ pre, I pre s → I (pre ++ ls) t from hrest [] hs
  clear hs
  induction h with
  | nil => simp
  | cons hstep _ ih =>
    intro pre hpre
    have hnext := ih _ (hI _ _ _ _ hstep hpre)
    simpa using hnext

end Run

end Transition
