/-
  Sampling: a list read at the whole numbers next to the terms of an arithmetic progression.

  All that is asked of a rounded number is that it is at most a half away (`Near`), so the results hold
  for every rule about ties.  Next to the multiples of a step `r` stand whole numbers that are `⌊r⌋` or
  `⌈r⌉` apart (`Rounded.step`): two of them are at least `r - 1` and at most `r + 1` apart, and where
  `r` is whole they are the multiples themselves.  From one on, no two of them are the same number.
-/
import Mathlib.Algebra.Order.Floor.Ring
import Mathlib.Algebra.Order.Ring.Abs
import Mathlib.Data.Int.ConditionallyCompleteOrder
import Mathlib.Data.List.Basic
import Mathlib.Order.Monotone.Basic
import Mathlib.Tactic.Linarith
import Mathlib.Tactic.Ring

set_option linter.unusedVariables false

namespace Sampling

/-! ## Whole numbers next to a progression -/

section Rounding

variable {K : Type*} [Field K] [LinearOrder K] [IsStrictOrderedRing K] {m n : ℤ} {x r : K}

/-- At most a half away. -/
def Near (m : ℤ) (x : K) : Prop := x - 1 / 2 ≤ m ∧ (m : K) ≤ x + 1 / 2

/-- Next to a whole number there is only that number. -/
theorem Near.eq_of_whole {k : ℤ} (h : Near m (k : K)) : m = k := by
  obtain ⟨hlow, hhigh⟩ := h
  have hbelow : (k : K) < (m : K) + 1 := by linarith
  have habove : (m : K) < (k : K) + 1 := by linarith
  have hle : k < m + 1 := by exact_mod_cast hbelow
  have hge : m < k + 1 := by exact_mod_cast habove
  omega

variable [FloorRing K]

/-- Numbers `r` apart, with `r` not whole, have whole numbers next to them that are almost so far apart. -/
theorem Near.sub_of_not_whole (hm : Near m x) (hn : Near n (x + r)) (hr : (⌊r⌋ : K) ≠ r) :
    n - m = ⌊r⌋ ∨ n - m = ⌈r⌉ := by
  obtain ⟨hmlow, hmhigh⟩ := hm
  obtain ⟨hnlow, hnhigh⟩ := hn
  have hfloor : (⌊r⌋ : K) < r := lt_of_le_of_ne (Int.floor_le r) hr
  have hceil : ⌈r⌉ = ⌊r⌋ + 1 := by
    have hle : ⌈r⌉ ≤ ⌊r⌋ + 1 := Int.ceil_le_floor_add_one r
    have hlt : ⌊r⌋ < ⌈r⌉ := Int.lt_ceil.mpr hfloor
    omega
  have hlow : (⌊r⌋ : K) < ((n - m : ℤ) : K) + 1 := by
    push_cast
    linarith
  have hhigh : ((n - m : ℤ) : K) < (⌊r⌋ : K) + 2 := by
    have hr' := Int.lt_floor_add_one r
    push_cast
    linarith
  have hlow' : ⌊r⌋ < n - m + 1 := by exact_mod_cast hlow
  have hhigh' : n - m < ⌊r⌋ + 2 := by exact_mod_cast hhigh
  omega

/-- Whole numbers next to the multiples of `r`. -/
def Rounded (f : ℕ → ℤ) (r : K) : Prop := ∀ p : ℕ, Near (f p) (p * r)

variable {f : ℕ → ℤ}

omit [FloorRing K] in
theorem Rounded.at_whole (h : Rounded f r) {p : ℕ} {k : ℤ} (hk : (p : K) * r = k) : f p = k := by
  have hp := h p
  rw [hk] at hp
  exact hp.eq_of_whole

omit [FloorRing K] in
theorem Rounded.zero (h : Rounded f r) : f 0 = 0 := h.at_whole (by simp)

/-- **Two successive ones are `⌊r⌋` or `⌈r⌉` apart.** -/
theorem Rounded.step (h : Rounded f r) (p : ℕ) : f (p + 1) - f p = ⌊r⌋ ∨ f (p + 1) - f p = ⌈r⌉ := by
  by_cases hr : (⌊r⌋ : K) = r
  · -- Every multiple of `r` is whole, and nothing is rounded.
    left
    have hp : f p = p * ⌊r⌋ := h.at_whole (by rw [← hr]; push_cast; simp)
    have hnext : f (p + 1) = (p + 1) * ⌊r⌋ := h.at_whole (by rw [← hr]; push_cast; simp)
    rw [hp, hnext]
    ring
  · have hnext := h (p + 1)
    have hsum : ((p + 1 : ℕ) : K) * r = p * r + r := by
      push_cast
      ring
    rw [hsum] at hnext
    exact (h p).sub_of_not_whole hnext hr

theorem Rounded.strictMono (h : Rounded f r) (hr : 1 ≤ r) : StrictMono f := by
  apply strictMono_nat_of_lt_succ
  intro p
  have hfloor : 1 ≤ ⌊r⌋ := Int.le_floor.mpr (by exact_mod_cast hr)
  have hceil : ⌊r⌋ ≤ ⌈r⌉ := Int.floor_le_ceil r
  rcases h.step p with hstep | hstep <;> omega

end Rounding

/-! ## Lists read at positions -/

section Selection

variable {α : Type*} {l : List α} {positions : List ℕ}

/-- The elements at the positions, in the order of the positions. -/
def select (l : List α) (positions : List ℕ) : List α := positions.filterMap fun p => l[p]?

theorem map_some_select (hin : ∀ p ∈ positions, p < l.length) :
    (select l positions).map some = positions.map fun p => l[p]? := by
  induction positions with
  | nil => rfl
  | cons p ps ih =>
    have hlt : p < l.length := hin p List.mem_cons_self
    have hp : l[p]? = some l[p] := List.getElem?_eq_getElem hlt
    have ih := ih fun q hq => hin q (List.mem_cons_of_mem p hq)
    rw [select, List.filterMap_cons_some hp, List.map_cons, List.map_cons, hp]
    exact congrArg _ ih

theorem length_select (hin : ∀ p ∈ positions, p < l.length) : (select l positions).length = positions.length := by
  have h := congrArg List.length (map_some_select hin)
  rwa [List.length_map, List.length_map] at h

/-- Read at increasing positions, a list gives one of its sublists. -/
theorem select_sublist (hin : ∀ p ∈ positions, p < l.length) (hlt : positions.Pairwise (· < ·)) :
    (select l positions).Sublist l := by
  have hvalues : (positions.pmap Fin.mk hin).map Fin.val = positions := by
    rw [List.map_pmap]
    exact List.pmap_eq_self.mpr fun p hp => rfl
  have hplaces : ((positions.pmap Fin.mk hin).map fun i => l[i]) = select l positions := by
    apply List.map_injective_iff.mpr (Option.some_injective α)
    rw [map_some_select hin, List.map_map]
    conv_rhs => rw [← hvalues, List.map_map]
    apply List.map_congr_left
    intro i hi
    show some l[i] = l[i.val]?
    rw [List.getElem?_eq_getElem i.isLt]
    rfl
  rw [← hplaces]
  apply List.map_getElem_sublist
  have hincreasing : ((positions.pmap Fin.mk hin).map Fin.val).Pairwise (· < ·) := hvalues.symm ▸ hlt
  rw [List.pairwise_map] at hincreasing
  exact hincreasing

end Selection

end Sampling
