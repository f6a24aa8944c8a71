/-
  Sorting by a key.

  A stable sort depends on the order of its input only where keys are equal.  Where no two elements
  have one key there is nothing left to depend on: the sorted list is that of any reordering.
-/
import Mathlib.Data.List.Sort

set_option linter.unusedVariables false

namespace Ranking

variable {α κ : Type} [LinearOrder κ] (key : α → κ)

/-- `sorted(items, key=key)`. -/
def sortedBy (items : List α) : List α := items.insertionSort fun a b => key a ≤ key b

variable {key} {items items' : List α}

theorem sortedBy_perm : (sortedBy key items).Perm items := List.perm_insertionSort _ _

theorem mem_sortedBy {a : α} : a ∈ sortedBy key items ↔ a ∈ items := sortedBy_perm.mem_iff

theorem pairwise_le_sortedBy : (sortedBy key items).Pairwise fun a b => key a ≤ key b := by
  have htotal : Std.Total fun a b : α => key a ≤ key b := ⟨fun a b => le_total (key a) (key b)⟩
  have htrans : IsTrans α fun a b : α => key a ≤ key b := ⟨fun a b c => le_trans⟩
  exact List.pairwise_insertionSort _ items

/-- Keys that differ are in strict order. -/
theorem pairwise_lt_sortedBy (h : (items.map key).Nodup) :
    (sortedBy key items).Pairwise fun a b => key a < key b := by
  have hnodup : ((sortedBy key items).map key).Nodup := (sortedBy_perm.map key).nodup_iff.mpr h
  exact pairwise_le_sortedBy.imp₂ (fun a b hle hne => lt_of_le_of_ne hle hne) (List.pairwise_map.mp hnodup)

theorem sortedBy_of_pairwise (h : items.Pairwise fun a b => key a ≤ key b) : sortedBy key items = items :=
  h.insertionSort_eq

/-- **Where no key is repeated, the order of the input does not matter.** -/
theorem sortedBy_eq_of_perm (hnodup : (items.map key).Nodup) (h : items.Perm items') :
    sortedBy key items = sortedBy key items' := by
  have hperm : (sortedBy key items).Perm (sortedBy key items') :=
    sortedBy_perm.trans (h.trans sortedBy_perm.symm)
  refine hperm.eq_of_pairwise (fun a b ha hb hab hba => ?_) pairwise_le_sortedBy pairwise_le_sortedBy
  have hb' : b ∈ items := h.mem_iff.mpr (mem_sortedBy.mp hb)
  exact List.inj_on_of_nodup_map hnodup (mem_sortedBy.mp ha) hb' (le_antisymm hab hba)

end Ranking
