/-
  Conflict-checked joins of keyed items.

  Items are collected into a dictionary under their keys; a second item with the key of an earlier one
  must be equal to it, or the join fails.  The result is listed in the order of the keys.

  `IsJoin items out` says what the result is without saying how it was put together: the items,
  strictly increasing by key.  There is at most one such list, and it depends on the set of the items
  only, so order, repetition and grouping make no difference to a join; `join_eq_ok` says that the
  program computes it, and `exists_isJoin_iff` when there is one.
-/
import FireviewerOrchestrator.Library.Dict
import Mathlib.Data.List.Sort

namespace KeyedJoin

variable {κ α ε : Type} [LinearOrder κ] (key : α → κ)

/-! ## What a join is -/

/-- The items, each once, strictly increasing by key. -/
structure IsJoin (items out : List α) : Prop where
  increasing : out.Pairwise fun a b => key a < key b
  mem_iff : ∀ a, a ∈ out ↔ a ∈ items

/-- No two different items have the same key. -/
def Consistent (items : List α) : Prop := ∀ a ∈ items, ∀ b ∈ items, key a = key b → a = b

variable {key} {items items' out out' : List α}

theorem IsJoin.congr (h : IsJoin key items out) (hmem : ∀ a, a ∈ items ↔ a ∈ items') :
    IsJoin key items' out :=
  ⟨h.increasing, fun a => (h.mem_iff a).trans (hmem a)⟩

theorem IsJoin.nodup (h : IsJoin key items out) : out.Nodup :=
  h.increasing.imp fun hlt heq => hlt.ne (congrArg key heq)

/-- The keys of a join are different. -/
theorem IsJoin.nodup_keys (h : IsJoin key items out) : (out.map key).Nodup := by
  rw [List.Nodup, List.pairwise_map]
  exact h.increasing.imp fun hlt => hlt.ne

/-- **There is one join at most.** -/
theorem IsJoin.unique (h : IsJoin key items out) (h' : IsJoin key items out') : out = out' := by
  have hperm : out.Perm out' :=
    (List.perm_ext_iff_of_nodup h.nodup h'.nodup).mpr fun a => (h.mem_iff a).trans (h'.mem_iff a).symm
  refine hperm.eq_of_pairwise ?_ h.increasing h'.increasing
  intro a b _ _ hab hba
  exact absurd hba hab.asymm

/-- A join of a join is itself. -/
theorem IsJoin.self (h : IsJoin key items out) : IsJoin key out out := ⟨h.increasing, fun _ => Iff.rfl⟩

theorem IsJoin.consistent (h : IsJoin key items out) : Consistent key items := by
  intro a ha b hb heq
  exact List.inj_on_of_nodup_map h.nodup_keys ((h.mem_iff a).mpr ha) ((h.mem_iff b).mpr hb) heq

omit [LinearOrder κ] in
theorem Consistent.mono (h : Consistent key items) (hsub : ∀ a ∈ items', a ∈ items) :
    Consistent key items' :=
  fun a ha b hb => h a (hsub a ha) b (hsub b hb)

/-! ## Joining -/

section Program

variable (key) [DecidableEq α] (conflict : κ → ε)

/-- One item: a different one may not have its key. -/
def collect (d : Dict κ α) (item : α) : Except ε (Dict κ α) :=
  match d.get? (key item) with
  | some existing =>
      if existing ≠ item then .error (conflict (key item)) else .ok (d.set (key item) item)
  | none => .ok (d.set (key item) item)

/-- The items of a dictionary, in the order of their keys. -/
def sortedItems (d : Dict κ α) : List α := (d.keys.insertionSort (· ≤ ·)).filterMap d.get?

/-- All items, one after another. -/
def join (items : List α) : Except ε (List α) := do
  let merged ← items.foldlM (collect key conflict) Dict.empty
  pure (sortedItems merged)

end Program

/-! ## What it computes -/

variable (key) in
/-- The dictionary has each of the items under its key, and nothing else. -/
def Holds (d : Dict κ α) (items : List α) : Prop := ∀ k a, d.get? k = some a ↔ a ∈ items ∧ key a = k

variable {conflict : κ → ε} {d d' : Dict κ α} {item : α}

theorem Holds.consistent (h : Holds key d items) : Consistent key items := by
  intro a ha b hb heq
  have hget : d.get? (key a) = some a := (h (key a) a).mpr ⟨ha, rfl⟩
  have hget' : d.get? (key a) = some b := (h (key a) b).mpr ⟨hb, heq.symm⟩
  exact Option.some.inj (hget.symm.trans hget')

theorem holds_set (h : Holds key d items) (hcompatible : ∀ a ∈ items, key a = key item → a = item) :
    Holds key (d.set (key item) item) (items ++ [item]) := by
  intro k a
  rw [Dict.get?_set]
  by_cases hk : k = key item
  · rw [if_pos hk]
    constructor
    · intro hsome
      obtain rfl := Option.some.inj hsome
      exact ⟨List.mem_append_right _ (List.mem_singleton.mpr rfl), hk.symm⟩
    · rintro ⟨hmem, hkey⟩
      rcases List.mem_append.mp hmem with hmem | hmem
      · rw [hcompatible a hmem (hkey.trans hk)]
      · rw [List.mem_singleton.mp hmem]
  · rw [if_neg hk, h k a]
    constructor
    · rintro ⟨hmem, hkey⟩
      exact ⟨List.mem_append_left _ hmem, hkey⟩
    · rintro ⟨hmem, hkey⟩
      rcases List.mem_append.mp hmem with hmem | hmem
      · exact ⟨hmem, hkey⟩
      · exact absurd (List.mem_singleton.mp hmem ▸ hkey).symm hk

theorem isJoin_sortedItems (h : Holds key d items) : IsJoin key items (sortedItems d) := by
  constructor
  · have hsorted : (d.keys.insertionSort (· ≤ ·)).Pairwise (· < ·) := by
      have hle := List.pairwise_insertionSort (· ≤ ·) d.keys
      have hne : (d.keys.insertionSort (· ≤ ·)).Nodup := (List.perm_insertionSort _ _).nodup_iff.mpr d.nodup
      exact hle.imp₂ (fun _ _ hle hne => lt_of_le_of_ne hle hne) hne
    rw [sortedItems, List.pairwise_filterMap]
    refine hsorted.imp ?_
    intro k k' hlt a ha b hb
    rw [((h k a).mp ha).2, ((h k' b).mp hb).2]
    exact hlt
  · intro a
    rw [sortedItems, List.mem_filterMap]
    constructor
    · rintro ⟨k, -, hget⟩
      exact ((h k a).mp hget).1
    · intro ha
      have hget : d.get? (key a) = some a := (h _ _).mpr ⟨ha, rfl⟩
      refine ⟨key a, ?_, hget⟩
      rw [List.mem_insertionSort]
      exact Dict.mem_keys_of_mem (Dict.get?_eq_some.mp hget)

theorem holds_empty : Holds key (Dict.empty : Dict κ α) [] := by
  intro k a
  simp

variable [DecidableEq α]

/-- One item is collected exactly if it agrees with the earlier ones. -/
theorem collect_eq_ok (h : Holds key d items) : collect key conflict d item = .ok d' ↔
    (∀ a ∈ items, key a = key item → a = item) ∧ d' = d.set (key item) item := by
  have hcompatible : (∀ a ∈ items, key a = key item → a = item) ↔
      ∀ existing, d.get? (key item) = some existing → existing = item := by
    constructor
    · intro hall existing hget
      obtain ⟨hmem, hkey⟩ := (h _ _).mp hget
      exact hall existing hmem hkey
    · intro hall a hmem hkey
      exact hall a ((h _ _).mpr ⟨hmem, hkey⟩)
  rw [hcompatible]
  unfold collect
  cases hget : d.get? (key item) with
  | none =>
    constructor
    · rintro ⟨rfl⟩
      exact ⟨fun _ hsome => (by cases hsome), rfl⟩
    · rintro ⟨-, rfl⟩
      rfl
  | some existing =>
    by_cases heq : existing = item
    · simp [heq, eq_comm]
    · simp [heq]

/-- **The run**: the items are collected exactly if they and the earlier ones are consistent. -/
theorem foldlM_collect (items : List α) : ∀ {seen : List α} {d : Dict κ α}, Holds key d seen →
    (Consistent key (seen ++ items) → ∃ d', items.foldlM (collect key conflict) d = .ok d') ∧
    ∀ d', items.foldlM (collect key conflict) d = .ok d' → Holds key d' (seen ++ items) := by
  induction items with
  | nil =>
    intro seen d h
    refine ⟨fun _ => ⟨d, rfl⟩, ?_⟩
    rintro d' ⟨⟩
    rwa [List.append_nil]
  | cons item items ih =>
    intro seen d h
    have happend : seen ++ item :: items = (seen ++ [item]) ++ items := by
      rw [List.append_assoc, List.singleton_append]
    rw [happend, List.foldlM_cons]
    constructor
    · intro hconsistent
      have hcompatible : ∀ a ∈ seen, key a = key item → a = item := by
        intro a ha hkey
        exact hconsistent a (by simp [ha]) item (by simp) hkey
      rw [(collect_eq_ok h).mpr ⟨hcompatible, rfl⟩]
      exact (ih (holds_set h hcompatible)).1 hconsistent
    · intro d' hok
      cases hcollect : collect key conflict d item with
      | error e =>
        rw [hcollect] at hok
        cases hok
      | ok next =>
        rw [hcollect] at hok
        obtain ⟨hcompatible, rfl⟩ := (collect_eq_ok h).mp hcollect
        exact (ih (holds_set h hcompatible)).2 d' hok

/-- **The program computes the join**, whatever the order of the items. -/
theorem join_eq_ok : join key conflict items = .ok out ↔ IsJoin key items out := by
  have hempty : Holds key Dict.empty [] := holds_empty
  have hrun : (Consistent key items →
        ∃ d, items.foldlM (collect key conflict) Dict.empty = .ok d) ∧
      ∀ d, items.foldlM (collect key conflict) Dict.empty = .ok d → Holds key d items :=
    foldlM_collect items hempty
  unfold join
  constructor
  · intro h
    cases hfold : items.foldlM (collect key conflict) Dict.empty with
    | error e =>
      rw [hfold] at h
      cases h
    | ok d =>
      rw [hfold] at h
      obtain rfl := Except.ok.inj h
      exact isJoin_sortedItems (hrun.2 d hfold)
  · intro h
    obtain ⟨d, hfold⟩ := hrun.1 h.consistent
    rw [hfold, h.unique (isJoin_sortedItems (hrun.2 d hfold))]
    rfl

/-- **There is a join exactly if no two different items have the same key.** -/
theorem exists_isJoin_iff : (∃ out, IsJoin key items out) ↔ Consistent key items := by
  constructor
  · rintro ⟨out, h⟩
    exact h.consistent
  · intro h
    have hempty : Holds key Dict.empty [] := holds_empty
    have hcollects : ∃ d, items.foldlM (collect key fun _ => ()) Dict.empty = .ok d :=
      (foldlM_collect items hempty).1 h
    obtain ⟨d, hfold⟩ := hcollects
    exact ⟨_, isJoin_sortedItems ((foldlM_collect items hempty).2 d hfold)⟩

end KeyedJoin
