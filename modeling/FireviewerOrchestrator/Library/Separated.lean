/-
  Texts joined by a separator.

  Joining loses nothing that is free of the separator: the parts in front of the first part that is
  not free of it can be read back.  What stands behind them may be any text.
-/
import Mathlib.Data.List.Basic

set_option linter.unusedVariables false

namespace Separated

/-- The text does not contain the separator. -/
def Free (c : Char) (text : String) : Prop := c ∉ text.toList

instance (c : Char) (text : String) : Decidable (Free c text) := inferInstanceAs (Decidable (c ∉ text.toList))

/-- `sep.join(parts)`. -/
def join (c : Char) (parts : List String) : String := (String.singleton c).intercalate parts

variable {c : Char}

theorem join_singleton (p : String) : join c [p] = p := String.intercalate_singleton

theorem toList_join_cons_cons (p q : String) (ps : List String) :
    (join c (p :: q :: ps)).toList = p.toList ++ c :: (join c (q :: ps)).toList := by
  unfold join
  rw [String.intercalate_cons_cons]
  simp

/-- What stands before the first separator, and what stands behind it. -/
theorem append_cons_inj {α : Type} {c : α} : ∀ {as bs as' bs' : List α}, c ∉ as → c ∉ as' →
    as ++ c :: bs = as' ++ c :: bs' → as = as' ∧ bs = bs'
  | [], bs, [], bs', _, _, h => ⟨rfl, List.tail_eq_of_cons_eq h⟩
  | [], bs, a' :: as', bs', _, hfree', h =>
    absurd (List.head_eq_of_cons_eq h) fun heq => hfree' (heq ▸ List.mem_cons_self)
  | a :: as, bs, [], bs', hfree, _, h =>
    absurd (List.head_eq_of_cons_eq h) fun heq => hfree (heq ▸ List.mem_cons_self)
  | a :: as, bs, a' :: as', bs', hfree, hfree', h => by
    obtain ⟨hhead, htail⟩ := List.cons.inj h
    obtain ⟨has, hbs⟩ := append_cons_inj (fun hmem => hfree (List.mem_cons_of_mem a hmem))
      (fun hmem => hfree' (List.mem_cons_of_mem a' hmem)) htail
    exact ⟨by rw [hhead, has], hbs⟩

/-- What stands before the last separator, and what stands behind it. -/
theorem append_cons_inj_last {α : Type} {c : α} {as bs as' bs' : List α} (hfree : c ∉ bs) (hfree' : c ∉ bs')
    (h : as ++ c :: bs = as' ++ c :: bs') : as = as' ∧ bs = bs' := by
  have hreverse : bs.reverse ++ c :: as.reverse = bs'.reverse ++ c :: as'.reverse := by
    have h := congrArg List.reverse h
    simpa only [List.reverse_append, List.reverse_cons, List.append_assoc, List.singleton_append] using h
  obtain ⟨hbs, has⟩ := append_cons_inj (by rwa [List.mem_reverse]) (by rwa [List.mem_reverse]) hreverse
  exact ⟨List.reverse_injective has, List.reverse_injective hbs⟩

/-- **The first part can be read back**, and so can the rest. -/
theorem join_cons_inj {p p' q q' : String} {ps ps' : List String} (hp : Free c p) (hp' : Free c p')
    (h : join c (p :: q :: ps) = join c (p' :: q' :: ps')) : p = p' ∧ join c (q :: ps) = join c (q' :: ps') := by
  have hlist := congrArg String.toList h
  rw [toList_join_cons_cons, toList_join_cons_cons] at hlist
  obtain ⟨hfirst, hrest⟩ := append_cons_inj hp hp' hlist
  exact ⟨String.toList_inj.mp hfirst, String.toList_inj.mp hrest⟩

/-- One part alone is no join of several, if it is free of the separator. -/
theorem join_singleton_ne {p q q' : String} {qs : List String} (hp : Free c p) :
    join c [p] ≠ join c (q :: q' :: qs) := by
  intro h
  have hlist := congrArg String.toList h
  rw [join_singleton, toList_join_cons_cons] at hlist
  apply hp
  rw [hlist]
  exact List.mem_append_right _ List.mem_cons_self

/-- **Parts that are free of the separator can be read back.** -/
theorem join_injective : ∀ {ps qs : List String}, ps ≠ [] → qs ≠ [] → (∀ p ∈ ps, Free c p) →
    (∀ q ∈ qs, Free c q) → join c ps = join c qs → ps = qs
  | [], _, hps, _, _, _, _ => absurd rfl hps
  | _, [], _, hqs, _, _, _ => absurd rfl hqs
  | [p], [q], _, _, _, _, h => by rw [join_singleton, join_singleton] at h; rw [h]
  | [p], q :: q' :: qs, _, _, hfree, _, h => absurd h (join_singleton_ne (hfree p List.mem_cons_self))
  | p :: p' :: ps, [q], _, _, _, hfree, h => absurd h.symm (join_singleton_ne (hfree q List.mem_cons_self))
  | p :: p' :: ps, q :: q' :: qs, _, _, hfree, hfree', h => by
    obtain ⟨hfirst, hrest⟩ :=
      join_cons_inj (hfree p List.mem_cons_self) (hfree' q List.mem_cons_self) h
    have ih := join_injective (List.cons_ne_nil p' ps) (List.cons_ne_nil q' qs)
      (fun r hr => hfree r (List.mem_cons_of_mem p hr)) (fun r hr => hfree' r (List.mem_cons_of_mem q hr)) hrest
    rw [hfirst, ih]

end Separated
