/-
  Fallible computations, read backwards: what the success of a sequence, of a guard or of a
  traversal says of its parts.

  `Except` already has the operations.  What is added are their inversions, so that the account of
  a long fallible program is a chain of `obtain`s and never an unfolding of `bind`.
-/
import Mathlib.Data.List.Forall2

namespace Fallible

variable {ε α β : Type}

/-! ## Sequences -/

/-- A sequence that ended well ended well in both of its parts. -/
theorem bind_eq_ok {x : Except ε α} {f : α → Except ε β} {b : β} :
    (x >>= f) = .ok b ↔ ∃ a, x = .ok a ∧ f a = .ok b := by
  cases x with
  | ok a =>
    constructor
    · exact fun h => ⟨a, rfl, h⟩
    · rintro ⟨a', ⟨rfl⟩, h⟩
      exact h
  | error e =>
    constructor
    · intro h
      cases h
    · rintro ⟨a', h, -⟩
      cases h

@[simp] theorem ok_bind {a : α} {f : α → Except ε β} : (Except.ok a >>= f) = f a := rfl

theorem pure_eq_ok {a b : α} : (pure a : Except ε α) = .ok b ↔ a = b := by
  constructor
  · rintro ⟨rfl⟩
    rfl
  · rintro rfl
    rfl

/-- A check that only raises or passes. -/
theorem check_bind_eq_ok {x : Except ε Unit} {f : Unit → Except ε β} {b : β} :
    (x >>= f) = .ok b ↔ x = .ok () ∧ f () = .ok b := by
  rw [bind_eq_ok]
  constructor
  · rintro ⟨⟨⟩, hx, hf⟩
    exact ⟨hx, hf⟩
  · rintro ⟨hx, hf⟩
    exact ⟨(), hx, hf⟩

/-- `x if … else raise`. -/
theorem ite_eq_ok {p : Prop} [Decidable p] {x : Except ε α} {e : ε} {a : α} :
    (if p then x else .error e) = .ok a ↔ p ∧ x = .ok a := by
  by_cases hp : p
  · rw [if_pos hp]
    exact ⟨fun h => ⟨hp, h⟩, And.right⟩
  · rw [if_neg hp]
    constructor
    · intro h
      cases h
    · exact fun h => absurd h.1 hp

/-! ## Traversals -/

/-- A traversal ended well iff every element has its image, in order. -/
theorem mapM_eq_ok {f : α → Except ε β} {xs : List α} : ∀ {ys : List β},
    xs.mapM f = .ok ys ↔ List.Forall₂ (fun x y => f x = .ok y) xs ys := by
  induction xs with
  | nil =>
    intro ys
    rw [List.mapM_nil, pure_eq_ok, List.forall₂_nil_left_iff]
    exact eq_comm
  | cons x xs ih =>
    intro ys
    rw [List.mapM_cons, List.forall₂_cons_left_iff, bind_eq_ok]
    constructor
    · rintro ⟨y, hy, h⟩
      obtain ⟨rest, hrest, h⟩ := bind_eq_ok.mp h
      obtain rfl := pure_eq_ok.mp h
      exact ⟨y, rest, hy, ih.mp hrest, rfl⟩
    · rintro ⟨y, rest, hy, hrest, rfl⟩
      exact ⟨y, hy, bind_eq_ok.mpr ⟨rest, ih.mpr hrest, rfl⟩⟩

/-- A loop of checks passes iff each does. -/
theorem forM_eq_ok {f : α → Except ε Unit} {xs : List α} :
    xs.forM f = .ok () ↔ ∀ x ∈ xs, f x = .ok () := by
  induction xs with
  | nil => exact ⟨fun _ _ hx => absurd hx List.not_mem_nil, fun _ => rfl⟩
  | cons x xs ih =>
    show (f x >>= fun _ => xs.forM f) = .ok () ↔ _
    rw [check_bind_eq_ok, ih, List.forall_mem_cons]

/-- A loop that reads each element and adds what it read: it ended well iff every reading did. -/
theorem foldlM_eq_ok {γ : Type} {read : α → Except ε γ} {add : β → γ → β} {xs : List α} : ∀ {acc out : β},
    xs.foldlM (fun acc x => do let y ← read x; pure (add acc y)) acc = .ok out ↔
      ∃ ys, xs.mapM read = .ok ys ∧ out = ys.foldl add acc := by
  induction xs with
  | nil =>
    intro acc out
    rw [List.foldlM_nil, List.mapM_nil, pure_eq_ok]
    constructor
    · rintro rfl
      exact ⟨[], rfl, rfl⟩
    · rintro ⟨ys, ⟨rfl⟩, rfl⟩
      rfl
  | cons x xs ih =>
    intro acc out
    rw [List.foldlM_cons, List.mapM_cons, bind_eq_ok]
    constructor
    · rintro ⟨acc', h, hrest⟩
      obtain ⟨y, hy, h⟩ := bind_eq_ok.mp h
      obtain rfl := pure_eq_ok.mp h
      obtain ⟨ys, hys, rfl⟩ := ih.mp hrest
      exact ⟨y :: ys, bind_eq_ok.mpr ⟨y, hy, bind_eq_ok.mpr ⟨ys, hys, rfl⟩⟩, rfl⟩
    · rintro ⟨ys, h, rfl⟩
      obtain ⟨y, hy, h⟩ := bind_eq_ok.mp h
      obtain ⟨rest, hrest, h⟩ := bind_eq_ok.mp h
      obtain rfl := pure_eq_ok.mp h
      exact ⟨add acc y, bind_eq_ok.mpr ⟨y, hy, rfl⟩, ih.mpr ⟨rest, hrest, rfl⟩⟩

section Related

variable {R : α → β → Prop} {xs : List α} {ys : List β}

/-- Of two lists that are related in order, every element of the first has its partner. -/
theorem exists_of_forall₂_left (h : List.Forall₂ R xs ys) {x : α} (hx : x ∈ xs) : ∃ y ∈ ys, R x y := by
  induction h with
  | nil => exact absurd hx List.not_mem_nil
  | @cons x' y' xs ys hhead htail ih =>
    rcases List.mem_cons.mp hx with rfl | hx
    · exact ⟨y', List.mem_cons_self, hhead⟩
    · obtain ⟨y, hy, hr⟩ := ih hx
      exact ⟨y, List.mem_cons_of_mem _ hy, hr⟩

theorem exists_of_forall₂_right (h : List.Forall₂ R xs ys) {y : β} (hy : y ∈ ys) : ∃ x ∈ xs, R x y := by
  induction h with
  | nil => exact absurd hy List.not_mem_nil
  | @cons x' y' xs ys hhead htail ih =>
    rcases List.mem_cons.mp hy with rfl | hy
    · exact ⟨x', List.mem_cons_self, hhead⟩
    · obtain ⟨x, hx, hr⟩ := ih hy
      exact ⟨x, List.mem_cons_of_mem _ hx, hr⟩

/-- Related elements with one image have it in both lists, in order. -/
theorem map_eq_of_forall₂ {γ : Type} {g : β → γ} {k : α → γ} (h : List.Forall₂ R xs ys)
    (heq : ∀ x y, R x y → g y = k x) : ys.map g = xs.map k := by
  induction h with
  | nil => rfl
  | cons hhead _ ih => rw [List.map_cons, List.map_cons, heq _ _ hhead, ih]

/-- What holds of any two elements in order makes something hold of their partners. -/
theorem pairwise_of_forall₂ {P : α → α → Prop} {Q : β → β → Prop} (h : List.Forall₂ R xs ys)
    (hxs : xs.Pairwise P) (himp : ∀ x x' y y', P x x' → R x y → R x' y' → Q y y') : ys.Pairwise Q := by
  induction h with
  | nil => exact List.Pairwise.nil
  | @cons x y xs ys hhead htail ih =>
    obtain ⟨hx, hxs⟩ := List.pairwise_cons.mp hxs
    refine List.pairwise_cons.mpr ⟨fun y' hy' => ?_, ih hxs⟩
    obtain ⟨x', hx', hr⟩ := exists_of_forall₂_right htail hy'
    exact himp x x' y y' (hx x' hx') hhead hr

/-- Likewise if the image of an element is a list. -/
theorem flatMap_eq_of_forall₂ {γ : Type} {g : β → List γ} {k : α → List γ} (h : List.Forall₂ R xs ys)
    (heq : ∀ x y, R x y → g y = k x) : ys.flatMap g = xs.flatMap k := by
  rw [List.flatMap_def, List.flatMap_def, map_eq_of_forall₂ h heq]

end Related

section Traversal

variable {f : α → Except ε β} {xs : List α} {ys : List β}

/-- What the traversal made of an element is in its result. -/
theorem exists_of_mem_input (h : xs.mapM f = .ok ys) {x : α} (hx : x ∈ xs) : ∃ y ∈ ys, f x = .ok y :=
  exists_of_forall₂_left (mapM_eq_ok.mp h) hx

/-- What is in the result of a traversal was made of an element. -/
theorem exists_of_mem_output (h : xs.mapM f = .ok ys) {y : β} (hy : y ∈ ys) : ∃ x ∈ xs, f x = .ok y :=
  exists_of_forall₂_right (mapM_eq_ok.mp h) hy

/-- A traversal ends well iff it does at every element. -/
theorem exists_mapM_iff : (∃ ys, xs.mapM f = .ok ys) ↔ ∀ x ∈ xs, ∃ y, f x = .ok y := by
  constructor
  · rintro ⟨ys, h⟩ x hx
    obtain ⟨y, -, hy⟩ := exists_of_mem_input h hx
    exact ⟨y, hy⟩
  · intro h
    induction xs with
    | nil => exact ⟨[], rfl⟩
    | cons x xs ih =>
      obtain ⟨y, hy⟩ := h x List.mem_cons_self
      obtain ⟨rest, hrest⟩ := ih fun x' hx' => h x' (List.mem_cons_of_mem _ hx')
      exact ⟨y :: rest, mapM_eq_ok.mpr (.cons hy (mapM_eq_ok.mp hrest))⟩

end Traversal

/-! ## Which exceptions -/

/-- What is raised, if anything, is among the exceptions `P`. -/
def RaisesOnly (P : ε → Prop) (r : Except ε α) : Prop := ∀ e, r = .error e → P e

section RaisesOnly

variable {P : ε → Prop}

theorem raisesOnly_ok (a : α) : RaisesOnly P (.ok a : Except ε α) := by
  rintro e ⟨⟩

theorem raisesOnly_error {e : ε} : RaisesOnly P (.error e : Except ε α) ↔ P e := by
  constructor
  · exact fun h => h e rfl
  · rintro h e ⟨rfl⟩
    exact h

theorem RaisesOnly.imp {Q : ε → Prop} {r : Except ε α} (h : RaisesOnly P r) (hPQ : ∀ e, P e → Q e) :
    RaisesOnly Q r := fun e he => hPQ e (h e he)

theorem RaisesOnly.bind {x : Except ε α} {f : α → Except ε β} (hx : RaisesOnly P x)
    (hf : ∀ a, x = .ok a → RaisesOnly P (f a)) : RaisesOnly P (x >>= f) := by
  cases x with
  | ok a => exact hf a rfl
  | error e => exact raisesOnly_error.mpr (hx e rfl)

theorem raisesOnly_mapM {f : α → Except ε β} {xs : List α} (h : ∀ x ∈ xs, RaisesOnly P (f x)) :
    RaisesOnly P (xs.mapM f) := by
  induction xs with
  | nil => exact raisesOnly_ok _
  | cons x xs ih =>
    rw [List.mapM_cons]
    refine (h x List.mem_cons_self).bind fun y _ => ?_
    exact (ih fun z hz => h z (List.mem_cons_of_mem _ hz)).bind fun ys _ => raisesOnly_ok _

theorem raisesOnly_forM {f : α → Except ε Unit} {xs : List α} (h : ∀ x ∈ xs, RaisesOnly P (f x)) :
    RaisesOnly P (xs.forM f) := by
  induction xs with
  | nil => exact raisesOnly_ok _
  | cons x xs ih =>
    show RaisesOnly P (f x >>= fun _ => xs.forM f)
    exact (h x List.mem_cons_self).bind fun _ _ => ih fun z hz => h z (List.mem_cons_of_mem _ hz)

/-- A loop whose body raises only these, wherever its invariant holds, raises only these. -/
theorem raisesOnly_foldlM {f : β → α → Except ε β} {I : β → Prop} {xs : List α}
    (hstep : ∀ acc, I acc → ∀ x ∈ xs, RaisesOnly P (f acc x) ∧ ∀ acc', f acc x = .ok acc' → I acc') :
    ∀ {acc : β}, I acc → RaisesOnly P (xs.foldlM f acc) ∧ ∀ acc', xs.foldlM f acc = .ok acc' → I acc' := by
  induction xs with
  | nil =>
    intro acc hacc
    refine ⟨raisesOnly_ok _, ?_⟩
    rintro acc' ⟨rfl⟩
    exact hacc
  | cons x xs ih =>
    intro acc hacc
    obtain ⟨hraises, hnext⟩ := hstep acc hacc x List.mem_cons_self
    have hrest := fun acc' hacc' => ih (fun a ha z hz => hstep a ha z (List.mem_cons_of_mem _ hz))
      (hnext acc' hacc')
    rw [List.foldlM_cons]
    refine ⟨hraises.bind fun acc' hacc' => (hrest acc' hacc').1, ?_⟩
    intro out hout
    obtain ⟨acc', hacc', hout⟩ := bind_eq_ok.mp hout
    exact (hrest acc' hacc').2 out hout

end RaisesOnly

end Fallible
