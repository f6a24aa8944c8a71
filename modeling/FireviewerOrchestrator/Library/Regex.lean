/-
  Regular expressions as a backtracking matcher reads them.

  `results` lists what an expression can take at a place of a text, the matcher's first choice
  first: repetitions are greedy, alternatives go from left to right.  The match the matcher reports
  is the head of that list.  What the expression can take at all is the membership in it, which the
  `mem_results` lemmas read constructor by constructor.

  A place of a text is the character before it (`none` at the start) and the characters behind it.
-/
import Mathlib.Data.List.Forall2
import Mathlib.Data.List.TakeWhile

set_option linter.unusedVariables false

namespace Regex

variable {α : Type}

/-! ## Places -/

/-- The character before what follows the text. -/
def lastOf (prev : Option α) : List α → Option α
  | [] => prev
  | c :: cs => lastOf (some c) cs

@[simp] theorem lastOf_nil (prev : Option α) : lastOf prev [] = prev := rfl
@[simp] theorem lastOf_cons (prev : Option α) (c : α) (cs : List α) :
    lastOf prev (c :: cs) = lastOf (some c) cs := rfl

theorem lastOf_append (prev : Option α) : ∀ as bs : List α,
    lastOf prev (as ++ bs) = lastOf (lastOf prev as) bs
  | [], bs => rfl
  | a :: as, bs => lastOf_append (some a) as bs

@[simp] theorem lastOf_concat (prev : Option α) (as : List α) (c : α) :
    lastOf prev (as ++ [c]) = some c := by
  rw [lastOf_append]
  rfl

theorem lastOf_of_ne_nil {as : List α} (h : as ≠ []) (prev prev' : Option α) :
    lastOf prev as = lastOf prev' as := by
  cases as with
  | nil => exact absurd rfl h
  | cons a as => rfl

/-! ## Expressions -/

/-- What a match took: its text, the text of its group where the expression has one, and what
    stands behind it. -/
structure Match (α : Type) where
  text : List α
  group? : Option (List α)
  rest : List α

/-- One match behind another.  The later group counts. -/
def Match.append (m m' : Match α) : Match α where
  text := m.text ++ m'.text
  group? := m'.group?.or m.group?
  rest := m'.rest

inductive Expr (α : Type) where
  /-- One character of each class in turn. -/
  | chars (classes : List (α → Bool))
  /-- `[p]{n,}`, greedy. -/
  | atLeast (n : Nat) (p : α → Bool)
  /-- `\b`. -/
  | edge
  | seq (r s : Expr α)
  | alt (r s : Expr α)
  /-- `(r)`. -/
  | group (r : Expr α)

/-- The text begins with one character of each class. -/
def fits : List (α → Bool) → List α → Bool
  | [], _ => true
  | _ :: _, [] => false
  | p :: ps, c :: cs => p c && fits ps cs

/-- `n`, `n - 1`, …, `0`. -/
def downFrom : Nat → List Nat
  | 0 => [0]
  | n + 1 => (n + 1) :: downFrom n

section Matching

variable (isWord : α → Bool)

/-- One of the two sides of the place is a word character, the other is not. -/
def isEdge (prev : Option α) (cs : List α) : Bool := prev.any isWord != cs.head?.any isWord

/-- All that the expression can take at the place, the first choice first. -/
def results : Expr α → Option α → List α → List (Match α)
  | .chars ps, prev, cs =>
      if fits ps cs then [⟨cs.take ps.length, none, cs.drop ps.length⟩] else []
  | .atLeast n p, prev, cs =>
      ((downFrom (cs.takeWhile p).length).filter (n ≤ ·)).map fun k => ⟨cs.take k, none, cs.drop k⟩
  | .edge, prev, cs => if isEdge isWord prev cs then [⟨[], none, cs⟩] else []
  | .seq r s, prev, cs =>
      (results r prev cs).flatMap fun m => (results s (lastOf prev m.text) m.rest).map m.append
  | .alt r s, prev, cs => results r prev cs ++ results s prev cs
  | .group r, prev, cs => (results r prev cs).map fun m => { m with group? := some m.text }

/-- `pattern.match` at the place. -/
def matchAt (r : Expr α) (prev : Option α) (cs : List α) : Option (Match α) :=
  (results isWord r prev cs).head?

section Equations

variable (prev : Option α) (cs : List α)

theorem results_chars (ps : List (α → Bool)) : results isWord (.chars ps) prev cs =
    if fits ps cs then [⟨cs.take ps.length, none, cs.drop ps.length⟩] else [] := rfl

theorem results_atLeast (n : Nat) (p : α → Bool) : results isWord (.atLeast n p) prev cs =
    ((downFrom (cs.takeWhile p).length).filter (n ≤ ·)).map fun k => ⟨cs.take k, none, cs.drop k⟩ := rfl

theorem results_edge : results isWord .edge prev cs =
    if isEdge isWord prev cs then [⟨[], none, cs⟩] else [] := rfl

theorem results_seq (r s : Expr α) : results isWord (.seq r s) prev cs =
    (results isWord r prev cs).flatMap fun m =>
      (results isWord s (lastOf prev m.text) m.rest).map m.append := rfl

theorem results_alt (r s : Expr α) : results isWord (.alt r s) prev cs =
    results isWord r prev cs ++ results isWord s prev cs := rfl

theorem results_group (r : Expr α) : results isWord (.group r) prev cs =
    (results isWord r prev cs).map fun m => { m with group? := some m.text } := rfl

end Equations

end Matching

/-! ## What an expression can take -/

theorem fits_iff {ps : List (α → Bool)} {cs : List α} :
    fits ps cs = true ↔ ∃ text rest, List.Forall₂ (fun p c => p c = true) ps text ∧ text ++ rest = cs := by
  induction ps generalizing cs with
  | nil => exact ⟨fun _ => ⟨[], cs, .nil, rfl⟩, fun _ => rfl⟩
  | cons p ps ih =>
    constructor
    · intro h
      cases cs with
      | nil => cases h
      | cons c cs =>
        obtain ⟨hc, hcs⟩ := Bool.and_eq_true_iff.mp h
        obtain ⟨text, rest, hall, rfl⟩ := ih.mp hcs
        exact ⟨c :: text, rest, .cons hc hall, rfl⟩
    · rintro ⟨_, rest, hall, rfl⟩
      cases hall with
      | cons hc hall => exact Bool.and_eq_true_iff.mpr ⟨hc, ih.mpr ⟨_, rest, hall, rfl⟩⟩

theorem mem_downFrom {n k : Nat} : k ∈ downFrom n ↔ k ≤ n := by
  induction n with
  | zero => simp [downFrom]
  | succ n ih => rw [downFrom, List.mem_cons, ih]; omega

/-- The longest repetition comes first. -/
theorem head?_filter_downFrom {n k : Nat} :
    ((downFrom k).filter (n ≤ ·)).head? = if n ≤ k then some k else none := by
  cases k with
  | zero => by_cases h : n ≤ 0 <;> simp [downFrom, h]
  | succ k =>
    by_cases h : n ≤ k + 1
    · simp [downFrom, h]
    · have hnone : (downFrom (k + 1)).filter (n ≤ ·) = [] := by
        rw [List.filter_eq_nil_iff]
        intro i hi
        have hle := mem_downFrom.mp hi
        simp only [decide_eq_true_eq]
        omega
      rw [hnone, if_neg h]
      rfl

theorem take_of_le_run {p : α → Bool} {cs : List α} {k : Nat} (h : k ≤ (cs.takeWhile p).length) :
    ∀ c ∈ cs.take k, p c = true := by
  intro c hc
  have hfront : cs.take k <+: cs.takeWhile p :=
    List.prefix_of_prefix_length_le (List.take_prefix k cs) (List.takeWhile_prefix p)
      ((List.length_take_le k cs).trans h)
  exact List.mem_takeWhile_imp (hfront.subset hc)

theorem run_of_all {p : α → Bool} {text rest : List α} (h : ∀ c ∈ text, p c = true) :
    (text ++ rest).takeWhile p = text ++ rest.takeWhile p := by
  induction text with
  | nil => rfl
  | cons c text ih =>
    rw [List.cons_append, List.takeWhile_cons_of_pos (h c List.mem_cons_self),
      ih fun d hd => h d (List.mem_cons_of_mem c hd), List.cons_append]

section Membership

variable {isWord : α → Bool} {prev : Option α} {cs : List α} {m : Match α}

theorem mem_results_chars {ps : List (α → Bool)} :
    m ∈ results isWord (.chars ps) prev cs ↔
      List.Forall₂ (fun p c => p c = true) ps m.text ∧ m.group? = none ∧ m.text ++ m.rest = cs := by
  rw [results_chars]
  constructor
  · intro h
    split at h
    · rename_i hfits
      obtain ⟨text, rest, hall, rfl⟩ := fits_iff.mp hfits
      rw [List.mem_singleton] at h
      subst h
      refine ⟨?_, rfl, List.take_append_drop _ _⟩
      simpa [hall.length_eq] using hall
    · cases h
  · rintro ⟨hall, hgroup, rfl⟩
    rw [if_pos (fits_iff.mpr ⟨m.text, m.rest, hall, rfl⟩), List.mem_singleton, hall.length_eq,
      List.take_left, List.drop_left, ← hgroup]

theorem mem_results_atLeast {n : Nat} {p : α → Bool} :
    m ∈ results isWord (.atLeast n p) prev cs ↔
      n ≤ m.text.length ∧ (∀ c ∈ m.text, p c = true) ∧ m.group? = none ∧ m.text ++ m.rest = cs := by
  rw [results_atLeast, List.mem_map]
  constructor
  · rintro ⟨k, hk, rfl⟩
    rw [List.mem_filter, mem_downFrom, decide_eq_true_eq] at hk
    have hlength : k ≤ cs.length := hk.1.trans (List.takeWhile_prefix p).length_le
    refine ⟨?_, take_of_le_run hk.1, rfl, List.take_append_drop k cs⟩
    rw [List.length_take]
    omega
  · rintro ⟨hn, hall, hgroup, rfl⟩
    refine ⟨m.text.length, ?_, ?_⟩
    · rw [List.mem_filter, mem_downFrom, decide_eq_true_eq, run_of_all hall, List.length_append]
      omega
    · rw [List.take_left, List.drop_left, ← hgroup]

theorem mem_results_edge :
    m ∈ results isWord .edge prev cs ↔
      m.text = [] ∧ m.group? = none ∧ m.rest = cs ∧ isEdge isWord prev cs = true := by
  rw [results_edge]
  constructor
  · intro h
    split at h
    · rename_i hedge
      rw [List.mem_singleton] at h
      subst h
      exact ⟨rfl, rfl, rfl, hedge⟩
    · cases h
  · rintro ⟨htext, hgroup, hrest, hedge⟩
    rw [if_pos hedge, List.mem_singleton, ← htext, ← hgroup, ← hrest]

theorem mem_results_seq {r s : Expr α} :
    m ∈ results isWord (.seq r s) prev cs ↔
      ∃ a ∈ results isWord r prev cs, ∃ b ∈ results isWord s (lastOf prev a.text) a.rest, a.append b = m := by
  rw [results_seq, List.mem_flatMap]
  simp only [List.mem_map]

theorem mem_results_alt {r s : Expr α} :
    m ∈ results isWord (.alt r s) prev cs ↔
      m ∈ results isWord r prev cs ∨ m ∈ results isWord s prev cs := by
  rw [results_alt, List.mem_append]

theorem mem_results_group {r : Expr α} :
    m ∈ results isWord (.group r) prev cs ↔
      ∃ a ∈ results isWord r prev cs, { a with group? := some a.text } = m := by
  rw [results_group, List.mem_map]

end Membership

/-- A match is a piece of the text at its place. -/
theorem text_append_rest {isWord : α → Bool} {r : Expr α} {prev : Option α} {cs : List α} {m : Match α}
    (h : m ∈ results isWord r prev cs) : m.text ++ m.rest = cs := by
  induction r generalizing prev cs m with
  | chars ps => exact (mem_results_chars.mp h).2.2
  | atLeast n p => exact (mem_results_atLeast.mp h).2.2.2
  | edge =>
    obtain ⟨htext, _, hrest, _⟩ := mem_results_edge.mp h
    rw [htext, hrest, List.nil_append]
  | seq r s ihr ihs =>
    obtain ⟨a, ha, b, hb, rfl⟩ := mem_results_seq.mp h
    show (a.text ++ b.text) ++ b.rest = cs
    rw [List.append_assoc, ihs hb, ihr ha]
  | alt r s ihr ihs => exact (mem_results_alt.mp h).elim ihr ihs
  | group r ih =>
    obtain ⟨a, ha, rfl⟩ := mem_results_group.mp h
    show a.text ++ a.rest = cs
    exact ih ha

/-- **Of the character before a place the matcher sees only whether it is a word character.** -/
theorem results_congr {isWord : α → Bool} {prev prev' : Option α} (h : prev.any isWord = prev'.any isWord)
    (r : Expr α) (cs : List α) : results isWord r prev cs = results isWord r prev' cs := by
  induction r generalizing prev prev' cs with
  | chars ps => rfl
  | atLeast n p => rfl
  | edge => rw [results_edge, results_edge, isEdge, isEdge, h]
  | seq r s ihr ihs =>
    rw [results_seq, results_seq, ihr h cs]
    congr 1
    funext m
    by_cases htext : m.text = []
    · rw [htext, lastOf_nil, lastOf_nil, ihs h m.rest]
    · rw [lastOf_of_ne_nil htext prev prev']
  | alt r s ihr ihs => rw [results_alt, results_alt, ihr h cs, ihs h cs]
  | group r ih => rw [results_group, results_group, ih h cs]

/-! ## Whole words -/

section WholeWords

variable {isWord : α → Bool} {prev : Option α} {cs : List α} {m : Match α}

theorem isEdge_of_word {c : α} (hc : isWord c = true) :
    isEdge isWord prev (c :: cs) = true ↔ prev.any isWord = false := by
  unfold isEdge
  rw [List.head?_cons, Option.any_some, hc]
  cases prev.any isWord <;> simp

theorem lastOf_mem (prev : Option α) {text : List α} (hne : text ≠ []) : ∃ c ∈ text, lastOf prev text = some c := by
  rcases List.eq_nil_or_concat' text with rfl | ⟨front, c, rfl⟩
  · exact absurd rfl hne
  · exact ⟨c, by simp, lastOf_concat prev front c⟩

theorem isEdge_behind_words {text : List α} (hne : text ≠ []) (hall : ∀ c ∈ text, isWord c = true) :
    isEdge isWord (lastOf prev text) cs = true ↔ cs.head?.any isWord = false := by
  obtain ⟨c, hc, hlast⟩ := lastOf_mem prev hne
  unfold isEdge
  rw [hlast, Option.any_some, hall c hc]
  cases cs.head?.any isWord <;> simp

/-- **`\bbody\b` takes whole words only**, if all that its body takes are word characters. -/
theorem mem_results_wholeWord {body : Expr α}
    (hbody : ∀ {prev cs a}, a ∈ results isWord body prev cs → a.text ≠ [] ∧ ∀ c ∈ a.text, isWord c = true) :
    m ∈ results isWord (.seq .edge (.seq body .edge)) prev cs ↔
      m ∈ results isWord body prev cs ∧ prev.any isWord = false ∧ m.rest.head?.any isWord = false := by
  have hedge : ∀ {a : Match α}, a ∈ results isWord body prev cs →
      (isEdge isWord prev cs = true ↔ prev.any isWord = false) := by
    intro a ha
    obtain ⟨hne, hall⟩ := hbody ha
    obtain ⟨c, text, hcons⟩ := List.exists_cons_of_ne_nil hne
    rw [← text_append_rest ha, hcons, List.cons_append]
    exact isEdge_of_word (hall c (by rw [hcons]; exact List.mem_cons_self))
  rw [mem_results_seq]
  constructor
  · rintro ⟨e, he, b, hb, rfl⟩
    obtain ⟨htext, hgroup, hrest, hfirst⟩ := mem_results_edge.mp he
    rw [htext, hrest, lastOf_nil] at hb
    obtain ⟨a, ha, f, hf, rfl⟩ := mem_results_seq.mp hb
    obtain ⟨htext', hgroup', hrest', hlast⟩ := mem_results_edge.mp hf
    have hm : e.append (a.append f) = a := by
      unfold Match.append
      rw [htext, htext', hgroup, hgroup', hrest', List.append_nil, List.nil_append]
      cases a with
      | mk text group? rest => cases group? <;> rfl
    rw [hm]
    obtain ⟨hne, hall⟩ := hbody ha
    exact ⟨ha, (hedge ha).mp hfirst, (isEdge_behind_words hne hall).mp hlast⟩
  · rintro ⟨hm, hprev, hrest⟩
    obtain ⟨hne, hall⟩ := hbody hm
    refine ⟨⟨[], none, cs⟩, mem_results_edge.mpr ⟨rfl, rfl, rfl, (hedge hm).mpr hprev⟩, m, ?_, ?_⟩
    · refine mem_results_seq.mpr ⟨m, hm, ⟨[], none, m.rest⟩, ?_, ?_⟩
      · exact mem_results_edge.mpr ⟨rfl, rfl, rfl, (isEdge_behind_words hne hall).mpr hrest⟩
      · unfold Match.append
        rw [List.append_nil]
        rfl
    · unfold Match.append
      cases m with
      | mk text group? rest => cases group? <;> rfl

end WholeWords

/-! ## The match that is reported -/

section Reported

variable {isWord : α → Bool} {prev : Option α} {cs : List α} {m : Match α}

theorem mem_of_matchAt {r : Expr α} (h : matchAt isWord r prev cs = some m) : m ∈ results isWord r prev cs :=
  List.mem_of_mem_head? (Option.mem_def.mpr h)

theorem matchAt_ne_none {r : Expr α} (h : m ∈ results isWord r prev cs) : matchAt isWord r prev cs ≠ none := by
  intro hnone
  rw [matchAt, List.head?_eq_none_iff] at hnone
  rw [hnone] at h
  cases h

theorem results_atLeast_head {n : Nat} {p : α → Bool} :
    (results isWord (.atLeast n p) prev cs).head? =
      if n ≤ (cs.takeWhile p).length then some ⟨cs.takeWhile p, none, cs.dropWhile p⟩ else none := by
  have hsplit := List.takeWhile_append_dropWhile (p := p) (l := cs)
  have htake : cs.take (cs.takeWhile p).length = cs.takeWhile p := by
    conv => lhs; arg 2; rw [← hsplit]
    exact List.take_left
  have hdrop : cs.drop (cs.takeWhile p).length = cs.dropWhile p := by
    conv => lhs; arg 2; rw [← hsplit]
    exact List.drop_left
  rw [results_atLeast, List.head?_map, head?_filter_downFrom]
  split
  · rw [Option.map_some, htake, hdrop]
  · rfl

/-- **A greedy end takes all it can**: behind whatever the front took, the whole run. -/
theorem matchAt_seq_atLeast {r : Expr α} {n : Nat} {p : α → Bool}
    (h : matchAt isWord (.seq r (.atLeast n p)) prev cs = some m) :
    ∃ a ∈ results isWord r prev cs, n ≤ (a.rest.takeWhile p).length ∧
      m = a.append ⟨a.rest.takeWhile p, none, a.rest.dropWhile p⟩ := by
  rw [matchAt, results_seq, List.head?_flatMap] at h
  obtain ⟨a, ha, hhead⟩ := List.exists_of_findSome?_eq_some h
  rw [List.head?_map, results_atLeast_head] at hhead
  split at hhead
  · rename_i hn
    exact ⟨a, ha, hn, (Option.some.inj hhead).symm⟩
  · cases hhead

end Reported

end Regex
