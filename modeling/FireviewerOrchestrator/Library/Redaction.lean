/-
  Redaction by substitution.

  A rule takes pieces out of a text, from left to right.  Of each piece it keeps a front and hides
  the rest behind a mark.  `Scan` is that one pass as a relation: it tells where each character of
  the result comes from, and all that is proved of a pass is an induction on it.

  A text is clean for a rule when the rule would hide nothing but the mark, at any place.  One pass
  of a rule need not clean a text, and a pass of one rule may undo what another has done.
  For which rules neither happens is said behind this module, from what is said here of where the
  characters of the result come from.
-/
import FireviewerOrchestrator.Library.Regex

set_option linter.unusedVariables false

namespace Regex.Match

variable {α : Type}

/-- What a redaction keeps of a match: its group, or nothing. -/
def kept (m : Match α) : List α := m.group?.getD []

/-- What a redaction hides of a match. -/
def hidden (m : Match α) : List α := m.text.drop m.kept.length

end Regex.Match

namespace Redaction

open Regex

variable {α : Type}

/-- What takes pieces out of a text.  A piece begins with what is kept of it, and hides something. -/
structure Rule (α : Type) where
  matchAt : Option α → List α → Option (Match α)
  text_rest : ∀ {prev cs m}, matchAt prev cs = some m → m.text ++ m.rest = cs
  kept_hidden : ∀ {prev cs m}, matchAt prev cs = some m → m.kept ++ m.hidden = m.text
  hidden_ne_nil : ∀ {prev cs m}, matchAt prev cs = some m → m.hidden ≠ []

namespace Rule

/-- The rule of an expression whose group, if it has one, is a proper beginning of what it takes. -/
def ofExpr (isWord : α → Bool) (e : Expr α)
    (hgroup : ∀ {prev cs m}, m ∈ results isWord e prev cs → m.kept <+: m.text ∧ m.hidden ≠ []) : Rule α where
  matchAt := Regex.matchAt isWord e
  text_rest h := text_append_rest (mem_of_matchAt h)
  kept_hidden h := List.prefix_iff_eq_append.mp (hgroup (mem_of_matchAt h)).1
  hidden_ne_nil h := (hgroup (mem_of_matchAt h)).2

theorem ofExpr_congr {isWord : α → Bool} {e : Expr α} {hgroup} {prev prev' : Option α} (cs : List α)
    (h : prev.any isWord = prev'.any isWord) :
    (ofExpr isWord e hgroup).matchAt prev cs = (ofExpr isWord e hgroup).matchAt prev' cs := by
  unfold ofExpr Regex.matchAt
  dsimp only
  rw [results_congr h]

variable (r : Rule α)

theorem text_ne_nil {prev : Option α} {cs : List α} {m : Match α} (h : r.matchAt prev cs = some m) :
    m.text ≠ [] := by
  rw [← r.kept_hidden h]
  exact List.append_ne_nil_of_right_ne_nil _ (r.hidden_ne_nil h)

/-- The text from the place on, as kept, hidden and left over. -/
theorem split_at {prev : Option α} {cs : List α} {m : Match α} (h : r.matchAt prev cs = some m) :
    cs = m.kept ++ (m.hidden ++ m.rest) := by
  rw [← List.append_assoc, r.kept_hidden h, r.text_rest h]

/-! ## One pass -/

/-- `pattern.sub` from a place on, with the mark for what is hidden.  The number counts the characters
    that the last match took and that are still to be passed over. -/
def subFrom (mark : List α) : Nat → Option α → List α → List α
  | _, _, [] => []
  | skip + 1, _, c :: cs => subFrom mark skip (some c) cs
  | 0, prev, c :: cs =>
      match r.matchAt prev (c :: cs) with
      | none => c :: subFrom mark 0 (some c) cs
      | some m => (m.kept ++ mark) ++ subFrom mark (m.text.length - 1) (some c) cs

/-- `pattern.finditer` from a place on. -/
def matchesFrom : Nat → Option α → List α → List (Match α)
  | _, _, [] => []
  | skip + 1, _, c :: cs => matchesFrom skip (some c) cs
  | 0, prev, c :: cs =>
      match r.matchAt prev (c :: cs) with
      | none => matchesFrom 0 (some c) cs
      | some m => m :: matchesFrom (m.text.length - 1) (some c) cs

def sub (mark text : List α) : List α := r.subFrom mark 0 none text

/-- `pattern.finditer`. -/
def finditer (text : List α) : List (Match α) := r.matchesFrom 0 none text

theorem subFrom_pass (mark : List α) (skip : Nat) (prev : Option α) (c : α) (cs : List α) :
    r.subFrom mark (skip + 1) prev (c :: cs) = r.subFrom mark skip (some c) cs := rfl

theorem subFrom_stop (mark : List α) (prev : Option α) (c : α) (cs : List α) :
    r.subFrom mark 0 prev (c :: cs) = match r.matchAt prev (c :: cs) with
      | none => c :: r.subFrom mark 0 (some c) cs
      | some m => (m.kept ++ mark) ++ r.subFrom mark (m.text.length - 1) (some c) cs := rfl

theorem matchesFrom_pass (skip : Nat) (prev : Option α) (c : α) (cs : List α) :
    r.matchesFrom (skip + 1) prev (c :: cs) = r.matchesFrom skip (some c) cs := rfl

theorem matchesFrom_stop (prev : Option α) (c : α) (cs : List α) :
    r.matchesFrom 0 prev (c :: cs) = match r.matchAt prev (c :: cs) with
      | none => r.matchesFrom 0 (some c) cs
      | some m => m :: r.matchesFrom (m.text.length - 1) (some c) cs := rfl

theorem subFrom_skip (mark : List α) : ∀ (text rest : List α) (prev : Option α),
    r.subFrom mark text.length prev (text ++ rest) = r.subFrom mark 0 (lastOf prev text) rest
  | [], rest, prev => rfl
  | c :: text, rest, prev => by
    rw [List.length_cons, List.cons_append, subFrom_pass, subFrom_skip mark text rest (some c), lastOf_cons]

theorem matchesFrom_skip : ∀ (text rest : List α) (prev : Option α),
    r.matchesFrom text.length prev (text ++ rest) = r.matchesFrom 0 (lastOf prev text) rest
  | [], rest, prev => rfl
  | c :: text, rest, prev => by
    rw [List.length_cons, List.cons_append, matchesFrom_pass, matchesFrom_skip text rest (some c), lastOf_cons]

section Steps

variable {r} {mark : List α} {prev : Option α} {c : α} {cs : List α} {m : Match α}

theorem subFrom_of_none (h : r.matchAt prev (c :: cs) = none) :
    r.subFrom mark 0 prev (c :: cs) = c :: r.subFrom mark 0 (some c) cs := by
  rw [subFrom_stop, h]

theorem matchesFrom_of_none (h : r.matchAt prev (c :: cs) = none) :
    r.matchesFrom 0 prev (c :: cs) = r.matchesFrom 0 (some c) cs := by
  rw [matchesFrom_stop, h]

/-- A match is passed over as a whole. -/
theorem subFrom_of_some (h : r.matchAt prev cs = some m) :
    r.subFrom mark 0 prev cs = (m.kept ++ mark) ++ r.subFrom mark 0 (lastOf prev m.text) m.rest := by
  have htext := r.text_rest h
  obtain ⟨c, text, hcons⟩ := List.exists_cons_of_ne_nil (r.text_ne_nil h)
  rw [hcons, List.cons_append] at htext
  subst htext
  rw [subFrom_stop, h]
  dsimp only
  rw [hcons, List.length_cons, Nat.add_sub_cancel, subFrom_skip, lastOf_cons]

theorem matchesFrom_of_some (h : r.matchAt prev cs = some m) :
    r.matchesFrom 0 prev cs = m :: r.matchesFrom 0 (lastOf prev m.text) m.rest := by
  have htext := r.text_rest h
  obtain ⟨c, text, hcons⟩ := List.exists_cons_of_ne_nil (r.text_ne_nil h)
  rw [hcons, List.cons_append] at htext
  subst htext
  rw [matchesFrom_stop, h]
  dsimp only
  rw [hcons, List.length_cons, Nat.add_sub_cancel, matchesFrom_skip, lastOf_cons]

end Steps

end Rule

/-- **One pass of a rule**: a text, what becomes of it, and the matches that were taken. -/
inductive Scan (mark : List α) (r : Rule α) : Option α → List α → List α → List (Match α) → Prop
  | nil (prev) : Scan mark r prev [] [] []
  | keep {prev c cs out ms} (hnone : r.matchAt prev (c :: cs) = none) (rest : Scan mark r (some c) cs out ms) :
      Scan mark r prev (c :: cs) (c :: out) ms
  | hit {prev cs m out ms} (hmatch : r.matchAt prev cs = some m)
      (rest : Scan mark r (lastOf prev m.text) m.rest out ms) :
      Scan mark r prev cs ((m.kept ++ mark) ++ out) (m :: ms)

namespace Scan

variable {mark : List α} {r : Rule α} {prev : Option α} {cs out : List α} {ms : List (Match α)}

/-- What `sub` and `finditer` compute is a pass. -/
theorem run (mark : List α) (r : Rule α) (prev : Option α) (cs : List α) :
    Scan mark r prev cs (r.subFrom mark 0 prev cs) (r.matchesFrom 0 prev cs) := by
  -- induction on the length: a match is passed over in one step
  induction hlength : cs.length using Nat.strongRecOn generalizing prev cs with
  | ind n ih =>
    cases cs with
    | nil => exact .nil prev
    | cons c cs =>
      cases hmatch : r.matchAt prev (c :: cs) with
      | none =>
        rw [Rule.subFrom_of_none hmatch, Rule.matchesFrom_of_none hmatch]
        exact .keep hmatch (ih cs.length (by rw [← hlength, List.length_cons]; omega) (some c) cs rfl)
      | some m =>
        rw [Rule.subFrom_of_some hmatch, Rule.matchesFrom_of_some hmatch]
        have hshorter : m.rest.length < n := by
          have hpos := List.length_pos_iff.mpr (r.text_ne_nil hmatch)
          have hsum := congrArg List.length (r.text_rest hmatch)
          rw [List.length_append] at hsum
          omega
        exact .hit hmatch (ih m.rest.length hshorter _ m.rest rfl)

/-- A pass has one result. -/
theorem eq_run (h : Scan mark r prev cs out ms) :
    out = r.subFrom mark 0 prev cs ∧ ms = r.matchesFrom 0 prev cs := by
  induction h with
  | nil prev => exact ⟨rfl, rfl⟩
  | keep hnone _ ih =>
    rw [Rule.subFrom_of_none hnone, Rule.matchesFrom_of_none hnone, ← ih.1, ← ih.2]
    exact ⟨rfl, rfl⟩
  | hit hmatch _ ih =>
    rw [Rule.subFrom_of_some hmatch, Rule.matchesFrom_of_some hmatch, ← ih.1, ← ih.2]
    exact ⟨rfl, rfl⟩

theorem eq_nil (h : Scan mark r prev [] out ms) : out = [] := by
  rw [h.eq_run.1]
  rfl

/-! ## The matches of a pass -/

/-- A match of a pass is a match at some place. -/
theorem place_of_mem (h : Scan mark r prev cs out ms) : ∀ m ∈ ms, ∃ front,
    cs = front ++ (m.text ++ m.rest) ∧ r.matchAt (lastOf prev front) (m.text ++ m.rest) = some m := by
  induction h with
  | nil prev => exact fun m hm => absurd hm List.not_mem_nil
  | @keep _ c _ _ _ hnone _ ih =>
    intro m hm
    obtain ⟨front, rfl, hmatch⟩ := ih m hm
    exact ⟨c :: front, rfl, hmatch⟩
  | @hit _ _ m₀ _ _ hmatch _ ih =>
    intro m hm
    have htext := r.text_rest hmatch
    rcases List.mem_cons.mp hm with rfl | hm
    · refine ⟨[], htext.symm, ?_⟩
      rw [htext]
      exact hmatch
    · obtain ⟨front, hrest, hmatch⟩ := ih m hm
      refine ⟨m₀.text ++ front, ?_, ?_⟩
      · rw [List.append_assoc, ← hrest, htext]
      · rw [lastOf_append]
        exact hmatch

/-- A match at the first place is taken. -/
theorem mem_of_match (h : Scan mark r prev cs out ms) {m : Match α} (hmatch : r.matchAt prev cs = some m) :
    m ∈ ms := by
  rw [h.eq_run.2, Rule.matchesFrom_of_some hmatch]
  exact List.mem_cons_self

/-- Where there is a match at some place, the pass takes one. -/
theorem exists_match (h : Scan mark r prev cs out ms) : ∀ {front rest m},
    cs = front ++ rest → r.matchAt (lastOf prev front) rest = some m → ms ≠ [] := by
  induction h with
  | nil prev =>
    intro front rest m hsplit hmatch
    obtain ⟨rfl, rfl⟩ := List.append_eq_nil_iff.mp hsplit.symm
    exact absurd (List.append_eq_nil_iff.mp (r.text_rest hmatch)).1 (r.text_ne_nil hmatch)
  | keep hnone _ ih =>
    intro front rest m hsplit hmatch
    cases front with
    | nil =>
      subst hsplit
      rw [lastOf_nil] at hmatch
      exact absurd (hnone.symm.trans hmatch) (by simp)
    | cons d front =>
      obtain ⟨rfl, hcs⟩ := List.cons.inj hsplit
      exact ih hcs hmatch
  | hit hmatch _ ih =>
    intro _ _ _ _ _
    exact List.cons_ne_nil _ _

/-! ## Where the characters of the result come from -/

end Scan

namespace Rule

variable (mark : List α) (r : Rule α)

/-- A match can start with the character, behind the other one. -/
def Starts (prev : Option α) (c : α) : Prop := ∃ cs m, r.matchAt prev (c :: cs) = some m

/-- What is put for a match can begin with the character. -/
def Heads (c : α) : Prop := ∃ prev cs m, r.matchAt prev cs = some m ∧ (m.kept ++ mark).head? = some c

/-- What is put for a match can have the character behind its first one. -/
def Within (c : α) : Prop := ∃ prev cs m, r.matchAt prev cs = some m ∧ c ∈ (m.kept ++ mark).tail

/-- No match starts within the text, when it stands behind the character. -/
def Quiet : Option α → List α → Prop
  | _, [] => True
  | prev, c :: cs => ¬ r.Starts prev c ∧ Quiet (some c) cs

end Rule

namespace Scan

variable {mark : List α} {r : Rule α} {prev : Option α} {cs out : List α} {ms : List (Match α)}

/-- What no match is replaced by was there before. -/
theorem peel (hmark : mark ≠ []) {c : α} (hc : ¬ r.Heads mark c) (h : Scan mark r prev cs (c :: out) ms) :
    ∃ rest, cs = c :: rest ∧ r.matchAt prev cs = none ∧ Scan mark r (some c) rest out ms := by
  generalize hout : c :: out = out' at h
  cases h with
  | nil => cases hout
  | keep hnone hrest =>
    obtain ⟨rfl, rfl⟩ := List.cons.inj hout
    exact ⟨_, rfl, hnone, hrest⟩
  | @hit _ _ m _ _ hmatch _ =>
    refine absurd ⟨_, _, m, hmatch, ?_⟩ hc
    have hne : m.kept ++ mark ≠ [] := List.append_ne_nil_of_right_ne_nil _ hmark
    rw [← List.head?_append_of_ne_nil _ hne, ← hout]
    rfl

theorem peel_list (hmark : mark ≠ []) : ∀ {text : List α} {prev : Option α} {cs : List α},
    (∀ c ∈ text, ¬ r.Heads mark c) → Scan mark r prev cs (text ++ out) ms →
      ∃ rest, cs = text ++ rest ∧ Scan mark r (lastOf prev text) rest out ms
  | [], prev, cs, _, h => ⟨cs, rfl, h⟩
  | c :: text, prev, cs, hall, h => by
    obtain ⟨rest, rfl, _, hrest⟩ := h.peel hmark (hall c List.mem_cons_self)
    obtain ⟨rest', rfl, hrest'⟩ := peel_list hmark (fun d hd => hall d (List.mem_cons_of_mem c hd)) hrest
    exact ⟨rest', rfl, hrest'⟩

/-- What no match starts in stays. -/
theorem stay {c : α} (hc : ¬ r.Starts prev c) (h : Scan mark r prev (c :: cs) out ms) :
    ∃ rest, out = c :: rest ∧ Scan mark r (some c) cs rest ms := by
  generalize hcs : c :: cs = cs' at h
  cases h with
  | nil => cases hcs
  | keep _ hrest =>
    obtain ⟨rfl, rfl⟩ := List.cons.inj hcs
    exact ⟨_, rfl, hrest⟩
  | hit hmatch _ =>
    subst hcs
    exact absurd ⟨_, _, hmatch⟩ hc

theorem stay_list : ∀ {text : List α} {prev : Option α} {out : List α}, r.Quiet prev text →
    Scan mark r prev (text ++ cs) out ms → ∃ rest, out = text ++ rest ∧ Scan mark r (lastOf prev text) cs rest ms
  | [], prev, out, _, h => ⟨out, rfl, h⟩
  | c :: text, prev, out, hquiet, h => by
    obtain ⟨rest, rfl, hrest⟩ := h.stay hquiet.1
    obtain ⟨rest', rfl, hrest'⟩ := stay_list hquiet.2 hrest
    exact ⟨rest', rfl, hrest'⟩

/-- The place in the text and the place in the result that belongs to it have the same character
    before them, unless they stand right behind a match. -/
def Behind (r : Rule α) (before before' : Option α) (cs : List α) : Prop :=
  before = before' ∨ ∃ prev text m, r.matchAt prev text = some m ∧ lastOf prev m.text = before ∧ m.rest = cs

/-- **A place of the result whose character no replacement has inside comes from a place of the
    text**, and the pass goes on from there. -/
theorem split {c : α} (hc : ¬ r.Within mark c) (h : Scan mark r prev cs out ms) : ∀ {front rest},
    out = front ++ c :: rest → ∃ front' cs' ms', cs = front' ++ cs' ∧
      Scan mark r (lastOf prev front') cs' (c :: rest) ms' ∧
      Behind r (lastOf prev front') (lastOf prev front) cs' := by
  induction h with
  | nil prev =>
    intro front rest hsplit
    exact absurd hsplit.symm (List.append_ne_nil_of_right_ne_nil _ (List.cons_ne_nil c rest))
  | @keep prev d cs out ms hnone hrest ih =>
    intro front rest hsplit
    cases front with
    | nil =>
      rw [List.nil_append] at hsplit
      exact ⟨[], d :: cs, ms, rfl, hsplit ▸ .keep hnone hrest, .inl rfl⟩
    | cons e front =>
      obtain ⟨rfl, hout⟩ := List.cons.inj hsplit
      obtain ⟨front', cs', ms', rfl, hscan, hbehind⟩ := ih hout
      exact ⟨d :: front', cs', ms', rfl, hscan, hbehind⟩
  | @hit prev cs m out ms hmatch hrest ih =>
    intro front rest hsplit
    have hafter : out = c :: rest → ∃ front' cs' ms', cs = front' ++ cs' ∧
        Scan mark r (lastOf prev front') cs' (c :: rest) ms' ∧
        Behind r (lastOf prev front') (lastOf prev front) cs' := fun hout =>
      ⟨m.text, m.rest, ms, (r.text_rest hmatch).symm, hout ▸ hrest, .inr ⟨_, _, m, hmatch, rfl, rfl⟩⟩
    rcases List.append_eq_append_iff.mp hsplit with ⟨inner, hfront, hout⟩ | ⟨inner, hkept, hout⟩
    · cases inner with
      | nil => exact hafter hout
      | cons e inner =>
        obtain ⟨front', cs', ms', hcs, hscan, hbehind⟩ := ih hout
        refine ⟨m.text ++ front', cs', ms', ?_, ?_, ?_⟩
        · rw [List.append_assoc, ← hcs, r.text_rest hmatch]
        · rw [lastOf_append]
          exact hscan
        · rw [lastOf_append, hfront, lastOf_append]
          exact hbehind
    · cases inner with
      | nil => exact hafter hout.symm
      | cons d inner =>
        obtain ⟨rfl, _⟩ := List.cons.inj hout
        cases front with
        | nil =>
          rw [List.nil_append] at hsplit
          exact ⟨[], cs, m :: ms, rfl, hsplit ▸ .hit hmatch hrest, .inl rfl⟩
        | cons e front =>
          -- the place lies inside what the match is replaced by
          refine absurd ⟨_, _, m, hmatch, ?_⟩ hc
          rw [hkept]
          exact List.mem_append_right front List.mem_cons_self

/-- **A place of the text is a place of the pass**, unless it lies inside a match. -/
theorem split_text (h : Scan mark r prev cs out ms) : ∀ {front rest}, cs = front ++ rest →
    (∃ front' out' ms', out = front' ++ out' ∧ Scan mark r (lastOf prev front) rest out' ms') ∨
      ∃ before text m taken left, r.matchAt before text = some m ∧ taken ≠ [] ∧ left ≠ [] ∧
        m.text = taken ++ left ∧ rest = left ++ m.rest := by
  induction h with
  | nil prev =>
    intro front rest hsplit
    obtain ⟨rfl, rfl⟩ := List.append_eq_nil_iff.mp hsplit.symm
    exact .inl ⟨[], [], [], rfl, .nil prev⟩
  | @keep prev c cs out ms hnone hrest ih =>
    intro front rest hsplit
    cases front with
    | nil =>
      rw [List.nil_append] at hsplit
      subst hsplit
      exact .inl ⟨[], c :: out, ms, rfl, .keep hnone hrest⟩
    | cons d front =>
      obtain ⟨rfl, hcs⟩ := List.cons.inj hsplit
      rcases ih hcs with ⟨front', out', ms', rfl, hscan⟩ | hinside
      · exact .inl ⟨c :: front', out', ms', rfl, hscan⟩
      · exact .inr hinside
  | @hit prev cs m out ms hmatch hrest ih =>
    intro front rest hsplit
    have htext := (r.text_rest hmatch).trans hsplit
    have hafter : ∀ behind, front = m.text ++ behind → m.rest = behind ++ rest →
        (∃ front' out' ms', (m.kept ++ mark) ++ out = front' ++ out' ∧
          Scan mark r (lastOf prev front) rest out' ms') ∨
        ∃ before text m taken left, r.matchAt before text = some m ∧ taken ≠ [] ∧ left ≠ [] ∧
          m.text = taken ++ left ∧ rest = left ++ m.rest := by
      intro behind hfront hbehind
      rcases ih hbehind with ⟨front', out', ms', rfl, hscan⟩ | hinside
      · refine .inl ⟨(m.kept ++ mark) ++ front', out', ms', (List.append_assoc _ _ _).symm, ?_⟩
        rw [hfront, lastOf_append]
        exact hscan
      · exact .inr hinside
    rcases List.append_eq_append_iff.mp htext with ⟨behind, hfront, hbehind⟩ | ⟨left, htaken, hrest'⟩
    · exact hafter behind hfront hbehind
    · by_cases hleft : left = []
      · subst hleft
        rw [List.append_nil] at htaken
        rw [List.nil_append] at hrest'
        exact hafter [] (by rw [List.append_nil, htaken]) (by rw [List.nil_append, hrest'])
      · by_cases hfront : front = []
        · subst hfront
          rw [List.nil_append] at hsplit
          subst hsplit
          exact .inl ⟨[], _, _, rfl, .hit hmatch hrest⟩
        · exact .inr ⟨prev, cs, m, front, left, hmatch, hfront, hleft, htaken, hrest'⟩

end Scan

end Redaction
