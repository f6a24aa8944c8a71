/-
  What a pass of a redaction leaves for the rules to find.

  A pass makes no new words: whatever is not a word of the mark was a word before (`Scan.mem_words`).
  So a rule that hides whole words leaves none behind (`WholeWord.no_words`), and no later pass brings
  one back.

  A tailed rule hides all the characters of a class behind a front.  Its own pass cleans a text of it
  (`Tailed.clean_sub`), and a pass of a rule that neither makes such fronts nor touches the mark
  keeps it clean (`Tailed.clean_scan`).
-/
import FireviewerOrchestrator.Library.Redaction

set_option linter.unusedVariables false

namespace Redaction

open Regex

variable {α : Type}

theorem takeWhile_append_cons {p : α → Bool} {c : α} (hc : p c = false) : ∀ (xs ys : List α),
    (xs ++ c :: ys).takeWhile p = xs.takeWhile p
  | [], ys => by rw [List.nil_append, List.takeWhile_cons_of_neg (by simp [hc]), List.takeWhile_nil]
  | x :: xs, ys => by
    by_cases hx : p x = true
    · rw [List.cons_append, List.takeWhile_cons_of_pos hx, List.takeWhile_cons_of_pos hx,
        takeWhile_append_cons hc xs ys]
    · rw [List.cons_append, List.takeWhile_cons_of_neg hx, List.takeWhile_cons_of_neg hx]

theorem takeWhile_eq_nil {p : α → Bool} {xs : List α} (h : xs.head?.any p = false) : xs.takeWhile p = [] := by
  cases xs with
  | nil => rfl
  | cons x xs => exact List.takeWhile_cons_of_neg (by simpa using h)

theorem head?_of_takeWhile {p : α → Bool} {text rest : List α} (hall : ∀ c ∈ text, p c = true)
    (h : (text ++ rest).takeWhile p = text) : rest.head?.any p = false := by
  rw [run_of_all hall, List.append_right_eq_self] at h
  cases rest with
  | nil => rfl
  | cons c rest =>
    cases hc : p c with
    | false => exact hc
    | true =>
      rw [List.takeWhile_cons_of_pos hc] at h
      cases h

theorem head_of_not {p : α → Bool} {cs : List α} (h : cs.head?.any (fun c => !p c) = true) :
    cs.head?.any p = false := by
  cases cs with
  | nil => rfl
  | cons c cs => simpa using h

theorem head_dropWhile {p : α → Bool} (cs : List α) : (cs.dropWhile p).head?.any p = false := by
  have h := List.head?_dropWhile_not p cs
  cases hhead : (cs.dropWhile p).head? with
  | none => rfl
  | some c =>
    rw [hhead] at h
    exact h

/-- The run of a class at the head of a text, and what stands behind it. -/
theorem run_of_head {p : α → Bool} {cs : List α} (h : cs.head?.any p = true) :
    ∃ v rest, v ≠ [] ∧ (∀ c ∈ v, p c = true) ∧ cs = v ++ rest := by
  refine ⟨cs.takeWhile p, cs.dropWhile p, ?_, fun c hc => List.mem_takeWhile_imp hc,
    List.takeWhile_append_dropWhile.symm⟩
  cases cs with
  | nil => cases h
  | cons c cs =>
    have hc : p c = true := h
    rw [List.takeWhile_cons_of_pos hc]
    exact List.cons_ne_nil c _

/-! ## Words -/

section Words

variable (isWord : α → Bool)

/-- The runs of word characters, between any two characters that are none. -/
def words (text : List α) : List (List α) := text.splitOnP fun c => !isWord c

variable {isWord}

theorem words_ne_nil (text : List α) : words isWord text ≠ [] := List.splitOnP_ne_nil _ _

theorem words_cons_of_pos {c : α} (hc : isWord c = true) (cs : List α) :
    words isWord (c :: cs) = (words isWord cs).modifyHead (c :: ·) := by
  rw [words, List.splitOnP_cons_eq_if_modifyHead, hc]
  rfl

theorem words_cons_of_neg {c : α} (hc : isWord c = false) (cs : List α) :
    words isWord (c :: cs) = [] :: words isWord cs := by
  rw [words, List.splitOnP_cons_eq_if_modifyHead, hc]
  rfl

theorem words_append_cons {c : α} (hc : isWord c = false) (xs ys : List α) :
    words isWord (xs ++ c :: ys) = words isWord xs ++ words isWord ys :=
  List.splitOnP_append_cons xs ys (by simp [hc])

/-- The first word, and the others. -/
theorem words_eq_cons (text : List α) :
    words isWord text = text.takeWhile isWord :: (words isWord text).tail := by
  induction text with
  | nil => rfl
  | cons c cs ih =>
    cases hc : isWord c with
    | true =>
      rw [words_cons_of_pos hc, List.takeWhile_cons_of_pos hc]
      rw [ih]
      rfl
    | false =>
      rw [words_cons_of_neg hc, List.takeWhile_cons_of_neg (by simp [hc])]
      rfl

theorem mem_words {text w : List α} :
    w ∈ words isWord text ↔ w = text.takeWhile isWord ∨ w ∈ (words isWord text).tail := by
  rw [words_eq_cons text, List.mem_cons, List.tail_cons]

theorem tail_words_cons_of_pos {c : α} (hc : isWord c = true) (cs : List α) :
    (words isWord (c :: cs)).tail = (words isWord cs).tail := by
  rw [words_cons_of_pos hc, List.tail_modifyHead]

theorem tail_words_append_cons {c : α} (hc : isWord c = false) (xs ys : List α) :
    (words isWord (xs ++ c :: ys)).tail = (words isWord xs).tail ++ words isWord ys := by
  rw [words_append_cons hc, List.tail_append_of_ne_nil (words_ne_nil xs)]

theorem mem_tail_words_append {ys w : List α} (hw : w ∈ (words isWord ys).tail) : ∀ xs : List α,
    w ∈ (words isWord (xs ++ ys)).tail
  | [] => hw
  | x :: xs => by
    have ih := mem_tail_words_append hw xs
    rw [List.cons_append]
    cases hx : isWord x with
    | true => rwa [tail_words_cons_of_pos hx]
    | false =>
      rw [words_cons_of_neg hx]
      exact List.mem_of_mem_tail ih

/-- A whole word at a place is one of the words. -/
theorem mem_words_of_place {front w rest : List α} (hfront : (lastOf none front).any isWord = false)
    (hw : w = (w ++ rest).takeWhile isWord) : w ∈ words isWord (front ++ (w ++ rest)) := by
  rcases List.eq_nil_or_concat' front with rfl | ⟨front, c, rfl⟩
  · rw [List.nil_append]
    exact mem_words.mpr (.inl hw)
  · rw [lastOf_concat, Option.any_some] at hfront
    rw [List.append_assoc, List.singleton_append, words_append_cons hfront]
    exact List.mem_append_right _ (mem_words.mpr (.inl hw))

/-- What replaces a match is cut off from the words around it: its front ends the word before, the
    mark ends with no word character, and behind the match a word begins anew. -/
structure Closed (isWord : α → Bool) (r : Rule α) : Prop where
  front : ∀ {prev cs m}, r.matchAt prev cs = some m → m.kept = [] → prev.any isWord = false
  kept : ∀ {prev cs m}, r.matchAt prev cs = some m → m.kept = [] ∨ ∃ k c, m.kept = k ++ [c] ∧ isWord c = false
  back : ∀ {prev cs m}, r.matchAt prev cs = some m →
    (lastOf prev m.text).any isWord = false ∨ m.rest.head?.any isWord = false

/-- No word begins or ends where the mark does. -/
structure Framed (isWord : α → Bool) (mark : List α) : Prop where
  ne_nil : mark ≠ []
  front : mark.head?.any isWord = false
  back : (lastOf none mark).any isWord = false

theorem Framed.mem_words_append {mark out w : List α} (hmark : Framed isWord mark)
    (hw : w ∈ words isWord (mark ++ out)) : w ∈ words isWord mark ∨ w ∈ words isWord out := by
  obtain ⟨body, c, rfl⟩ := (List.eq_nil_or_concat' mark).resolve_left hmark.ne_nil
  have hc := hmark.back
  rw [lastOf_concat, Option.any_some] at hc
  rw [List.append_assoc, List.singleton_append, words_append_cons hc] at hw
  rw [words_append_cons hc]
  exact (List.mem_append.mp hw).imp_left (List.mem_append_left _)

theorem Framed.nil_mem {mark : List α} (hmark : Framed isWord mark) : [] ∈ words isWord mark :=
  mem_words.mpr (.inl (takeWhile_eq_nil hmark.front).symm)

variable {mark : List α} {r : Rule α} {prev : Option α} {cs out : List α} {ms : List (Match α)}

/-- Behind a match no word continues. -/
theorem Closed.mem_words_rest (hr : Closed isWord r) (hmark : Framed isWord mark) {m : Match α}
    (hmatch : r.matchAt prev cs = some m) {w : List α} (hw : w ∈ words isWord m.rest) :
    w ∈ (words isWord cs).tail ∨ w ∈ words isWord mark := by
  have htext := r.text_rest hmatch
  rcases mem_words.mp hw with rfl | hw
  · rcases hr.back hmatch with hback | hback
    · obtain ⟨front, c, hconcat⟩ := (List.eq_nil_or_concat' m.text).resolve_left (r.text_ne_nil hmatch)
      rw [hconcat, lastOf_concat, Option.any_some] at hback
      rw [hconcat, List.append_assoc, List.singleton_append] at htext
      rw [← htext, tail_words_append_cons hback]
      exact .inl (List.mem_append_right _ (mem_words.mpr (.inl rfl)))
    · rw [takeWhile_eq_nil hback]
      exact .inr hmark.nil_mem
  · rw [← htext]
    exact .inl (mem_tail_words_append hw m.text)

/-- **A pass makes no new words.**  The word at the place goes on as it was, or ends there. -/
theorem Scan.words_from (hr : Closed isWord r) (hmark : Framed isWord mark) (h : Scan mark r prev cs out ms) :
    (out.takeWhile isWord = cs.takeWhile isWord ∨
        out.takeWhile isWord = [] ∧ prev.any isWord = false) ∧
      ∀ w ∈ (words isWord out).tail, w ∈ (words isWord cs).tail ∨ w ∈ words isWord mark := by
  induction h with
  | nil prev => exact ⟨.inl rfl, fun w hw => absurd hw List.not_mem_nil⟩
  | @keep prev c cs out ms hnone hrest ih =>
    cases hc : isWord c with
    | true =>
      have hhead := ih.1.resolve_right fun hend => by simp [hc] at hend
      rw [List.takeWhile_cons_of_pos hc, List.takeWhile_cons_of_pos hc, hhead, tail_words_cons_of_pos hc,
        tail_words_cons_of_pos hc]
      exact ⟨.inl rfl, ih.2⟩
    | false =>
      have hneg : ¬ isWord c = true := by simp [hc]
      rw [List.takeWhile_cons_of_neg hneg, List.takeWhile_cons_of_neg hneg, words_cons_of_neg hc,
        words_cons_of_neg hc]
      refine ⟨.inl rfl, fun w hw => ?_⟩
      rcases mem_words.mp hw with rfl | hw
      · rcases ih.1 with hhead | ⟨hend, _⟩
        · rw [hhead]
          exact .inl (mem_words.mpr (.inl rfl))
        · rw [hend]
          exact .inr hmark.nil_mem
      · exact (ih.2 w hw).imp_left List.mem_of_mem_tail
  | @hit prev cs m out ms hmatch hrest ih =>
    have hout : ∀ w ∈ words isWord out, w ∈ (words isWord cs).tail ∨ w ∈ words isWord mark := by
      intro w hw
      rcases mem_words.mp hw with rfl | hw
      · rcases ih.1 with hhead | ⟨hend, _⟩
        · rw [hhead]
          exact hr.mem_words_rest hmark hmatch (mem_words.mpr (.inl rfl))
        · rw [hend]
          exact .inr hmark.nil_mem
      · exact (ih.2 w hw).elim (fun hw => hr.mem_words_rest hmark hmatch (List.mem_of_mem_tail hw)) .inr
    have hreplaced : ∀ w ∈ words isWord (mark ++ out), w ∈ (words isWord cs).tail ∨ w ∈ words isWord mark :=
      fun w hw => (hmark.mem_words_append hw).elim .inr (hout w)
    rw [List.append_assoc]
    rcases hr.kept hmatch with hkept | ⟨k, c, hkept, hc⟩
    · rw [hkept, List.nil_append]
      refine ⟨.inr ⟨?_, hr.front hmatch hkept⟩, fun w hw => hreplaced w (List.mem_of_mem_tail hw)⟩
      apply takeWhile_eq_nil
      rw [List.head?_append_of_ne_nil _ hmark.ne_nil]
      exact hmark.front
    · have hcs : cs = k ++ c :: (m.hidden ++ m.rest) := by
        rw [r.split_at hmatch, hkept, List.append_assoc, List.singleton_append]
      rw [hkept, List.append_assoc, List.singleton_append]
      refine ⟨.inl ?_, fun w hw => ?_⟩
      · rw [hcs, takeWhile_append_cons hc, takeWhile_append_cons hc]
      · rw [tail_words_append_cons hc] at hw
        rcases List.mem_append.mp hw with hw | hw
        · rw [hcs, tail_words_append_cons hc]
          exact .inl (List.mem_append_left _ hw)
        · exact hreplaced w hw

/-- **What was no word before is a word of the mark.** -/
theorem Scan.mem_words (hr : Closed isWord r) (hmark : Framed isWord mark) (h : Scan mark r prev cs out ms)
    {w : List α} (hw : w ∈ words isWord out) : w ∈ words isWord cs ∨ w ∈ words isWord mark := by
  obtain ⟨hhead, htail⟩ := h.words_from hr hmark
  rcases Redaction.mem_words.mp hw with rfl | hw
  · rcases hhead with hhead | ⟨hend, _⟩
    · rw [hhead]
      exact .inl (Redaction.mem_words.mpr (.inl rfl))
    · rw [hend]
      exact .inr hmark.nil_mem
  · exact (htail w hw).imp_left List.mem_of_mem_tail

/-- A rule that hides whole words, of a certain kind, and keeps nothing of them. -/
structure WholeWord (isWord : α → Bool) (r : Rule α) (W : List α → Prop) : Prop where
  kept : ∀ {prev cs m}, r.matchAt prev cs = some m → m.kept = []
  place : ∀ {prev cs m}, r.matchAt prev cs = some m → prev.any isWord = false
  word : ∀ {prev cs m}, r.matchAt prev cs = some m → W m.text ∧ ∀ c ∈ m.text, isWord c = true
  ends : ∀ {prev cs m}, r.matchAt prev cs = some m → m.rest.head?.any isWord = false
  found : ∀ {prev cs}, prev.any isWord = false → W (cs.takeWhile isWord) → r.matchAt prev cs ≠ none

namespace WholeWord

variable {W : List α → Prop}

theorem closed (hr : WholeWord isWord r W) : Closed isWord r where
  front h _ := hr.place h
  kept h := .inl (hr.kept h)
  back h := .inr (hr.ends h)

theorem text_eq (hr : WholeWord isWord r W) {m : Match α} (h : r.matchAt prev cs = some m) :
    m.text = cs.takeWhile isWord := by
  rw [← r.text_rest h, run_of_all (hr.word h).2, takeWhile_eq_nil (hr.ends h), List.append_nil]

/-- **One pass leaves none of the words.** -/
theorem no_words_from (hr : WholeWord isWord r W) (hmark : Framed isWord mark)
    (hfree : ∀ w ∈ words isWord mark, ¬ W w) (h : Scan mark r prev cs out ms) :
    (prev.any isWord = false → ¬ W (out.takeWhile isWord)) ∧ ∀ w ∈ (words isWord out).tail, ¬ W w := by
  induction h with
  | nil prev => exact ⟨fun _ => hfree [] hmark.nil_mem, fun w hw => absurd hw List.not_mem_nil⟩
  | @keep prev c cs out ms hnone hrest ih =>
    cases hc : isWord c with
    | true =>
      have hhead := (hrest.words_from hr.closed hmark).1.resolve_right fun hend => by simp [hc] at hend
      rw [List.takeWhile_cons_of_pos hc, hhead, tail_words_cons_of_pos hc, ← List.takeWhile_cons_of_pos hc]
      exact ⟨fun hprev hW => hr.found hprev hW hnone, ih.2⟩
    | false =>
      rw [List.takeWhile_cons_of_neg (by simp [hc]), words_cons_of_neg hc]
      refine ⟨fun _ => hfree [] hmark.nil_mem, fun w hw => ?_⟩
      rcases mem_words.mp hw with rfl | hw
      · exact ih.1 hc
      · exact ih.2 w hw
  | @hit prev cs m out ms hmatch hrest ih =>
    rw [hr.kept hmatch, List.nil_append]
    have hout : ∀ w ∈ words isWord out, ¬ W w := by
      intro w hw
      rcases mem_words.mp hw with rfl | hw
      · -- the match ends at the end of a word
        rcases (hrest.words_from hr.closed hmark).1 with hhead | ⟨hend, _⟩
        · rw [hhead, takeWhile_eq_nil (hr.ends hmatch)]
          exact hfree [] hmark.nil_mem
        · rw [hend]
          exact hfree [] hmark.nil_mem
      · exact ih.2 w hw
    have hreplaced : ∀ w ∈ words isWord (mark ++ out), ¬ W w := fun w hw =>
      (hmark.mem_words_append hw).elim (hfree w) (hout w)
    exact ⟨fun _ => hreplaced _ (mem_words.mpr (.inl rfl)), fun w hw => hreplaced w (List.mem_of_mem_tail hw)⟩

theorem no_words (hr : WholeWord isWord r W) (hmark : Framed isWord mark)
    (hfree : ∀ w ∈ words isWord mark, ¬ W w) (text : List α) : ∀ w ∈ words isWord (r.sub mark text), ¬ W w := by
  intro w hw
  obtain ⟨hhead, htail⟩ := hr.no_words_from hmark hfree (Scan.run mark r none text)
  rcases mem_words.mp hw with rfl | hw
  · exact hhead rfl
  · exact htail w hw

/-- Where there are no such words, the rule finds nothing at any place. -/
theorem not_match (hr : WholeWord isWord r W) {text front : List α} (hfree : ∀ w ∈ words isWord text, ¬ W w)
    (hsplit : text = front ++ cs) : r.matchAt (lastOf none front) cs = none := by
  cases hmatch : r.matchAt (lastOf none front) cs with
  | none => rfl
  | some m =>
    refine absurd (hr.word hmatch).1 (hfree m.text ?_)
    rw [hsplit, ← r.text_rest hmatch]
    refine mem_words_of_place (hr.place hmatch) ?_
    rw [r.text_rest hmatch]
    exact hr.text_eq hmatch

end WholeWord

end Words

/-! ## Clean texts -/

/-- At no place would the rule hide anything but the mark. -/
def Clean (mark : List α) (p : Rule α) (text : List α) : Prop :=
  ∀ front cs m, text = front ++ cs → p.matchAt (lastOf none front) cs = some m → m.hidden = mark

/-- **A tailed rule**: at a certain kind of place, and behind a front, it hides all the characters of
    a class that follow, if any do. -/
structure Tailed (p : Rule α) (At : Option α → Prop) (Front : List α → Prop) (cls : α → Bool) : Prop where
  place : ∀ {prev cs m}, p.matchAt prev cs = some m → At prev
  front : ∀ {prev cs m}, p.matchAt prev cs = some m → Front m.kept
  front_ne_nil : ∀ {k}, Front k → k ≠ []
  run : ∀ {prev cs m}, p.matchAt prev cs = some m → (m.hidden ++ m.rest).takeWhile cls = m.hidden
  found : ∀ {prev k cs}, At prev → Front k → cs.head?.any cls = true →
    ∃ m, p.matchAt prev (k ++ cs) = some m ∧ m.kept = k

/-- A pass of the rule makes no fronts: no replacement has the beginning of one inside, none begins
    like the rest of one, and behind a match a front stands where it stood before. -/
structure Respects (mark : List α) (At : Option α → Prop) (Front : List α → Prop) (cls : α → Bool)
    (r : Rule α) : Prop where
  within : ∀ {c k}, Front (c :: k) → ¬ r.Within mark c
  heads : ∀ {c k}, Front (c :: k) → ∀ d ∈ k, ¬ r.Heads mark d
  back : ∀ {prev cs m c k rest}, r.matchAt prev cs = some m → Front (c :: k) → m.rest = c :: rest →
    At (lastOf prev m.text)
  bare : ∀ {prev cs m}, r.matchAt prev cs = some m → m.kept = [] → cs.head?.any cls = true

/-- The rule of an expression that ends with a repetition hides all that the repetition can take. -/
theorem run_of_atLeast {isWord : α → Bool} {r : Expr α} {n : Nat} {p : α → Bool} {prev : Option α} {cs : List α}
    {m : Match α} (hgroup : ∀ a ∈ results isWord r prev cs, a.group? = some a.text)
    (h : Regex.matchAt isWord (.seq r (.atLeast n p)) prev cs = some m) :
    (m.hidden ++ m.rest).takeWhile p = m.hidden := by
  obtain ⟨a, ha, _, rfl⟩ := matchAt_seq_atLeast h
  have hhidden : (a.append ⟨a.rest.takeWhile p, none, a.rest.dropWhile p⟩).hidden = a.rest.takeWhile p := by
    simp [Match.hidden, Match.kept, Match.append, hgroup a ha]
  rw [hhidden]
  show (a.rest.takeWhile p ++ a.rest.dropWhile p).takeWhile p = a.rest.takeWhile p
  rw [List.takeWhile_append_dropWhile]

section Tailed

variable {mark : List α} {p r : Rule α} {At : Option α → Prop} {Front : List α → Prop} {cls : α → Bool}
  {prev : Option α} {cs out : List α} {ms : List (Match α)}

theorem Tailed.run_all (ht : Tailed p At Front cls) {m : Match α} (h : p.matchAt prev cs = some m) :
    ∀ c ∈ m.hidden, cls c = true := by
  intro c hc
  rw [← ht.run h] at hc
  exact List.mem_takeWhile_imp hc

theorem Tailed.run_ends (ht : Tailed p At Front cls) {m : Match α} (h : p.matchAt prev cs = some m) :
    m.rest.head?.any cls = false :=
  head?_of_takeWhile (ht.run_all h) (ht.run h)

/-- Behind a front the rule hides the run that follows. -/
theorem Tailed.hidden_eq (ht : Tailed p At Front cls) {k tail : List α} {m : Match α} (hplace : At prev)
    (hfront : Front k) (htail : tail.head?.any cls = true) (h : p.matchAt prev (k ++ tail) = some m) :
    m.hidden = tail.takeWhile cls ∧ m.hidden ++ m.rest = tail := by
  obtain ⟨m', hmatch, hkept⟩ := ht.found hplace hfront htail
  obtain rfl : m' = m := Option.some.inj (hmatch.symm.trans h)
  have hsplit := p.split_at h
  rw [hkept] at hsplit
  have hrest := List.append_cancel_left hsplit
  exact ⟨by rw [hrest, ht.run h], hrest.symm⟩

/-- A pass does not change whether the class goes on at its first place. -/
theorem Respects.head_eq (hr : Respects mark At Front cls r) (hmark : ∀ c ∈ mark, cls c = true)
    (hne : mark ≠ []) (h : Scan mark r prev cs out ms) : out.head?.any cls = cs.head?.any cls := by
  cases h with
  | nil => rfl
  | keep => rfl
  | @hit _ _ m _ _ hmatch _ =>
    by_cases hkept : m.kept = []
    · obtain ⟨c, mark, rfl⟩ := List.exists_cons_of_ne_nil hne
      rw [hr.bare hmatch hkept, hkept]
      exact hmark c List.mem_cons_self
    · rw [r.split_at hmatch, List.append_assoc, List.head?_append_of_ne_nil _ hkept,
        List.head?_append_of_ne_nil _ hkept]

/-- A front in the result stands where the pass came to something with the same beginning. -/
theorem Respects.place_of_front (hr : Respects mark At Front cls r) {text front k tail : List α} {c : α}
    (hfront : Front (c :: k)) (hplace : At (lastOf none front))
    (h : Scan mark r none text (front ++ c :: (k ++ tail)) ms) :
    ∃ front' cs ms', text = front' ++ cs ∧ Scan mark r (lastOf none front') cs (c :: (k ++ tail)) ms' ∧
      ∀ rest, cs = c :: rest → At (lastOf none front') := by
  obtain ⟨front', cs, ms', htext, hscan, hbehind⟩ := h.split (hr.within hfront) rfl
  refine ⟨front', cs, ms', htext, hscan, ?_⟩
  rintro rest rfl
  rcases hbehind with hsame | ⟨_, _, m, hmatch, hlast, hrest⟩
  · rw [hsame]
    exact hplace
  · rw [← hlast]
    exact hr.back hmatch hfront hrest

/-- Where the pass takes no match, the front was there before. -/
theorem Respects.front_before (hr : Respects mark At Front cls r) (hmark : ∀ c ∈ mark, cls c = true)
    (hne : mark ≠ []) {k tail : List α} {c : α} (hfront : Front (c :: k)) (htail : tail.head?.any cls = true)
    (h : Scan mark r (some c) cs (k ++ tail) ms) :
    ∃ tail', cs = k ++ tail' ∧ tail'.head?.any cls = true ∧ Scan mark r (lastOf (some c) k) tail' tail ms := by
  obtain ⟨tail', rfl, hscan⟩ := h.peel_list hne (hr.heads hfront)
  exact ⟨tail', rfl, by rw [← hr.head_eq hmark hne hscan, htail], hscan⟩

/-- What a match of a tailed rule in a text consists of. -/
theorem Tailed.parts (ht : Tailed p At Front cls) {m : Match α} (h : p.matchAt prev cs = some m) :
    ∃ c k, m.kept = c :: k ∧ Front (c :: k) ∧ cs = c :: (k ++ (m.hidden ++ m.rest)) ∧
      (m.hidden ++ m.rest).head?.any cls = true := by
  have hfront := ht.front h
  obtain ⟨c, k, hkept⟩ := List.exists_cons_of_ne_nil (ht.front_ne_nil hfront)
  refine ⟨c, k, hkept, hkept ▸ hfront, by rw [p.split_at h, hkept, List.cons_append], ?_⟩
  obtain ⟨d, hidden, hcons⟩ := List.exists_cons_of_ne_nil (p.hidden_ne_nil h)
  have hd := ht.run_all h d (by rw [hcons]; exact List.mem_cons_self)
  rw [hcons, List.cons_append, List.head?_cons, Option.any_some, hd]

/-- **A tailed rule that respects itself cleans a text in one pass.** -/
theorem Tailed.clean_sub (ht : Tailed p At Front cls) (hr : Respects mark At Front cls p)
    (hmark : ∀ c ∈ mark, cls c = true) (hne : mark ≠ []) (text : List α) : Clean mark p (p.sub mark text) := by
  intro front cs' m' hsplit hmatch'
  obtain ⟨c, k, hkept', hfront, rfl, htail⟩ := ht.parts hmatch'
  have hscan := Scan.run mark p none text
  rw [show p.subFrom mark 0 none text = front ++ _ from hsplit] at hscan
  have hplace := ht.place hmatch'
  obtain ⟨front', cs, ms', _, hscan', hat⟩ := hr.place_of_front hfront hplace hscan
  have hhidden := fun {k' tail'} (hk : Front k') (hhead : tail'.head?.any cls = true)
      (heq : c :: (k ++ (m'.hidden ++ m'.rest)) = k' ++ tail') =>
    (ht.hidden_eq hplace hk hhead (heq ▸ hmatch')).1
  generalize hout : c :: (k ++ (m'.hidden ++ m'.rest)) = out at hscan'
  cases hscan' with
  | nil => cases hout
  | keep hnone hrest =>
    -- the rule would have found the front here
    obtain ⟨rfl, rfl⟩ := List.cons.inj hout
    obtain ⟨tail', rfl, htail', _⟩ := hr.front_before hmark hne hfront htail hrest
    obtain ⟨m, hmatch, _⟩ := ht.found (hat _ rfl) hfront htail'
    exact absurd (hnone.symm.trans hmatch) (by simp)
  | @hit _ _ m out ms hmatch hrest =>
    have hends : out.head?.any cls = false := by rw [hr.head_eq hmark hne hrest, ht.run_ends hmatch]
    have hhead : (mark ++ out).head?.any cls = true := by
      obtain ⟨d, mark, rfl⟩ := List.exists_cons_of_ne_nil hne
      exact hmark d List.mem_cons_self
    rw [hhidden (ht.front hmatch) hhead (hout.trans (List.append_assoc _ _ _)), run_of_all hmark,
      takeWhile_eq_nil hends, List.append_nil]

/-- **A pass of a rule that respects a tailed one, and does not touch the mark, keeps a text clean.** -/
theorem Tailed.clean_scan (ht : Tailed p At Front cls) (hr : Respects mark At Front cls r)
    (hmark : ∀ c ∈ mark, cls c = true) (hne : mark ≠ []) (hheads : ∀ {c k}, Front (c :: k) → ¬ r.Heads mark c)
    (hquiet : ∀ prev, r.Quiet prev mark) {text : List α} (hclean : Clean mark p text) :
    Clean mark p (r.sub mark text) := by
  intro front cs' m' hsplit hmatch'
  obtain ⟨c, k, hkept', hfront, rfl, htail⟩ := ht.parts hmatch'
  have hscan := Scan.run mark r none text
  rw [show r.subFrom mark 0 none text = front ++ _ from hsplit] at hscan
  have hplace := ht.place hmatch'
  obtain ⟨front', cs, ms', htext, hscan', hat⟩ := hr.place_of_front hfront hplace hscan
  obtain ⟨rest, rfl, _, hrest⟩ := hscan'.peel hne (hheads hfront)
  obtain ⟨tail', rfl, htail', hscan'⟩ := hr.front_before hmark hne hfront htail hrest
  have hplace' := hat _ rfl
  obtain ⟨m, hmatch, hkept⟩ := ht.found hplace' hfront htail'
  -- the text was clean: what followed the front is the mark, and it stays
  have hwas := hclean front' _ m htext hmatch
  obtain ⟨_, hparts⟩ := ht.hidden_eq hplace' hfront htail' hmatch
  rw [hwas] at hparts
  subst hparts
  obtain ⟨out, hout, hscan'⟩ := hscan'.stay_list (hquiet _)
  have hends : out.head?.any cls = false := by rw [hr.head_eq hmark hne hscan', ht.run_ends hmatch]
  rw [(ht.hidden_eq hplace hfront htail hmatch').1, hout, run_of_all hmark, takeWhile_eq_nil hends,
    List.append_nil]

end Tailed

end Redaction
