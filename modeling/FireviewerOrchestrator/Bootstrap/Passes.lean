/-
  What the five passes leave behind, each for itself and for those before it.

  After its own pass, and after all later ones, a text is clean of bearer values and of query
  parameters, and has no access tokens and no long hexadecimal words.  The last pattern is the
  exception: what its pass leaves is the subject of `userinfo_left_iff`.

  A pass could spoil what an earlier one has done in two ways only: a replacement could be part of a
  new front, or a mark could be hidden again in part.  The first is refuted by looking at what a
  replacement begins with (`heads_…`), what it has inside (`tail_…`) and what stands at its ends
  (`closed_…`); the second because no rule starts a match inside of the mark (`quiet_…`).  From these
  the laws of the library give one lemma for each pair of a rule and a later pass.
-/
import FireviewerOrchestrator.Bootstrap.Rules

set_option linter.unusedVariables false

namespace FireviewerOrchestrator.BootstrapStatus

open Regex Redaction

variable {t : WideChars}

/-! ## The mark -/

/-- A mark is seen. -/
theorem mark_ne_nil : mark ≠ [] := by decide

/-- It is made of ASCII characters that are no spaces, and that end neither a value nor a user. -/
theorem mark_visible : ∀ c ∈ mark, isVisible c = true ∧ c ∉ ['&', '/', '@'] := forall_of_all (by decide)

/-- So it is hidden again as part of a bearer value … -/
theorem mark_nonspace : ∀ c ∈ mark, (fun c => !isSpace t c) c = true := by
  intro c hc
  show (!isSpace t c) = true
  rw [isSpace_of_visible (mark_visible c hc).1]
  rfl

/-- … as part of the value of a parameter … -/
theorem mark_value : ∀ c ∈ mark, isValue t c = true := by
  intro c hc
  have hother : c ≠ '&' := fun heq => (mark_visible c hc).2 (by rw [heq]; decide)
  rw [isValue, isSpace_of_visible (mark_visible c hc).1, bne_iff_ne.mpr hother]
  rfl

/-- … and as part of a user: each of these classes takes the mark as a whole. -/
theorem mark_user : ∀ c ∈ mark, isUser t c = true := by
  intro c hc
  have hslash : c ≠ '/' := fun heq => (mark_visible c hc).2 (by rw [heq]; decide)
  have hsign : c ≠ '@' := fun heq => (mark_visible c hc).2 (by rw [heq]; decide)
  rw [isUser, isSpace_of_visible (mark_visible c hc).1, bne_iff_ne.mpr hslash, bne_iff_ne.mpr hsign]
  rfl

/-- The mark has no letter at its ends, so that it joins no words. -/
theorem framed_mark : Framed (isWord t) mark where
  ne_nil := mark_ne_nil
  front := isWord_of_ascii (by decide)
  back := isWord_of_ascii (by decide)

/-- The words of the mark. -/
theorem words_mark {w : List Char} (hw : w ∈ words (isWord t) mark) : w = [] ∨ w = "redacted".toList := by
  have hletters : ∀ c ∈ "redacted".toList, isWord t c = true := by
    intro c hc
    have hall : ∀ c ∈ "redacted".toList, c.isAlphanum = true := forall_of_all (by decide)
    exact isWord_of_isAlphanum (hall c hc)
  have hclosing : isWord t ']' = false := isWord_of_ascii (by decide)
  have hopening : isWord t '[' = false := isWord_of_ascii (by decide)
  rw [show mark = '[' :: ("redacted".toList ++ ']' :: []) from rfl, words_cons_of_neg hopening,
    words_append_cons hclosing] at hw
  rcases List.mem_cons.mp hw with rfl | hw
  · exact .inl rfl
  rcases List.mem_append.mp hw with hw | hw
  · rw [words, List.splitOnP_eq_singleton (fun c hc => by rw [hletters c hc]; rfl), List.mem_singleton] at hw
    exact .inr hw
  · exact .inl (List.mem_singleton.mp hw)

/-- The word of the mark is no access token. -/
theorem not_hfToken_mark : ∀ w ∈ words (isWord t) mark, ¬ IsHfToken w := by
  rintro w hw ⟨a, _, rfl⟩
  rcases words_mark hw with h | h
  · cases h
  · exact absurd (List.head_eq_of_cons_eq h) (by decide)

/-- And it is too short for a long hexadecimal text. -/
theorem not_longHex_mark : ∀ w ∈ words (isWord t) mark, ¬ IsLongHex w := by
  rintro w hw ⟨hlength, _⟩
  rcases words_mark hw with rfl | rfl
  · exact absurd hlength (by decide)
  · exact absurd hlength (by decide)

/-! ## Where replacements begin and end -/

section Replacements

variable {r : Rule Char} {prev : Option Char} {cs : List Char} {m : Match Char} {c : Char}

/-- What a replacement begins with: the mark, where nothing is kept, or the first character that is kept. -/
theorem heads_cases (h : r.Heads mark c) :
    ∃ prev cs m, r.matchAt prev cs = some m ∧ ((m.kept = [] ∧ c = '[') ∨ ∃ k, m.kept = c :: k) := by
  obtain ⟨prev, cs, m, hmatch, hhead⟩ := h
  refine ⟨prev, cs, m, hmatch, ?_⟩
  cases hkept : m.kept with
  | nil =>
    rw [hkept] at hhead
    exact .inl ⟨rfl, (Option.some.inj hhead).symm⟩
  | cons d k =>
    rw [hkept] at hhead
    exact .inr ⟨k, by rw [Option.some.inj hhead]⟩

/-- The characters that bearer values, query parameters and web addresses begin with stand inside no
    replacement, if they stand inside no front. -/
theorem not_within (hkept : ∀ {prev cs m}, r.matchAt prev cs = some m → ∀ d ∈ m.kept.tail, d ∉ "bB?&hH[".toList)
    (hc : c ∈ "bB?&hH".toList) : ¬ r.Within mark c := by
  rintro ⟨prev, cs, m, hmatch, hmem⟩
  have hwider : ∀ d ∈ "bB?&hH".toList, d ∈ "bB?&hH[".toList ∧ d ∉ mark := forall_of_all (by decide)
  have hmark := (hwider c hc).2
  cases hfront : m.kept with
  | nil =>
    rw [hfront] at hmem
    exact hmark (List.mem_of_mem_tail hmem)
  | cons d k =>
    rw [hfront, List.cons_append, List.tail_cons] at hmem
    rcases List.mem_append.mp hmem with hmem | hmem
    · exact hkept hmatch c (by rw [hfront]; exact hmem) (hwider c hc).1
    · exact hmark hmem

/-- The first character of a text at which a match starts is the first one of the match. -/
theorem starts_cases (h : r.Starts prev c) :
    ∃ cs m, r.matchAt prev (c :: cs) = some m ∧ ∃ text, m.text = c :: text := by
  obtain ⟨cs, m, hmatch⟩ := h
  refine ⟨cs, m, hmatch, ?_⟩
  obtain ⟨d, text, hcons⟩ := List.exists_cons_of_ne_nil (r.text_ne_nil hmatch)
  have htext := r.text_rest hmatch
  rw [hcons, List.cons_append] at htext
  exact ⟨text, by rw [hcons, List.head_eq_of_cons_eq htext]⟩

/-- A rule that keeps nothing puts a mark, which begins with its bracket. -/
theorem heads_wholeWord {isWord : Char → Bool} {W : List Char → Prop} (hr : WholeWord isWord r W)
    (h : r.Heads mark c) : c = '[' := by
  obtain ⟨prev, cs, m, hmatch, ⟨_, rfl⟩ | ⟨k, hkept⟩⟩ := heads_cases h
  · rfl
  · rw [hr.kept hmatch] at hkept
    cases hkept

/-- What the first pass puts begins with the `b` of the bearer. -/
theorem heads_bearer (h : (bearerRule t).Heads mark c) : c ∈ ['b', 'B'] := by
  obtain ⟨prev, cs, m, hmatch, ⟨hnil, _⟩ | ⟨k, hkept⟩⟩ := heads_cases h
  · exact absurd hnil ((tailed_bearer t).front_ne_nil (bearer_match hmatch).1)
  · exact (hkept ▸ (bearer_match hmatch).1 : IsBearer t (c :: k)).chars.1

/-- What the fourth pass puts begins with the sign before the name. -/
theorem heads_parameter (h : (queryParameterRule t).Heads mark c) : c ∈ ['?', '&'] := by
  obtain ⟨prev, cs, m, hmatch, ⟨hnil, _⟩ | ⟨k, hkept⟩⟩ := heads_cases h
  · exact absurd hnil ((tailed_parameter t).front_ne_nil (parameter_match hmatch))
  · exact (hkept ▸ parameter_match hmatch : IsParameter (c :: k)).chars.1

/-- What the last pass keeps, from its first letter to the two slashes. -/
theorem userinfo_kept (h : (userinfoRule t).matchAt prev cs = some m) :
    ∃ d k, m.kept = d :: (k ++ ['/', '/']) ∧ d ∈ ['h', 'H'] ∧ ∀ e ∈ k, e ∉ "bB?&hH[/@".toList := by
  obtain ⟨_, _, hs, _⟩ := userinfo_match h
  exact spelled_https hs

/-- What the last pass puts begins with the `h` of the scheme. -/
theorem heads_userinfo (h : (userinfoRule t).Heads mark c) : c ∈ ['h', 'H'] := by
  obtain ⟨prev, cs, m, hmatch, hcases⟩ := heads_cases h
  obtain ⟨d, k, hkept, hd, _⟩ := userinfo_kept hmatch
  rcases hcases with ⟨hnil, _⟩ | ⟨k', hkept'⟩
  · rw [hnil] at hkept
    cases hkept
  · rw [hkept] at hkept'
    rw [← List.head_eq_of_cons_eq hkept']
    exact hd

/-- Inside of what the first pass keeps nothing begins. -/
theorem tail_bearer (h : (bearerRule t).matchAt prev cs = some m) : ∀ d ∈ m.kept.tail, d ∉ "bB?&hH[".toList := by
  have hfront := (bearer_match h).1
  cases hkept : m.kept with
  | nil => exact fun d hd => absurd hd List.not_mem_nil
  | cons c k => exact (hkept ▸ hfront : IsBearer t (c :: k)).chars.2

/-- Inside of what the fourth pass keeps nothing begins. -/
theorem tail_parameter (h : (queryParameterRule t).matchAt prev cs = some m) :
    ∀ d ∈ m.kept.tail, d ∉ "bB?&hH[".toList := by
  have hfront := parameter_match h
  cases hkept : m.kept with
  | nil => exact fun d hd => absurd hd List.not_mem_nil
  | cons c k => exact (hkept ▸ hfront : IsParameter (c :: k)).chars.2

/-- Inside of what the last pass keeps nothing begins. -/
theorem tail_userinfo (h : (userinfoRule t).matchAt prev cs = some m) :
    ∀ d ∈ m.kept.tail, d ∉ "bB?&hH[".toList := by
  obtain ⟨c, k, hkept, _, hk⟩ := userinfo_kept h
  rw [hkept, List.tail_cons]
  intro d hd hmem
  rcases List.mem_append.mp hd with hd | hd
  -- the letters of the scheme begin nothing
  · have hwider : ∀ d ∈ "bB?&hH[".toList, d ∈ "bB?&hH[/@".toList := forall_of_all (by decide)
    exact hk d hd (hwider d hmem)
  · have hslash : ∀ d ∈ ['/', '/'], d ∉ "bB?&hH[".toList := forall_of_all (by decide)
    exact hslash d hd hmem

/-- A rule that keeps nothing has nothing inside of what it keeps. -/
theorem tail_wholeWord {isWord : Char → Bool} {W : List Char → Prop} (hr : WholeWord isWord r W)
    (h : r.matchAt prev cs = some m) : ∀ d ∈ m.kept.tail, d ∉ "bB?&hH[".toList := by
  rw [hr.kept h]
  exact fun d hd => absurd hd List.not_mem_nil

/-! ## What stands around a match -/

/-- A bearer value ends where a space is, and what is kept of it ends with one: no word runs across either
    place. -/
theorem closed_bearer (t : WideChars) : Closed (isWord t) (bearerRule t) where
  front h hnil := absurd hnil ((tailed_bearer t).front_ne_nil (bearer_match h).1)
  kept h := by
    obtain ⟨b, s, _, ⟨hne, hs⟩, hk⟩ := (bearer_match h).1
    obtain ⟨front, c, rfl⟩ := (List.eq_nil_or_concat' s).resolve_left hne
    exact .inr ⟨b ++ front, c, by rw [hk, List.append_assoc], isWord_of_isSpace (hs c (by simp))⟩
  back h := by
    refine .inr ?_
    have hends := (tailed_bearer t).run_ends h
    rename_i m
    cases hrest : m.rest with
    | nil => rfl
    | cons c rest =>
      rw [hrest] at hends
      exact isWord_of_isSpace (by simpa using hends)

/-- A value ends at an `&` or a space, and what is kept ends with its `=`. -/
theorem closed_parameter (t : WideChars) : Closed (isWord t) (queryParameterRule t) where
  front h hnil := absurd hnil ((tailed_parameter t).front_ne_nil (parameter_match h))
  kept h := by
    obtain ⟨q, name, n, _, _, _, hk⟩ := parameter_match h
    exact .inr ⟨q :: n, '=', hk, isWord_of_ascii (by decide)⟩
  back h := by
    refine .inr ?_
    have hends := (tailed_parameter t).run_ends h
    rename_i m
    cases hrest : m.rest with
    | nil => rfl
    | cons c rest =>
      rw [hrest, List.head?_cons, Option.any_some, isValue, Bool.and_eq_false_iff] at hends
      rcases hends with hamp | hspace
      · rw [bne_eq_false_iff_eq] at hamp
        rw [hamp]
        exact isWord_of_ascii (by decide)
      · exact isWord_of_isSpace (by simpa using hspace)

/-- Here it is the match itself that ends with no letter, the `@`; what stands behind it may be one. -/
theorem closed_userinfo (t : WideChars) : Closed (isWord t) (userinfoRule t) where
  front h hnil := by
    obtain ⟨c, k, hkept, _⟩ := userinfo_kept h
    rw [hnil] at hkept
    cases hkept
  kept h := by
    obtain ⟨c, k, hkept, _⟩ := userinfo_kept h
    exact .inr ⟨c :: (k ++ ['/']), '/', by rw [hkept]; simp, isWord_of_ascii (by decide)⟩
  back h := by
    refine .inl ?_
    obtain ⟨user, password, _, _, _, hhidden⟩ := userinfo_match h
    rw [← (userinfoRule t).kept_hidden h, hhidden, ← List.cons_append, ← List.append_assoc, ← List.append_assoc,
      lastOf_concat]
    exact isWord_of_ascii (by decide)

/-- A match that keeps something starts with what it keeps. -/
theorem heads_of_starts (hkept : ∀ {prev cs m}, r.matchAt prev cs = some m → m.kept ≠ []) (h : r.Starts prev c) :
    r.Heads mark c := by
  obtain ⟨cs, m, hmatch, text, htext⟩ := starts_cases h
  refine ⟨prev, c :: cs, m, hmatch, ?_⟩
  obtain ⟨d, k, hcons⟩ := List.exists_cons_of_ne_nil (hkept hmatch)
  have hsplit := r.kept_hidden hmatch
  rw [hcons, htext, List.cons_append] at hsplit
  rw [hcons, List.cons_append, List.head?_cons, List.head_eq_of_cons_eq hsplit]

/-- An access token starts with its `h`. -/
theorem starts_hfToken (h : (hfTokenRule t).Starts prev c) : c = 'h' := by
  obtain ⟨cs, m, hmatch, text, htext⟩ := starts_cases h
  obtain ⟨a, _, hword⟩ := ((wholeWord_hfToken t).word hmatch).1
  rw [htext] at hword
  exact List.head_eq_of_cons_eq hword

/-- A long hexadecimal text starts with a digit of its own, and at the beginning of a word. -/
theorem starts_longHex (h : (longHexRule t).Starts prev c) : isHex c = true ∧ prev.any (isWord t) = false := by
  obtain ⟨cs, m, hmatch, text, htext⟩ := starts_cases h
  refine ⟨((wholeWord_longHex t).word hmatch).1.2 c ?_, (wholeWord_longHex t).place hmatch⟩
  rw [htext]
  exact List.mem_cons_self

/-! ## The mark is not touched -/

/-- Where no character starts a match, no match starts. -/
theorem quiet_of_forall : ∀ {text : List Char} {prev : Option Char},
    (∀ c ∈ text, ∀ prev, ¬ r.Starts prev c) → r.Quiet prev text
  | [], prev, _ => trivial
  | c :: text, prev, h =>
    ⟨h c List.mem_cons_self prev, quiet_of_forall fun d hd => h d (List.mem_cons_of_mem c hd)⟩

/-- The mark has none of the characters with which the other rules start. -/
theorem quiet_mark (h : ∀ {prev c}, r.Starts prev c → c ∈ "?&hH".toList) (prev : Option Char) :
    r.Quiet prev mark := by
  have hmark : ∀ c ∈ mark, c ∉ "?&hH".toList := forall_of_all (by decide)
  exact quiet_of_forall fun c hc prev hstarts => hmark c hc (h hstarts)

/-- The hexadecimal letters of the mark stand within its word. -/
theorem quiet_longHex (t : WideChars) (prev : Option Char) : (longHexRule t).Quiet prev mark := by
  have hhex : ∀ {prev c}, isHex c = false → ¬ (longHexRule t).Starts prev c := by
    intro prev c hc hstarts
    rw [(starts_longHex hstarts).1] at hc
    cases hc
  have hinner : ∀ {p c : Char}, p.isAlphanum = true → ¬ (longHexRule t).Starts (some p) c := by
    intro p c hp hstarts
    have hplace := (starts_longHex hstarts).2
    rw [Option.any_some, isWord_of_isAlphanum hp] at hplace
    cases hplace
  -- character by character: the brackets and the `r` are no digits, and before the others stands a letter
  show (longHexRule t).Quiet prev ['[', 'r', 'e', 'd', 'a', 'c', 't', 'e', 'd', ']']
  exact ⟨hhex rfl, hhex rfl, hinner rfl, hinner rfl, hinner rfl, hinner rfl, hinner rfl, hinner rfl,
    hinner rfl, hhex rfl, trivial⟩

/-! ## No pass makes a front -/

/-- No space is a letter. -/
theorem isSpace_of_isWord (hc : isWord t c = true) : isSpace t c = false := by
  cases hspace : isSpace t c with
  | false => rfl
  | true =>
    rw [isWord_of_isSpace hspace] at hc
    cases hc

/-- A word that is hidden as a whole begins with no space. -/
theorem bare_wholeWord {W : List Char → Prop} (hr : WholeWord (isWord t) r W) (h : r.matchAt prev cs = some m) :
    cs.head?.any (fun c => !isSpace t c) = true := by
  obtain ⟨c, text, hcons⟩ := List.exists_cons_of_ne_nil (r.text_ne_nil h)
  have hc := (hr.word h).2 c (by rw [hcons]; exact List.mem_cons_self)
  rw [← r.text_rest h, hcons, List.cons_append, List.head?_cons, Option.any_some, isSpace_of_isWord hc]
  rfl

/-- **No pass makes a bearer value.**  A front that a replacement takes part in would begin inside of the
    replacement, or run into its beginning, or begin right behind it.  The first two fail at the characters;
    the last one at the boundary, as what a replacement ends with, or what follows it, is no letter. -/
theorem respects_bearer (hclosed : Closed (isWord t) r)
    (htail : ∀ {prev cs m}, r.matchAt prev cs = some m → ∀ d ∈ m.kept.tail, d ∉ "bB?&hH[".toList)
    (hheads : ∀ {c}, r.Heads mark c → c ∈ "bB?&hH[".toList)
    (hbare : ∀ {prev cs m}, r.matchAt prev cs = some m → m.kept = [] →
      cs.head?.any (fun c => !isSpace t c) = true) :
    Respects mark (fun prev => prev.any (isWord t) = false) (IsBearer t) (fun c => !isSpace t c) r where
  within hfront := by
    have hwider : ∀ c ∈ ['b', 'B'], c ∈ "bB?&hH".toList := forall_of_all (by decide)
    exact not_within htail (hwider _ hfront.chars.1)
  heads hfront d hd hmem := hfront.chars.2 d hd (hheads hmem)
  back := by
    intro prev cs m c k rest hmatch hfront hrest
    -- the front begins with a letter, so it is the match that ends with none
    refine (hclosed.back hmatch).resolve_right ?_
    rw [hrest, List.head?_cons, Option.any_some, isWord_of_bearer hfront.chars.1]
    decide
  bare := hbare

/-- **No pass makes a query parameter**, for the same reasons.  The sign before the name needs no boundary,
    so that nothing is asked of the place. -/
theorem respects_parameter
    (htail : ∀ {prev cs m}, r.matchAt prev cs = some m → ∀ d ∈ m.kept.tail, d ∉ "bB?&hH[".toList)
    (hheads : ∀ {c}, r.Heads mark c → c ∈ "bB?&hH[".toList)
    (hkept : ∀ {prev cs m}, r.matchAt prev cs = some m → m.kept ≠ []) :
    Respects mark (fun _ => True) IsParameter (isValue t) r where
  within hfront := by
    have hwider : ∀ c ∈ ['?', '&'], c ∈ "bB?&hH".toList := forall_of_all (by decide)
    exact not_within htail (hwider _ hfront.chars.1)
  heads hfront d hd hmem := hfront.chars.2 d hd (hheads hmem)
  back _ _ _ := trivial
  bare hmatch hnil := absurd hnil (hkept hmatch)

end Replacements

/-! ## What the passes leave -/

section Passes

variable {text : List Char}

/-- These three rules keep something of every match, so that their replacements never begin with a mark. -/
theorem kept_bearer {prev : Option Char} {cs : List Char} {m : Match Char}
    (h : (bearerRule t).matchAt prev cs = some m) : m.kept ≠ [] :=
  (tailed_bearer t).front_ne_nil (bearer_match h).1

theorem kept_parameter {prev : Option Char} {cs : List Char} {m : Match Char}
    (h : (queryParameterRule t).matchAt prev cs = some m) : m.kept ≠ [] :=
  (tailed_parameter t).front_ne_nil (parameter_match h)

theorem kept_userinfo {prev : Option Char} {cs : List Char} {m : Match Char}
    (h : (userinfoRule t).matchAt prev cs = some m) : m.kept ≠ [] := by
  obtain ⟨c, k, hkept, _⟩ := userinfo_kept h
  rw [hkept]
  exact List.cons_ne_nil c _

/-- **The first pass hides every bearer value.** -/
theorem clean_bearer (text : List Char) : Clean mark (bearerRule t) ((bearerRule t).sub mark text) := by
  have hwider : ∀ c ∈ ['b', 'B'], c ∈ "bB?&hH[".toList := forall_of_all (by decide)
  exact (tailed_bearer t).clean_sub
    (respects_bearer (closed_bearer t) tail_bearer (fun h => hwider _ (heads_bearer h))
      fun hmatch hnil => absurd hnil (kept_bearer hmatch))
    mark_nonspace mark_ne_nil text

/-- The other passes keep it so. -/
theorem clean_bearer_scan {r : Rule Char} (hclosed : Closed (isWord t) r)
    (htail : ∀ {prev cs m}, r.matchAt prev cs = some m → ∀ d ∈ m.kept.tail, d ∉ "bB?&hH[".toList)
    (hheads : ∀ {c}, r.Heads mark c → c ∈ "?&hH[".toList)
    (hbare : ∀ {prev cs m}, r.matchAt prev cs = some m → m.kept = [] → cs.head?.any (fun c => !isSpace t c) = true)
    (hquiet : ∀ prev, r.Quiet prev mark) (h : Clean mark (bearerRule t) text) :
    Clean mark (bearerRule t) (r.sub mark text) := by
  have hwider : ∀ c ∈ "?&hH[".toList, c ∈ "bB?&hH[".toList ∧ c ∉ ['b', 'B'] := forall_of_all (by decide)
  refine (tailed_bearer t).clean_scan
    (respects_bearer hclosed htail (fun h => (hwider _ (hheads h)).1) hbare)
    mark_nonspace mark_ne_nil ?_ hquiet h
  exact fun hfront hmem => (hwider _ (hheads hmem)).2 hfront.chars.1

/-- The second pass puts marks only, and starts with an `h`. -/
theorem clean_bearer_hfToken (h : Clean mark (bearerRule t) text) :
    Clean mark (bearerRule t) ((hfTokenRule t).sub mark text) := by
  have hword := wholeWord_hfToken t
  refine clean_bearer_scan hword.closed (tail_wholeWord hword) (fun h => ?_) (fun h _ => bare_wholeWord hword h)
    (quiet_mark fun h => ?_) h
  · rw [heads_wholeWord hword h]
    decide
  · rw [starts_hfToken h]
    decide

/-- So does the third, which starts at the beginning of a word. -/
theorem clean_bearer_longHex (h : Clean mark (bearerRule t) text) :
    Clean mark (bearerRule t) ((longHexRule t).sub mark text) := by
  have hword := wholeWord_longHex t
  refine clean_bearer_scan hword.closed (tail_wholeWord hword) (fun h => ?_) (fun h _ => bare_wholeWord hword h)
    (quiet_longHex t) h
  rw [heads_wholeWord hword h]
  decide

/-- The fourth keeps a front of its own, which begins with `?` or `&`. -/
theorem clean_bearer_parameter (h : Clean mark (bearerRule t) text) :
    Clean mark (bearerRule t) ((queryParameterRule t).sub mark text) := by
  have hwider : ∀ c ∈ ['?', '&'], c ∈ "?&hH[".toList ∧ c ∈ "?&hH".toList := forall_of_all (by decide)
  exact clean_bearer_scan (closed_parameter t) tail_parameter (fun h => (hwider _ (heads_parameter h)).1)
    (fun hmatch hnil => absurd hnil (kept_parameter hmatch))
    (quiet_mark fun h => (hwider _ (heads_parameter (heads_of_starts kept_parameter h))).2) h

/-- The two spellings of `h` are no beginning of a bearer value or of a parameter. -/
theorem userinfo_heads_wider : ∀ c ∈ ['h', 'H'], c ∈ "bB?&hH[".toList ∧ c ∈ "?&hH[".toList ∧ c ∈ "?&hH".toList :=
  forall_of_all (by decide)

/-- The last pass starts with an `h`, which the mark does not have. -/
theorem quiet_userinfo (prev : Option Char) : (userinfoRule t).Quiet prev mark :=
  quiet_mark (fun h => (userinfo_heads_wider _ (heads_userinfo (heads_of_starts kept_userinfo h))).2.2) prev

/-- And the last one keeps a scheme. -/
theorem clean_bearer_userinfo (h : Clean mark (bearerRule t) text) :
    Clean mark (bearerRule t) ((userinfoRule t).sub mark text) :=
  clean_bearer_scan (closed_userinfo t) tail_userinfo (fun h => (userinfo_heads_wider _ (heads_userinfo h)).2.1)
    (fun hmatch hnil => absurd hnil (kept_userinfo hmatch)) quiet_userinfo h

/-- **The fourth pass hides every query parameter**, and the fifth keeps it so. -/
theorem clean_parameter (text : List Char) :
    Clean mark (queryParameterRule t) ((queryParameterRule t).sub mark text) := by
  have hwider : ∀ c ∈ ['?', '&'], c ∈ "bB?&hH[".toList := forall_of_all (by decide)
  exact (tailed_parameter t).clean_sub
    (respects_parameter tail_parameter (fun h => hwider _ (heads_parameter h)) kept_parameter)
    mark_value mark_ne_nil text

/-- The last pass keeps the parameters clean: a scheme is no front of theirs. -/
theorem clean_parameter_userinfo (h : Clean mark (queryParameterRule t) text) :
    Clean mark (queryParameterRule t) ((userinfoRule t).sub mark text) := by
  have hother : ∀ c ∈ ['h', 'H'], c ∉ ['?', '&'] := forall_of_all (by decide)
  refine (tailed_parameter t).clean_scan
    (respects_parameter tail_userinfo (fun h => (userinfo_heads_wider _ (heads_userinfo h)).1) kept_userinfo)
    mark_value mark_ne_nil ?_ quiet_userinfo h
  exact fun hfront hmem => hother _ (heads_userinfo hmem) hfront.chars.1

/-- **The words of later texts are words of earlier ones.** -/
theorem words_sub {r : Rule Char} (hclosed : Closed (isWord t) r) {W : List Char → Prop}
    (hmark : ∀ w ∈ words (isWord t) mark, ¬ W w) (h : ∀ w ∈ words (isWord t) text, ¬ W w) :
    ∀ w ∈ words (isWord t) (r.sub mark text), ¬ W w := fun w hw =>
  ((Scan.run mark r none text).mem_words hclosed framed_mark hw).elim (h w) (hmark w)

end Passes

end FireviewerOrchestrator.BootstrapStatus
