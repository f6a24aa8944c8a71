/-
  The secret patterns as rules of a redaction: what each of them keeps and hides, with which
  characters a match can begin, and what stands around it.

  The five patterns fall into three kinds, and all that is proved later is proved of a kind.
    * `hfToken` and `longHex` hide a whole word (`WholeWord`): a maximal run of `\w`, and nothing of
      it is kept.
    * `bearer` and `queryParameter` are tailed (`Tailed`): a front that is kept, and behind it all
      characters of one class, which are hidden.
    * `userinfo` is neither.  What it hides ends with an `@`, not with the end of a class, so that a
      text may hold another match behind it.

  The list `"bB?&hH["` comes back in many statements: with one of `b B` a bearer value begins, with
  one of `? &` a query parameter, with one of `h H` a web address, and with `[` the mark.  No other
  character of a front is one of them, which is why no pass can make a front of another rule out of
  two pieces of text.
-/
import FireviewerOrchestrator.Bootstrap.Patterns

set_option linter.unusedVariables false

namespace FireviewerOrchestrator.BootstrapStatus

open Regex Redaction

/-- What is put for what is hidden. -/
def mark : List Char := "[redacted]".toList

/-! ## Characters -/

section Characters

variable {t : WideChars}

/-- An ASCII character is a space by its code: six blanks of `str`, and the four separators from 28 to 31. -/
theorem isSpace_of_ascii {c : Char} (hc : c.toNat < 128) :
    isSpace t c = (Numerals.isAsciiSpace c || (28 ≤ c.toNat && c.toNat ≤ 31)) := if_pos hc

/-- The Unicode tables are not asked about ASCII characters. -/
theorem isWord_of_ascii {c : Char} (hc : c.toNat < 128) : isWord t c = (c.isAlphanum || c == '_') := if_pos hc

/-- An ASCII character that is no space. -/
def isVisible (c : Char) : Bool :=
  decide (c.toNat < 128) && !(Numerals.isAsciiSpace c || (28 ≤ c.toNat && c.toNat ≤ 31))

/-- Visible characters are no spaces on any host, since the tables have no say in them. -/
theorem isSpace_of_visible {c : Char} (hc : isVisible c = true) : isSpace t c = false := by
  obtain ⟨hascii, hspace⟩ := Bool.and_eq_true_iff.mp hc
  rw [isSpace_of_ascii (of_decide_eq_true hascii)]
  exact Bool.not_eq_true' _ |>.mp hspace

/-- `Char.isAlphanum` compares codes of 32 bits; by code points `omega` can reason about it. -/
theorem isAlphanum_iff {c : Char} :
    c.isAlphanum = true ↔
      (65 ≤ c.toNat ∧ c.toNat ≤ 90) ∨ (97 ≤ c.toNat ∧ c.toNat ≤ 122) ∨ (48 ≤ c.toNat ∧ c.toNat ≤ 57) := by
  show (((decide ('A'.val ≤ c.val ∧ c.val ≤ 'Z'.val)) || (decide ('a'.val ≤ c.val) && decide (c.val ≤ 'z'.val))) ||
    (decide ('0'.val ≤ c.val) && decide (c.val ≤ '9'.val))) = true ↔ _
  simp only [UInt32.le_iff_toNat_le, Bool.or_eq_true, Bool.and_eq_true, decide_eq_true_eq, or_assoc]
  rfl

/-- The same for the hexadecimal digits, in the order in which the class lists them. -/
theorem isHex_iff {c : Char} :
    isHex c = true ↔
      (48 ≤ c.toNat ∧ c.toNat ≤ 57) ∨ (97 ≤ c.toNat ∧ c.toNat ≤ 102) ∨ (65 ≤ c.toNat ∧ c.toNat ≤ 70) := by
  simp only [isHex, Char.isDigit, UInt32.le_iff_toNat_le, Char.le_def, Bool.or_eq_true, Bool.and_eq_true,
    decide_eq_true_eq, ge_iff_le, or_assoc]
  rfl

/-- The six hexadecimal letters are letters. -/
theorem isAlphanum_of_isHex {c : Char} (hc : isHex c = true) : c.isAlphanum = true := by
  rw [isHex_iff] at hc
  rw [isAlphanum_iff]
  omega

/-- `isAlphanum` knows ASCII only, so that `\w` agrees with it there. -/
theorem isWord_of_isAlphanum {c : Char} (hc : c.isAlphanum = true) : isWord t c = true := by
  have hascii : c.toNat < 128 := by
    rw [isAlphanum_iff] at hc
    omega
  rw [isWord_of_ascii hascii, hc, Bool.true_or]

/-- No letter is a space. -/
theorem isWord_of_isSpace {c : Char} (hc : isSpace t c = true) : isWord t c = false := by
  by_cases hascii : c.toNat < 128
  · rw [isSpace_of_ascii hascii] at hc
    rw [isWord_of_ascii hascii]
    have hcode : c.toNat ≤ 32 := by
      -- an ASCII space has a code up to 32, a letter a greater one
      rcases Bool.or_eq_true _ _ |>.mp hc with hspace | hsep
      · rcases Bool.or_eq_true _ _ |>.mp hspace with hblank | hcontrol
        · rw [beq_iff_eq.mp hblank]
          decide
        · simp only [Bool.and_eq_true, decide_eq_true_eq] at hcontrol
          omega
      · simp only [Bool.and_eq_true, decide_eq_true_eq] at hsep
        omega
    rw [Bool.or_eq_false_iff, ← Bool.not_eq_true, isAlphanum_iff, beq_eq_false_iff_ne]
    refine ⟨by omega, ?_⟩
    rintro rfl
    exact absurd hcode (by decide)
  · rw [isSpace, if_neg hascii] at hc
    rw [isWord, if_neg hascii]
    -- beyond ASCII the tables have to say so: it is a field of theirs
    exact t.isAlnum_of_isSpace c hc

end Characters

/-! ## The rules -/

/-- A match that keeps its group and hides the rest. -/
theorem kept_hidden_of {m : Match Char} {k v : List Char} (hgroup : m.group?.getD [] = k) (htext : m.text = k ++ v) :
    m.kept = k ∧ m.hidden = v := by
  have hkept : m.kept = k := hgroup
  refine ⟨hkept, ?_⟩
  rw [Match.hidden, hkept, htext, List.drop_left]

/-- The shape a rule has to have: what is kept is the beginning of the match, and something is left to hide. -/
theorem redactable {m : Match Char} {k v : List Char} (hgroup : m.group?.getD [] = k) (htext : m.text = k ++ v)
    (hv : v ≠ []) : m.kept <+: m.text ∧ m.hidden ≠ [] := by
  obtain ⟨hkept, hhidden⟩ := kept_hidden_of hgroup htext
  rw [hhidden, hkept, htext]
  exact ⟨List.prefix_append k v, hv⟩

/-- `hf_[A-Za-z0-9]+`. -/
def IsHfToken (w : List Char) : Prop := ∃ a, Run Char.isAlphanum a ∧ w = "hf_".toList ++ a

/-- `[A-Fa-f0-9]{64,}`. -/
def IsLongHex (w : List Char) : Prop := 64 ≤ w.length ∧ ∀ c ∈ w, isHex c = true

section Words

variable {t : WideChars} {prev : Option Char} {cs : List Char} {m : Match Char}

/-- An access token is made of word characters, and the boundaries `\b` around it make it a whole word. -/
theorem IsHfToken.words {w : List Char} (h : IsHfToken w) : w ≠ [] ∧ ∀ c ∈ w, isWord t c = true := by
  obtain ⟨a, ⟨_, hall⟩, rfl⟩ := h
  refine ⟨List.cons_ne_nil _ _, fun c hc => ?_⟩
  rcases List.mem_append.mp hc with hc | hc
  · have hletters : ∀ c ∈ "hf_".toList, c.toNat < 128 ∧ (c.isAlphanum || c == '_') = true := forall_of_all (by decide)
    obtain ⟨hascii, hletter⟩ := hletters c hc
    rw [isWord_of_ascii hascii, hletter]
  · exact isWord_of_isAlphanum (hall c hc)

/-- So is a long hexadecimal text. -/
theorem IsLongHex.words {w : List Char} (h : IsLongHex w) : w ≠ [] ∧ ∀ c ∈ w, isWord t c = true := by
  refine ⟨?_, fun c hc => isWord_of_isAlphanum (isAlphanum_of_isHex (h.2 c hc))⟩
  rintro rfl
  exact absurd h.1 (by decide)

/-- A match is an access token that stands alone: neither before nor behind it is a word character. -/
theorem mem_hfToken :
    m ∈ results (isWord t) hfToken prev cs ↔
      (IsHfToken m.text ∧ m.group? = none ∧ m.text ++ m.rest = cs) ∧
        prev.any (isWord t) = false ∧ m.rest.head?.any (isWord t) = false := by
  rw [hfToken, mem_results_wholeWord, mem_hfToken_body]
  · rfl
  intro prev cs a ha
  exact IsHfToken.words (mem_hfToken_body.mp ha).1

/-- Without its boundaries the pattern takes any 64 digits or more, also inside of a word. -/
theorem mem_longHex_body :
    m ∈ results (isWord t) (.atLeast 64 isHex) prev cs ↔
      IsLongHex m.text ∧ m.group? = none ∧ m.text ++ m.rest = cs := by
  rw [mem_results_atLeast, IsLongHex, and_assoc]

/-- With them it takes whole words only. -/
theorem mem_longHex :
    m ∈ results (isWord t) longHex prev cs ↔
      (IsLongHex m.text ∧ m.group? = none ∧ m.text ++ m.rest = cs) ∧
        prev.any (isWord t) = false ∧ m.rest.head?.any (isWord t) = false := by
  rw [longHex, mem_results_wholeWord, mem_longHex_body]
  intro prev cs a ha
  exact IsLongHex.words (mem_longHex_body.mp ha).1

end Words

section Rules

variable (t : WideChars)

/-- Keeps `bearer` and its spaces, and hides all up to the next space. -/
def bearerRule : Rule Char := .ofExpr (isWord t) (bearer t) fun h => by
  obtain ⟨b, s, v, _, _, hv, _, htext, hgroup⟩ := bearer_takes h
  exact redactable (by rw [hgroup]; rfl) htext hv.1

/-- Hides the token with its `hf_`. -/
def hfTokenRule : Rule Char := .ofExpr (isWord t) hfToken fun h => by
  obtain ⟨⟨hword, hgroup, _⟩, _⟩ := mem_hfToken.mp h
  exact redactable (by rw [hgroup]; rfl) (List.nil_append _).symm (hword.words (t := t)).1

/-- Hides the whole of the digits. -/
def longHexRule : Rule Char := .ofExpr (isWord t) longHex fun h => by
  obtain ⟨⟨hword, hgroup, _⟩, _⟩ := mem_longHex.mp h
  exact redactable (by rw [hgroup]; rfl) (List.nil_append _).symm (hword.words (t := t)).1

/-- Keeps the name with its `=`, and hides the value up to the next `&` or space. -/
def queryParameterRule : Rule Char := .ofExpr (isWord t) (queryParameter t) fun h => by
  obtain ⟨q, name, n, v, _, _, _, hv, htext, hgroup⟩ := queryParameter_takes h
  exact redactable (by rw [hgroup]; rfl) htext hv.1

/-- Keeps `https://`, and hides the user, the password and the `@` behind them. -/
def userinfoRule : Rule Char := .ofExpr (isWord t) (userinfo t) fun h => by
  obtain ⟨s, user, password, _, _, _, htext, hgroup⟩ := userinfo_takes h
  exact redactable (by rw [hgroup]; rfl) htext (by simp)

/-- `_SECRET_PATTERNS`. -/
def secretPatterns : List (Rule Char) :=
  [bearerRule t, hfTokenRule t, longHexRule t, queryParameterRule t, userinfoRule t]

end Rules

/-! ## What the rules keep -/

/-- `bearer\s+`. -/
def IsBearer (t : WideChars) (k : List Char) : Prop :=
  ∃ b s, Spelled "bearer" b ∧ Run (isSpace t) s ∧ k = b ++ s

/-- `[?&](?:token|access_token|signature|x-amz-signature|key)=`. -/
def IsParameter (k : List Char) : Prop :=
  ∃ q name n, (q = '?' ∨ q = '&') ∧ name ∈ "token" :: parameterNames ∧ Spelled name n ∧ k = q :: (n ++ ['='])

section Kept

variable {t : WideChars} {c : Char} {k : List Char}

/-- No space is one of these. -/
theorem not_visible_of_isSpace {c : Char} (hc : isSpace t c = true) {cs : List Char}
    (hcs : ∀ d ∈ cs, isVisible d = true) : c ∉ cs := by
  intro hmem
  rw [isSpace_of_visible (hcs c hmem)] at hc
  cases hc

/-- How a spelling of `bearer` begins, and that its other letters begin nothing.  The six letters have ASCII
    variants only, and those are looked through one by one. -/
theorem spelled_bearer {b : List Char} (h : Spelled "bearer" b) :
    ∃ c k, b = c :: k ∧ c ∈ ['b', 'B'] ∧ k.length = 5 ∧ ∀ d ∈ k, d ∉ "bB?&hH[".toList := by
  have hletters : List.Forall₂ (fun l c => c ∈ variants l) ('b' :: "earer".toList) b := h
  obtain ⟨c, k, hc, hk, rfl⟩ := List.forall₂_cons_left_iff.mp hletters
  have hfirst : ∀ c ∈ variants 'b', c ∈ ['b', 'B'] := forall_of_all (by decide)
  have hothers : ∀ d ∈ "earer".toList.flatMap variants, d ∉ "bB?&hH[".toList := forall_of_all (by decide)
  refine ⟨c, k, rfl, hfirst c hc, hk.length_eq.symm, fun d hd => ?_⟩
  obtain ⟨l, hl, hdl⟩ := mem_of_forall₂ hk hd
  exact hothers d (List.mem_flatMap.mpr ⟨l, hl, hdl⟩)

/-- The same for `https://`.  Its `s` has a variant that is no ASCII letter, which is none of the listed
    characters either; the two slashes are split off, because the last one stands before the user. -/
theorem spelled_https {s : List Char} (h : Spelled "https://" s) :
    ∃ c k, s = c :: (k ++ ['/', '/']) ∧ c ∈ ['h', 'H'] ∧ ∀ d ∈ k, d ∉ "bB?&hH[/@".toList := by
  have hletters : List.Forall₂ (fun l c => c ∈ variants l) ('h' :: ("ttps:".toList ++ ['/', '/'])) s := h
  obtain ⟨c, s, hc, hs, rfl⟩ := List.forall₂_cons_left_iff.mp hletters
  have hfirst : ∀ c ∈ variants 'h', c ∈ ['h', 'H'] := forall_of_all (by decide)
  have hothers : ∀ d ∈ "ttps:".toList.flatMap variants, d ∉ "bB?&hH[/@".toList := forall_of_all (by decide)
  have hslash : ∀ d ∈ variants '/', d = '/' := forall_of_all (by decide)
  obtain ⟨k, e, hk, he, rfl⟩ : ∃ k e, List.Forall₂ (fun l c => c ∈ variants l) "ttps:".toList k ∧
      List.Forall₂ (fun l c => c ∈ variants l) ['/', '/'] e ∧ s = k ++ e :=
    ⟨s.take 5, s.drop 5, List.forall₂_take 5 hs, List.forall₂_drop 5 hs, (List.take_append_drop 5 s).symm⟩
  refine ⟨c, k, ?_, hfirst c hc, fun d hd => ?_⟩
  · obtain ⟨d, e', hd, he', rfl⟩ := List.forall₂_cons_left_iff.mp he
    obtain ⟨d', hd', rfl⟩ := one_char he'
    rw [hslash d hd, hslash d' hd']
  · obtain ⟨l, hl, hdl⟩ := mem_of_forall₂ hk hd
    exact hothers d (List.mem_flatMap.mpr ⟨l, hl, hdl⟩)

/-- No name of a parameter has a character that begins something, or the `=` that ends the name. -/
theorem spelled_name {name : String} {n : List Char} (hname : name ∈ "token" :: parameterNames)
    (h : Spelled name n) : ∀ d ∈ n, d ∉ "bB?&hH[=".toList := by
  intro d hd
  obtain ⟨l, hl, hdl⟩ := mem_of_forall₂ h hd
  have hletters : ∀ d ∈ (("token" :: parameterNames).flatMap String.toList).flatMap variants, d ∉ "bB?&hH[=".toList :=
    forall_of_all (by decide)
  exact hletters d (List.mem_flatMap.mpr ⟨l, List.mem_flatMap.mpr ⟨name, hname, hl⟩, hdl⟩)

/-- A front of a bearer value begins with a `b` and goes on with characters that begin nothing: letters,
    then spaces. -/
theorem IsBearer.chars (h : IsBearer t (c :: k)) : c ∈ ['b', 'B'] ∧ ∀ d ∈ k, d ∉ "bB?&hH[".toList := by
  obtain ⟨b, s, hb, hs, hk⟩ := h
  obtain ⟨c', k', rfl, hc, _, hk'⟩ := spelled_bearer hb
  obtain ⟨rfl, rfl⟩ := List.cons.inj hk
  refine ⟨hc, fun d hd => ?_⟩
  rcases List.mem_append.mp hd with hd | hd
  · exact hk' d hd
  · exact not_visible_of_isSpace (hs.2 d hd) (forall_of_all (by decide))

/-- A front of a parameter begins with `?` or `&` and goes on with characters that begin nothing. -/
theorem IsParameter.chars (h : IsParameter (c :: k)) : c ∈ ['?', '&'] ∧ ∀ d ∈ k, d ∉ "bB?&hH[".toList := by
  obtain ⟨q, name, n, hq, hname, hn, hk⟩ := h
  obtain ⟨rfl, rfl⟩ := List.cons.inj hk
  refine ⟨by rcases hq with rfl | rfl <;> decide, fun d hd => ?_⟩
  rcases List.mem_append.mp hd with hd | hd
  · intro hmem
    have hwider : ∀ d ∈ "bB?&hH[".toList, d ∈ "bB?&hH[=".toList := forall_of_all (by decide)
    exact spelled_name hname hn d hd (hwider d hmem)
  · rw [List.mem_singleton.mp hd]
    decide

end Kept

/-! ## What kinds of rules they are -/

section Kinds

variable {t : WideChars} {prev : Option Char} {cs : List Char} {m : Match Char}

/-- The `\b` of the pattern stands before a letter, so that it asks for no word character before that. -/
theorem isWord_of_bearer {c : Char} (hc : c ∈ ['b', 'B']) : isWord t c = true := by
  have hletters : ∀ c ∈ ['b', 'B'], c.isAlphanum = true := forall_of_all (by decide)
  exact isWord_of_isAlphanum (hletters c hc)

/-- What the rule keeps is a front, and the place of a match is one with no word before it. -/
theorem bearer_match (h : (bearerRule t).matchAt prev cs = some m) :
    IsBearer t m.kept ∧ prev.any (isWord t) = false := by
  obtain ⟨b, s, v, hb, hs, hv, hedge, htext, hgroup⟩ := bearer_takes (mem_of_matchAt h)
  obtain ⟨hkept, hhidden⟩ := kept_hidden_of (m := m) (by rw [hgroup]; rfl) htext
  refine ⟨⟨b, s, hb, hs, hkept⟩, ?_⟩
  obtain ⟨c, k, rfl, hc, _, _⟩ := spelled_bearer hb
  rw [← (bearerRule t).text_rest h, htext, List.cons_append, List.cons_append, List.cons_append] at hedge
  exact (isEdge_of_word (isWord_of_bearer hc)).mp hedge

/-- What the rule hides is the whole run of characters that are no spaces: the repetition is greedy, and
    nothing stands behind it in the pattern that could make it give some back. -/
theorem bearer_run (h : (bearerRule t).matchAt prev cs = some m) :
    (m.hidden ++ m.rest).takeWhile (fun c => !isSpace t c) = m.hidden := by
  refine run_of_atLeast (fun a ha => ?_) h
  obtain ⟨e, he, g, hg, rfl⟩ := mem_results_seq.mp ha
  obtain ⟨htext, _⟩ := mem_results_edge.mp he
  obtain ⟨f, _, rfl⟩ := mem_results_group.mp hg
  simp [Match.append, htext]

/-- Two fronts with the same text behind them are the same. -/
theorem bearer_unique {k k' tail tail' : List Char} (hk : IsBearer t k) (hk' : IsBearer t k')
    (htail : tail.head?.any (isSpace t) = false) (htail' : tail'.head?.any (isSpace t) = false)
    (h : k ++ tail = k' ++ tail') : k = k' := by
  obtain ⟨b, s, hb, hs, rfl⟩ := hk
  obtain ⟨b', s', hb', hs', rfl⟩ := hk'
  rw [List.append_assoc, List.append_assoc] at h
  -- two spellings of one word are equally long, so the texts split at the same place
  have hlength : b.length = b'.length := hb.length_eq.symm.trans hb'.length_eq
  obtain ⟨rfl, hspaces⟩ := List.append_inj h hlength
  -- and the spaces are the longest run of spaces on both sides
  have hrun := congrArg (List.takeWhile (isSpace t)) hspaces
  rw [run_of_all hs.2, run_of_all hs'.2, takeWhile_eq_nil htail, takeWhile_eq_nil htail', List.append_nil,
    List.append_nil] at hrun
  rw [hrun]

/-- **Bearer values are a tailed rule.**  Its field `found` is the one with an argument: at a front with a
    value behind it the search finds a match, and the match it finds has this very front, since a front ends
    where its spaces end. -/
theorem tailed_bearer (t : WideChars) :
    Tailed (bearerRule t) (fun prev => prev.any (isWord t) = false) (IsBearer t) (fun c => !isSpace t c) where
  place h := (bearer_match h).2
  front h := (bearer_match h).1
  front_ne_nil := by
    rintro _ ⟨b, s, hb, hs, rfl⟩
    exact List.append_ne_nil_of_right_ne_nil _ hs.1
  run h := bearer_run h
  found := by
    intro prev k cs hprev hk hcs
    obtain ⟨v, rest, hne, hall, rfl⟩ := run_of_head hcs
    have hfound : ∃ m, m ∈ results (isWord t) (bearer t) prev (k ++ (v ++ rest)) := by
      obtain ⟨b, s, hb, hs, rfl⟩ := hk
      rw [List.append_assoc]
      refine bearer_found hb hs ⟨hne, hall⟩ ?_
      obtain ⟨c, k, rfl, hc, _, _⟩ := spelled_bearer hb
      exact (isEdge_of_word (isWord_of_bearer hc)).mpr hprev
    obtain ⟨a, ha⟩ := hfound
    obtain ⟨m, hm⟩ := Option.ne_none_iff_exists'.mp (matchAt_ne_none ha)
    refine ⟨m, hm, ?_⟩
    -- the match found hides something, and its first hidden character is no space
    have hhidden : (m.hidden ++ m.rest).head?.any (isSpace t) = false := by
      apply head_of_not
      obtain ⟨c, hidden, hcons⟩ := List.exists_cons_of_ne_nil ((bearerRule t).hidden_ne_nil hm)
      have hmem : c ∈ (m.hidden ++ m.rest).takeWhile (fun c => !isSpace t c) := by
        rw [bearer_run hm, hcons]
        exact List.mem_cons_self
      have hc := List.mem_takeWhile_imp hmem
      rw [hcons]
      exact hc
    exact (bearer_unique hk (bearer_match hm).1 (head_of_not hcs) hhidden ((bearerRule t).split_at hm)).symm

/-- What the rule keeps is a front, wherever it stands. -/
theorem parameter_match (h : (queryParameterRule t).matchAt prev cs = some m) : IsParameter m.kept := by
  obtain ⟨q, name, n, v, hq, hname, hn, hv, htext, hgroup⟩ := queryParameter_takes (mem_of_matchAt h)
  obtain ⟨hkept, hhidden⟩ := kept_hidden_of (m := m) (by rw [hgroup]; rfl) htext
  exact ⟨q, name, n, hq, hname, hn, hkept⟩

/-- **Query parameters are a tailed rule.**  That the match found has the given front: both names end at
    their first `=`. -/
theorem tailed_parameter (t : WideChars) :
    Tailed (queryParameterRule t) (fun _ => True) IsParameter (isValue t) where
  place _ := trivial
  front h := parameter_match h
  front_ne_nil := by
    rintro _ ⟨q, name, n, _, _, _, rfl⟩
    exact List.cons_ne_nil q _
  run h := by
    refine run_of_atLeast (fun a ha => ?_) h
    obtain ⟨f, _, rfl⟩ := mem_results_group.mp ha
    rfl
  found := by
    intro prev k cs _ hk hcs
    obtain ⟨v, rest, hne, hall, rfl⟩ := run_of_head hcs
    obtain ⟨q, name, n, hq, hname, hn, rfl⟩ := hk
    have hfound : ∃ m, m ∈ results (isWord t) (queryParameter t) prev (q :: (n ++ ['=']) ++ (v ++ rest)) := by
      rw [List.cons_append, List.append_assoc, List.singleton_append]
      exact queryParameter_found hq hname hn ⟨hne, hall⟩
    obtain ⟨a, ha⟩ := hfound
    obtain ⟨m, hm⟩ := Option.ne_none_iff_exists'.mp (matchAt_ne_none ha)
    refine ⟨m, hm, ?_⟩
    obtain ⟨q', name', n', hq', hname', hn', hkept⟩ := parameter_match hm
    have hparts := (queryParameterRule t).split_at hm
    rw [hkept, List.cons_append, List.cons_append, List.append_assoc, List.append_assoc] at hparts
    obtain ⟨rfl, hnames⟩ := List.cons.inj hparts
    rw [List.singleton_append, List.singleton_append] at hnames
    -- no name has a sign of equality, so both fronts end at the first one
    have hfree : ∀ {name n}, name ∈ "token" :: parameterNames → Spelled name n → '=' ∉ n := fun hname hn hmem =>
      spelled_name hname hn '=' hmem (by decide)
    rw [hkept, (Separated.append_cons_inj (hfree hname hn) (hfree hname' hn') hnames).1]

/-- **Access tokens are hidden as whole words.**  Where a word is a token, the word itself is the match that
    has to be found. -/
theorem wholeWord_hfToken (t : WideChars) : WholeWord (isWord t) (hfTokenRule t) IsHfToken where
  kept h := by rw [Match.kept, (mem_hfToken.mp (mem_of_matchAt h)).1.2.1]; rfl
  place h := (mem_hfToken.mp (mem_of_matchAt h)).2.1
  word h := ⟨(mem_hfToken.mp (mem_of_matchAt h)).1.1, ((mem_hfToken.mp (mem_of_matchAt h)).1.1.words).2⟩
  ends h := (mem_hfToken.mp (mem_of_matchAt h)).2.2
  found := by
    intro prev cs hprev hword
    refine matchAt_ne_none (m := ⟨cs.takeWhile (isWord t), none, cs.dropWhile (isWord t)⟩) (mem_hfToken.mpr ?_)
    exact ⟨⟨hword, rfl, List.takeWhile_append_dropWhile⟩, hprev, head_dropWhile cs⟩

/-- **Long hexadecimal texts are hidden as whole words.** -/
theorem wholeWord_longHex (t : WideChars) : WholeWord (isWord t) (longHexRule t) IsLongHex where
  kept h := by rw [Match.kept, (mem_longHex.mp (mem_of_matchAt h)).1.2.1]; rfl
  place h := (mem_longHex.mp (mem_of_matchAt h)).2.1
  word h := ⟨(mem_longHex.mp (mem_of_matchAt h)).1.1, ((mem_longHex.mp (mem_of_matchAt h)).1.1.words).2⟩
  ends h := (mem_longHex.mp (mem_of_matchAt h)).2.2
  found := by
    intro prev cs hprev hword
    refine matchAt_ne_none (m := ⟨cs.takeWhile (isWord t), none, cs.dropWhile (isWord t)⟩) (mem_longHex.mpr ?_)
    exact ⟨⟨hword, rfl, List.takeWhile_append_dropWhile⟩, hprev, head_dropWhile cs⟩

/-- What the last rule keeps and hides.  There is no run to speak of: the password ends where an `@` stands. -/
theorem userinfo_match (h : (userinfoRule t).matchAt prev cs = some m) :
    ∃ user password, Spelled "https://" m.kept ∧ Run (isUser t) user ∧ Run (isUser t) password ∧
      m.hidden = user ++ ':' :: (password ++ ['@']) := by
  obtain ⟨s, user, password, hs, huser, hpassword, htext, hgroup⟩ := userinfo_takes (mem_of_matchAt h)
  obtain ⟨hkept, hhidden⟩ := kept_hidden_of (m := m) (by rw [hgroup]; rfl) htext
  exact ⟨user, password, hkept ▸ hs, huser, hpassword, hhidden⟩

end Kinds

end FireviewerOrchestrator.BootstrapStatus
