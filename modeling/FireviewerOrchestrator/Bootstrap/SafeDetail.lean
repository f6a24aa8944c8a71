/-
  `_safe_detail`: the text of an error as the bootstrap serves it, and what a further redaction would
  still hide of it.

  Two things can leave a residue.  The last pattern hides a userinfo up to the first `@`, and a second
  one behind it stays.  And the cut to the last 500 characters can free a word from what stood before
  it, which had kept the first three patterns from seeing it.  `residue_free_iff` says that there is
  nothing else.
-/
import FireviewerOrchestrator.Bootstrap.Userinfo

set_option linter.unusedVariables false

namespace FireviewerOrchestrator.BootstrapStatus

open Regex Redaction

/-! ## The function -/

section Function

variable (t : WideChars)

/-- `value.replace("\r", " ").replace("\n", " ").strip()`. -/
def normalized (value : List Char) : List Char :=
  let blank := (value.map fun c => if c = '\r' then ' ' else c).map fun c => if c = '\n' then ' ' else c
  ((blank.dropWhile (isSpace t)).reverse.dropWhile (isSpace t)).reverse

/-- `for pattern in patterns: detail = pattern.sub(…, detail)`. -/
def substituted (patterns : List (Rule Char)) (detail : List Char) : List Char :=
  patterns.foldl (fun detail pattern => pattern.sub mark detail) detail

/-- `detail[-500:]`. -/
def last500 (detail : List Char) : List Char := detail.drop (detail.length - 500)

/-- `_safe_detail`. -/
def safeDetail (value : String) : String :=
  String.ofList (last500 (substituted (secretPatterns t) (normalized t value.toList)))

/-- A further redaction would hide nothing of the detail but what is hidden already. -/
def ResidueFree (detail : String) : Prop :=
  ∀ pattern ∈ secretPatterns t, ∀ m ∈ pattern.finditer detail.toList, m.hidden = mark

/-- The text before the last of the substitutions. -/
def beforeUserinfo (value : String) : List Char :=
  substituted [bearerRule t, hfTokenRule t, longHexRule t, queryParameterRule t] (normalized t value.toList)

/-- The text before the cut. -/
def beforeCut (value : String) : List Char := (userinfoRule t).sub mark (beforeUserinfo t value)

end Function

/-! ## What leaves a residue -/

section Conditions

variable (t : WideChars)

/-- No web address has a second userinfo, so near to the end that the cut would not remove it. -/
def SingleUserinfos (text : List Char) : Prop :=
  ∀ front cs, text = front ++ cs → SecondUserinfo t cs → 500 < ((userinfoRule t).sub mark cs).length

/-- The text begins with what the first three patterns hide, if no word goes on there: a bearer value
    other than the mark, an access token, or a long hexadecimal word. -/
def BeginsSecret (cs : List Char) : Prop :=
  (∃ k tail, IsBearer t k ∧ cs = k ++ tail ∧ tail.head?.any (fun c => !isSpace t c) = true ∧
      tail.takeWhile (fun c => !isSpace t c) ≠ mark) ∨
    IsHfToken (cs.takeWhile (isWord t)) ∨ IsLongHex (cs.takeWhile (isWord t))

/-- The cut to the last 500 characters does not go through a word so that what is left begins with a
    secret. -/
def CleanCut (text : List Char) : Prop :=
  ∀ front c cs, text = front ++ c :: cs → cs.length = 500 → isWord t c = true → ¬ BeginsSecret t cs

end Conditions

variable {t : WideChars}

/-! ## Before the cut -/

theorem beforeCut_eq (value : String) :
    beforeCut t value = (userinfoRule t).sub mark ((queryParameterRule t).sub mark ((longHexRule t).sub mark
      ((hfTokenRule t).sub mark ((bearerRule t).sub mark (normalized t value.toList))))) := by
  simp only [beforeCut, beforeUserinfo, substituted, List.foldl_cons, List.foldl_nil]

theorem safeDetail_toList (value : String) : (safeDetail t value).toList = last500 (beforeCut t value) := by
  rw [safeDetail, String.toList_ofList, beforeCut_eq]
  simp only [secretPatterns, substituted, List.foldl_cons, List.foldl_nil]

/-- **Before the cut** the texts are clean for the first four patterns. -/
theorem clean_beforeCut (value : String) :
    Clean mark (bearerRule t) (beforeCut t value) ∧ Clean mark (queryParameterRule t) (beforeCut t value) ∧
      (∀ w ∈ words (isWord t) (beforeCut t value), ¬ IsHfToken w) ∧
      ∀ w ∈ words (isWord t) (beforeCut t value), ¬ IsLongHex w := by
  rw [beforeCut_eq]
  refine ⟨?_, ?_, ?_, ?_⟩
  · exact clean_bearer_userinfo (clean_bearer_parameter (clean_bearer_longHex
      (clean_bearer_hfToken (clean_bearer (normalized t value.toList)))))
  · exact clean_parameter_userinfo (clean_parameter _)
  · have hpass := (wholeWord_hfToken t).no_words framed_mark not_hfToken_mark
      ((bearerRule t).sub mark (normalized t value.toList))
    exact words_sub (closed_userinfo t) not_hfToken_mark (words_sub (closed_parameter t) not_hfToken_mark
      (words_sub (wholeWord_longHex t).closed not_hfToken_mark hpass))
  · have hpass := (wholeWord_longHex t).no_words framed_mark not_longHex_mark
      ((hfTokenRule t).sub mark ((bearerRule t).sub mark (normalized t value.toList)))
    exact words_sub (closed_userinfo t) not_longHex_mark (words_sub (closed_parameter t) not_longHex_mark hpass)

/-! ## The cut -/

theorem last500_split (text : List Char) : ∃ front, text = front ++ last500 text ∧ (last500 text).length ≤ 500 ∧
    (front ≠ [] → (last500 text).length = 500) := by
  refine ⟨text.take (text.length - 500), (List.take_append_drop _ text).symm, ?_, fun hne => ?_⟩
  · rw [last500, List.length_drop]
    omega
  · rw [last500, List.length_drop]
    have hpos := List.length_pos_iff.mpr hne
    rw [List.length_take] at hpos
    omega

theorem last500_append (front : List Char) {cs : List Char} (h : cs.length ≤ 500) :
    ∃ front', last500 (front ++ cs) = front' ++ cs := by
  refine ⟨front.drop ((front ++ cs).length - 500), ?_⟩
  rw [last500, List.drop_append_of_le_length]
  rw [List.length_append]
  omega

theorem last500_cons {front cs : List Char} {c : Char} (h : cs.length = 500) :
    last500 (front ++ c :: cs) = cs := by
  rw [last500, ← List.singleton_append, ← List.append_assoc]
  refine List.drop_left' ?_
  simp [h]

/-- Of the character before a place a pattern sees only whether it is a word character. -/
theorem matchAt_congr {p : Rule Char} (hp : p ∈ secretPatterns t) {prev prev' : Option Char} (cs : List Char)
    (h : prev.any (isWord t) = prev'.any (isWord t)) : p.matchAt prev cs = p.matchAt prev' cs := by
  simp only [secretPatterns, List.mem_cons, List.not_mem_nil, or_false] at hp
  rcases hp with rfl | rfl | rfl | rfl | rfl <;> exact Rule.ofExpr_congr cs h

/-- A place in what the cut leaves is like the place in the text, unless the cut went through a word
    right before it. -/
theorem place_cases (cut front : List Char) :
    (lastOf none front).any (isWord t) = (lastOf none (cut ++ front)).any (isWord t) ∨
      front = [] ∧ ∃ cut' c, cut = cut' ++ [c] ∧ isWord t c = true := by
  cases front with
  | cons d front => exact .inl (by rw [lastOf_append]; rfl)
  | nil =>
    rcases List.eq_nil_or_concat' cut with rfl | ⟨cut', c, rfl⟩
    · exact .inl rfl
    · rw [List.append_nil, lastOf_concat, Option.any_some]
      cases hc : isWord t c with
      | false => exact .inl rfl
      | true => exact .inr ⟨rfl, cut', c, rfl, hc⟩

/-! ## What is left -/

theorem mark_of_mem {p : Rule Char} {detail : String} (h : ResidueFree t detail) (hp : p ∈ secretPatterns t)
    {front cs : List Char} (hsplit : detail.toList = front ++ cs) (hne : p.matchAt (lastOf none front) cs ≠ none) :
    ∃ m ∈ p.finditer detail.toList, m.hidden = mark := by
  obtain ⟨m, hmatch⟩ := Option.ne_none_iff_exists'.mp hne
  have hscan := Scan.run mark p none detail.toList
  obtain ⟨m', hmem⟩ := List.exists_mem_of_ne_nil _ (hscan.exists_match hsplit hmatch)
  exact ⟨m', hmem, h p hp m' hmem⟩

/-- A match at the start is taken, and it hides the mark. -/
theorem hidden_of_start {p : Rule Char} {detail : String} (h : ResidueFree t detail) (hp : p ∈ secretPatterns t)
    {m : Match Char} (hmatch : p.matchAt none detail.toList = some m) : m.hidden = mark :=
  h p hp m ((Scan.run mark p none detail.toList).mem_of_match hmatch)

/-- A word is not the mark. -/
theorem not_mark_of_wholeWord {p : Rule Char} {W : List Char → Prop} (hr : WholeWord (isWord t) p W)
    {prev : Option Char} {cs : List Char} {m : Match Char} (h : p.matchAt prev cs = some m) : m.hidden ≠ mark := by
  intro hhidden
  have htext : m.text = mark := by
    rw [← p.kept_hidden h, hr.kept h, hhidden]
    rfl
  have hopening := (hr.word h).2 '[' (by rw [htext]; decide)
  rw [isWord_of_ascii (by decide)] at hopening
  exact absurd hopening (by decide)

theorem not_mark_of_userinfo {prev : Option Char} {cs : List Char} {m : Match Char}
    (h : (userinfoRule t).matchAt prev cs = some m) : m.hidden ≠ mark := by
  obtain ⟨user, password, _, _, _, hhidden⟩ := userinfo_match h
  intro hmark
  apply colon_not_mem_mark
  rw [← hmark, hhidden]
  exact List.mem_append_right _ List.mem_cons_self

theorem singleUserinfos_of_residueFree {value : String} (h : ResidueFree t (safeDetail t value)) :
    SingleUserinfos t (beforeUserinfo t value) := by
  intro front cs hsplit hsecond
  by_contra hshort
  obtain ⟨⟨front', htext⟩, hfound⟩ := match_of_second none hsplit hsecond
  obtain ⟨front'', hcut⟩ := last500_append front' (Nat.not_lt.mp hshort)
  have hdetail : (safeDetail t value).toList = front'' ++ (userinfoRule t).sub mark cs := by
    rw [safeDetail_toList, beforeCut, htext, hcut]
  have hpattern : userinfoRule t ∈ secretPatterns t := by simp [secretPatterns]
  obtain ⟨m, hmem, hmark⟩ := mark_of_mem h hpattern hdetail (by rw [matchAt_userinfo_any _ none]; exact hfound)
  obtain ⟨_, _, hmatch⟩ := (Scan.run mark (userinfoRule t) none _).place_of_mem m hmem
  exact not_mark_of_userinfo hmatch hmark

theorem cleanCut_of_residueFree {value : String} (h : ResidueFree t (safeDetail t value)) :
    CleanCut t (beforeCut t value) := by
  intro front c cs hsplit hlength hc hsecret
  have hdetail : (safeDetail t value).toList = cs := by
    rw [safeDetail_toList, hsplit, last500_cons hlength]
  have hplace : (none : Option Char).any (isWord t) = false := rfl
  rcases hsecret with ⟨k, tail, hk, rfl, htail, hother⟩ | hword | hword
  · obtain ⟨m, hmatch, hkept⟩ := (tailed_bearer t).found hplace hk htail
    have hhidden := ((tailed_bearer t).hidden_eq hplace hk htail hmatch).1
    rw [← hdetail] at hmatch
    exact hother (hhidden.symm.trans (hidden_of_start h (by simp [secretPatterns]) hmatch))
  · obtain ⟨m, hmatch⟩ := Option.ne_none_iff_exists'.mp ((wholeWord_hfToken t).found hplace hword)
    rw [← hdetail] at hmatch
    exact not_mark_of_wholeWord (wholeWord_hfToken t) hmatch (hidden_of_start h (by simp [secretPatterns]) hmatch)
  · obtain ⟨m, hmatch⟩ := Option.ne_none_iff_exists'.mp ((wholeWord_longHex t).found hplace hword)
    rw [← hdetail] at hmatch
    exact not_mark_of_wholeWord (wholeWord_longHex t) hmatch (hidden_of_start h (by simp [secretPatterns]) hmatch)

/-- A match of the first three patterns right behind a cut through a word is one of the mark. -/
theorem mark_of_cleanCut {value : String} (h : CleanCut t (beforeCut t value)) {front : List Char} {c : Char}
    {cs : List Char} (hsplit : beforeCut t value = front ++ c :: cs) (hlength : cs.length = 500)
    (hc : isWord t c = true) :
    (∀ m, (bearerRule t).matchAt none cs = some m → m.hidden = mark) ∧
      (hfTokenRule t).matchAt none cs = none ∧ (longHexRule t).matchAt none cs = none := by
  have hclean := h front c cs hsplit hlength hc
  refine ⟨fun m hmatch => ?_, ?_, ?_⟩
  · by_contra hother
    obtain ⟨c, k, hkept, hk, hcs, htail⟩ := (tailed_bearer t).parts hmatch
    refine hclean (.inl ⟨c :: k, m.hidden ++ m.rest, hk, hcs, htail, ?_⟩)
    rw [bearer_run hmatch]
    exact hother
  · by_contra hne
    obtain ⟨m, hmatch⟩ := Option.ne_none_iff_exists'.mp hne
    refine hclean (.inr (.inl ?_))
    rw [← (wholeWord_hfToken t).text_eq hmatch]
    exact ((wholeWord_hfToken t).word hmatch).1
  · by_contra hne
    obtain ⟨m, hmatch⟩ := Option.ne_none_iff_exists'.mp hne
    refine hclean (.inr (.inr ?_))
    rw [← (wholeWord_longHex t).text_eq hmatch]
    exact ((wholeWord_longHex t).word hmatch).1

theorem residueFree_of_conditions {value : String} (hsingle : SingleUserinfos t (beforeUserinfo t value))
    (hcut : CleanCut t (beforeCut t value)) : ResidueFree t (safeDetail t value) := by
  intro p hp m hmem
  rw [safeDetail_toList] at hmem
  obtain ⟨cut, htext, hshort, hfull⟩ := last500_split (beforeCut t value)
  obtain ⟨front, hfront, hmatch⟩ := (Scan.run mark p none _).place_of_mem m hmem
  generalize m.text ++ m.rest = cs at hfront hmatch
  have hplace : beforeCut t value = (cut ++ front) ++ cs := by
    rw [List.append_assoc, ← hfront]
    exact htext
  obtain ⟨hbearer, hparameter, hfree, hfree'⟩ := clean_beforeCut (t := t) value
  have hlength : cs.length ≤ 500 := by
    have hsum := congrArg List.length hfront
    rw [List.length_append] at hsum
    omega
  -- the patterns without a word boundary do not see the cut
  have hlater : p = queryParameterRule t ∨ p = userinfoRule t → m.hidden = mark := by
    rintro (rfl | rfl)
    · exact hparameter (cut ++ front) cs m hplace hmatch
    · have hsub : (userinfoRule t).sub mark (beforeUserinfo t value) = (cut ++ front) ++ cs := hplace
      obtain ⟨front', cs', htext', hsecond, hcs⟩ := second_of_match hsub hmatch
      have hlong := hsingle front' cs' htext' hsecond
      rw [hcs] at hlong
      omega
  rcases place_cases (t := t) cut front with hsame | ⟨rfl, cut', c, rfl, hc⟩
  · rw [matchAt_congr hp cs hsame] at hmatch
    simp only [secretPatterns, List.mem_cons, List.not_mem_nil, or_false] at hp
    rcases hp with rfl | rfl | rfl | hp
    · exact hbearer (cut ++ front) cs m hplace hmatch
    · exact absurd (((wholeWord_hfToken t).not_match hfree hplace).symm.trans hmatch) (by simp)
    · exact absurd (((wholeWord_longHex t).not_match hfree' hplace).symm.trans hmatch) (by simp)
    · exact hlater hp
  · rw [List.nil_append] at hfront
    rw [List.append_nil, List.append_assoc, List.singleton_append] at hplace
    have hcs : cs.length = 500 := by rw [← hfront]; exact hfull (by simp)
    obtain ⟨hmark, hnone, hnone'⟩ := mark_of_cleanCut hcut hplace hcs hc
    simp only [secretPatterns, List.mem_cons, List.not_mem_nil, or_false] at hp
    rcases hp with rfl | rfl | rfl | hp
    · exact hmark m hmatch
    · exact absurd (hnone.symm.trans hmatch) (by simp)
    · exact absurd (hnone'.symm.trans hmatch) (by simp)
    · exact hlater hp

/-- **What is served of an error has no residue exactly when** no web address in it has a second
    userinfo, and the cut does not go through a word before what then reads as a secret. -/
theorem residue_free_iff (t : WideChars) (value : String) :
    ResidueFree t (safeDetail t value) ↔
      SingleUserinfos t (beforeUserinfo t value) ∧ CleanCut t (beforeCut t value) :=
  ⟨fun h => ⟨singleUserinfos_of_residueFree h, cleanCut_of_residueFree h⟩,
    fun h => residueFree_of_conditions h.1 h.2⟩

/-- A password with an `@` in it: what stands behind that `@` is served, and the pattern would take it. -/
theorem second_userinfo_left : ¬ ∀ (t : WideChars) (value : String), ResidueFree t (safeDetail t value) := by
  intro h
  have hhidden : ((userinfoRule .ascii).finditer (safeDetail .ascii "https://a:b@c:d@host").toList).map Match.hidden =
      ["[redacted]c:d@".toList] := by decide
  have hmem : "[redacted]c:d@".toList ∈
      ((userinfoRule .ascii).finditer (safeDetail .ascii "https://a:b@c:d@host").toList).map Match.hidden := by
    rw [hhidden]
    exact List.mem_singleton_self _
  obtain ⟨m, hm, hresidue⟩ := List.mem_map.mp hmem
  have hmark := h .ascii "https://a:b@c:d@host" (userinfoRule .ascii) (by simp [secretPatterns]) m hm
  rw [hmark] at hresidue
  exact absurd hresidue (by decide)

end FireviewerOrchestrator.BootstrapStatus
