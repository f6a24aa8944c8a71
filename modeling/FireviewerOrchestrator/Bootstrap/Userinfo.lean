/-
  What the last pass leaves: the userinfo of a web address is hidden up to the first `@`, and what
  stands behind that `@` may be a userinfo again.
-/
import FireviewerOrchestrator.Bootstrap.Passes

set_option linter.unusedVariables false

namespace FireviewerOrchestrator.BootstrapStatus

open Regex Redaction

/-- The text begins with a web address whose userinfo is followed by something that would end
    another one: characters with a colon before the last of them, and a second `@`. -/
def SecondUserinfo (t : WideChars) (cs : List Char) : Prop :=
  ∃ s user password a b rest, Spelled "https://" s ∧ Run (isUser t) user ∧ Run (isUser t) password ∧
    (∀ c ∈ a, isUser t c = true) ∧ Run (isUser t) b ∧
    cs = s ++ (user ++ ':' :: (password ++ '@' :: (a ++ ':' :: (b ++ '@' :: rest))))

variable {t : WideChars} {prev : Option Char} {cs out : List Char} {ms : List (Match Char)}

/-! ## Runs of userinfo characters -/

theorem isUser_ne {c : Char} (hc : isUser t c = true) : c ≠ '/' ∧ c ≠ '@' := by
  obtain ⟨hne, _⟩ := Bool.and_eq_true_iff.mp hc
  obtain ⟨hslash, hsign⟩ := Bool.and_eq_true_iff.mp hne
  exact ⟨bne_iff_ne.mp hslash, bne_iff_ne.mp hsign⟩

theorem isUser_colon : isUser t ':' = true := by
  rw [isUser, isSpace_of_visible (by decide)]
  rfl

/-- Both sides of the colon, as one run. -/
theorem run_colon {a b : List Char} (ha : ∀ c ∈ a, isUser t c = true) (hb : ∀ c ∈ b, isUser t c = true) :
    ∀ c ∈ a ++ ':' :: b, isUser t c = true := by
  intro c hc
  rcases List.mem_append.mp hc with hc | hc
  · exact ha c hc
  rcases List.mem_cons.mp hc with rfl | hc
  · exact isUser_colon
  · exact hb c hc

/-- Two texts that differ in which of two characters comes first. -/
theorem first_differs {x y : Char} {as bs as' bs' : List Char} (hne : x ≠ y) (hy : y ∉ as) (hx : x ∉ as') :
    as ++ x :: bs ≠ as' ++ y :: bs' := by
  intro h
  rcases List.append_eq_append_iff.mp h with ⟨mid, has', hbs⟩ | ⟨mid, has, hbs⟩
  · cases mid with
    | nil => exact hne (List.head_eq_of_cons_eq hbs)
    | cons z mid =>
      rw [← List.head_eq_of_cons_eq hbs] at has'
      exact hx (by rw [has']; exact List.mem_append_right _ List.mem_cons_self)
  · cases mid with
    | nil => exact hne (List.head_eq_of_cons_eq hbs).symm
    | cons z mid =>
      rw [← List.head_eq_of_cons_eq hbs] at has
      exact hy (by rw [has]; exact List.mem_append_right _ List.mem_cons_self)

/-- A run that ends with `@` does not begin with a web address: that has a `/` first. -/
theorem run_ne_https {run s rest behind : List Char} (hrun : ∀ c ∈ run, isUser t c = true)
    (hs : Spelled "https://" s) : run ++ '@' :: rest ≠ s ++ behind := by
  obtain ⟨c, k, rfl, hc, hk⟩ := spelled_https hs
  have hheads : ∀ c ∈ ['h', 'H'], c ≠ '@' := forall_of_all (by decide)
  rw [List.cons_append, List.append_assoc, ← List.cons_append]
  refine first_differs (by decide) (fun hmem => (isUser_ne (hrun _ hmem)).1 rfl) (fun hmem => ?_)
  rcases List.mem_cons.mp hmem with heq | hmem
  · exact hheads c hc heq.symm
  · exact hk '@' hmem (by decide)

/-- A run that ends with `@` in the result was there before. -/
theorem run_before {run rest : List Char} (hrun : ∀ c ∈ run, isUser t c = true)
    (h : Scan mark (userinfoRule t) prev cs (run ++ '@' :: rest) ms) : ∃ rest', cs = run ++ '@' :: rest' := by
  induction run generalizing prev cs with
  | nil =>
    have hhead : ¬ (userinfoRule t).Heads mark '@' := fun hmem => absurd (heads_userinfo hmem) (by decide)
    obtain ⟨rest', hcs, _⟩ := h.peel mark_ne_nil hhead
    exact ⟨rest', hcs⟩
  | cons c run ih =>
    generalize hout : (c :: run) ++ '@' :: rest = out at h
    cases h with
    | nil => cases hout
    | keep _ hrest =>
      obtain ⟨rfl, rfl⟩ := List.cons.inj hout
      obtain ⟨rest', rfl⟩ := ih (fun d hd => hrun d (List.mem_cons_of_mem c hd)) hrest
      exact ⟨rest', rfl⟩
    | hit hmatch _ =>
      obtain ⟨_, _, hs, _⟩ := userinfo_match hmatch
      rw [List.append_assoc] at hout
      exact absurd hout (run_ne_https hrun hs)

/-- A run that ends with `@` stays. -/
theorem run_after {run rest : List Char} (hrun : ∀ c ∈ run, isUser t c = true)
    (h : Scan mark (userinfoRule t) prev (run ++ '@' :: rest) out ms) : ∃ rest', out = run ++ '@' :: rest' := by
  induction run generalizing prev out with
  | nil =>
    have hstart : ¬ (userinfoRule t).Starts prev '@' := fun hmem =>
      absurd (heads_userinfo (heads_of_starts kept_userinfo hmem)) (by decide)
    obtain ⟨rest', hout, _⟩ := h.stay hstart
    exact ⟨rest', hout⟩
  | cons c run ih =>
    generalize hcs : (c :: run) ++ '@' :: rest = cs at h
    cases h with
    | nil => cases hcs
    | keep _ hrest =>
      obtain ⟨rfl, rfl⟩ := List.cons.inj hcs
      obtain ⟨rest', rfl⟩ := ih (fun d hd => hrun d (List.mem_cons_of_mem c hd)) hrest
      exact ⟨rest', rfl⟩
    | hit hmatch _ =>
      obtain ⟨_, _, hs, _⟩ := userinfo_match hmatch
      exact absurd (hcs.trans ((userinfoRule t).split_at hmatch)) (run_ne_https hrun hs)

/-! ## What a match takes -/

/-- The parts of a match in the text. -/
theorem userinfo_parts {m : Match Char} (h : (userinfoRule t).matchAt prev cs = some m) :
    ∃ user password, Spelled "https://" m.kept ∧ Run (isUser t) user ∧ Run (isUser t) password ∧
      m.hidden = user ++ ':' :: (password ++ ['@']) ∧
      cs = m.kept ++ ((user ++ ':' :: password) ++ '@' :: m.rest) := by
  obtain ⟨user, password, hs, huser, hpassword, hhidden⟩ := userinfo_match h
  refine ⟨user, password, hs, huser, hpassword, hhidden, ?_⟩
  rw [(userinfoRule t).split_at h, hhidden]
  simp

/-- A web address with a userinfo is taken, up to the `@`. -/
theorem userinfo_taken (prev : Option Char) {s user password rest : List Char} (hs : Spelled "https://" s)
    (huser : Run (isUser t) user) (hpassword : Run (isUser t) password)
    (hcs : cs = s ++ ((user ++ ':' :: password) ++ '@' :: rest)) :
    ∃ m, (userinfoRule t).matchAt prev cs = some m ∧ m.kept = s ∧ m.rest = rest := by
  subst hcs
  have hshape : s ++ ((user ++ ':' :: password) ++ '@' :: rest) = s ++ (user ++ ':' :: (password ++ '@' :: rest)) := by
    simp
  have hfound : ∃ a, a ∈ results (isWord t) (userinfo t) prev (s ++ (user ++ ':' :: (password ++ '@' :: rest))) :=
    userinfo_found hs huser hpassword
  obtain ⟨a, ha⟩ := hfound
  rw [← hshape] at ha
  obtain ⟨m, hm⟩ := Option.ne_none_iff_exists'.mp (matchAt_ne_none ha)
  refine ⟨m, hm, ?_⟩
  obtain ⟨user', password', hs', huser', hpassword', _, hparts⟩ := userinfo_parts hm
  obtain ⟨hkept, hrest⟩ := List.append_inj hparts (hs.length_eq.symm.trans hs'.length_eq)
  have hfree : ∀ {a b : List Char}, Run (isUser t) a → Run (isUser t) b → '@' ∉ a ++ ':' :: b := fun ha hb hmem =>
    (isUser_ne (run_colon ha.2 hb.2 _ hmem)).2 rfl
  exact ⟨hkept.symm, (Separated.append_cons_inj (hfree huser hpassword) (hfree huser' hpassword') hrest).2.symm⟩

/-- No two web addresses with userinfos overlap. -/
theorem userinfo_apart {s behind : List Char} {m : Match Char} {taken left : List Char}
    (h : (userinfoRule t).matchAt prev cs = some m) (htaken : taken ≠ []) (hleft : left ≠ [])
    (htext : m.text = taken ++ left) (hs : Spelled "https://" s) : left ++ m.rest ≠ s ++ behind := by
  intro heq
  obtain ⟨user, password, _, huser, hpassword, hhidden, _⟩ := userinfo_parts h
  have hrun := run_colon huser.2 hpassword.2
  have hends : m.hidden = (user ++ ':' :: password) ++ ['@'] := by rw [hhidden]; simp
  rw [← (userinfoRule t).kept_hidden h] at htext
  rcases List.append_eq_append_iff.mp htext with ⟨mid, rfl, hmid⟩ | ⟨mid, hkept, hmid⟩
  · -- the rest of the match is the end of a run, and its `@`
    obtain ⟨last, e, rfl⟩ := (List.eq_nil_or_concat' left).resolve_left hleft
    rw [hends, ← List.append_assoc] at hmid
    obtain ⟨hlast, he⟩ := List.append_inj' hmid rfl
    rw [← List.head_eq_of_cons_eq he, List.append_assoc, List.singleton_append] at heq
    refine run_ne_https (fun c hc => hrun c ?_) hs heq
    rw [hlast]
    exact List.mem_append_right mid hc
  · cases mid with
    | nil =>
      rw [hmid, List.nil_append, hends, List.append_assoc, List.singleton_append] at heq
      exact run_ne_https hrun hs heq
    | cons e mid =>
      -- the rest of the match begins within what it keeps
      obtain ⟨c, k, hcons, hc, _⟩ := spelled_https hs
      rw [hmid, hcons, List.cons_append, List.cons_append, List.cons_append] at heq
      have htail := tail_userinfo h e (by
        obtain ⟨d, taken', rfl⟩ := List.exists_cons_of_ne_nil htaken
        rw [hkept, List.cons_append, List.tail_cons]
        exact List.mem_append_right _ List.mem_cons_self)
      rw [List.head_eq_of_cons_eq heq] at htail
      exact htail (userinfo_heads_wider c hc).1

/-! ## What the pass leaves -/

theorem matchAt_userinfo_any (prev prev' : Option Char) (cs : List Char) :
    (userinfoRule t).matchAt prev cs = (userinfoRule t).matchAt prev' cs := rfl

/-- The last pass, from a place on. -/
theorem subFrom_userinfo_any (prev prev' : Option Char) (cs : List Char) :
    (userinfoRule t).subFrom mark 0 prev cs = (userinfoRule t).subFrom mark 0 prev' cs := by
  cases cs with
  | nil => rfl
  | cons c cs =>
    unfold Rule.subFrom
    rw [matchAt_userinfo_any prev prev']

theorem colon_not_mem_mark : ':' ∉ mark := by decide

/-- A userinfo that begins with the mark goes on behind it, with the colon. -/
theorem behind_mark {user tail rest : List Char} (huser : ∀ c ∈ user, isUser t c = true)
    (h : mark ++ rest = user ++ ':' :: tail) : ∃ a, (∀ c ∈ a, isUser t c = true) ∧ rest = a ++ ':' :: tail := by
  rcases List.append_eq_append_iff.mp h with ⟨a, rfl, hrest⟩ | ⟨mid, hmark, hmid⟩
  · exact ⟨a, fun c hc => huser c (List.mem_append_right mark hc), hrest⟩
  · cases mid with
    | nil => exact ⟨[], fun c hc => absurd hc List.not_mem_nil, hmid.symm⟩
    | cons e mid =>
      rw [← List.head_eq_of_cons_eq hmid] at hmark
      exact absurd (by rw [hmark]; exact List.mem_append_right _ List.mem_cons_self) colon_not_mem_mark

/-- A web address with a userinfo in the result is one whose first userinfo was hidden. -/
theorem second_of_scan {s user password rest : List Char} (hs : Spelled "https://" s) (huser : Run (isUser t) user)
    (hpassword : Run (isUser t) password)
    (h : Scan mark (userinfoRule t) prev cs (s ++ ((user ++ ':' :: password) ++ '@' :: rest)) ms) :
    SecondUserinfo t cs := by
  have hrun := run_colon huser.2 hpassword.2
  obtain ⟨c, k, rfl, hc, hk⟩ := spelled_https hs
  generalize hout : c :: (k ++ ['/', '/']) ++ ((user ++ ':' :: password) ++ '@' :: rest) = out at h
  cases h with
  | nil => cases hout
  | keep hnone hrest =>
    -- the pass would have taken it
    obtain ⟨rfl, rfl⟩ := List.cons.inj hout
    have hheads : ∀ d ∈ k ++ ['/', '/'], ¬ (userinfoRule t).Heads mark d := by
      intro d hd hmem
      have hfirst := (userinfo_heads_wider d (heads_userinfo hmem)).1
      rcases List.mem_append.mp hd with hd | hd
      · have hwider : ∀ d ∈ "bB?&hH[".toList, d ∈ "bB?&hH[/@".toList := forall_of_all (by decide)
        exact hk d hd (hwider d hfirst)
      · have hslash : ∀ d ∈ ['/', '/'], d ∉ "bB?&hH[".toList := forall_of_all (by decide)
        exact hslash d hd hfirst
    obtain ⟨tail, rfl, hscan⟩ := hrest.peel_list mark_ne_nil hheads
    obtain ⟨rest', rfl⟩ := run_before hrun hscan
    obtain ⟨m, hmatch, _⟩ := userinfo_taken _ hs huser hpassword rfl
    exact absurd (hnone.symm.trans hmatch) (by simp)
  | @hit _ _ m out ms hmatch hrest =>
    obtain ⟨user₁, password₁, hs₁, huser₁, hpassword₁, _, hcs⟩ := userinfo_parts hmatch
    rw [List.append_assoc m.kept] at hout
    obtain ⟨_, hrest'⟩ := List.append_inj hout (hs.length_eq.symm.trans hs₁.length_eq)
    rw [List.append_assoc, List.cons_append] at hrest'
    obtain ⟨a, ha, rfl⟩ := behind_mark huser.2 hrest'.symm
    have hsecond := run_colon ha hpassword.2
    rw [← List.cons_append, ← List.append_assoc] at hrest
    obtain ⟨rest₁, hrest₁⟩ := run_before hsecond hrest
    refine ⟨m.kept, user₁, password₁, a, password, rest₁, hs₁, huser₁, hpassword₁, ha, hpassword, ?_⟩
    rw [hcs, hrest₁]
    simp

/-- **What the last pass leaves for its pattern to find was a second userinfo**, and the text from there
    on is what the pass made of it. -/
theorem second_of_match {text front : List Char} {m : Match Char}
    (hsplit : (userinfoRule t).sub mark text = front ++ cs)
    (h : (userinfoRule t).matchAt (lastOf none front) cs = some m) :
    ∃ front' cs', text = front' ++ cs' ∧ SecondUserinfo t cs' ∧ (userinfoRule t).sub mark cs' = cs := by
  obtain ⟨user, password, hs, huser, hpassword, _, hcs⟩ := userinfo_parts h
  have hrun := run_colon huser.2 hpassword.2
  obtain ⟨c, k, hcons, hc, hk⟩ := spelled_https hs
  have hscan := Scan.run mark (userinfoRule t) none text
  rw [show (userinfoRule t).subFrom mark 0 none text = front ++ cs from hsplit] at hscan
  have htail : cs = c :: ((k ++ ['/', '/']) ++ ((user ++ ':' :: password) ++ '@' :: m.rest)) := by
    rw [hcs, hcons, List.cons_append]
  obtain ⟨front', cs', ms', htext, hscan', _⟩ :=
    hscan.split (not_within tail_userinfo (by
      have hwider : ∀ c ∈ ['h', 'H'], c ∈ "bB?&hH".toList := forall_of_all (by decide)
      exact hwider c hc)) (by rw [← htail])
  refine ⟨front', cs', htext, ?_, ?_⟩
  · rw [← htail, hcs] at hscan'
    exact second_of_scan hs huser hpassword hscan'
  · rw [htail, hscan'.eq_run.1]
    exact subFrom_userinfo_any _ _ _

/-- **A second userinfo is left for the pattern to find.** -/
theorem match_of_second (prev : Option Char) {text front : List Char} (hsplit : text = front ++ cs) (h : SecondUserinfo t cs) :
    (∃ front', (userinfoRule t).sub mark text = front' ++ (userinfoRule t).sub mark cs) ∧
      (userinfoRule t).matchAt prev ((userinfoRule t).sub mark cs) ≠ none := by
  obtain ⟨s, user, password, a, b, rest, hs, huser, hpassword, ha, hb, hcs⟩ := h
  have hshape : cs = s ++ ((user ++ ':' :: password) ++ '@' :: ((a ++ ':' :: b) ++ '@' :: rest)) := by
    rw [hcs]
    simp
  constructor
  · rcases (Scan.run mark (userinfoRule t) none text).split_text hsplit with
      ⟨front', out, ms, hout, hscan⟩ | ⟨prev, cs', m, taken, left, hmatch, htaken, hleft, htext, hrest⟩
    · refine ⟨front', ?_⟩
      show (userinfoRule t).subFrom mark 0 none text = _
      rw [hout, hscan.eq_run.1, subFrom_userinfo_any (lastOf none front) none]
      rfl
    · exact absurd (hrest.symm.trans hshape) (userinfo_apart hmatch htaken hleft htext hs)
  · obtain ⟨m, hmatch, hkept, hrest⟩ := userinfo_taken none hs huser hpassword hshape
    have hscan := Scan.run mark (userinfoRule t) (lastOf none m.text) m.rest
    rw [hrest] at hscan
    obtain ⟨rest', hout⟩ := run_after (run_colon ha hb.2) hscan
    have hresult : (userinfoRule t).sub mark cs = s ++ (((mark ++ a) ++ ':' :: b) ++ '@' :: rest') := by
      show (userinfoRule t).subFrom mark 0 none cs = _
      rw [Rule.subFrom_of_some hmatch, hkept, hrest, hout]
      simp
    have huser' : Run (isUser t) (mark ++ a) := by
      refine ⟨List.append_ne_nil_of_left_ne_nil mark_ne_nil a, fun c hc => ?_⟩
      exact (List.mem_append.mp hc).elim (mark_user c) (ha c)
    obtain ⟨m', hmatch', _⟩ := userinfo_taken prev hs huser' hb hresult
    rw [hmatch']
    exact Option.some_ne_none m'

end FireviewerOrchestrator.BootstrapStatus
