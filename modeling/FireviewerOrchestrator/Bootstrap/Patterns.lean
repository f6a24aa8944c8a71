/-
  `_SECRET_PATTERNS`: what the bootstrap hides of an error's text before it serves it.

  Each pattern is written as the source writes it, and `mem_bearer` … `mem_userinfo` say what it
  takes.  The flag `(?i)` is spelled out character by character: `k`, `s` and `i` have variants that
  are not ASCII.
-/
import FireviewerOrchestrator.Contracts.Numerals
import FireviewerOrchestrator.Library.Residue
import FireviewerOrchestrator.Library.Separated

set_option linter.unusedVariables false

namespace FireviewerOrchestrator.BootstrapStatus

open Regex

/-! ## Character classes -/

/-- What the patterns leave to the Unicode tables: the spaces, and the letters and digits, that are
    not ASCII. -/
structure WideChars where
  isSpace : Char → Bool
  isAlnum : Char → Bool
  isAlnum_of_isSpace : ∀ c, isSpace c = true → isAlnum c = false

/-- The tables of a host that knows the ASCII characters. -/
def WideChars.ascii : WideChars where
  isSpace _ := false
  isAlnum _ := false
  isAlnum_of_isSpace _ _ := rfl

section Classes

variable (t : WideChars)

/-- `\s`. -/
def isSpace (c : Char) : Bool :=
  if c.toNat < 128 then Numerals.isAsciiSpace c || (28 ≤ c.toNat && c.toNat ≤ 31) else t.isSpace c

/-- `\w`. -/
def isWord (c : Char) : Bool :=
  if c.toNat < 128 then c.isAlphanum || c == '_' else t.isAlnum c

/-- `[^&\s]`. -/
def isValue (c : Char) : Bool := c != '&' && !isSpace t c

/-- `[^/@\s]`. -/
def isUser (c : Char) : Bool := c != '/' && c != '@' && !isSpace t c

end Classes

/-- `[A-Fa-f0-9]`. -/
def isHex (c : Char) : Bool := c.isDigit || ('a' ≤ c && c ≤ 'f') || ('A' ≤ c && c ≤ 'F')

/-- What a character of a pattern matches under `(?i)`, when it is no upper-case letter. -/
def variants (l : Char) : List Char :=
  [l, l.toUpper] ++
    (if l = 'k' then [Char.ofNat 0x212A]
    else if l = 's' then [Char.ofNat 0x17F]
    else if l = 'i' then [Char.ofNat 0x130, Char.ofNat 0x131]
    else [])

/-! ## The patterns -/

def literal (word : String) : Expr Char := .chars (word.toList.map fun l c => l == c)

def caseless (word : String) : Expr Char := .chars (word.toList.map fun l c => decide (c ∈ variants l))

/-- `word|…|word`. -/
def oneOf (word : String) : List String → Expr Char
  | [] => caseless word
  | next :: words => .alt (caseless word) (oneOf next words)

def parameterNames : List String := ["access_token", "signature", "x-amz-signature", "key"]

section Patterns

variable (t : WideChars)

/-- `(?i)\b(bearer\s+)[^\s]+`. -/
def bearer : Expr Char :=
  .seq (.seq .edge (.group (.seq (caseless "bearer") (.atLeast 1 (isSpace t))))) (.atLeast 1 fun c => !isSpace t c)

/-- `\bhf_[A-Za-z0-9]+\b`. -/
def hfToken : Expr Char := .seq .edge (.seq (.seq (literal "hf_") (.atLeast 1 Char.isAlphanum)) .edge)

/-- `\b[A-Fa-f0-9]{64,}\b`. -/
def longHex : Expr Char := .seq .edge (.seq (.atLeast 64 isHex) .edge)

/-- `(?i)([?&](?:token|access_token|signature|x-amz-signature|key)=)[^&\s]+`. -/
def queryParameter : Expr Char :=
  .seq (.group (.seq (.chars [fun c => c == '?' || c == '&']) (.seq (oneOf "token" parameterNames) (caseless "="))))
    (.atLeast 1 (isValue t))

/-- `(?i)(https://)[^/@\s]+:[^/@\s]+@`. -/
def userinfo : Expr Char :=
  .seq (.group (caseless "https://"))
    (.seq (.atLeast 1 (isUser t)) (.seq (caseless ":") (.seq (.atLeast 1 (isUser t)) (caseless "@"))))

end Patterns

/-! ## What the patterns take -/

/-- A spelling of the word in upper and lower case. -/
def Spelled (word : String) (text : List Char) : Prop :=
  List.Forall₂ (fun l c => c ∈ variants l) word.toList text

/-- One or more characters of the class. -/
def Run (p : Char → Bool) (text : List Char) : Prop := text ≠ [] ∧ ∀ c ∈ text, p c = true

theorem mem_of_forall₂ {β : Type} {R : β → Char → Prop} {ls : List β} {text : List Char}
    (h : List.Forall₂ R ls text) {c : Char} (hc : c ∈ text) : ∃ l ∈ ls, R l c := by
  induction h with
  | nil => cases hc
  | cons hl _ ih =>
    rcases List.mem_cons.mp hc with rfl | hc
    · exact ⟨_, List.mem_cons_self, hl⟩
    · obtain ⟨l, hmem, hl⟩ := ih hc
      exact ⟨l, List.mem_cons_of_mem _ hmem, hl⟩

/-- What a check of all members finds. -/
theorem forall_of_all {β : Type} {P : β → Prop} [DecidablePred P] {values : List β}
    (h : values.all (fun v => decide (P v)) = true) : ∀ v ∈ values, P v := fun v hv =>
  of_decide_eq_true (List.all_eq_true.mp h v hv)

/-- What one class takes is one character. -/
theorem one_char {β : Type} {R : β → Char → Prop} {l : β} {text : List Char} (h : List.Forall₂ R [l] text) :
    ∃ c, R l c ∧ text = [c] := by
  cases h with
  | cons hc hnil =>
    cases hnil
    exact ⟨_, hc, rfl⟩

/-- A character that is no letter has one spelling. -/
theorem spelled_sign {word : String} {l : Char} {text : List Char} (hword : word.toList = [l])
    (hone : ∀ c ∈ variants l, c = l) (h : Spelled word text) : text = [l] := by
  unfold Spelled at h
  rw [hword] at h
  obtain ⟨c, hc, rfl⟩ := one_char h
  rw [hone c hc]

section Membership

variable {w : Char → Bool} {t : WideChars} {prev : Option Char} {cs : List Char} {m : Match Char}

theorem mem_literal {word : String} :
    m ∈ results w (literal word) prev cs ↔ m.text = word.toList ∧ m.group? = none ∧ m.text ++ m.rest = cs := by
  rw [literal, mem_results_chars, List.forall₂_map_left_iff]
  simp only [beq_iff_eq]
  rw [List.forall₂_eq_eq_eq, eq_comm (a := word.toList)]

theorem mem_caseless {word : String} :
    m ∈ results w (caseless word) prev cs ↔ Spelled word m.text ∧ m.group? = none ∧ m.text ++ m.rest = cs := by
  rw [caseless, mem_results_chars, List.forall₂_map_left_iff]
  simp only [decide_eq_true_eq]
  rfl

theorem mem_oneOf {word : String} {words : List String} :
    m ∈ results w (oneOf word words) prev cs ↔
      (∃ name ∈ word :: words, Spelled name m.text) ∧ m.group? = none ∧ m.text ++ m.rest = cs := by
  induction words generalizing word with
  | nil => simp only [oneOf, mem_caseless, List.mem_singleton, exists_eq_left]
  | cons next words ih =>
    rw [oneOf, mem_results_alt, mem_caseless, ih, ← or_and_right]
    simp only [List.mem_cons, exists_eq_or_imp]

theorem mem_run {p : Char → Bool} :
    m ∈ results w (.atLeast 1 p) prev cs ↔ Run p m.text ∧ m.group? = none ∧ m.text ++ m.rest = cs := by
  have hlength : 1 ≤ m.text.length ↔ m.text ≠ [] := List.length_pos_iff
  rw [mem_results_atLeast, hlength, Run, and_assoc]

theorem bearer_takes (h : m ∈ results (isWord t) (bearer t) prev cs) :
    ∃ b s v, Spelled "bearer" b ∧ Run (isSpace t) s ∧ Run (fun c => !isSpace t c) v ∧
      isEdge (isWord t) prev cs = true ∧ m.text = (b ++ s) ++ v ∧ m.group? = some (b ++ s) := by
  obtain ⟨a, ha, v, hv, rfl⟩ := mem_results_seq.mp h
  obtain ⟨e, he, g, hg, rfl⟩ := mem_results_seq.mp ha
  obtain ⟨htext, hgroup, hrest, hedge⟩ := mem_results_edge.mp he
  obtain ⟨f, hf, rfl⟩ := mem_results_group.mp hg
  obtain ⟨b, hb, s, hs, rfl⟩ := mem_results_seq.mp hf
  obtain ⟨hrun, hvgroup, _⟩ := mem_run.mp hv
  refine ⟨b.text, s.text, v.text, (mem_caseless.mp hb).1, (mem_run.mp hs).1, hrun, hedge, ?_, ?_⟩
  · simp [Match.append, htext]
  · simp [Match.append, hvgroup]

theorem bearer_found {b s v rest : List Char} (hb : Spelled "bearer" b) (hs : Run (isSpace t) s)
    (hv : Run (fun c => !isSpace t c) v) (hedge : isEdge (isWord t) prev (b ++ (s ++ (v ++ rest))) = true) :
    ∃ m, m ∈ results (isWord t) (bearer t) prev (b ++ (s ++ (v ++ rest))) := by
  refine ⟨_, mem_results_seq.mpr ⟨⟨b ++ s, some (b ++ s), v ++ rest⟩, ?_, ⟨v, none, rest⟩, ?_, rfl⟩⟩
  · refine mem_results_seq.mpr ⟨⟨[], none, b ++ (s ++ (v ++ rest))⟩, ?_, ⟨b ++ s, some (b ++ s), v ++ rest⟩, ?_, rfl⟩
    · exact mem_results_edge.mpr ⟨rfl, rfl, rfl, hedge⟩
    · refine mem_results_group.mpr ⟨⟨b ++ s, none, v ++ rest⟩, ?_, rfl⟩
      exact mem_results_seq.mpr ⟨⟨b, none, s ++ (v ++ rest)⟩, mem_caseless.mpr ⟨hb, rfl, rfl⟩,
        ⟨s, none, v ++ rest⟩, mem_run.mpr ⟨hs, rfl, rfl⟩, rfl⟩
  · exact mem_run.mpr ⟨hv, rfl, rfl⟩

theorem mem_hfToken_body :
    m ∈ results w (.seq (literal "hf_") (.atLeast 1 Char.isAlphanum)) prev cs ↔
      (∃ a, Run Char.isAlphanum a ∧ m.text = "hf_".toList ++ a) ∧ m.group? = none ∧ m.text ++ m.rest = cs := by
  constructor
  · intro h
    obtain ⟨a, ha, b, hb, rfl⟩ := mem_results_seq.mp h
    obtain ⟨hatext, hagroup, hasplit⟩ := mem_literal.mp ha
    obtain ⟨hrun, hbgroup, hbsplit⟩ := mem_run.mp hb
    refine ⟨⟨b.text, hrun, by rw [← hatext]; rfl⟩, by simp [Match.append, hagroup, hbgroup], text_append_rest h⟩
  · rintro ⟨⟨a, hrun, htext⟩, hgroup, hsplit⟩
    refine mem_results_seq.mpr ⟨⟨"hf_".toList, none, a ++ m.rest⟩, ?_, ⟨a, none, m.rest⟩, ?_, ?_⟩
    · refine mem_literal.mpr ⟨rfl, rfl, ?_⟩
      rw [← hsplit, htext, List.append_assoc]
    · exact mem_run.mpr ⟨hrun, rfl, rfl⟩
    · cases m with
      | mk text group? rest =>
        subst htext hgroup
        rfl

theorem queryParameter_takes (h : m ∈ results w (queryParameter t) prev cs) :
    ∃ q name n v, (q = '?' ∨ q = '&') ∧ name ∈ "token" :: parameterNames ∧ Spelled name n ∧ Run (isValue t) v ∧
      m.text = (q :: (n ++ ['='])) ++ v ∧ m.group? = some (q :: (n ++ ['='])) := by
  obtain ⟨g, hg, v, hv, rfl⟩ := mem_results_seq.mp h
  obtain ⟨f, hf, rfl⟩ := mem_results_group.mp hg
  obtain ⟨q, hq, a, ha, rfl⟩ := mem_results_seq.mp hf
  obtain ⟨n, hn, e, he, rfl⟩ := mem_results_seq.mp ha
  obtain ⟨hrun, hvgroup, _⟩ := mem_run.mp hv
  obtain ⟨⟨name, hname, hspelled⟩, _, _⟩ := mem_oneOf.mp hn
  obtain ⟨c, hc, hqtext⟩ := one_char (mem_results_chars.mp hq).1
  have hetext := spelled_sign (l := '=') rfl (forall_of_all (by decide)) (mem_caseless.mp he).1
  refine ⟨c, name, n.text, v.text, by simpa using hc, hname, hspelled, hrun, ?_, ?_⟩
  · simp [Match.append, hqtext, hetext]
  · simp [Match.append, hvgroup, hqtext, hetext]

theorem queryParameter_found {q : Char} {name : String} {n v rest : List Char} (hq : q = '?' ∨ q = '&')
    (hname : name ∈ "token" :: parameterNames) (hn : Spelled name n) (hv : Run (isValue t) v) :
    ∃ m, m ∈ results w (queryParameter t) prev (q :: (n ++ '=' :: (v ++ rest))) := by
  refine ⟨_, mem_results_seq.mpr ⟨⟨q :: (n ++ ['=']), some (q :: (n ++ ['='])), v ++ rest⟩, ?_,
    ⟨v, none, rest⟩, mem_run.mpr ⟨hv, rfl, rfl⟩, rfl⟩⟩
  refine mem_results_group.mpr ⟨⟨q :: (n ++ ['=']), none, v ++ rest⟩, ?_, rfl⟩
  refine mem_results_seq.mpr ⟨⟨[q], none, n ++ '=' :: (v ++ rest)⟩, ?_, ⟨n ++ ['='], none, v ++ rest⟩, ?_, rfl⟩
  · exact mem_results_chars.mpr ⟨.cons (by simpa using hq) .nil, rfl, rfl⟩
  · exact mem_results_seq.mpr ⟨⟨n, none, '=' :: (v ++ rest)⟩, mem_oneOf.mpr ⟨⟨name, hname, hn⟩, rfl, rfl⟩,
      ⟨['='], none, v ++ rest⟩, mem_caseless.mpr ⟨.cons (by decide) .nil, rfl, rfl⟩, rfl⟩

theorem userinfo_takes (h : m ∈ results w (userinfo t) prev cs) :
    ∃ s user password, Spelled "https://" s ∧ Run (isUser t) user ∧ Run (isUser t) password ∧
      m.text = s ++ (user ++ ':' :: (password ++ ['@'])) ∧ m.group? = some s := by
  obtain ⟨g, hg, a, ha, rfl⟩ := mem_results_seq.mp h
  obtain ⟨s, hs, rfl⟩ := mem_results_group.mp hg
  obtain ⟨u, hu, b, hb, rfl⟩ := mem_results_seq.mp ha
  obtain ⟨c, hc, d, hd, rfl⟩ := mem_results_seq.mp hb
  obtain ⟨p, hp, e, he, rfl⟩ := mem_results_seq.mp hd
  obtain ⟨huser, hugroup, _⟩ := mem_run.mp hu
  obtain ⟨hpassword, hpgroup, _⟩ := mem_run.mp hp
  have hctext := spelled_sign (l := ':') rfl (forall_of_all (by decide)) (mem_caseless.mp hc).1
  have hetext := spelled_sign (l := '@') rfl (forall_of_all (by decide)) (mem_caseless.mp he).1
  refine ⟨s.text, u.text, p.text, (mem_caseless.mp hs).1, huser, hpassword, ?_, ?_⟩
  · simp [Match.append, hctext, hetext]
  · simp [Match.append, hugroup, hpgroup, (mem_caseless.mp hc).2.1, (mem_caseless.mp he).2.1]

theorem userinfo_found {s user password rest : List Char} (hs : Spelled "https://" s) (huser : Run (isUser t) user)
    (hpassword : Run (isUser t) password) :
    ∃ m, m ∈ results w (userinfo t) prev (s ++ (user ++ ':' :: (password ++ '@' :: rest))) := by
  refine ⟨_, mem_results_seq.mpr ⟨⟨s, some s, user ++ ':' :: (password ++ '@' :: rest)⟩, ?_,
    ⟨user ++ ':' :: (password ++ ['@']), none, rest⟩, ?_, rfl⟩⟩
  · exact mem_results_group.mpr ⟨⟨s, none, _⟩, mem_caseless.mpr ⟨hs, rfl, rfl⟩, rfl⟩
  · refine mem_results_seq.mpr ⟨⟨user, none, ':' :: (password ++ '@' :: rest)⟩, mem_run.mpr ⟨huser, rfl, rfl⟩,
      ⟨':' :: (password ++ ['@']), none, rest⟩, ?_, rfl⟩
    refine mem_results_seq.mpr ⟨⟨[':'], none, password ++ '@' :: rest⟩,
      mem_caseless.mpr ⟨.cons (by decide) .nil, rfl, rfl⟩, ⟨password ++ ['@'], none, rest⟩, ?_, rfl⟩
    exact mem_results_seq.mpr ⟨⟨password, none, '@' :: rest⟩, mem_run.mpr ⟨hpassword, rfl, rfl⟩,
      ⟨['@'], none, rest⟩, mem_caseless.mpr ⟨.cons (by decide) .nil, rfl, rfl⟩, rfl⟩

end Membership

end FireviewerOrchestrator.BootstrapStatus
