/-
  Stable identifiers: a readable head and the beginning of a digest of the parts.

  The digest is a parameter, known only to be a SHA-256 digest in its hexadecimal form.  That is all
  an identifier needs to be a valid one.
-/
import FireviewerOrchestrator.Contracts.Records
import FireviewerOrchestrator.Library.Separated

set_option linter.unusedVariables false

namespace FireviewerOrchestrator

/-- `sha256(text.encode("utf-8")).hexdigest()`. -/
structure Sha256 where
  hexdigest : String → String
  is_sha256 : ∀ text, Pydantic.isSha256 (hexdigest text) = true

/-- A table of digests; every other text has the digest given as the default. -/
def Sha256.ofDigests (digests : List (String × String)) (default : String)
    (valid : ∀ digest ∈ default :: digests.map Prod.snd, Pydantic.isSha256 digest = true) : Sha256 where
  hexdigest text := (digests.lookup text).getD default
  is_sha256 text := by
    apply valid
    cases hlookup : digests.lookup text with
    | none => exact List.mem_cons_self
    | some digest =>
      obtain ⟨before, after, rfl, -⟩ := List.lookup_eq_some_iff.mp hlookup
      simp

/-- The digest of the empty text is one, for a table that needs no other. -/
theorem emptyText_digest : ∀ digest ∈ "e3b0c44298fc1c149afbf4c8996fb92427ae41e4649b934ca495991b7852b855" ::
    ([] : List (String × String)).map Prod.snd, Pydantic.isSha256 digest = true := by decide

/-- The separator of the parts that are hashed. -/
def unitSeparator : String := "\x1f"

/-- `_stable_id(prefix, *parts)`. -/
def stableId (sha256 : Sha256) (head : String) (parts : List String) : String :=
  head ++ "-" ++ String.ofList ((sha256.hexdigest (unitSeparator.intercalate parts)).toList.take 24)

/-! ## They are valid -/

/-- `[A-Za-z0-9._:-]`. -/
def isKeyChar (c : Char) : Bool := isAsciiAlnum c || c == '.' || c == '_' || c == ':' || c == '-'

theorem isSafeIdentifier_iff {s : String} : isSafeIdentifier s = true ↔
    ∃ c cs, s.toList = c :: cs ∧ isAsciiAlnum c = true ∧ cs.length ≤ 127 ∧ ∀ d ∈ cs, isKeyChar d = true := by
  unfold isSafeIdentifier
  constructor
  · intro h
    split at h
    · cases h
    · rename_i c cs hs
      simp only [Bool.and_eq_true, decide_eq_true_eq, List.all_eq_true] at h
      exact ⟨c, cs, hs, h.1.1, h.1.2, h.2⟩
  · rintro ⟨c, cs, hs, hc, hlength, hcs⟩
    rw [hs]
    simp only [Bool.and_eq_true, decide_eq_true_eq, List.all_eq_true]
    exact ⟨⟨hc, hlength⟩, hcs⟩

theorem isKeyChar_of_isLowerHex {c : Char} (h : isLowerHex c = true) : isKeyChar c = true := by
  have halnum : isAsciiAlnum c = true := by
    rcases Bool.or_eq_true_iff.mp h with hdigit | hletter
    · exact Bool.or_eq_true_iff.mpr (Or.inr hdigit)
    · refine Bool.or_eq_true_iff.mpr (Or.inl (Bool.or_eq_true_iff.mpr (Or.inr ?_)))
      obtain ⟨hlow, hhigh⟩ := Bool.and_eq_true_iff.mp hletter
      have hlow := of_decide_eq_true hlow
      have hhigh := of_decide_eq_true hhigh
      exact Bool.and_eq_true_iff.mpr
        ⟨decide_eq_true hlow, decide_eq_true (hhigh.trans (by decide))⟩
  rw [isKeyChar, halnum]
  rfl

/-- The beginning of the digest. -/
def Sha256.shortDigest (sha256 : Sha256) (text : String) : String :=
  String.ofList ((sha256.hexdigest text).toList.take 24)

/-- A safe head with a digest behind it is safe. -/
theorem head_digest_safe (sha256 : Sha256) {head : String} (text : String)
    (hhead : isSafeIdentifier head = true) (hlength : head.length ≤ 100) :
    isSafeIdentifier (head ++ "-" ++ sha256.shortDigest text) = true := by
  obtain ⟨c, cs, hs, hc, -, hcs⟩ := isSafeIdentifier_iff.mp hhead
  have hhex : ∀ d ∈ (sha256.hexdigest text).toList, isLowerHex d = true :=
    List.all_eq_true.mp (Bool.and_eq_true_iff.mp (sha256.is_sha256 text)).2
  refine isSafeIdentifier_iff.mpr ⟨c, cs ++ '-' :: (sha256.hexdigest text).toList.take 24, ?_, hc, ?_, ?_⟩
  · simp [Sha256.shortDigest, hs]
  · have hcsLength : cs.length + 1 ≤ 100 := by
      rw [← String.length_toList, hs, List.length_cons] at hlength
      exact hlength
    rw [List.length_append, List.length_cons, List.length_take]
    omega
  · intro d hd
    rcases List.mem_append.mp hd with hd | hd
    · exact hcs d hd
    · rcases List.mem_cons.mp hd with rfl | hd
      · decide
      · exact isKeyChar_of_isLowerHex (hhex d (List.mem_of_mem_take hd))

/-- **A stable identifier is a safe one**, whatever was hashed. -/
theorem stableId_safe (sha256 : Sha256) {head : String} (parts : List String)
    (hhead : isSafeIdentifier head = true) (hlength : head.length ≤ 100) :
    isSafeIdentifier (stableId sha256 head parts) = true :=
  head_digest_safe sha256 (unitSeparator.intercalate parts) hhead hlength

/-! ## Different parts, different identifiers -/

/-- The text that is hashed. -/
def joinedParts (parts : List String) : String := unitSeparator.intercalate parts

theorem Sha256.length_shortDigest (sha256 : Sha256) (text : String) :
    (sha256.shortDigest text).toList.length = 24 := by
  have hdigest := (Bool.and_eq_true_iff.mp (sha256.is_sha256 text)).1
  have hlength : (sha256.hexdigest text).toList.length = 64 := by simpa using hdigest
  rw [shortDigest, String.toList_ofList, List.length_take, hlength]
  rfl

/-- Of these texts, no two have digests that begin the same. -/
def Sha256.Distinguishes (sha256 : Sha256) (texts : List String) : Prop :=
  ∀ a ∈ texts, ∀ b ∈ texts, sha256.shortDigest a = sha256.shortDigest b → a = b

instance (sha256 : Sha256) (texts : List String) : Decidable (sha256.Distinguishes texts) :=
  inferInstanceAs (Decidable (∀ a ∈ texts, ∀ b ∈ texts, sha256.shortDigest a = sha256.shortDigest b → a = b))

theorem Sha256.Distinguishes.mono {sha256 : Sha256} {texts texts' : List String}
    (h : sha256.Distinguishes texts) (hsub : ∀ a ∈ texts', a ∈ texts) : sha256.Distinguishes texts' :=
  fun a ha b hb => h a (hsub a ha) b (hsub b hb)

/-- The parts that can be read back: no separator in them, and at least one. -/
def PlainParts (parts : List String) : Prop := parts ≠ [] ∧ ∀ p ∈ parts, Separated.Free '\x1f' p

theorem joinedParts_inj {parts parts' : List String} (h : PlainParts parts) (h' : PlainParts parts') :
    joinedParts parts = joinedParts parts' ↔ parts = parts' := by
  constructor
  · exact fun heq => Separated.join_injective h.1 h'.1 h.2 h'.2 heq
  · rintro rfl
    rfl

/-- One head, and digests that are told apart: the identifiers are as different as the texts. -/
theorem stableId_inj {sha256 : Sha256} {head : String} {parts parts' : List String} {texts : List String}
    (hdist : sha256.Distinguishes texts) (h : joinedParts parts ∈ texts) (h' : joinedParts parts' ∈ texts) :
    stableId sha256 head parts = stableId sha256 head parts' ↔ joinedParts parts = joinedParts parts' := by
  constructor
  · intro heq
    have hdigest : sha256.shortDigest (joinedParts parts) = sha256.shortDigest (joinedParts parts') :=
      String.append_right_inj (head ++ "-") |>.mp heq
    exact hdist _ h _ h' hdigest
  · intro heq
    unfold stableId
    rw [show unitSeparator.intercalate parts = unitSeparator.intercalate parts' from heq]

/-- **Texts that differ pairwise give identifiers that differ pairwise.** -/
theorem stableId_nodup {sha256 : Sha256} {head : String} {ids : List (List String)}
    (hdist : sha256.Distinguishes (ids.map joinedParts)) (hnodup : (ids.map joinedParts).Nodup) :
    (ids.map (stableId sha256 head)).Nodup := by
  rw [List.nodup_map_iff_inj_on hnodup.of_map]
  intro parts hparts parts' hparts' heq
  have hjoined := (stableId_inj hdist (List.mem_map_of_mem hparts) (List.mem_map_of_mem hparts')).mp heq
  exact List.inj_on_of_nodup_map hnodup hparts hparts' hjoined

/-- Of parts that can be read back, the identifiers repeat exactly where the parts do. -/
theorem stableId_nodup_iff {sha256 : Sha256} {head : String} {ids : List (List String)}
    (hdist : sha256.Distinguishes (ids.map joinedParts)) (hplain : ∀ parts ∈ ids, PlainParts parts) :
    (ids.map (stableId sha256 head)).Nodup ↔ ids.Nodup := by
  constructor
  · exact List.Nodup.of_map _
  · intro hnodup
    refine stableId_nodup hdist ?_
    rw [List.nodup_map_iff_inj_on hnodup]
    exact fun parts hparts parts' hparts' => (joinedParts_inj (hplain parts hparts) (hplain parts' hparts')).mp

theorem isKeyChar_of_isSafeIdentifier {s : String} (h : isSafeIdentifier s = true) :
    ∀ d ∈ s.toList, isKeyChar d = true := by
  obtain ⟨c, cs, hs, hc, -, hcs⟩ := isSafeIdentifier_iff.mp h
  rw [hs, List.forall_mem_cons]
  refine ⟨?_, hcs⟩
  rw [isKeyChar, hc, Bool.true_or, Bool.true_or, Bool.true_or, Bool.true_or]

/-- A safe identifier has no separator in it. -/
theorem free_of_isSafeIdentifier {s : String} (h : isSafeIdentifier s = true) : Separated.Free '\x1f' s := by
  intro hmem
  have hkey := isKeyChar_of_isSafeIdentifier h _ hmem
  exact absurd hkey (by decide)

end FireviewerOrchestrator
