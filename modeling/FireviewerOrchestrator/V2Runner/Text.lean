/-
  The texts the version 2.0 conversion computes: identifiers, semantic anchors, fact categories and
  fact keys.

  What it takes from the standard library without its result depending on how that is done is a
  `Host`: the hash function, the Unicode case tables, the JSON parser, the formats of dates, and the
  readings of the clock.
-/
import FireviewerOrchestrator.Contracts.Identifiers
import FireviewerOrchestrator.Contracts.OutputV2

set_option linter.unusedVariables false

namespace FireviewerOrchestrator

/-- The readings of the clock and of the timer that an orchestration stage takes. -/
structure StageClock where
  startedAt : Int
  started : ℚ
  finishedAt : Int
  finished : ℚ

structure Host where
  sha256 : Sha256
  casefold : String → String
  upper : String → String
  /-- `json.loads`; a text that is not JSON raises `JSONDecodeError`. -/
  jsonLoads : String → Except PyExc JsonValue
  isoformat : DateTime → String
  fusionClock : StageClock
  reportClock : StageClock

/-- A host that knows the ASCII letters and one moment. -/
def Host.ofSha256 (sha256 : Sha256) (moment : String) : Host where
  sha256 := sha256
  casefold text := String.ofList (text.toList.map Char.toLower)
  upper text := String.ofList (text.toList.map Char.toUpper)
  jsonLoads _ := .error (.raised "JSONDecodeError" "Expecting value")
  isoformat _ := moment
  fusionClock := ⟨0, 0, 0, 0⟩
  reportClock := ⟨0, 0, 0, 0⟩

namespace V2Runner

/-! ## Words -/

/-- `token in text`. -/
def containsText (token text : String) : Bool :=
  text.toList.tails.any fun rest => token.toList.isPrefixOf rest

/-- `any(token in text for token in tokens)`. -/
def containsAny (tokens : List String) (text : String) : Bool :=
  tokens.any fun token => containsText token text

/-- `_semantic_anchor`. -/
def semanticAnchor (host : Host) (label : String) : Option SourceSemanticAnchorV2 :=
  let lowered := host.casefold label
  if containsAny ["smoke", "fum"] lowered then some .smokeColumnBase
  else if containsAny ["flame", "fire", "feu"] lowered then some .activeFirePoint
  else none

/-- `_fact_category`: the first family of words one of which occurs. -/
def factCategory (host : Host) (factType : String) : FactCategory :=
  let lowered := host.casefold factType
  if containsAny ["burned_area", "surface_brul", "hectare"] lowered then .burnedArea
  else if containsAny ["smoke", "flame", "fire", "fum", "feu", "progression"] lowered then .fireActivity
  else if containsAny ["vehicle", "aircraft", "personnel", "pompier", "avion", "helicop", "resource", "moyen",
      "donation", "don_"] lowered then .resources
  else if containsAny ["evac", "confin", "shelter", "hébergement", "hebergement"] lowered then .evacuation
  else if containsAny ["route", "road", "access", "restriction", "fermeture"] lowered then .access
  else if containsAny ["building", "infrastructure", "bâtiment", "casualty", "damage", "victime", "degat",
      "service_disruption"] lowered then .infrastructure
  else if containsAny ["weather", "wind", "vent", "météo", "air_quality", "pollution"] lowered then .weather
  else .other

/-! ## Fact keys -/

/-- `re.sub(r"[^A-Za-z0-9._:-]+", "_", …)`: a run of other characters becomes one underscore;
    `inRun` says that one is going on. -/
def replaceRuns (inRun : Bool) : List Char → List Char
  | [] => []
  | c :: cs =>
      if isKeyChar c then c :: replaceRuns false cs
      else if inRun then replaceRuns true cs
      else '_' :: replaceRuns true cs

/-- `_.:-`. -/
def isStripped (c : Char) : Bool := c == '_' || c == '.' || c == ':' || c == '-'

/-- `text.strip("_.:-")`. -/
def strip (text : List Char) : List Char :=
  ((text.dropWhile isStripped).reverse.dropWhile isStripped).reverse

/-- `_safe_fact_key`. -/
def safeFactKey (value : String) : String :=
  let normalized := strip (replaceRuns false value.toList)
  String.ofList ((if normalized.isEmpty then "observation".toList else normalized).take 128)

/-! ## What a fact key is -/

/-- The substitution leaves key characters only, … -/
theorem isKeyChar_of_mem_replaceRuns {text : List Char} {c : Char} :
    ∀ inRun, c ∈ replaceRuns inRun text → isKeyChar c = true := by
  induction text with
  | nil => exact fun inRun h => absurd h List.not_mem_nil
  | cons d text ih =>
    intro inRun h
    rw [replaceRuns] at h
    split at h
    · rename_i hkey
      rcases List.mem_cons.mp h with rfl | h
      · exact hkey
      · exact ih false h
    · split at h
      · exact ih true h
      · rcases List.mem_cons.mp h with rfl | h
        · decide
        · exact ih true h

/-- … and a text of key characters as it is. -/
theorem replaceRuns_eq_self {text : List Char} (hkey : ∀ c ∈ text, isKeyChar c = true) :
    ∀ inRun, replaceRuns inRun text = text := by
  induction text with
  | nil => exact fun inRun => rfl
  | cons c text ih =>
    intro inRun
    have hc : isKeyChar c = true := hkey c List.mem_cons_self
    rw [replaceRuns, if_pos hc, ih (fun d hd => hkey d (List.mem_cons_of_mem c hd))]

/-- What is stripped away is at the two ends. -/
theorem strip_sublist (text : List Char) : (strip text).Sublist text := by
  have hback : (strip text).Sublist (text.dropWhile isStripped) := by
    apply List.reverse_sublist.mp
    rw [strip, List.reverse_reverse]
    exact List.dropWhile_sublist isStripped
  exact hback.trans (List.dropWhile_sublist isStripped)

/-- A stripped text begins with another character: the second pass takes from the end what the first
    one left, so that the beginning stays. -/
theorem not_isStripped_of_strip {text rest : List Char} {c : Char} (h : strip text = c :: rest) :
    isStripped c = false := by
  have hbegins : c :: rest <+: text.dropWhile isStripped := by
    rw [← h, strip, ← List.reverse_suffix, List.reverse_reverse]
    exact List.dropWhile_suffix isStripped
  obtain ⟨after, hafter⟩ := hbegins
  have hhead := List.head?_dropWhile_not isStripped text
  rw [← hafter] at hhead
  simpa using hhead

theorem dropWhile_eq_self {text : List Char} (h : ∀ c, text.head? = some c → isStripped c = false) :
    text.dropWhile isStripped = text := by
  cases text with
  | nil => rfl
  | cons c rest => rw [List.dropWhile_cons, h c rfl, if_neg Bool.false_ne_true]

theorem strip_eq_self {text : List Char} (hfirst : ∀ c, text.head? = some c → isStripped c = false)
    (hlast : ∀ c, text.getLast? = some c → isStripped c = false) : strip text = text := by
  have hend : ∀ c, text.reverse.head? = some c → isStripped c = false := by
    intro c hc
    apply hlast c
    rw [← hc, List.head?_reverse]
  rw [strip, dropWhile_eq_self hfirst, dropWhile_eq_self hend, List.reverse_reverse]

theorem isAsciiAlnum_of_isKeyChar {c : Char} (hkey : isKeyChar c = true) (hkept : isStripped c = false) :
    isAsciiAlnum c = true := by
  simp only [isStripped, Bool.or_eq_false_iff] at hkept
  simpa [isKeyChar, hkept] using hkey

theorem not_isStripped_of_isAsciiAlnum {c : Char} (h : isAsciiAlnum c = true) : isStripped c = false := by
  cases hstripped : isStripped c with
  | false => rfl
  | true =>
    -- None of the four is a letter or a digit.
    simp only [isStripped, Bool.or_eq_true, beq_iff_eq] at hstripped
    rcases hstripped with ((rfl | rfl) | rfl) | rfl <;> exact absurd h (by decide)

theorem safeFactKey_safe (value : String) : isSafeIdentifier (safeFactKey value) = true := by
  unfold safeFactKey
  dsimp only
  cases hkept : strip (replaceRuns false value.toList) with
  | nil => decide
  | cons c rest =>
    have hkey : ∀ d ∈ c :: rest, isKeyChar d = true := by
      intro d hd
      rw [← hkept] at hd
      exact isKeyChar_of_mem_replaceRuns false ((strip_sublist _).subset hd)
    have hfirst : isAsciiAlnum c = true :=
      isAsciiAlnum_of_isKeyChar (hkey c List.mem_cons_self) (not_isStripped_of_strip hkept)
    rw [List.isEmpty_cons, if_neg Bool.false_ne_true]
    refine isSafeIdentifier_iff.mpr ⟨c, rest.take 127, ?_, hfirst, ?_, ?_⟩
    · rw [String.toList_ofList, List.take_succ_cons]
    · rw [List.length_take]
      omega
    · exact fun d hd => hkey d (List.mem_cons_of_mem c (List.mem_of_mem_take hd))

theorem safeFactKey_eq_self {value : String} (hsafe : isSafeIdentifier value = true)
    (hlast : ∀ c, value.toList.getLast? = some c → isStripped c = false) : safeFactKey value = value := by
  obtain ⟨c, cs, hvalue, hc, hlength, hcs⟩ := isSafeIdentifier_iff.mp hsafe
  have hkey : ∀ d ∈ value.toList, isKeyChar d = true := by
    intro d hd
    rw [hvalue] at hd
    rcases List.mem_cons.mp hd with rfl | hd
    · exact Bool.or_eq_true_iff.mpr (Or.inl (by simp [hc]))
    · exact hcs d hd
  have hfirst : ∀ d, value.toList.head? = some d → isStripped d = false := by
    intro d hd
    rw [hvalue] at hd
    obtain rfl := Option.some.inj hd
    exact not_isStripped_of_isAsciiAlnum hc
  have hshort : value.toList.length ≤ 128 := by
    rw [hvalue, List.length_cons]
    omega
  have hnonempty : value.toList.isEmpty = false := by
    rw [hvalue]
    rfl
  rw [safeFactKey, replaceRuns_eq_self hkey false, strip_eq_self hfirst hlast]
  rw [hnonempty, if_neg Bool.false_ne_true, List.take_of_length_le hshort, String.ofList_toList]

/-- **A fact key is an identifier**, whatever it is made of; and an identifier that does not end in a
    separator is its own fact key. -/
theorem safeFactKey_canonical (value : String) : isSafeIdentifier (safeFactKey value) = true ∧
    (isSafeIdentifier value = true →
      (∀ c, value.toList.getLast? = some c → c ≠ '_' ∧ c ≠ '.' ∧ c ≠ ':' ∧ c ≠ '-') →
      safeFactKey value = value) := by
  refine ⟨safeFactKey_safe value, ?_⟩
  intro hsafe hlast
  apply safeFactKey_eq_self hsafe
  intro c hc
  obtain ⟨hunderscore, hdot, hcolon, hdash⟩ := hlast c hc
  simp [isStripped, hunderscore, hdot, hcolon, hdash]

example : safeFactKey "--surface brûlée (ha): " = "surface_br_l_e_ha" := by decide

end V2Runner

end FireviewerOrchestrator
