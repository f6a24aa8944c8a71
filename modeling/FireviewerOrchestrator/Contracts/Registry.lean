/-
  The model registry: which pinned models may run a role, and how their candidates are arbitrated.

  `ModelGroupSpec.validate` is the check every group passes before a session accepts it.  What the
  session relies on is read off it once, as lemmas.
-/
import FireviewerOrchestrator.Contracts.Python
import Mathlib.Data.List.Sort

set_option linter.unusedVariables false

namespace FireviewerOrchestrator

/-! ## Specifications -/

inductive ModelRole where
  | asr | burnedArea | fireDetection | visualGrounding | multimodalExtraction | firePointing
  | sourceResearch | consensusJudge
  deriving DecidableEq, Repr

def ModelRole.value : ModelRole → String
  | asr => "asr"
  | burnedArea => "burned_area"
  | fireDetection => "fire_detection"
  | visualGrounding => "visual_grounding"
  | multimodalExtraction => "multimodal_extraction"
  | firePointing => "fire_pointing"
  | sourceResearch => "source_research"
  | consensusJudge => "consensus_judge"

inductive ModelSource where
  | huggingface | localModel
  deriving DecidableEq, Repr

structure ModelSpec where
  role : ModelRole
  modelId : String
  revision : String
  source : ModelSource := .huggingface
  deriving DecidableEq, Repr

inductive ConsensusStrategy where
  | singleWithRules | cascade | quorum
  deriving DecidableEq, Repr

def ConsensusStrategy.value : ConsensusStrategy → String
  | singleWithRules => "single_with_rules"
  | cascade => "cascade"
  | quorum => "quorum"

inductive ConsensusFailureDecision where
  | abstain | humanReview
  deriving DecidableEq, Repr

structure ModelCandidateSpec where
  candidateId : String
  spec : ModelSpec
  rank : Int
  deriving DecidableEq, Repr

structure ModelGroupSpec where
  role : ModelRole
  candidates : List ModelCandidateSpec
  strategy : ConsensusStrategy := .singleWithRules
  minimumSuccessful : Nat := 1
  minimumAgreeing : Nat := 1
  agreementThreshold : ℚ := 1
  disagreementDecision : ConsensusFailureDecision := .humanReview
  alwaysChallenge : Bool := false
  adjudicator : Option ModelCandidateSpec := none
  adjudicationConfidenceThreshold : ℚ := 13 / 20
  deriving DecidableEq, Repr

/-! ## Validation -/

/-- A digit of `[0-9a-f]`. -/
def isLowerHex (c : Char) : Bool := c.isDigit || ('a' ≤ c && c ≤ 'f')

def isHexOfLength (n : Nat) (s : List Char) : Bool := s.length == n && s.all isLowerHex

def isAsciiAlnum (c : Char) : Bool := c.isAlphanum

/-- `[A-Za-z0-9][A-Za-z0-9._:-]{0,127}`, on the whole text. -/
def isSafeIdentifier (s : String) : Bool :=
  match s.toList with
  | [] => false
  | c :: cs =>
      isAsciiAlnum c && cs.length ≤ 127 &&
        cs.all fun d => isAsciiAlnum d || d == '.' || d == '_' || d == ':' || d == '-'

/-- `if condition: raise RegistryError(message)`. -/
def refuseIf (condition : Bool) (message : String) : Except PyExc Unit :=
  if condition then .error (.registryError message) else .ok ()

@[simp] theorem refuseIf_eq_ok {condition : Bool} {message : String} :
    refuseIf condition message = .ok () ↔ condition = false := by
  cases condition <;> simp [refuseIf]

/-- A model is pinned: by the commit of its repository, or by the digest of its files. -/
def ModelSpec.validate (spec : ModelSpec) : Except PyExc Unit := do
  refuseIf (spec.source = .huggingface && !isHexOfLength 40 spec.revision.toList)
    (spec.role.value ++ " must use a 40-character immutable commit SHA")
  refuseIf (spec.source = .localModel &&
      !(spec.revision.toList.take 7 = "sha256:".toList && isHexOfLength 64 (spec.revision.toList.drop 7)))
    (spec.role.value ++ " local model must use a sha256 digest")

/-- The candidate has a safe name and one of eight ranks, and its model is pinned. -/
def ModelCandidateSpec.validate (candidate : ModelCandidateSpec) : Except PyExc Unit := do
  refuseIf (!isSafeIdentifier candidate.candidateId)
    ("invalid model candidate id: '" ++ candidate.candidateId ++ "'")
  refuseIf (candidate.rank < 1 || 8 < candidate.rank)
    (candidate.candidateId ++ " rank must be between 1 and 8")
  candidate.spec.validate

/-- `for candidate in candidates: candidate.validate()`. -/
def validateAll : List ModelCandidateSpec → Except PyExc Unit
  | [] => .ok ()
  | candidate :: rest => do
      candidate.validate
      validateAll rest

namespace ModelGroupSpec

/-- The names the candidates answer under, in the order of their ranks. -/
def candidateIds (group : ModelGroupSpec) : List String :=
  group.candidates.map ModelCandidateSpec.candidateId

def ranks (group : ModelGroupSpec) : List Int := group.candidates.map ModelCandidateSpec.rank

/-- The judge is none of the candidates: it has its own role, name and rank. -/
def validateAdjudicator (group : ModelGroupSpec) : Except PyExc Unit :=
  match group.adjudicator with
  | none => .ok ()
  | some adjudicator => do
      refuseIf (adjudicator.spec.role ≠ .consensusJudge)
        (group.role.value ++ " adjudicator must use consensus_judge role")
      refuseIf (adjudicator.candidateId ∈ group.candidateIds)
        (group.role.value ++ " adjudicator candidate id must be unique")
      refuseIf (adjudicator.rank ∈ group.ranks)
        (group.role.value ++ " adjudicator rank must be unique")
      adjudicator.validate

/-- The checks of a group in the order of the source: its shape, its thresholds, what its strategy needs,
    and last the judge and the candidates themselves. -/
def validate (group : ModelGroupSpec) : Except PyExc Unit := do
  refuseIf group.candidates.isEmpty (group.role.value ++ " model group cannot be empty")
  refuseIf (¬ group.candidateIds.Nodup)
    (group.role.value ++ " model group contains duplicate candidate ids")
  refuseIf (¬ group.ranks.Nodup) (group.role.value ++ " model group contains duplicate ranks")
  refuseIf (group.ranks ≠ group.ranks.insertionSort (· ≤ ·))
    (group.role.value ++ " model candidates must be ordered by rank")
  refuseIf (group.candidates.any (·.spec.role ≠ group.role))
    (group.role.value ++ " model group contains a candidate for another role")
  refuseIf (¬ (0 ≤ group.agreementThreshold ∧ group.agreementThreshold ≤ 1))
    (group.role.value ++ " agreement threshold must be between 0 and 1")
  refuseIf (¬ (0 ≤ group.adjudicationConfidenceThreshold ∧ group.adjudicationConfidenceThreshold ≤ 1))
    (group.role.value ++ " adjudication confidence threshold must be between 0 and 1")
  refuseIf (¬ (1 ≤ group.minimumSuccessful ∧ group.minimumSuccessful ≤ group.candidates.length))
    (group.role.value ++ " minimum_successful is outside the candidate count")
  refuseIf (¬ (1 ≤ group.minimumAgreeing ∧ group.minimumAgreeing ≤ group.candidates.length))
    (group.role.value ++ " minimum_agreeing is outside the candidate count")
  refuseIf (group.strategy = .singleWithRules && group.candidates.length ≠ 1)
    (group.role.value ++ " single_with_rules requires exactly one candidate")
  refuseIf (group.strategy = .quorum && group.candidates.length < 2)
    (group.role.value ++ " quorum requires at least two candidates")
  refuseIf (group.strategy = .quorum && group.adjudicator.isNone)
    (group.role.value ++ " quorum requires a final adjudicator")
  refuseIf (1 < group.minimumAgreeing && group.adjudicator.isNone)
    (group.role.value ++ " multi-candidate agreement requires a final adjudicator")
  group.validateAdjudicator
  validateAll group.candidates

/-! ### What a validated group guarantees -/

variable {group : ModelGroupSpec}

/-- An `Except` sequence that ends well went well in both parts. -/
theorem seq_eq_ok {x : Except PyExc Unit} {f : Unit → Except PyExc Unit} :
    (x >>= f) = .ok () ↔ x = .ok () ∧ f () = .ok () := by
  cases x with
  | ok u =>
    constructor
    · exact fun h => ⟨rfl, h⟩
    · exact fun h => h.2
  | error e =>
    constructor
    · intro h
      cases h
    · rintro ⟨h, -⟩
      cases h

/-- A group has somebody to ask. -/
theorem candidates_ne_nil (h : group.validate = .ok ()) : group.candidates ≠ [] := by
  simp only [validate, seq_eq_ok, refuseIf_eq_ok] at h
  intro hnil
  simp [hnil] at h

/-- No two candidates of a group answer under one name. -/
theorem candidateIds_nodup (h : group.validate = .ok ()) : group.candidateIds.Nodup := by
  simp only [validate, seq_eq_ok, refuseIf_eq_ok] at h
  simpa using h.2.1

/-- A group that nobody has answered is never a success. -/
theorem minimumSuccessful_pos (h : group.validate = .ok ()) : 1 ≤ group.minimumSuccessful := by
  simp only [validate, seq_eq_ok, refuseIf_eq_ok, decide_eq_false_iff_not, not_not] at h
  exact h.2.2.2.2.2.2.2.1.1

/-- A group whose candidates can contradict each other has a judge. -/
theorem adjudicator_isSome (h : group.validate = .ok ())
    (hs : group.strategy = .quorum ∨ 1 < group.minimumAgreeing) : group.adjudicator.isSome = true := by
  simp only [validate, seq_eq_ok, refuseIf_eq_ok, Bool.and_eq_false_iff, decide_eq_false_iff_not,
    Option.isNone_eq_false_iff] at h
  obtain ⟨-, -, -, -, -, -, -, -, -, -, -, hq, hm, -⟩ := h
  rcases hs with hs | hs
  · exact hq.resolve_left (not_not_intro hs)
  · exact hm.resolve_left (not_not_intro hs)

end ModelGroupSpec

end FireviewerOrchestrator
