/-
  Consensus between the candidates of one stage.

  The session only relies on the shape of these functions (`ConsensusFunctions` is a parameter of
  it).  The functions below are the ones it really runs; the similarity of two candidates' results,
  a text and geometry metric, stays a parameter of them.
-/
import FireviewerOrchestrator.Contracts.Records
import FireviewerOrchestrator.Library.Dict

set_option linter.unusedVariables false

namespace FireviewerOrchestrator

/-! ## What is exchanged -/

structure SuccessfulCandidate where
  candidateId : String
  results : Dict String ItemResult
  repaired : Bool

structure ConsensusEvaluation where
  decision : ConsensusDecision
  selectedCandidateId : Option String
  agreementScore : Option ℚ
  reasonCodes : List String
  downstreamAllowed : Bool
  comparisonPayload : JsonFields
  requiresAdjudication : Bool := false

structure JudgeCandidate where
  candidateId : String
  modelId : String
  revision : String
  outputPayload : JsonFields

structure ConsensusJudgeVerdict where
  selectedCandidateId : Option String
  confidence : ℚ
  reasonCodes : List String
  outputPayload : JsonFields

/-- The consensus functions, as the session sees them. -/
structure ConsensusFunctions where
  evaluateConsensus :
    PipelineModelRole → ModelGroupSpec → List SuccessfulCandidate → Except PyExc ConsensusEvaluation
  applyAdjudication :
    ConsensusEvaluation → ConsensusJudgeVerdict → List String → ℚ → ConsensusFailureDecision →
      Except PyExc ConsensusEvaluation
  candidateRequiresChallenge : PipelineModelRole → Dict String ItemResult → Bool

/-- **What the session relies on**: for a validated group and candidates of that group, no consensus
    function raises, every evaluation gives a reason, and a judge is only asked for where the group
    has one. -/
structure ConsensusFunctions.Total (consensus : ConsensusFunctions) : Prop where
  evaluateConsensus : ∀ role group successful, group.validate = .ok () →
    (∀ candidate ∈ successful, candidate.candidateId ∈ group.candidateIds) →
    ∃ evaluation, consensus.evaluateConsensus role group successful = .ok evaluation ∧
      evaluation.reasonCodes ≠ [] ∧
      (evaluation.requiresAdjudication = true → group.adjudicator.isSome = true)
  applyAdjudication : ∀ evaluation verdict ids threshold decision,
    evaluation.requiresAdjudication = true → ∃ evaluation',
      consensus.applyAdjudication evaluation verdict ids threshold decision = .ok evaluation' ∧
        evaluation'.reasonCodes ≠ []

namespace Consensus

/-! ## Does a candidate's result need a challenger -/

def isGrounding (region : PixelRegion) : Bool := region.task == .phraseGrounding || region.task == .ocr

def candidateRequiresChallenge (role : PipelineModelRole) (results : Dict String ItemResult) : Bool :=
  match role with
  | .asr => !results.values.any fun r => !r.transcript.segments.isEmpty
  | .fireDetection =>
      (results.values.any fun r => !r.visualEvidenceSelection.isEmpty) &&
        !results.values.any fun r => r.pixelRegions.any (·.task == .fireDetection)
  | .visualGrounding =>
      (results.values.any fun r => r.visualEvidenceSelection.any (·.selectedForGrounding)) &&
        !results.values.any fun r => r.pixelRegions.any isGrounding
  | .multimodalExtraction =>
      (results.values.any fun r => !r.transcript.segments.isEmpty || !r.pixelRegions.isEmpty) &&
        !results.values.any fun r =>
          !r.factualObservations.isEmpty || !r.explicitPlaces.isEmpty || !r.explicitTimes.isEmpty

/-! ## Arithmetic of scores -/

/-- `round(score, 6)`. -/
def roundSix (score : ℚ) : ℚ := roundHalfEven (score * 1000000) / 1000000

def fmean (scores : List ℚ) : ℚ := scores.sum / scores.length

def scoresObject (scores : Dict String ℚ) : JsonValue :=
  .obj (scores.entries.map fun e => (e.1, .ofRat e.2))

/-- `{**payload, key: value, …}`. -/
def withFields (payload : JsonFields) (fields : JsonFields) : JsonFields :=
  fields.foldl (fun acc field => JsonValue.setField field.1 field.2 acc) payload

/-! ## Evaluation -/

def basePayload (group : ModelGroupSpec) (successful : List SuccessfulCandidate) : JsonFields :=
  [("schema_version", .str "candidate-consensus-v1"),
    ("candidate_ids", .ofStrings (successful.map (·.candidateId))),
    ("minimum_successful", .int group.minimumSuccessful),
    ("minimum_agreeing", .int group.minimumAgreeing),
    ("agreement_threshold", .ofRat group.agreementThreshold), ("pairwise_scores", .obj [])]

/-- `rank_by_id[candidate_id]`. -/
def rankById (group : ModelGroupSpec) (candidateId : String) : Except PyExc Int :=
  match (Dict.ofPairs (group.candidates.map fun c => (c.candidateId, c.rank))).get? candidateId with
  | some rank => .ok rank
  | none => .error (.keyError candidateId)

def refused (group : ModelGroupSpec) (score : Option ℚ) (reason : String) (payload : JsonFields)
    (requiresAdjudication : Bool) : ConsensusEvaluation where
  decision := group.disagreementDecision.decision
  selectedCandidateId := none
  agreementScore := score
  reasonCodes := [reason]
  downstreamAllowed := false
  comparisonPayload := payload
  requiresAdjudication := requiresAdjudication

def released (selected : SuccessfulCandidate) (score : ℚ) (reason : String) (payload : JsonFields) :
    ConsensusEvaluation where
  decision := if selected.repaired then .repair else .pass
  selectedCandidateId := some selected.candidateId
  agreementScore := some score
  reasonCodes := [reason]
  downstreamAllowed := true
  comparisonPayload := payload

section Evaluate

-- `compare_candidate_results`: the similarity of two candidates' deliverables.
variable (compare : PipelineModelRole → Dict String ItemResult → Dict String ItemResult → ℚ)

def pairKey (left right : SuccessfulCandidate) : String := left.candidateId ++ "|" ++ right.candidateId

/-- The cascade strategy: the best-ranked admissible candidate, if enough of the others agree. -/
def evaluateCascade (role : PipelineModelRole) (group : ModelGroupSpec)
    (successful : List SuccessfulCandidate) : Except PyExc ConsensusEvaluation := do
  let payload := basePayload group successful
  let ranked ← (successful.filter fun c => !candidateRequiresChallenge role c.results).mapM fun c => do
    let rank ← rankById group c.candidateId
    pure (rank, c)
  match (ranked.insertionSort fun a b => a.1 ≤ b.1).map Prod.snd with
  | [] => pure (refused group none "candidate_quality_insufficient" payload false)
  | selected :: others =>
      let pairwise := Dict.ofPairs (others.map fun c =>
        (pairKey selected c, roundSix (compare role selected.results c.results)))
      let agreeing := selected.candidateId :: (others.filter fun c =>
        decide (group.agreementThreshold ≤ (pairwise.get? (pairKey selected c)).getD 0)).map (·.candidateId)
      let score := if pairwise.entries.isEmpty then 1 else fmean pairwise.values
      let payload := withFields payload
        [("pairwise_scores", scoresObject pairwise),
          ("admissible_candidate_ids", .ofStrings ((selected :: others).map (·.candidateId))),
          ("agreeing_candidate_ids", .ofStrings agreeing),
          ("selected_candidate_id", .str selected.candidateId),
          ("agreement_score", .ofRat (roundSix score))]
      if agreeing.length < group.minimumAgreeing then
        pure (refused group (some score) "candidate_disagreement" payload true)
      else do
        let rank ← rankById group selected.candidateId
        let fallback := group.candidates.any fun c => decide (c.rank < rank)
        pure (released selected score
          (if fallback then "cascade_fallback_selected" else "cascade_primary_selected") payload)

/-- Every unordered pair once, in order. -/
def pairs : List SuccessfulCandidate → List (SuccessfulCandidate × SuccessfulCandidate)
  | [] => []
  | left :: rest => rest.map (left, ·) ++ pairs rest

def meanScore (role : PipelineModelRole) (successful : List SuccessfulCandidate)
    (candidateId : String) : ℚ :=
  let scores := (pairs successful).flatMap fun (left, right) =>
    let score := compare role left.results right.results
    (if left.candidateId = candidateId then [score] else [])
      ++ if right.candidateId = candidateId then [score] else []
  if scores.isEmpty then 1 else fmean scores

/-- `max(candidates, key=lambda c: (mean, -rank))`: the first of the greatest. -/
def bestOf (first : ℚ × Int × SuccessfulCandidate) :
    List (ℚ × Int × SuccessfulCandidate) → ℚ × Int × SuccessfulCandidate
  | [] => first
  | next :: rest =>
      bestOf (if first.1 < next.1 ∨ first.1 = next.1 ∧ next.2.1 < first.2.1 then next else first) rest

/-- The candidate of the greatest entry. -/
def selectBest (first : SuccessfulCandidate) : List (ℚ × Int × SuccessfulCandidate) → SuccessfulCandidate
  | [] => first
  | k :: ks => (bestOf k ks).2.2

/-- The quorum strategy: the candidate closest to the others, if enough of them agree with it. -/
def evaluateQuorum (role : PipelineModelRole) (group : ModelGroupSpec)
    (first : SuccessfulCandidate) (others : List SuccessfulCandidate) :
    Except PyExc ConsensusEvaluation := do
  let successful := first :: others
  let mean := meanScore compare role successful
  let keyed ← successful.mapM fun c => do
    let rank ← rankById group c.candidateId
    pure (mean c.candidateId, rank, c)
  let selected := selectBest first keyed
  let agreeing := (successful.filter fun c =>
    c.candidateId = selected.candidateId ||
      decide (group.agreementThreshold ≤ compare role selected.results c.results)).map (·.candidateId)
  let score := mean selected.candidateId
  let means := Dict.ofPairs (successful.map fun c => (c.candidateId, roundSix (mean c.candidateId)))
  let payload := withFields (basePayload group successful)
    [("pairwise_scores", scoresObject (Dict.ofPairs ((pairs successful).map fun (left, right) =>
        (pairKey left right, roundSix (compare role left.results right.results))))),
      ("mean_scores", .obj ((means.entries.insertionSort fun a b => a.1 ≤ b.1).map fun e =>
        (e.1, .ofRat e.2))),
      ("agreeing_candidate_ids", .ofStrings agreeing),
      ("selected_candidate_id", .str selected.candidateId),
      ("agreement_score", .ofRat (roundSix score))]
  if agreeing.length < group.minimumAgreeing then
    pure (refused group (some score) "candidate_disagreement" payload true)
  else
    pure (released selected score "candidate_quorum_reached" payload)

def evaluateConsensus (role : PipelineModelRole) (group : ModelGroupSpec)
    (successful : List SuccessfulCandidate) : Except PyExc ConsensusEvaluation :=
  if successful.length < group.minimumSuccessful then
    .ok (refused group none "insufficient_successful_candidates" (basePayload group successful) false)
  else if group.strategy = .cascade then evaluateCascade compare role group successful
  else match successful with
    | [] => .error .indexError
    | selected :: others =>
        if group.strategy = .singleWithRules ∨ others = [] then
          .ok (released selected 1
            (if selected.repaired then "single_candidate_repaired" else "single_candidate_valid")
            (withFields (basePayload group successful)
              [("selected_candidate_id", .str selected.candidateId), ("agreement_score", .ofRat 1)]))
        else evaluateQuorum compare role group selected others

end Evaluate

/-! ## Adjudication -/

/-- The verdict names one of the candidates, confidently enough. -/
def accepts (verdict : ConsensusJudgeVerdict) (candidateIds : List String) (confidenceThreshold : ℚ) : Bool :=
  verdict.selectedCandidateId.any (fun id => decide (id ∈ candidateIds)) &&
    decide (confidenceThreshold ≤ verdict.confidence)

def applyAdjudication (evaluation : ConsensusEvaluation) (verdict : ConsensusJudgeVerdict)
    (candidateIds : List String) (confidenceThreshold : ℚ)
    (failureDecision : ConsensusFailureDecision) : Except PyExc ConsensusEvaluation :=
  if !evaluation.requiresAdjudication then
    .error (.valueError "adjudication can only resolve a candidate contradiction")
  else
    let payload := withFields evaluation.comparisonPayload
      [("adjudication", .obj verdict.outputPayload),
        ("adjudication_confidence_threshold", .ofRat confidenceThreshold)]
    if accepts verdict candidateIds confidenceThreshold then
      .ok { decision := .adjudicated, selectedCandidateId := verdict.selectedCandidateId,
            agreementScore := evaluation.agreementScore,
            reasonCodes := "candidate_disagreement_adjudicated" :: verdict.reasonCodes,
            downstreamAllowed := true, comparisonPayload := payload }
    else
      .ok { decision := failureDecision.decision, selectedCandidateId := none,
            agreementScore := evaluation.agreementScore,
            reasonCodes := "adjudicator_abstained" :: verdict.reasonCodes,
            downstreamAllowed := false, comparisonPayload := payload }

end Consensus

/-- The functions the session runs, over a similarity of results. -/
def consensusFunctions (compare : PipelineModelRole → Dict String ItemResult → Dict String ItemResult → ℚ) :
    ConsensusFunctions where
  evaluateConsensus := Consensus.evaluateConsensus compare
  applyAdjudication := Consensus.applyAdjudication
  candidateRequiresChallenge := Consensus.candidateRequiresChallenge

/-! ## What the session relies on, of the functions it runs -/

namespace Consensus

variable {compare : PipelineModelRole → Dict String ItemResult → Dict String ItemResult → ℚ}
  {role : PipelineModelRole} {group : ModelGroupSpec} {successful : List SuccessfulCandidate}
  {evaluation : ConsensusEvaluation}

/-- Every candidate of a validated group has a rank. -/
theorem rankById_eq_ok (hgroup : group.validate = .ok ()) {candidateId : String}
    (h : candidateId ∈ group.candidateIds) : ∃ rank, rankById group candidateId = .ok rank := by
  have hkeys : (group.candidates.map fun c => (c.candidateId, c.rank)).map Prod.fst = group.candidateIds := by
    rw [List.map_map]
    rfl
  have hmem : candidateId ∈ (Dict.ofPairs (group.candidates.map fun c => (c.candidateId, c.rank))).keys := by
    rw [Dict.keys_ofPairs (by rw [hkeys]; exact ModelGroupSpec.candidateIds_nodup hgroup), hkeys]
    exact h
  unfold rankById
  cases hget : (Dict.ofPairs (group.candidates.map fun c => (c.candidateId, c.rank))).get? candidateId with
  | some rank => exact ⟨rank, rfl⟩
  | none => exact absurd hmem (Dict.get?_eq_none.mp hget)

/-- What one evaluation may look like: released with one of the successful candidates, or refused;
    always with a reason, and asking for a judge only where the group has one. -/
structure WellFormed (group : ModelGroupSpec) (successful : List SuccessfulCandidate)
    (evaluation : ConsensusEvaluation) : Prop where
  reasons : evaluation.reasonCodes ≠ []
  judged : group.validate = .ok () → evaluation.requiresAdjudication = true →
    group.adjudicator.isSome = true
  selected : evaluation.downstreamAllowed = true → evaluation.requiresAdjudication = false ∧
    ∃ c ∈ successful, evaluation.selectedCandidateId = some c.candidateId

theorem wellFormed_released {c : SuccessfulCandidate} (h : c ∈ successful) (score : ℚ) (reason : String)
    (payload : JsonFields) : WellFormed group successful (released c score reason payload) :=
  ⟨by simp [released], fun _ h => by simp [released] at h, fun _ => ⟨rfl, c, h, rfl⟩⟩

theorem wellFormed_refused (score : Option ℚ) (reason : String) (payload : JsonFields) :
    WellFormed group successful (refused group score reason payload false) :=
  ⟨by simp [refused], fun _ h => by simp [refused] at h, fun h => by simp [refused] at h⟩

/-- A disagreement asks for a judge: only a group that wants several to agree can end in one. -/
theorem wellFormed_disagreement (score : Option ℚ) (payload : JsonFields)
    (h : group.strategy = .quorum ∨ 1 < group.minimumAgreeing) :
    WellFormed group successful (refused group score "candidate_disagreement" payload true) :=
  ⟨by simp [refused], fun hgroup _ => ModelGroupSpec.adjudicator_isSome hgroup h,
    fun h => by simp [refused] at h⟩

/-- Candidates paired with their ranks: the candidates are still all there, in order. -/
theorem map_of_mapM_rank {β : Type} {f : Int → SuccessfulCandidate → β} {g : β → SuccessfulCandidate}
    (hf : ∀ rank c, g (f rank c) = c) : ∀ {cs : List SuccessfulCandidate} {out : List β},
    (cs.mapM fun c => do
      let rank ← rankById group c.candidateId
      pure (f rank c)) = .ok out → out.map g = cs := by
  intro cs
  induction cs with
  | nil =>
    rintro out ⟨rfl⟩
    rfl
  | cons c cs ih =>
    intro out h
    rw [List.mapM_cons] at h
    cases hrank : rankById group c.candidateId with
    | error e => simp [hrank, bind, Except.bind] at h
    | ok rank =>
      cases hrest : cs.mapM (fun c => do
          let rank ← rankById group c.candidateId
          pure (f rank c)) with
      | error e =>
        rw [hrest] at h
        simp [hrank, bind, Except.bind, pure, Except.pure] at h
      | ok rest =>
        rw [hrest] at h
        simp only [hrank, bind, Except.bind, pure, Except.pure, Except.ok.injEq] at h
        subst h
        rw [List.map_cons, ih hrest, hf]

/-- Candidates of a validated group all get their ranks. -/
theorem mapM_rank_eq_ok (hgroup : group.validate = .ok ()) {β : Type}
    (pair : Int → SuccessfulCandidate → β) : ∀ cs : List SuccessfulCandidate,
    (∀ c ∈ cs, c.candidateId ∈ group.candidateIds) → ∃ out,
    (cs.mapM fun c => do
      let rank ← rankById group c.candidateId
      pure (pair rank c)) = .ok out := by
  intro cs
  induction cs with
  | nil => exact fun _ => ⟨[], rfl⟩
  | cons c cs ih =>
    intro h
    obtain ⟨rank, hrank⟩ := rankById_eq_ok hgroup (h c List.mem_cons_self)
    obtain ⟨rest, hrest⟩ := ih fun d hd => h d (List.mem_cons_of_mem _ hd)
    refine ⟨pair rank c :: rest, ?_⟩
    rw [List.mapM_cons, hrest, hrank]
    rfl

/-- The best-ranked candidate of a ranked list is one of those ranked. -/
theorem mem_of_sorted {cs others : List SuccessfulCandidate} {selected : SuccessfulCandidate}
    {ranked : List (Int × SuccessfulCandidate)}
    (hranked : (cs.mapM fun c => do
      let rank ← rankById group c.candidateId
      pure (rank, c)) = .ok ranked)
    (h : (ranked.insertionSort fun a b => a.1 ≤ b.1).map Prod.snd = selected :: others) : selected ∈ cs := by
  have hmem : selected ∈ (ranked.insertionSort fun a b => a.1 ≤ b.1).map Prod.snd := by
    rw [h]
    exact List.mem_cons_self
  obtain ⟨p, hp, rfl⟩ := List.mem_map.mp hmem
  rw [← map_of_mapM_rank (g := Prod.snd) (fun _ _ => rfl) hranked]
  exact List.mem_map.mpr ⟨p, (List.mem_insertionSort _).mp hp, rfl⟩

theorem bestOf_mem : ∀ (rest : List (ℚ × Int × SuccessfulCandidate)) (first : ℚ × Int × SuccessfulCandidate),
    bestOf first rest ∈ first :: rest := by
  intro rest
  induction rest with
  | nil => exact fun first => List.mem_singleton_self _
  | cons next rest ih =>
    intro first
    rw [bestOf]
    split
    · exact List.mem_cons_of_mem _ (ih next)
    · rcases List.mem_cons.mp (ih first) with h | h
      · rw [h]
        exact List.mem_cons_self
      · exact List.mem_cons_of_mem _ (List.mem_cons_of_mem _ h)

/-- **The cascade** ends in a well-formed evaluation, and for candidates of a validated group it does
    end in one. -/
theorem evaluateCascade_wellFormed (h : evaluateCascade compare role group successful = .ok evaluation) :
    WellFormed group successful evaluation := by
  unfold evaluateCascade at h
  cases hranked : (successful.filter fun c => !candidateRequiresChallenge role c.results).mapM (fun c => do
      let rank ← rankById group c.candidateId
      pure (rank, c)) with
  | error e =>
    rw [hranked] at h
    cases h
  | ok ranked =>
    rw [hranked] at h
    simp only [bind, Except.bind] at h
    cases hsorted : (ranked.insertionSort fun a b => a.1 ≤ b.1).map Prod.snd with
    | nil =>
      rw [hsorted] at h
      cases h
      exact wellFormed_refused _ _ _
    | cons selected others =>
      rw [hsorted] at h
      have hselected : selected ∈ successful := List.mem_of_mem_filter (mem_of_sorted hranked hsorted)
      simp only [] at h
      split at h
      · rename_i hfew
        cases h
        refine wellFormed_disagreement _ _ (Or.inr ?_)
        simp only [List.length_map, List.length_cons] at hfew
        omega
      · cases hrank : rankById group selected.candidateId with
        | error e =>
          rw [hrank] at h
          cases h
        | ok rank =>
          rw [hrank] at h
          cases h
          exact wellFormed_released hselected _ _ _

theorem evaluateCascade_eq_ok (hgroup : group.validate = .ok ())
    (hids : ∀ c ∈ successful, c.candidateId ∈ group.candidateIds) :
    ∃ evaluation, evaluateCascade compare role group successful = .ok evaluation := by
  obtain ⟨ranked, hranked⟩ := mapM_rank_eq_ok hgroup (fun rank c => (rank, c))
    (successful.filter fun c => !candidateRequiresChallenge role c.results)
    fun c hc => hids c (List.mem_of_mem_filter hc)
  unfold evaluateCascade
  rw [hranked]
  simp only [bind, Except.bind]
  cases hsorted : (ranked.insertionSort fun a b => a.1 ≤ b.1).map Prod.snd with
  | nil => exact ⟨_, rfl⟩
  | cons selected others =>
    obtain ⟨rank, hrank⟩ := rankById_eq_ok hgroup
      (hids selected (List.mem_of_mem_filter (mem_of_sorted hranked hsorted)))
    simp only []
    split
    · exact ⟨_, rfl⟩
    · rw [hrank]
      exact ⟨_, rfl⟩

/-- **The quorum**, likewise. -/
theorem evaluateQuorum_wellFormed {first : SuccessfulCandidate} {others : List SuccessfulCandidate}
    (hquorum : group.strategy = .quorum)
    (h : evaluateQuorum compare role group first others = .ok evaluation) :
    WellFormed group (first :: others) evaluation := by
  unfold evaluateQuorum at h
  dsimp only at h
  cases hkeyed : (first :: others).mapM (fun c => do
      let rank ← rankById group c.candidateId
      pure (meanScore compare role (first :: others) c.candidateId, rank, c)) with
  | error e =>
    rw [hkeyed] at h
    cases h
  | ok keyed =>
    rw [hkeyed] at h
    simp only [bind, Except.bind] at h
    split at h
    · cases h
      exact wellFormed_disagreement _ _ (Or.inl hquorum)
    · cases h
      refine wellFormed_released ?_ _ _ _
      have hall := map_of_mapM_rank (g := fun p : ℚ × Int × SuccessfulCandidate => p.2.2)
        (f := fun rank c => (meanScore compare role (first :: others) c.candidateId, rank, c))
        (fun _ _ => rfl) hkeyed
      cases keyed with
      | nil => exact List.mem_cons_self
      | cons k ks =>
        rw [← hall, selectBest]
        exact List.mem_map.mpr ⟨_, bestOf_mem ks k, rfl⟩

theorem evaluateQuorum_eq_ok (hgroup : group.validate = .ok ()) {first : SuccessfulCandidate}
    {others : List SuccessfulCandidate}
    (hids : ∀ c ∈ first :: others, c.candidateId ∈ group.candidateIds) :
    ∃ evaluation, evaluateQuorum compare role group first others = .ok evaluation := by
  obtain ⟨keyed, hkeyed⟩ := mapM_rank_eq_ok hgroup
    (fun rank c => (meanScore compare role (first :: others) c.candidateId, rank, c)) (first :: others) hids
  unfold evaluateQuorum
  dsimp only
  rw [hkeyed]
  simp only [bind, Except.bind]
  split
  · exact ⟨_, rfl⟩
  · exact ⟨_, rfl⟩

/-- **Every evaluation is well-formed.** -/
theorem evaluateConsensus_wellFormed
    (h : evaluateConsensus compare role group successful = .ok evaluation) :
    WellFormed group successful evaluation := by
  unfold evaluateConsensus at h
  split at h
  · cases h
    exact wellFormed_refused _ _ _
  · split at h
    · exact evaluateCascade_wellFormed h
    · rename_i hcascade
      cases successful with
      | nil => cases h
      | cons first others =>
        simp only [] at h
        split at h
        · cases h
          exact wellFormed_released List.mem_cons_self _ _ _
        · rename_i hsingle
          push Not at hsingle
          refine evaluateQuorum_wellFormed ?_ h
          cases hs : group.strategy with
          | singleWithRules => exact absurd hs hsingle.1
          | cascade => exact absurd hs hcascade
          | quorum => rfl

/-- Candidates of a validated group are always evaluated. -/
theorem evaluateConsensus_eq_ok (hgroup : group.validate = .ok ())
    (hids : ∀ c ∈ successful, c.candidateId ∈ group.candidateIds) :
    ∃ evaluation, evaluateConsensus compare role group successful = .ok evaluation := by
  unfold evaluateConsensus
  split
  · exact ⟨_, rfl⟩
  · rename_i henough
    split
    · exact evaluateCascade_eq_ok hgroup hids
    · cases successful with
      | nil =>
        have hminimum := ModelGroupSpec.minimumSuccessful_pos hgroup
        simp only [List.length_nil] at henough
        omega
      | cons first others =>
        simp only []
        split
        · exact ⟨_, rfl⟩
        · exact evaluateQuorum_eq_ok hgroup hids

/-- **A judge** is only heard on a disagreement; what comes of it has a reason, asks no further, and
    releases one of the candidates or none. -/
theorem applyAdjudication_cases (first : ConsensusEvaluation) (verdict : ConsensusJudgeVerdict)
    (ids : List String) (threshold : ℚ) (decision : ConsensusFailureDecision)
    (hrequires : first.requiresAdjudication = true) :
    ∃ evaluation, applyAdjudication first verdict ids threshold decision = .ok evaluation ∧
      evaluation.reasonCodes ≠ [] ∧ evaluation.requiresAdjudication = false ∧
      (evaluation.downstreamAllowed = true → ∃ id ∈ ids, evaluation.selectedCandidateId = some id) := by
  unfold applyAdjudication
  rw [hrequires]
  simp only [Bool.not_true, Bool.false_eq_true, if_false]
  split
  · rename_i haccepted
    refine ⟨_, rfl, by simp, rfl, fun _ => ?_⟩
    rw [accepts, Bool.and_eq_true, Option.any_eq_true] at haccepted
    obtain ⟨id, hid, hmem⟩ := haccepted.1
    exact ⟨id, by simpa using hmem, hid⟩
  · exact ⟨_, rfl, by simp, rfl, fun h => by simp at h⟩

end Consensus

/-- **The functions the session runs** satisfy what it relies on. -/
theorem consensusFunctions_total
    (compare : PipelineModelRole → Dict String ItemResult → Dict String ItemResult → ℚ) :
    (consensusFunctions compare).Total := by
  refine ⟨fun role group successful hgroup hids => ?_, fun first verdict ids threshold decision h => ?_⟩
  · obtain ⟨evaluation, hok⟩ : ∃ evaluation,
        Consensus.evaluateConsensus compare role group successful = .ok evaluation :=
      Consensus.evaluateConsensus_eq_ok hgroup hids
    have hwell := Consensus.evaluateConsensus_wellFormed hok
    exact ⟨evaluation, hok, hwell.reasons, hwell.judged hgroup⟩
  · obtain ⟨evaluation, hok, hreasons, -⟩ :=
      Consensus.applyAdjudication_cases first verdict ids threshold decision h
    exact ⟨evaluation, hok, hreasons⟩

end FireviewerOrchestrator
