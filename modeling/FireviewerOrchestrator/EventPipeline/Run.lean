/-
  The event pipeline: the attempts and the proposals of all anchors, the failures of perception, and
  the summary of what others observed.

  `run_nothing_invented` is the main result: every place in the output is the place of a piece of
  evidence that localizes its anchor, and every attempt and every proposal is accounted for.
  `exists_run_iff` says when there is an output.
-/
import FireviewerOrchestrator.EventPipeline.Attempts
import Mathlib.Data.Prod.Lex

set_option linter.unusedVariables false

namespace FireviewerOrchestrator

namespace EventPipeline

/-! ## The program -/

/-- `classify_view_profile`. -/
def classifyViewProfile (bundle : EventCandidateBundle) : Option ViewProfile :=
  match bundle.shotScale with
  | none => none
  | some .wide =>
      if bundle.viewpoint.origin = .namedPlace then some .groundWideNamedViewpoint
      else some .groundWideKnownViewpoint
  | some .distant => some .groundDistantKnownViewpoint
  | some .close => some .groundCloseKnownViewpoint
  | some .tight => some .groundTightKnownViewpoint

/-- `tuple(sorted((a, b)))`. -/
def sortedPair (a b : String) : String × String := if b < a then (b, a) else (a, b)

/-- The conflicts an observation declares with another one that is known. -/
def conflictPairs (observations : List ExternalObservation) (item : ExternalObservation) :
    List (String × String) :=
  (item.conflictsWith.filter fun other =>
    other ∈ observations.map ExternalObservation.observationId ∧ other ≠ item.observationId).map
      (sortedPair item.observationId)

/-- `_external_summary`; pairs are compared by their first members, then by their second. -/
def externalSummary (observations : List ExternalObservation) : List String × List (String × String) :=
  (sortedDistinct (observations.map ExternalObservation.lineageFamilyId),
    (sortedDistinct ((observations.flatMap (conflictPairs observations)).map toLex)).map ofLex)

section Program

variable (sha256 : Sha256) (value : EventPipelineInput)

/-- The attempt that stands for a failure of perception. -/
def failureAttempt (failure : PerceptionFailure) : LocalizationAttempt where
  attemptId := stableId sha256 "LOC"
    [value.bundle.candidateId, "perception-failure", failure.evidenceAssetId.getD failure.reasonCode,
      failure.reasonCode]
  status := .abstained
  reasonCodes := [failure.reasonCode]
  modelId := failure.modelId
  modelRevision := failure.modelRevision

/-- The attempt of a request without anchors and failures. -/
def noAnchorAttempt : LocalizationAttempt where
  attemptId := stableId sha256 "LOC" [value.bundle.candidateId, "no-anchor"]
  status := .abstained
  reasonCodes := ["no_visual_anchor"]

/-- `if not attempts: attempts.append(…)`. -/
def orNoAnchor (attempts : List LocalizationAttempt) : Except PyExc (List LocalizationAttempt) :=
  if attempts.isEmpty then do
    let attempt ← (noAnchorAttempt sha256 value).build
    pure [attempt]
  else pure attempts

/-- `has_reviewable`. -/
def hasReviewable (attempts : List LocalizationAttempt) (proposals : List FireActivityProposal) : Bool :=
  !proposals.isEmpty || attempts.any fun attempt => attempt.status = .localized ∨ attempt.status = .sector

/-- The reason codes of the attempts, and that of a view without a profile. -/
def outputReasonCodes (attempts : List LocalizationAttempt) : List String :=
  sortedDistinct (attempts.flatMap LocalizationAttempt.reasonCodes ++
    if (classifyViewProfile value.bundle).isNone then ["view_profile_unclassified"] else [])

def outputOf (attempts : List LocalizationAttempt) (proposals : List FireActivityProposal) :
    EventPipelineOutput where
  candidateId := value.bundle.candidateId
  status := if hasReviewable attempts proposals then .needsReview else .abstained
  viewProfile := classifyViewProfile value.bundle
  perceptionAnchors := value.perceptionAnchors
  spatialEvidence := value.spatialEvidence
  localizationAttempts := attempts
  eventProposals := proposals
  independentExternalFamilies := (externalSummary value.bundle.externalObservations).1
  contradictions := (externalSummary value.bundle.externalObservations).2
  reasonCodes := outputReasonCodes value attempts

/-- `DeterministicEventPipeline.run`. -/
def run (failures : List PerceptionFailure) : Except PyExc EventPipelineOutput := do
  let analyzed ← value.perceptionAnchors.mapM (analyzeAnchor sha256 value)
  let failed ← failures.mapM fun failure => (failureAttempt sha256 value failure).build
  let attempts ← orNoAnchor sha256 value (analyzed.map Prod.fst ++ failed)
  (outputOf value attempts (analyzed.filterMap Prod.snd)).build

end Program

/-! ## What the run is made of -/

section Run

variable {sha256 : Sha256} {value : EventPipelineInput} {failures : List PerceptionFailure}
  {out : EventPipelineOutput}

/-- The attempts, given those at the anchors. -/
def allAttempts (sha256 : Sha256) (value : EventPipelineInput) (failures : List PerceptionFailure)
    (ofAnchors : List LocalizationAttempt) : List LocalizationAttempt :=
  if value.perceptionAnchors = [] ∧ failures = [] then [noAnchorAttempt sha256 value]
  else ofAnchors ++ failures.map (failureAttempt sha256 value)

theorem failureAttempt_build (failure : PerceptionFailure) :
    (failureAttempt sha256 value failure).build = .ok (failureAttempt sha256 value failure) := by
  have hcodes : (failureAttempt sha256 value failure).reasonCodes.length ≤ 32 := by
    show 1 ≤ 32
    omega
  exact LocalizationAttempt.build_bare (stableId_safe sha256 _ (by decide) (by decide)) rfl hcodes
    (Or.inr ⟨rfl, List.cons_ne_nil _ _⟩) rfl

theorem noAnchorAttempt_build :
    (noAnchorAttempt sha256 value).build = .ok (noAnchorAttempt sha256 value) := by
  have hcodes : (noAnchorAttempt sha256 value).reasonCodes.length ≤ 32 := by
    show 1 ≤ 32
    omega
  exact LocalizationAttempt.build_bare (stableId_safe sha256 _ (by decide) (by decide)) rfl hcodes
    (Or.inr ⟨rfl, List.cons_ne_nil _ _⟩) rfl

theorem failures_mapM_eq : (failures.mapM fun failure => (failureAttempt sha256 value failure).build)
    = .ok (failures.map (failureAttempt sha256 value)) := by
  rw [Fallible.mapM_eq_ok, List.forall₂_map_right_iff]
  exact List.forall₂_same.mpr fun failure _ => failureAttempt_build failure

theorem orNoAnchor_eq {ofAnchors : List LocalizationAttempt}
    (hlength : ofAnchors.length = value.perceptionAnchors.length) :
    orNoAnchor sha256 value (ofAnchors ++ failures.map (failureAttempt sha256 value))
      = .ok (allAttempts sha256 value failures ofAnchors) := by
  have hempty : (ofAnchors ++ failures.map (failureAttempt sha256 value)).isEmpty = true ↔
      value.perceptionAnchors = [] ∧ failures = [] := by
    rw [List.isEmpty_iff, List.append_eq_nil_iff, List.map_eq_nil_iff, ← List.length_eq_zero_iff, hlength,
      List.length_eq_zero_iff]
  unfold orNoAnchor allAttempts
  by_cases hnone : value.perceptionAnchors = [] ∧ failures = []
  · rw [if_pos (hempty.mpr hnone), if_pos hnone, noAnchorAttempt_build]
    rfl
  · rw [if_neg (fun h => hnone (hempty.mp h)), if_neg hnone]
    rfl

/-! ### The summary is made of safe identifiers -/

theorem safe_of_mem_conflictPairs {observations : List ExternalObservation} {item : ExternalObservation}
    {pair : String × String} (h : pair ∈ conflictPairs observations item) :
    isSafeIdentifier pair.1 = true ∧ isSafeIdentifier pair.2 = true := by
  obtain ⟨other, hother, rfl⟩ := List.mem_map.mp h
  have hsafe : isSafeIdentifier other = true :=
    List.all_eq_true.mp item.conflicts_safe.2 other (List.mem_of_mem_filter hother)
  unfold sortedPair
  split
  · exact ⟨hsafe, item.ids_safe.1⟩
  · exact ⟨item.ids_safe.1, hsafe⟩

theorem mem_contradictions {observations : List ExternalObservation} {pair : String × String} :
    pair ∈ (externalSummary observations).2 ↔ ∃ item ∈ observations, pair ∈ conflictPairs observations item := by
  show pair ∈ (sortedDistinct ((observations.flatMap (conflictPairs observations)).map toLex)).map ofLex ↔ _
  rw [List.mem_map]
  constructor
  · rintro ⟨lexPair, hmem, rfl⟩
    obtain ⟨p, hp, rfl⟩ := List.mem_map.mp (mem_sortedDistinct.mp hmem)
    exact List.mem_flatMap.mp hp
  · intro h
    exact ⟨toLex pair, mem_sortedDistinct.mpr (List.mem_map_of_mem (List.mem_flatMap.mpr h)), rfl⟩

/-- The output is always accepted. -/
theorem outputOf_build (attempts : List LocalizationAttempt) (proposals : List FireActivityProposal) :
    (outputOf value attempts proposals).build = .ok (outputOf value attempts proposals) := by
  have hfamilies : Pydantic.identifiers (externalSummary value.bundle.externalObservations).1 = true := by
    apply List.all_eq_true.mpr
    intro family hfamily
    obtain ⟨item, -, rfl⟩ := List.mem_map.mp (mem_sortedDistinct.mp hfamily)
    exact item.ids_safe.2
  have hpairs : ((externalSummary value.bundle.externalObservations).2.all fun pair =>
      isSafeIdentifier pair.1 && isSafeIdentifier pair.2) = true := by
    apply List.all_eq_true.mpr
    intro pair hpair
    obtain ⟨item, -, hmem⟩ := mem_contradictions.mp hpair
    exact Bool.and_eq_true_iff.mpr (safe_of_mem_conflictPairs hmem)
  refine checked_eq_ok.mpr ⟨Pydantic.validate_eq_ok.mpr ?_, rfl⟩
  rw [List.forall_mem_cons, List.forall_mem_cons, List.forall_mem_singleton]
  exact ⟨value.bundle.candidate_id_safe, hfamilies, hpairs⟩

/-- **A run is the analysis of its anchors**: it returns if that does, and its output is made of it. -/
theorem run_eq_ok : run sha256 value failures = .ok out ↔
    ∃ analyzed, List.Forall₂ (fun anchor result => analyzeAnchor sha256 value anchor = .ok result)
        value.perceptionAnchors analyzed ∧
      out = outputOf value (allAttempts sha256 value failures (analyzed.map Prod.fst))
        (analyzed.filterMap Prod.snd) := by
  unfold run
  rw [Fallible.bind_eq_ok]
  constructor
  · rintro ⟨analyzed, hanalyzed, h⟩
    have hforall := Fallible.mapM_eq_ok.mp hanalyzed
    have hlength : (analyzed.map Prod.fst).length = value.perceptionAnchors.length := by
      rw [List.length_map, hforall.length_eq]
    obtain ⟨failed, hfailed, h⟩ := Fallible.bind_eq_ok.mp h
    rw [failures_mapM_eq] at hfailed
    obtain rfl := Except.ok.inj hfailed
    obtain ⟨attempts, hattempts, h⟩ := Fallible.bind_eq_ok.mp h
    rw [orNoAnchor_eq hlength] at hattempts
    obtain rfl := Except.ok.inj hattempts
    rw [outputOf_build] at h
    exact ⟨analyzed, hforall, (Except.ok.inj h).symm⟩
  · rintro ⟨analyzed, hforall, rfl⟩
    have hlength : (analyzed.map Prod.fst).length = value.perceptionAnchors.length := by
      rw [List.length_map, hforall.length_eq]
    exact ⟨analyzed, Fallible.mapM_eq_ok.mpr hforall,
      Fallible.bind_eq_ok.mpr ⟨_, failures_mapM_eq,
        Fallible.bind_eq_ok.mpr ⟨_, orNoAnchor_eq hlength, outputOf_build _ _⟩⟩⟩

/-- The accounts of the anchors, in order. -/
theorem accounts_of_run (h : run sha256 value failures = .ok out) :
    ∃ analyzed, List.Forall₂ (fun anchor result => AnchorDone sha256 value anchor result.1 result.2)
        value.perceptionAnchors analyzed ∧
      out = outputOf value (allAttempts sha256 value failures (analyzed.map Prod.fst))
        (analyzed.filterMap Prod.snd) := by
  obtain ⟨analyzed, hforall, hout⟩ := run_eq_ok.mp h
  exact ⟨analyzed, hforall.imp fun _ _ hresult => anchorDone_of_ok hresult, hout⟩

/-! ## When there is an output -/

/-- Where a point phenomenon is localized, it is at a point. -/
def PointsWhereLocalized (value : EventPipelineInput) : Prop :=
  ∀ anchor ∈ value.perceptionAnchors, anchor.phenomenon ≠ .visibleFireFront →
    ∀ spatial ∈ value.spatialEvidence, spatial.anchorId = anchor.anchorId → Localizes spatial →
      ∀ geometry ∈ spatial.geometryGeojson, Geojson.geometryType? geometry = some "Point"

/-- **A run returns exactly if the localized point phenomena are at points.** -/
theorem exists_run_iff : (∃ out, run sha256 value failures = .ok out) ↔ PointsWhereLocalized value := by
  have hanchor : ∀ anchor, (∃ result, analyzeAnchor sha256 value anchor = .ok result) ↔
      (anchor.phenomenon ≠ .visibleFireFront → ∀ spatial ∈ value.spatialEvidence,
        spatial.anchorId = anchor.anchorId → Localizes spatial →
        ∀ geometry ∈ spatial.geometryGeojson, Geojson.geometryType? geometry = some "Point") := by
    intro anchor
    rw [exists_analyzeAnchor_iff]
    simp only [Option.mem_def, evidenceFor_eq_some, and_imp]
  have hmapM : (∃ out, run sha256 value failures = .ok out) ↔
      ∃ analyzed, value.perceptionAnchors.mapM (analyzeAnchor sha256 value) = .ok analyzed := by
    simp only [run_eq_ok, Fallible.mapM_eq_ok]
    constructor
    · rintro ⟨out, analyzed, hforall, -⟩
      exact ⟨analyzed, hforall⟩
    · rintro ⟨analyzed, hforall⟩
      exact ⟨_, analyzed, hforall, rfl⟩
  rw [hmapM, Fallible.exists_mapM_iff]
  exact forall₂_congr fun anchor _ => hanchor anchor

/-- Without anchors there is always an output. -/
theorem exists_run_of_no_anchors (h : value.perceptionAnchors = []) : ∃ out, run sha256 value failures = .ok out :=
  exists_run_iff.mpr fun anchor hanchor => by
    rw [h] at hanchor
    cases hanchor

/-- An anchor that cannot be analyzed is a `ValidationError` of its proposal. -/
theorem raisesOnly_analyzeAnchor (anchor : PerceptionAnchor) :
    Fallible.RaisesOnly PyExc.IsValidation (analyzeAnchor sha256 value anchor) := by
  rcases analyzeAnchor_cases sha256 value anchor with
    ⟨spatial, geometry, accuracy, -, hlocalizes, hgeometry, -, heq⟩ | ⟨-, bare, -, heq⟩
  · rw [heq]
    unfold promote
    rw [localizedAttempt_build hlocalizes.projected hgeometry]
    refine (Fallible.raisesOnly_ok _).bind fun attempt _ => ?_
    split
    · exact Fallible.raisesOnly_ok _
    · refine Fallible.RaisesOnly.bind (raisesOnly_checked ?_) fun _ _ => Fallible.raisesOnly_ok _
      refine (raisesOnly_pydanticValidate _ _).bind fun _ _ => raisesOnly_asValidation ?_
      -- the evidence was accepted with its geometry, so what is left to refuse is its type
      exact (Geojson.raisesOnly_validate_narrow
        (spatial.projected_valid hlocalizes.projected geometry hgeometry)).imp fun _ => Or.inl
  · rw [heq]
    exact Fallible.raisesOnly_ok _

/-- **All that a run raises is `ValidationError`s.** -/
theorem raisesOnly_run : Fallible.RaisesOnly PyExc.IsValidation (run sha256 value failures) := by
  refine (Fallible.raisesOnly_mapM fun anchor _ => raisesOnly_analyzeAnchor anchor).bind fun analyzed _ => ?_
  rw [failures_mapM_eq]
  refine (Fallible.raisesOnly_ok _).bind fun failed _ => ?_
  have hattempts : Fallible.RaisesOnly PyExc.IsValidation
      (orNoAnchor sha256 value (analyzed.map Prod.fst ++ failed)) := by
    unfold orNoAnchor
    rw [noAnchorAttempt_build]
    split
    · exact Fallible.raisesOnly_ok _
    · exact Fallible.raisesOnly_ok _
  refine hattempts.bind fun attempts _ => ?_
  rw [outputOf_build]
  exact Fallible.raisesOnly_ok _

/-- **Every failure is accounted for**: an abstention has its reason code, and the output too. -/
theorem failure_accounted (h : run sha256 value failures = .ok out) {failure : PerceptionFailure}
    (hfailure : failure ∈ failures) : (∃ attempt ∈ out.localizationAttempts, attempt.status = .abstained ∧
      failure.reasonCode ∈ attempt.reasonCodes) ∧ failure.reasonCode ∈ out.reasonCodes := by
  obtain ⟨analyzed, -, rfl⟩ := run_eq_ok.mp h
  have hattempt : failureAttempt sha256 value failure ∈
      allAttempts sha256 value failures (analyzed.map Prod.fst) := by
    unfold allAttempts
    rw [if_neg fun hnone => List.ne_nil_of_mem hfailure hnone.2]
    exact List.mem_append_right _ (List.mem_map_of_mem hfailure)
  have hcode : failure.reasonCode ∈ (failureAttempt sha256 value failure).reasonCodes :=
    List.mem_singleton.mpr rfl
  refine ⟨⟨_, hattempt, rfl, hcode⟩, mem_sortedDistinct.mpr (List.mem_append_left _ ?_)⟩
  exact List.mem_flatMap.mpr ⟨_, hattempt, hcode⟩

/-! ## Nothing is invented -/

/-- An abstention that is about no anchor. -/
structure Unanchored (attempt : LocalizationAttempt) (reason : String) : Prop where
  anchorId_none : attempt.anchorId = none
  abstained : attempt.status = .abstained
  geometry_none : attempt.geometryGeojson = none
  reasonCodes_eq : attempt.reasonCodes = [reason]

/-- One attempt for each anchor in order, then one for each failure in order, or a single abstention if
    there is nothing to account for. -/
def AttemptsInOrder (value : EventPipelineInput) (failures : List PerceptionFailure)
    (attempts : List LocalizationAttempt) : Prop :=
  if value.perceptionAnchors = [] ∧ failures = [] then
    ∃ attempt, attempts = [attempt] ∧ Unanchored attempt "no_visual_anchor"
  else
    ∃ ofAnchors ofFailures, attempts = ofAnchors ++ ofFailures ∧
      List.Forall₂ (fun (anchor : PerceptionAnchor) attempt => attempt.anchorId = some anchor.anchorId)
        value.perceptionAnchors ofAnchors ∧
      List.Forall₂ (fun failure attempt => Unanchored attempt failure.reasonCode) failures ofFailures

/-- What the pipeline may say about places. -/
structure NothingInvented (value : EventPipelineInput) (failures : List PerceptionFailure)
    (out : EventPipelineOutput) : Prop where
  attempts_in_order : AttemptsInOrder value failures out.localizationAttempts
  localized_iff : ∀ anchor ∈ value.perceptionAnchors,
    (∃ attempt ∈ out.localizationAttempts, attempt.anchorId = some anchor.anchorId ∧
      attempt.status = .localized) ↔
    ∃ spatial ∈ value.spatialEvidence, spatial.anchorId = anchor.anchorId ∧ Localizes spatial
  localized_carries : ∀ attempt ∈ out.localizationAttempts, attempt.status = .localized →
    ∃ anchor ∈ value.perceptionAnchors, attempt.anchorId = some anchor.anchorId ∧
      ∃ spatial ∈ value.spatialEvidence, spatial.anchorId = anchor.anchorId ∧ Localizes spatial ∧
        spatial.geometryGeojson.isSome = true ∧ attempt.geometryGeojson = spatial.geometryGeojson ∧
        spatial.horizontalAccuracyM.isSome = true ∧
        attempt.horizontalAccuracyM = spatial.horizontalAccuracyM
  others_bare : ∀ attempt ∈ out.localizationAttempts, attempt.status ≠ .localized →
    attempt.geometryGeojson = none
  proposals_promote : List.Forall₂ Promotes (out.localizationAttempts.filter promotable) out.eventProposals
  needsReview_iff : out.status = .needsReview ↔
    ∃ attempt ∈ out.localizationAttempts, attempt.status = .localized ∨ attempt.status = .sector

/-- An attempt is at an anchor, or about none. -/
theorem mem_allAttempts {analyzed : List (LocalizationAttempt × Option FireActivityProposal)}
    (hforall : List.Forall₂ (fun anchor result => AnchorDone sha256 value anchor result.1 result.2)
      value.perceptionAnchors analyzed) {attempt : LocalizationAttempt}
    (h : attempt ∈ allAttempts sha256 value failures (analyzed.map Prod.fst)) :
    (∃ anchor ∈ value.perceptionAnchors, ∃ proposal, AnchorDone sha256 value anchor attempt proposal) ∨
      ∃ reason, Unanchored attempt reason := by
  unfold allAttempts at h
  split at h
  · obtain rfl := List.mem_singleton.mp h
    exact Or.inr ⟨"no_visual_anchor", rfl, rfl, rfl, rfl⟩
  · rcases List.mem_append.mp h with hanchor | hfailure
    · obtain ⟨result, hresult, rfl⟩ := List.mem_map.mp hanchor
      obtain ⟨anchor, hmem, hdone⟩ := Fallible.exists_of_forall₂_right hforall hresult
      exact Or.inl ⟨anchor, hmem, result.2, hdone⟩
    · obtain ⟨failure, -, rfl⟩ := List.mem_map.mp hfailure
      exact Or.inr ⟨failure.reasonCode, rfl, rfl, rfl, rfl⟩

/-- An anchor is localized exactly where its evidence localizes it. -/
theorem exists_localized_iff {analyzed : List (LocalizationAttempt × Option FireActivityProposal)}
    (hforall : List.Forall₂ (fun anchor result => AnchorDone sha256 value anchor result.1 result.2)
      value.perceptionAnchors analyzed) {anchor : PerceptionAnchor}
    (hanchor : anchor ∈ value.perceptionAnchors) :
    (∃ attempt ∈ allAttempts sha256 value failures (analyzed.map Prod.fst),
      attempt.anchorId = some anchor.anchorId ∧ attempt.status = .localized) ↔
    ∃ spatial ∈ value.spatialEvidence, spatial.anchorId = anchor.anchorId ∧ Localizes spatial := by
  constructor
  · rintro ⟨attempt, hattempt, hid, hlocalized⟩
    rcases mem_allAttempts hforall hattempt with ⟨other, -, proposal, hdone⟩ | ⟨reason, hnone⟩
    · obtain ⟨spatial, hspatial, hlocalizes⟩ := hdone.localized_iff.mp hlocalized
      obtain ⟨hmem, hspatialId⟩ := evidenceFor_eq_some.mp hspatial
      have hsame : other.anchorId = anchor.anchorId := Option.some.inj (hdone.anchorId_eq.symm.trans hid)
      exact ⟨spatial, hmem, hspatialId.trans hsame, hlocalizes⟩
    · rw [hnone.abstained] at hlocalized
      cases hlocalized
  · rintro ⟨spatial, hmem, hid, hlocalizes⟩
    obtain ⟨result, hresult, hdone⟩ := Fallible.exists_of_forall₂_left hforall hanchor
    have hattempt : result.1 ∈ allAttempts sha256 value failures (analyzed.map Prod.fst) := by
      unfold allAttempts
      rw [if_neg fun hnone => List.ne_nil_of_mem hanchor hnone.1]
      exact List.mem_append_left _ (List.mem_map_of_mem hresult)
    exact ⟨result.1, hattempt, hdone.anchorId_eq,
      hdone.localized_iff.mpr ⟨spatial, evidenceFor_eq_some.mpr ⟨hmem, hid⟩, hlocalizes⟩⟩

/-- The attempts are in the order of what they account for. -/
theorem attemptsInOrder_allAttempts
    {analyzed : List (LocalizationAttempt × Option FireActivityProposal)}
    (hforall : List.Forall₂ (fun anchor result => AnchorDone sha256 value anchor result.1 result.2)
      value.perceptionAnchors analyzed) :
    AttemptsInOrder value failures (allAttempts sha256 value failures (analyzed.map Prod.fst)) := by
  unfold AttemptsInOrder allAttempts
  split
  · exact ⟨_, rfl, rfl, rfl, rfl, rfl⟩
  · refine ⟨_, _, rfl, ?_, ?_⟩
    · rw [List.forall₂_map_right_iff]
      exact hforall.imp fun _ _ hdone => hdone.anchorId_eq
    · rw [List.forall₂_map_right_iff]
      exact List.forall₂_same.mpr fun failure _ => ⟨rfl, rfl, rfl, rfl⟩

/-- The proposals promote the attempts at the anchors that can be, in order. -/
theorem promotes_filterMap {anchors : List PerceptionAnchor}
    {analyzed : List (LocalizationAttempt × Option FireActivityProposal)}
    (hforall : List.Forall₂ (fun anchor result => AnchorDone sha256 value anchor result.1 result.2)
      anchors analyzed) :
    List.Forall₂ Promotes ((analyzed.map Prod.fst).filter promotable) (analyzed.filterMap Prod.snd) := by
  induction hforall with
  | nil => exact .nil
  | @cons anchor result anchors analyzed hdone htail ih =>
    obtain ⟨attempt, proposal⟩ := result
    cases proposal with
    | none =>
      have hnot : promotable attempt = false := hdone.proposal_iff.symm
      rw [List.map_cons, List.filter_cons_of_neg (by simp [hnot]), List.filterMap_cons_none rfl]
      exact ih
    | some p =>
      have hpromotable : promotable attempt = true := hdone.proposal_iff.symm
      rw [List.map_cons, List.filter_cons_of_pos hpromotable]
      show List.Forall₂ Promotes _ (p :: analyzed.filterMap Prod.snd)
      exact .cons (hdone.promotes p rfl) ih

/-- The attempts about no anchor are not promoted. -/
theorem filter_allAttempts {ofAnchors : List LocalizationAttempt}
    (hlength : ofAnchors.length = value.perceptionAnchors.length) :
    (allAttempts sha256 value failures ofAnchors).filter promotable = ofAnchors.filter promotable := by
  unfold allAttempts
  split
  · rename_i hnone
    have hnil : ofAnchors = [] := by
      rw [← List.length_eq_zero_iff, hlength, hnone.1]
      rfl
    rw [hnil]
    rfl
  · have hfailures : (failures.map (failureAttempt sha256 value)).filter promotable = [] := by
      rw [List.filter_eq_nil_iff]
      intro attempt hattempt
      obtain ⟨failure, -, rfl⟩ := List.mem_map.mp hattempt
      exact Bool.false_ne_true
    rw [List.filter_append, hfailures, List.append_nil]

theorem needsReview_outputOf {attempts : List LocalizationAttempt} {proposals : List FireActivityProposal}
    (hpromotes : List.Forall₂ Promotes (attempts.filter promotable) proposals) :
    (outputOf value attempts proposals).status = .needsReview ↔
      ∃ attempt ∈ attempts, attempt.status = .localized ∨ attempt.status = .sector := by
  have hstatus : (outputOf value attempts proposals).status = .needsReview ↔
      hasReviewable attempts proposals = true := by
    show (if hasReviewable attempts proposals then PipelineStatus.needsReview else .abstained) = _ ↔ _
    split <;> simp_all
  rw [hstatus, hasReviewable, Bool.or_eq_true, List.any_eq_true]
  constructor
  · rintro (hproposals | ⟨attempt, hmem, hreviewable⟩)
    · -- a proposal is that of a localized attempt
      cases proposals with
      | nil => cases hproposals
      | cons proposal proposals =>
        obtain ⟨attempt, hmem, -⟩ := Fallible.exists_of_forall₂_right hpromotes List.mem_cons_self
        obtain ⟨hmem, hpromotable⟩ := List.mem_filter.mp hmem
        have hlocalized := (Bool.and_eq_true_iff.mp hpromotable).1
        exact ⟨attempt, hmem, Or.inl (of_decide_eq_true hlocalized)⟩
    · exact ⟨attempt, hmem, of_decide_eq_true hreviewable⟩
  · rintro ⟨attempt, hmem, hreviewable⟩
    exact Or.inr ⟨attempt, hmem, decide_eq_true hreviewable⟩

/-- **No spatial fact is invented.**  Whatever a run returns says of places only what the evidence says
    that localizes an anchor, and it returns where the localized point phenomena are at points. -/
theorem run_nothing_invented (sha256 : Sha256) (value : EventPipelineInput)
    (failures : List PerceptionFailure) :
    (∀ out, run sha256 value failures = .ok out → NothingInvented value failures out) ∧
      (PointsWhereLocalized value → ∃ out, run sha256 value failures = .ok out) := by
  refine ⟨?_, exists_run_iff.mpr⟩
  intro out h
  obtain ⟨analyzed, hforall, rfl⟩ := accounts_of_run h
  have hlength : (analyzed.map Prod.fst).length = value.perceptionAnchors.length := by
    rw [List.length_map, hforall.length_eq]
  have hpromotes : List.Forall₂ Promotes
      ((allAttempts sha256 value failures (analyzed.map Prod.fst)).filter promotable)
      (analyzed.filterMap Prod.snd) := by
    rw [filter_allAttempts hlength]
    exact promotes_filterMap hforall
  constructor
  · exact attemptsInOrder_allAttempts hforall
  · intro anchor hanchor
    exact exists_localized_iff hforall hanchor
  · intro attempt hattempt hlocalized
    rcases mem_allAttempts hforall hattempt with ⟨anchor, hanchor, proposal, hdone⟩ | ⟨reason, hnone⟩
    · obtain ⟨spatial, hspatial, hlocalizes⟩ := hdone.localized_iff.mp hlocalized
      obtain ⟨hmem, hid⟩ := evidenceFor_eq_some.mp hspatial
      obtain ⟨-, hgeometry, haccuracy⟩ := spatial.projected_complete hlocalizes.projected
      obtain ⟨hgeometryEq, haccuracyEq⟩ := hdone.carries spatial hspatial hlocalized
      exact ⟨anchor, hanchor, hdone.anchorId_eq, spatial, hmem, hid, hlocalizes, hgeometry, hgeometryEq,
        haccuracy, haccuracyEq⟩
    · rw [hnone.abstained] at hlocalized
      cases hlocalized
  · intro attempt hattempt hnot
    rcases mem_allAttempts hforall hattempt with ⟨anchor, hanchor, proposal, hdone⟩ | ⟨reason, hnone⟩
    · exact hdone.bare hnot
    · exact hnone.geometry_none
  · exact hpromotes
  · exact needsReview_outputOf hpromotes

end Run

/-! ## A fire at a line -/

namespace Sample

theorem assetId_safe : isSafeIdentifier "asset-1" = true := by decide

def photo : EvidenceAsset where
  evidenceAssetId := "asset-1"
  kind := .image
  asset_id_safe := assetId_safe

def bundle : EventCandidateBundle where
  candidateId := "candidate-1"
  viewpoint := { origin := .deviceGps, orientation_complete := absent_together }
  observedTime := { startAt := { micros := 1782907200000000, aware := true } }
  shotScale := some .wide
  evidenceAssets := [photo]

def anchor (phenomenon : PhenomenonKind) (hphenomenon : phenomenon ∈ anchorPhenomena) : PerceptionAnchor where
  anchorId := "anchor-1"
  evidenceAssetId := "asset-1"
  phenomenon := phenomenon
  sourcePointNormalized := some (1 / 2, 1 / 2)
  modelId := "model-1"
  modelRevision := "r1"
  asset_id_safe := assetId_safe
  phenomenon_allowed := hphenomenon
  point_normalized := by
    rintro p ⟨⟩
    norm_num

/-- A line of two positions. -/
def ridge : JsonFields :=
  [("type", .str "LineString"),
    ("coordinates", .arr [.arr [.ofRat 5, .ofRat 43], .arr [.ofRat 6, .ofRat 44]])]

/-- Evidence from a source that gave the line itself. -/
def ridgeEvidence : SpatialEvidence where
  anchorId := "anchor-1"
  status := .projected
  method := some .explicitSourceGeometry
  geometryGeojson := some ridge
  horizontalAccuracyM := some 80
  accuracy_range := by
    rintro q ⟨⟩
    norm_num
  projected_valid := by
    rintro - g ⟨⟩
    decide +kernel

theorem ridgeEvidence_alone : ([ridgeEvidence].map SpatialEvidence.anchorId).Nodup := List.nodup_singleton _

/-- A request with one anchor, whose evidence is the line. -/
def ridgeRequest (phenomenon : PhenomenonKind) (hphenomenon : phenomenon ∈ anchorPhenomena) :
    EventPipelineInput where
  bundle := bundle
  perceptionAnchors := [anchor phenomenon hphenomenon]
  spatialEvidence := [ridgeEvidence]
  assets_known := by
    rintro a ha
    obtain rfl := List.mem_singleton.mp ha
    exact List.mem_singleton.mpr rfl
  anchor_ids_unique := List.nodup_singleton _
  evidence_unique := ridgeEvidence_alone
  evidence_of_anchors := by
    rintro e he
    obtain rfl := List.mem_singleton.mp he
    exact List.mem_singleton.mpr rfl

def digests : Sha256 := .ofDigests [] "e3b0c44298fc1c149afbf4c8996fb92427ae41e4649b934ca495991b7852b855"
  emptyText_digest

end Sample

theorem ridgeEvidence_localizes : Localizes Sample.ridgeEvidence :=
  ⟨rfl, by decide, fun h => by cases h⟩

/-- A front along the ridge is localized, and nothing about it is invented. -/
theorem run_nothing_invented_ridgeFront :
    ∃ out, run Sample.digests (Sample.ridgeRequest .visibleFireFront (by decide)) [] = .ok out ∧
      NothingInvented (Sample.ridgeRequest .visibleFireFront (by decide)) [] out := by
  have hpoints : PointsWhereLocalized (Sample.ridgeRequest .visibleFireFront (by decide)) := by
    intro anchor hanchor hphenomenon
    obtain rfl := List.mem_singleton.mp hanchor
    exact absurd rfl hphenomenon
  obtain ⟨out, hout⟩ := (run_nothing_invented Sample.digests _ []).2 hpoints
  exact ⟨out, hout, (run_nothing_invented Sample.digests _ []).1 out hout⟩

/-- An active fire that a source gives a line for leaves the whole request without an output. -/
theorem not_nothing_invented_ridgeFire :
    ¬ ∃ sha256 failures out,
      run sha256 (Sample.ridgeRequest .activeFirePoint (by decide)) failures = .ok out ∧
      NothingInvented (Sample.ridgeRequest .activeFirePoint (by decide)) failures out := by
  rintro ⟨sha256, failures, out, hout, -⟩
  have hpoint := exists_run_iff.mp ⟨out, hout⟩ _ (List.mem_singleton.mpr rfl) (by decide)
    Sample.ridgeEvidence (List.mem_singleton.mpr rfl) rfl ridgeEvidence_localizes Sample.ridge rfl
  exact absurd hpoint (by decide)

end EventPipeline

end FireviewerOrchestrator
