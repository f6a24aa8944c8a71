/-
  The checks of a point bundle, and the evidence they cite.

  A check is made where its score is there; what it cites is collected from the references and the
  earlier states that are there.  For the satellite the two are tied together: without a satellite
  reference nothing is returned.  For the history they are not, and a check of a history score may cite
  nothing but the hypothesis it speaks for (`checks_cite_iff`).
-/
import FireviewerOrchestrator.Contracts.GeographicHypotheses
import FireviewerOrchestrator.Contracts.Identifiers
import FireviewerOrchestrator.Contracts.Python

set_option linter.unusedVariables false

namespace FireviewerOrchestrator

namespace PointBundles

/-- `_stable_id(prefix, *parts)`, with bars between the parts. -/
def stableId (sha256 : Sha256) (head : String) (parts : List String) : String :=
  head ++ "-" ++ sha256.shortDigest ("|".intercalate parts)

/-! ## References -/

/-- `_supported_references`. -/
def supportedReferences (hypothesis : GeographicHypothesis) (durable : DurableEventEvidence) :
    Except PyExc (List GeographicReference) :=
  let references := durable.geographicReferences.filter fun item =>
    item.referenceId ∈ hypothesis.supportingReferenceIds
  let missing := hypothesis.supportingReferenceIds.filter fun id =>
    id ∉ references.map GeographicReference.referenceId
  if missing = [] then .ok references
  else .error (.valueError ("geographic hypothesis has unresolved durable references: " ++
    ", ".intercalate (sortedDistinct missing)))

/-! ## Checks -/

section Program

variable (sha256 : Sha256) (hypothesis : GeographicHypothesis) (references : List GeographicReference)
  (durable : DurableEventEvidence)

/-- The hypothesis, the observation it explains and its photo: what every check speaks for. -/
def commonIds : List String :=
  [hypothesis.hypothesisId, hypothesis.observationId, hypothesis.mediaId]

/-- The identifiers of the references a satellite has made. -/
def satelliteIds : List String :=
  (references.filter (·.referenceKind.isSatellite)).map GeographicReference.referenceId

/-- The identifiers of the references to the earlier course of the fire. -/
def historyIds : List String :=
  (references.filter (·.referenceKind.isPrior)).map GeographicReference.referenceId

/-- `tuple(dict.fromkeys((*common_ids, *satellite_ids)))`. -/
def satelliteEvidence : List String := (commonIds hypothesis ++ satelliteIds references).eraseDups

/-- The hypothesis, its prior references and the earlier states, each once. -/
def historyEvidence : List String :=
  (hypothesis.hypothesisId :: historyIds references ++
    durable.priorFireStates.map PriorFireStateReference.stateId).eraseDups

/-- The only check without a score: it reports a gate, not a measurement. -/
def distanceCheck : GeospatialConsistencyCheck where
  checkId := stableId sha256 "CHECK-DISTANCE" [hypothesis.hypothesisId]
  checkType := .cameraDistance
  status := .supported
  reasonCode := "camera_distance_within_geographic_gate"
  evidenceIds := commonIds hypothesis

def bearingCheck : GeospatialConsistencyCheck where
  checkId := stableId sha256 "CHECK-BEARING" [hypothesis.hypothesisId]
  checkType := .cameraBearing
  status := .supported
  score := some hypothesis.scoreBreakdown.cameraBearing
  reasonCode := "visual_box_bearing_supported"
  evidenceIds := commonIds hypothesis

def terrainCheck : GeospatialConsistencyCheck where
  checkId := stableId sha256 "CHECK-TERRAIN" [hypothesis.hypothesisId]
  checkType := .terrainVisibility
  status := .supported
  score := some hypothesis.scoreBreakdown.terrainVisibility
  reasonCode := "terrain_line_of_sight_supported"
  evidenceIds := commonIds hypothesis

def satelliteCheck : GeospatialConsistencyCheck where
  checkId := stableId sha256 "CHECK-SATELLITE" [hypothesis.hypothesisId]
  checkType := .satelliteOverlap
  status := .supported
  score := some hypothesis.scoreBreakdown.satellite
  reasonCode := "satellite_reference_supported"
  evidenceIds := satelliteEvidence hypothesis references

def temporalCheck (score : ℚ) : GeospatialConsistencyCheck where
  checkId := stableId sha256 "CHECK-TEMPORAL" [hypothesis.hypothesisId]
  checkType := .temporalAlignment
  status := .supported
  score := some score
  reasonCode := "satellite_time_window_supported"
  evidenceIds := satelliteEvidence hypothesis references

/-- The one check whose evidence has no guard: both of its sources may be empty, and then the hypothesis is
    all that is cited. -/
def historyCheck (score : ℚ) : GeospatialConsistencyCheck where
  checkId := stableId sha256 "CHECK-HISTORY" [hypothesis.hypothesisId]
  checkType := .historyProgression
  status := .supported
  score := some score
  reasonCode := "history_progression_supported_as_non_absolute_prior"
  evidenceIds := historyEvidence hypothesis references durable

/-- `if score is not None: checks.append(…)`. -/
def checkOfScore (check : ℚ → GeospatialConsistencyCheck) :
    Option ℚ → Except PyExc (List GeospatialConsistencyCheck)
  | none => .ok []
  | some score => do
      let built ← (check score).build
      pure [built]

/-- `_checks_for`. -/
def checksFor : Except PyExc (List GeospatialConsistencyCheck) := do
  let distance ← (distanceCheck sha256 hypothesis).build
  let bearing ← (bearingCheck sha256 hypothesis).build
  let terrain ← (terrainCheck sha256 hypothesis).build
  if satelliteIds references = [] then
    .error (.valueError "accepted geographic hypothesis lacks satellite provenance")
  else
    let satellite ← (satelliteCheck sha256 hypothesis references).build
    let temporal ← checkOfScore (temporalCheck sha256 hypothesis references)
      hypothesis.scoreBreakdown.temporalAlignment
    let history ← checkOfScore (historyCheck sha256 hypothesis references durable)
      hypothesis.scoreBreakdown.historyProgression
    pure ([distance, bearing, terrain, satellite] ++ temporal ++ history)

end Program

/-! ## What is cited -/

section Cited

variable {sha256 : Sha256} {hypothesis : GeographicHypothesis} {references : List GeographicReference}
  {durable : DurableEventEvidence} {checks : List GeospatialConsistencyCheck}

/-- The references of a hypothesis are those it names, and they are all there. -/
theorem supportedReferences_eq_ok (h : supportedReferences hypothesis durable = .ok references) :
    (∀ reference, reference ∈ references ↔ reference ∈ durable.geographicReferences ∧
      reference.referenceId ∈ hypothesis.supportingReferenceIds) ∧
    ∀ id, id ∈ references.map GeographicReference.referenceId ↔ id ∈ hypothesis.supportingReferenceIds := by
  obtain ⟨hmissing, h⟩ := Fallible.ite_eq_ok.mp h
  obtain rfl := Except.ok.inj h
  have hmem : ∀ reference, reference ∈ durable.geographicReferences.filter (fun item =>
      item.referenceId ∈ hypothesis.supportingReferenceIds) ↔ reference ∈ durable.geographicReferences ∧
        reference.referenceId ∈ hypothesis.supportingReferenceIds := by
    intro reference
    rw [List.mem_filter, decide_eq_true_eq]
  refine ⟨hmem, fun id => ⟨fun hid => ?_, fun hid => ?_⟩⟩
  · obtain ⟨reference, hreference, rfl⟩ := List.mem_map.mp hid
    exact ((hmem reference).mp hreference).2
  · by_contra habsent
    exact List.filter_eq_nil_iff.mp hmissing id hid (decide_eq_true habsent)

/-- Every check cites what it claims, each evidence once, and no two checks have one identifier. -/
structure CitesEvidence (hypothesis : GeographicHypothesis) (references : List GeographicReference)
    (durable : DurableEventEvidence) (checks : List GeospatialConsistencyCheck) : Prop where
  evidence_distinct : ∀ check ∈ checks, check.evidenceIds.Nodup
  satellite_cited : ∀ check ∈ checks,
    check.checkType = .satelliteOverlap ∨ check.checkType = .temporalAlignment →
      ∃ reference ∈ references, reference.referenceKind.isSatellite = true ∧
        reference.referenceId ∈ hypothesis.supportingReferenceIds ∧ reference.referenceId ∈ check.evidenceIds
  history_cited : ∀ check ∈ checks, check.checkType = .historyProgression →
    (∃ reference ∈ references, reference.referenceKind.isPrior = true ∧
      reference.referenceId ∈ check.evidenceIds) ∨
    ∃ state ∈ durable.priorFireStates, state.stateId ∈ check.evidenceIds
  ids_distinct : (checks.map GeospatialConsistencyCheck.checkId).Nodup

/-- **The condition**: a history score comes with a prior reference or with an earlier state. -/
def HistoryProvided (hypothesis : GeographicHypothesis) (references : List GeographicReference)
    (durable : DurableEventEvidence) : Prop :=
  hypothesis.scoreBreakdown.historyProgression.isSome = true →
    (∃ reference ∈ references, reference.referenceKind.isPrior = true) ∨ durable.priorFireStates ≠ []

/-! ### What is returned -/

/-- The checks that are made where everything is in order. -/
def plannedChecks (sha256 : Sha256) (hypothesis : GeographicHypothesis)
    (references : List GeographicReference) (durable : DurableEventEvidence) :
    List GeospatialConsistencyCheck :=
  [distanceCheck sha256 hypothesis, bearingCheck sha256 hypothesis, terrainCheck sha256 hypothesis,
      satelliteCheck sha256 hypothesis references] ++
    (hypothesis.scoreBreakdown.temporalAlignment.map (temporalCheck sha256 hypothesis references)).toList ++
    (hypothesis.scoreBreakdown.historyProgression.map (historyCheck sha256 hypothesis references durable)).toList

/-- A check of a score is made where the score is there, as it stands, and its validator has seen that no
    evidence is cited twice. -/
theorem checkOfScore_eq_ok {check : ℚ → GeospatialConsistencyCheck} {score : Option ℚ}
    (h : checkOfScore check score = .ok checks) :
    checks = (score.map check).toList ∧ ∀ made ∈ checks, made.evidenceIds.Nodup := by
  cases score with
  | none =>
    obtain rfl := Except.ok.inj h
    exact ⟨rfl, fun made hmade => absurd hmade List.not_mem_nil⟩
  | some score =>
    obtain ⟨built, hbuilt, h⟩ := Fallible.bind_eq_ok.mp h
    obtain rfl := Fallible.pure_eq_ok.mp h
    obtain ⟨rfl, hnodup⟩ := GeospatialConsistencyCheck.evidence_nodup hbuilt
    exact ⟨rfl, List.forall_mem_singleton.mpr hnodup⟩

/-- **What is returned**: the planned checks, where there is a satellite reference, and each of them
    valid. -/
theorem checksFor_eq_ok (h : checksFor sha256 hypothesis references durable = .ok checks) :
    satelliteIds references ≠ [] ∧ checks = plannedChecks sha256 hypothesis references durable ∧
      ∀ check ∈ checks, check.evidenceIds.Nodup := by
  obtain ⟨distance, hdistance, h⟩ := Fallible.bind_eq_ok.mp h
  obtain ⟨bearing, hbearing, h⟩ := Fallible.bind_eq_ok.mp h
  obtain ⟨terrain, hterrain, h⟩ := Fallible.bind_eq_ok.mp h
  split_ifs at h with hnone
  obtain ⟨satellite, hsatellite, h⟩ := Fallible.bind_eq_ok.mp h
  obtain ⟨temporal, htemporal, h⟩ := Fallible.bind_eq_ok.mp h
  obtain ⟨history, hhistory, h⟩ := Fallible.bind_eq_ok.mp h
  obtain rfl := Fallible.pure_eq_ok.mp h
  obtain ⟨rfl, hdistance⟩ := GeospatialConsistencyCheck.evidence_nodup hdistance
  obtain ⟨rfl, hbearing⟩ := GeospatialConsistencyCheck.evidence_nodup hbearing
  obtain ⟨rfl, hterrain⟩ := GeospatialConsistencyCheck.evidence_nodup hterrain
  obtain ⟨rfl, hsatellite⟩ := GeospatialConsistencyCheck.evidence_nodup hsatellite
  obtain ⟨rfl, htemporal⟩ := checkOfScore_eq_ok htemporal
  obtain ⟨rfl, hhistory⟩ := checkOfScore_eq_ok hhistory
  refine ⟨hnone, rfl, ?_⟩
  simp only [List.forall_mem_append, List.forall_mem_cons]
  exact ⟨⟨⟨hdistance, hbearing, hterrain, hsatellite, by simp⟩, htemporal⟩, hhistory⟩

/-- A planned check is one of the four that are always made, or one of the two that need a score. -/
theorem mem_plannedChecks {check : GeospatialConsistencyCheck} :
    check ∈ plannedChecks sha256 hypothesis references durable ↔
      check ∈ [distanceCheck sha256 hypothesis, bearingCheck sha256 hypothesis,
        terrainCheck sha256 hypothesis, satelliteCheck sha256 hypothesis references] ∨
      (∃ score, hypothesis.scoreBreakdown.temporalAlignment = some score ∧
        check = temporalCheck sha256 hypothesis references score) ∨
      ∃ score, hypothesis.scoreBreakdown.historyProgression = some score ∧
        check = historyCheck sha256 hypothesis references durable score := by
  unfold plannedChecks
  simp only [List.mem_append, Option.mem_toList, Option.map_eq_some_iff, or_assoc, eq_comm (b := check)]

/-! ### Identifiers -/

/-- The heads of the identifiers, in the order of the checks. -/
def checkHeads (hypothesis : GeographicHypothesis) : List String :=
  ["CHECK-DISTANCE", "CHECK-BEARING", "CHECK-TERRAIN", "CHECK-SATELLITE"] ++
    (hypothesis.scoreBreakdown.temporalAlignment.map fun _ => "CHECK-TEMPORAL").toList ++
    (hypothesis.scoreBreakdown.historyProgression.map fun _ => "CHECK-HISTORY").toList

/-- One head for each check that is made: the two optional ones give four lists to look at. -/
theorem nodup_checkHeads (hypothesis : GeographicHypothesis) : (checkHeads hypothesis).Nodup := by
  unfold checkHeads
  cases hypothesis.scoreBreakdown.temporalAlignment with
  | none =>
    cases hypothesis.scoreBreakdown.historyProgression with
    | none => decide
    | some score =>
      show ["CHECK-DISTANCE", "CHECK-BEARING", "CHECK-TERRAIN", "CHECK-SATELLITE", "CHECK-HISTORY"].Nodup
      decide
  | some temporal =>
    cases hypothesis.scoreBreakdown.historyProgression with
    | none =>
      show ["CHECK-DISTANCE", "CHECK-BEARING", "CHECK-TERRAIN", "CHECK-SATELLITE", "CHECK-TEMPORAL"].Nodup
      decide
    | some score =>
      show ["CHECK-DISTANCE", "CHECK-BEARING", "CHECK-TERRAIN", "CHECK-SATELLITE", "CHECK-TEMPORAL",
        "CHECK-HISTORY"].Nodup
      decide

/-- An identifier is its head with the digest of the hypothesis; nothing else of the check goes into it. -/
theorem checkIds_planned : (plannedChecks sha256 hypothesis references durable).map
      GeospatialConsistencyCheck.checkId =
    (checkHeads hypothesis).map fun head => stableId sha256 head [hypothesis.hypothesisId] := by
  unfold plannedChecks checkHeads
  cases hypothesis.scoreBreakdown.temporalAlignment with
  | none => cases hypothesis.scoreBreakdown.historyProgression <;> rfl
  | some temporal => cases hypothesis.scoreBreakdown.historyProgression <;> rfl

/-- The checks of one hypothesis have one digest, and differ in their heads. -/
theorem checkIds_nodup :
    ((plannedChecks sha256 hypothesis references durable).map GeospatialConsistencyCheck.checkId).Nodup := by
  rw [checkIds_planned]
  -- one hypothesis, one digest: identifiers that are equal have equal heads
  refine (nodup_checkHeads hypothesis).map fun head head' heq => ?_
  unfold stableId at heq
  exact (String.append_left_inj _).mp ((String.append_left_inj _).mp heq)

/-! ### Valid checks -/

/-- The heads leave room for a dash and a digest within the 128 characters of an identifier. -/
theorem checkHeads_safe {head : String} (h : head ∈ checkHeads hypothesis) :
    isSafeIdentifier head = true ∧ head.length ≤ 100 := by
  have hall : ∀ head ∈ ["CHECK-DISTANCE", "CHECK-BEARING", "CHECK-TERRAIN", "CHECK-SATELLITE",
      "CHECK-TEMPORAL", "CHECK-HISTORY"], isSafeIdentifier head = true ∧ head.length ≤ 100 := by decide
  refine hall head ?_
  unfold checkHeads at h
  simp only [List.mem_append, Option.mem_toList, Option.map_eq_some_iff, List.mem_cons, List.not_mem_nil,
    or_false] at h ⊢
  grind

theorem checkId_safe {check : GeospatialConsistencyCheck}
    (h : check ∈ plannedChecks sha256 hypothesis references durable) :
    isSafeIdentifier check.checkId = true := by
  have hid := List.mem_map_of_mem (f := GeospatialConsistencyCheck.checkId) h
  rw [checkIds_planned] at hid
  obtain ⟨head, hhead, heq⟩ := List.mem_map.mp hid
  obtain ⟨hsafe, hlength⟩ := checkHeads_safe hhead
  rw [← heq]
  exact head_digest_safe sha256 _ hsafe hlength

theorem reasonCode_safe {check : GeospatialConsistencyCheck}
    (h : check ∈ plannedChecks sha256 hypothesis references durable) :
    isSafeIdentifier check.reasonCode = true := by
  have hall : ∀ reason ∈ ["camera_distance_within_geographic_gate", "visual_box_bearing_supported",
      "terrain_line_of_sight_supported", "satellite_reference_supported", "satellite_time_window_supported",
      "history_progression_supported_as_non_absolute_prior"], isSafeIdentifier reason = true := by decide
  refine hall check.reasonCode ?_
  rcases mem_plannedChecks.mp h with hfixed | ⟨score, -, rfl⟩ | ⟨score, -, rfl⟩
  · simp only [List.mem_cons, List.not_mem_nil, or_false] at hfixed
    rcases hfixed with rfl | rfl | rfl | rfl
    · simp [distanceCheck]
    · simp [bearingCheck]
    · simp [terrainCheck]
    · simp [satelliteCheck]
  · simp [temporalCheck]
  · simp [historyCheck]

/-- The score of a planned check is one of the hypothesis. -/
theorem planned_supported {check : GeospatialConsistencyCheck}
    (h : check ∈ plannedChecks sha256 hypothesis references durable) :
    (∀ score, check.score = some score → IsUnit score) ∧ check.status = .supported := by
  obtain ⟨-, hbearing, hterrain, hsatellite⟩ := hypothesis.scoreBreakdown.parts_bounds
  have hscored : ∀ {unit : ℚ}, IsUnit unit → ∀ score, some unit = some score → IsUnit score :=
    fun hunit score hscore => Option.some.inj hscore ▸ hunit
  rcases mem_plannedChecks.mp h with hfixed | ⟨score, hscore, rfl⟩ | ⟨score, hscore, rfl⟩
  · simp only [List.mem_cons, List.not_mem_nil, or_false] at hfixed
    rcases hfixed with rfl | rfl | rfl | rfl
    · exact ⟨fun score hscore => (nomatch hscore), rfl⟩
    · exact ⟨hscored hbearing, rfl⟩
    · exact ⟨hscored hterrain, rfl⟩
    · exact ⟨hscored hsatellite, rfl⟩
  · exact ⟨hscored (hypothesis.scoreBreakdown.temporal_bounds score hscore), rfl⟩
  · exact ⟨hscored (hypothesis.scoreBreakdown.history_bounds score hscore), rfl⟩

/-- A planned check is valid if its evidence is. -/
theorem planned_built {check : GeospatialConsistencyCheck}
    (h : check ∈ plannedChecks sha256 hypothesis references durable)
    (hevidence : 1 ≤ check.evidenceIds.length ∧ check.evidenceIds.length ≤ 128 ∧
      Pydantic.identifiers check.evidenceIds) (hnodup : check.evidenceIds.Nodup) :
    check.build = .ok check := by
  obtain ⟨hscore, hstatus⟩ := planned_supported h
  exact GeospatialConsistencyCheck.build_of_valid (checkId_safe h) (reasonCode_safe h) hscore hevidence
    hnodup hstatus

theorem checkOfScore_built {check : ℚ → GeospatialConsistencyCheck} {score : Option ℚ}
    (h : ∀ made ∈ (score.map check).toList, made.build = .ok made) :
    checkOfScore check score = .ok (score.map check).toList := by
  cases score with
  | none => rfl
  | some score =>
    have hbuilt := h (check score) List.mem_cons_self
    exact Fallible.bind_eq_ok.mpr ⟨_, hbuilt, rfl⟩

/-- With a satellite reference, and with valid evidence for each of them, the planned checks are made. -/
theorem checksFor_planned (hsatellite : satelliteIds references ≠ [])
    (hevidence : ∀ check ∈ plannedChecks sha256 hypothesis references durable,
      (1 ≤ check.evidenceIds.length ∧ check.evidenceIds.length ≤ 128 ∧
        Pydantic.identifiers check.evidenceIds) ∧ check.evidenceIds.Nodup) :
    checksFor sha256 hypothesis references durable =
      .ok (plannedChecks sha256 hypothesis references durable) := by
  have hbuilt : ∀ check ∈ plannedChecks sha256 hypothesis references durable, check.build = .ok check :=
    fun check hcheck => planned_built hcheck (hevidence check hcheck).1 (hevidence check hcheck).2
  unfold plannedChecks at hbuilt
  simp only [List.forall_mem_append, List.forall_mem_cons] at hbuilt
  obtain ⟨⟨⟨hdistance, hbearing, hterrain, hsatelliteCheck, -⟩, htemporal⟩, hhistory⟩ := hbuilt
  unfold checksFor
  rw [hdistance, Fallible.ok_bind, hbearing, Fallible.ok_bind, hterrain, Fallible.ok_bind, if_neg hsatellite,
    hsatelliteCheck, Fallible.ok_bind, checkOfScore_built htemporal, Fallible.ok_bind,
    checkOfScore_built hhistory, Fallible.ok_bind]
  rfl

/-! ### Digests -/

/-- An identifier's digest can be read back from it. -/
theorem shortDigest_of_stableId {head head' id id' : String}
    (h : stableId sha256 head [id] = stableId sha256 head' [id']) :
    sha256.shortDigest id = sha256.shortDigest id' := by
  unfold stableId at h
  rw [String.intercalate_singleton, String.intercalate_singleton] at h
  have hlist : (head ++ "-").toList ++ (sha256.shortDigest id).toList =
      (head' ++ "-").toList ++ (sha256.shortDigest id').toList := by
    rw [← String.toList_append, ← String.toList_append, h]
  have hlength : (sha256.shortDigest id).toList.length = (sha256.shortDigest id').toList.length := by
    rw [sha256.length_shortDigest, sha256.length_shortDigest]
  exact String.toList_inj.mp (List.append_inj' hlist hlength).2

/-- Checks of different hypotheses have different digests. -/
theorem checkIds_apart {hypothesis' : GeographicHypothesis} {references' : List GeographicReference}
    (hne : hypothesis'.hypothesisId ≠ hypothesis.hypothesisId)
    (hdist : sha256.Distinguishes [hypothesis.hypothesisId, hypothesis'.hypothesisId]) :
    ∀ check ∈ plannedChecks sha256 hypothesis references durable,
      ∀ check' ∈ plannedChecks sha256 hypothesis' references' durable, check.checkId ≠ check'.checkId := by
  intro check hcheck check' hcheck' heq
  have hid := List.mem_map_of_mem (f := GeospatialConsistencyCheck.checkId) hcheck
  have hid' := List.mem_map_of_mem (f := GeospatialConsistencyCheck.checkId) hcheck'
  rw [checkIds_planned] at hid hid'
  obtain ⟨head, -, hhead⟩ := List.mem_map.mp hid
  obtain ⟨head', -, hhead'⟩ := List.mem_map.mp hid'
  -- the digest of a hypothesis has one length, so it is read off the end whatever the head is
  have hdigest := shortDigest_of_stableId (hhead.trans (heq.trans hhead'.symm))
  exact hne (hdist _ (by simp) _ (by simp) hdigest).symm

/-! ### The two directions -/

/-- The guard at work: behind it there is a satellite reference, one the hypothesis names, and both
    satellite checks cite it. -/
theorem satellite_cited_of_ne_nil (hreferences : supportedReferences hypothesis durable = .ok references)
    (hsome : satelliteIds references ≠ []) : ∃ reference ∈ references,
      reference.referenceKind.isSatellite = true ∧
        reference.referenceId ∈ hypothesis.supportingReferenceIds ∧
        reference.referenceId ∈ satelliteEvidence hypothesis references := by
  obtain ⟨id, hid⟩ := List.exists_mem_of_ne_nil _ hsome
  obtain ⟨reference, hreference, rfl⟩ := List.mem_map.mp hid
  obtain ⟨hmem, hkind⟩ := List.mem_filter.mp hreference
  refine ⟨reference, hmem, hkind, ?_, ?_⟩
  · exact (((supportedReferences_eq_ok hreferences).1 reference).mp hmem).2
  · rw [satelliteEvidence, List.mem_eraseDups]
    exact List.mem_append_right _ hid

/-- The history that there is is cited. -/
theorem history_cited_of_provided
    (hprovided : (∃ reference ∈ references, reference.referenceKind.isPrior = true) ∨
      durable.priorFireStates ≠ []) :
    (∃ reference ∈ references, reference.referenceKind.isPrior = true ∧
      reference.referenceId ∈ historyEvidence hypothesis references durable) ∨
    ∃ state ∈ durable.priorFireStates, state.stateId ∈ historyEvidence hypothesis references durable := by
  rcases hprovided with ⟨reference, hreference, hkind⟩ | hstates
  · refine Or.inl ⟨reference, hreference, hkind, ?_⟩
    have hid : reference.referenceId ∈ historyIds references :=
      List.mem_map_of_mem (List.mem_filter.mpr ⟨hreference, hkind⟩)
    rw [historyEvidence, List.mem_eraseDups]
    exact List.mem_append_left _ (List.mem_cons_of_mem _ hid)
  · obtain ⟨state, hstate⟩ := List.exists_mem_of_ne_nil _ hstates
    refine Or.inr ⟨state, hstate, ?_⟩
    rw [historyEvidence, List.mem_eraseDups]
    exact List.mem_append_right _ (List.mem_map_of_mem hstate)

/-- A history check that cites some history has some to cite. -/
theorem provided_of_cites
    (hcites : CitesEvidence hypothesis references durable
      (plannedChecks sha256 hypothesis references durable)) :
    HistoryProvided hypothesis references durable := by
  intro hscore
  obtain ⟨score, hscore⟩ := Option.isSome_iff_exists.mp hscore
  have hcheck : historyCheck sha256 hypothesis references durable score ∈
      plannedChecks sha256 hypothesis references durable :=
    mem_plannedChecks.mpr (Or.inr (Or.inr ⟨score, hscore, rfl⟩))
  -- which evidence is cited does not matter here: that the references or the states have some is the
  -- condition
  rcases hcites.history_cited _ hcheck rfl with ⟨reference, hreference, hkind, -⟩ | ⟨state, hstate, -⟩
  · exact Or.inl ⟨reference, hreference, hkind⟩
  · exact Or.inr (List.ne_nil_of_mem hstate)

/-- Where the history is provided, everything is cited: the satellite checks by the guard, the history check
    by the condition, and the others have nothing of the kind to cite. -/
theorem cites_of_provided (hreferences : supportedReferences hypothesis durable = .ok references)
    (hsatellite : satelliteIds references ≠ [])
    (hnodup : ∀ check ∈ plannedChecks sha256 hypothesis references durable, check.evidenceIds.Nodup)
    (hprovided : HistoryProvided hypothesis references durable) :
    CitesEvidence hypothesis references durable (plannedChecks sha256 hypothesis references durable) where
  evidence_distinct := hnodup
  satellite_cited := by
    have hcited := satellite_cited_of_ne_nil hreferences hsatellite
    intro check hcheck htype
    rcases mem_plannedChecks.mp hcheck with hcheck | ⟨score, -, rfl⟩ | ⟨score, -, rfl⟩
    · simp only [List.mem_cons, List.not_mem_nil, or_false] at hcheck
      rcases hcheck with rfl | rfl | rfl | rfl
      · rcases htype with htype | htype <;> cases htype
      · rcases htype with htype | htype <;> cases htype
      · rcases htype with htype | htype <;> cases htype
      · exact hcited
    · exact hcited
    · rcases htype with htype | htype <;> cases htype
  history_cited := by
    intro check hcheck htype
    rcases mem_plannedChecks.mp hcheck with hcheck | ⟨score, -, rfl⟩ | ⟨score, hscore, rfl⟩
    · simp only [List.mem_cons, List.not_mem_nil, or_false] at hcheck
      rcases hcheck with rfl | rfl | rfl | rfl
      · cases htype
      · cases htype
      · cases htype
      · cases htype
    · cases htype
    · exact history_cited_of_provided (hprovided (Option.isSome_iff_exists.mpr ⟨score, hscore⟩))
  ids_distinct := checkIds_nodup

/-- **The checks cite what they claim exactly when a history score comes with its history**; and the
    checks of another hypothesis have other identifiers. -/
theorem checks_cite_iff (hreferences : supportedReferences hypothesis durable = .ok references)
    (h : checksFor sha256 hypothesis references durable = .ok checks) :
    (CitesEvidence hypothesis references durable checks ↔ HistoryProvided hypothesis references durable) ∧
    ∀ (hypothesis' : GeographicHypothesis) (references' : List GeographicReference)
      (checks' : List GeospatialConsistencyCheck),
      checksFor sha256 hypothesis' references' durable = .ok checks' →
      hypothesis'.hypothesisId ≠ hypothesis.hypothesisId →
      sha256.Distinguishes [hypothesis.hypothesisId, hypothesis'.hypothesisId] →
      ∀ check ∈ checks, ∀ check' ∈ checks', check.checkId ≠ check'.checkId := by
  obtain ⟨hsatellite, rfl, hnodup⟩ := checksFor_eq_ok h
  refine ⟨⟨provided_of_cites, cites_of_provided hreferences hsatellite hnodup⟩, ?_⟩
  intro hypothesis' references' checks' h' hne hdist
  obtain ⟨-, rfl, -⟩ := checksFor_eq_ok h'
  exact checkIds_apart hne hdist

end Cited

/-! ## Two hypotheses about one photo -/

namespace Plume

open EventEvidence

def noon : DateTime := { micros := 1782907200000000, aware := true }

def graph : EvidenceGraph where
  eventId := "EVENT-1"
  sources := [{ sourceId := "SOURCE-1", originId := "ORIGIN-1", publisher := "citizen", retrievedAt := noon,
                sourceType := .witness, independenceWeight := 1 }]
  media := [{ mediaId := "MEDIA-1", sourceId := "SOURCE-1", mediaGroupId := "GROUP-1", originId := "ORIGIN-1",
              kind := .photo, sha256 := "e3b0c44298fc1c149afbf4c8996fb92427ae41e4649b934ca495991b7852b855" }]

def hotspot : GeographicReference := { referenceId := "REF-SATELLITE", referenceKind := .satelliteHotspot }

/-- The durable evidence of the event, with these earlier states of the fire. -/
def durable (states : List PriorFireStateReference) : DurableEventEvidence where
  event := ⟨graph, EvidenceGraph.validateEvidenceGraph_eq_ok.mp rfl⟩
  uploadLocations := [{ locationId := "LOCATION-1", mediaId := "MEDIA-1" }]
  priorFireStates := states
  geographicReferences := [hotspot]
  sourceRevisionSha256 := "e3b0c44298fc1c149afbf4c8996fb92427ae41e4649b934ca495991b7852b855"

def perimeter : PriorFireStateReference := { stateId := "STATE-1" }

/-- A hypothesis that the satellite supports, with a history score. -/
def hypothesis (hypothesisId : String) (hid : isSafeIdentifier hypothesisId = true) :
    GeographicHypothesis where
  hypothesisId := hypothesisId
  observationId := "OBSERVATION-1"
  mediaId := "MEDIA-1"
  phenomenon := .smokeOrigin
  longitude := 5
  latitude := 44
  horizontalUncertaintyM := 250
  score := 3 / 4
  scoreBreakdown :=
    { visual := 4 / 5, cameraBearing := 9 / 10, terrainVisibility := 1, satellite := 3 / 4,
      historyProgression := some (1 / 2) }
  supportingReferenceIds := ["REF-SATELLITE"]
  ids_safe := ⟨hid, by decide, by decide⟩

def first : GeographicHypothesis := hypothesis "GEO-1" (by decide)
def second : GeographicHypothesis := hypothesis "GEO-2" (by decide)

def sha256 : Sha256 := .ofDigests
  [("GEO-1", "d78164004aae6efa014855f7457e402784bbf5d241b9085e805ce093d9e72c2b"),
    ("GEO-2", "c31e35335b61a0aec613195acf411f9adf05b6ffae366e1428fb5df0e316576e")]
  "e3b0c44298fc1c149afbf4c8996fb92427ae41e4649b934ca495991b7852b855" (by decide +kernel)

/-- Both hypotheses name the one reference of the event. -/
theorem references_first (states : List PriorFireStateReference) :
    supportedReferences first (durable states) = .ok [hotspot] := rfl

/-- With the earlier state and without it, what is planned for either hypothesis is returned. -/
theorem checks_of (states : List PriorFireStateReference)
    (hstates : states = [] ∨ states = [perimeter]) {hypothesis : GeographicHypothesis}
    (hhypothesis : hypothesis = first ∨ hypothesis = second) :
    checksFor sha256 hypothesis [hotspot] (durable states) =
      .ok (plannedChecks sha256 hypothesis [hotspot] (durable states)) := by
  refine checksFor_planned (by decide) ?_
  rcases hstates with rfl | rfl
  · rcases hhypothesis with rfl | rfl
    · decide
    · decide
  · rcases hhypothesis with rfl | rfl
    · decide
    · decide

end Plume

/-- With an earlier state to cite, the checks of the one hypothesis cite what they claim, and those of
    the other one are others. -/
theorem checks_cite_iff_state :
    CitesEvidence Plume.first [Plume.hotspot] (Plume.durable [Plume.perimeter])
      (plannedChecks Plume.sha256 Plume.first [Plume.hotspot] (Plume.durable [Plume.perimeter])) ∧
    ∀ check ∈ plannedChecks Plume.sha256 Plume.first [Plume.hotspot] (Plume.durable [Plume.perimeter]),
      ∀ check' ∈ plannedChecks Plume.sha256 Plume.second [Plume.hotspot] (Plume.durable [Plume.perimeter]),
        check.checkId ≠ check'.checkId := by
  have h := checks_cite_iff (Plume.references_first [Plume.perimeter])
    (Plume.checks_of [Plume.perimeter] (Or.inr rfl) (Or.inl rfl))
  refine ⟨h.1.mpr fun _ => Or.inr (List.cons_ne_nil _ _), ?_⟩
  exact h.2 _ _ _ (Plume.checks_of [Plume.perimeter] (Or.inr rfl) (Or.inr rfl)) (by decide) (by decide)

/-- **A history score without a history**: everything is returned, and the history check cites nothing
    but the hypothesis. -/
theorem history_uncited :
    supportedReferences Plume.first (Plume.durable []) = .ok [Plume.hotspot] ∧
    checksFor Plume.sha256 Plume.first [Plume.hotspot] (Plume.durable []) =
      .ok (plannedChecks Plume.sha256 Plume.first [Plume.hotspot] (Plume.durable [])) ∧
    historyEvidence Plume.first [Plume.hotspot] (Plume.durable []) = ["GEO-1"] ∧
    ¬CitesEvidence Plume.first [Plume.hotspot] (Plume.durable [])
      (plannedChecks Plume.sha256 Plume.first [Plume.hotspot] (Plume.durable [])) := by
  refine ⟨Plume.references_first [], Plume.checks_of [] (Or.inl rfl) (Or.inl rfl), by decide, fun hcites => ?_⟩
  rcases provided_of_cites hcites rfl with ⟨reference, hreference, hkind⟩ | hstates
  · rw [List.mem_singleton.mp hreference] at hkind
    cases hkind
  · exact hstates rfl

end PointBundles

end FireviewerOrchestrator
