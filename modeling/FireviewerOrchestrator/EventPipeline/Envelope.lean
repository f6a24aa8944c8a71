/-
  Activity envelopes: what may close one.

  An envelope names the attempts that support it.  The validator looks them up by their identifiers
  (the last attempt with an identifier is the one found), and what it accepts stands on localized
  attempts of which one is no smoke.  A localized attempt is that of an anchor with its own evidence,
  so smoke alone never closes an envelope (`envelope_supported`).
-/
import FireviewerOrchestrator.EventPipeline.Run
import FireviewerOrchestrator.SessionRunner.Scripted

set_option linter.unusedVariables false

namespace FireviewerOrchestrator

namespace EventPipeline

/-! ## The program -/

structure ActivityEnvelopeCandidate where
  geometryGeojson : JsonFields
  supportAttemptIds : List String
  ids_safe : Pydantic.identifiers supportAttemptIds = true
  ids_bounded : 2 ≤ supportAttemptIds.length ∧ supportAttemptIds.length ≤ 512
  polygon_only : Geojson.validateGeojsonGeometry geometryGeojson ["Polygon", "MultiPolygon"] false = .ok ()
  ids_unique : supportAttemptIds.Nodup

/-- `by_id`. -/
def attemptsById (attempts : List LocalizationAttempt) : Dict String LocalizationAttempt :=
  Dict.ofPairs (attempts.map fun attempt => (attempt.attemptId, attempt))

/-- `by_id[attempt_id]`. -/
def attemptOf (attempts : List LocalizationAttempt) (attemptId : String) : Except PyExc LocalizationAttempt :=
  match (attemptsById attempts).get? attemptId with
  | some attempt => pure attempt
  | none => .error (.keyError attemptId)

/-- A phenomenon that cannot close an envelope without another one. -/
def isSmoke (phenomenon : Option PhenomenonKind) : Bool :=
  phenomenon ∈ [some PhenomenonKind.smokeOrigin, some .smokeColumnBase]

/-- A phenomenon that cannot support an envelope at all. -/
def isForbidden (phenomenon : Option PhenomenonKind) : Bool :=
  phenomenon ∈ [some PhenomenonKind.thermalHotspot, some .burnedArea, some .simulation]

/-- `validate_activity_envelope_supports`. -/
def validateActivityEnvelopeSupports (candidate : ActivityEnvelopeCandidate)
    (attempts : List LocalizationAttempt) : Except PyExc Unit := do
  Geojson.ensure (candidate.supportAttemptIds.all fun id => (attemptsById attempts).contains id)
    "activity envelope references an unknown localization attempt"
  let supports ← candidate.supportAttemptIds.mapM (attemptOf attempts)
  Geojson.ensure (supports.all fun attempt => attempt.status = .localized)
    "activity envelope supports must be localized"
  Geojson.ensure (!supports.all fun attempt => isSmoke attempt.phenomenon)
    "smoke-only evidence cannot close an activity envelope"
  Geojson.ensure (!supports.any fun attempt => isForbidden attempt.phenomenon)
    "hotspots, burned areas and simulations cannot support an active envelope"

/-! ## What it accepts -/

/-- The attempt found under an identifier has it. -/
theorem attemptOf_eq_ok {attempts : List LocalizationAttempt} {id : String} {attempt : LocalizationAttempt}
    (h : attemptOf attempts id = .ok attempt) : attempt ∈ attempts ∧ attempt.attemptId = id := by
  unfold attemptOf at h
  split at h
  · rename_i found hfound
    obtain rfl := Fallible.pure_eq_ok.mp h
    obtain ⟨before, after, heq, -⟩ := Dict.get?_ofPairs_eq_some.mp hfound
    have hmem : (id, found) ∈ attempts.map fun attempt => (attempt.attemptId, attempt) := by
      rw [heq]
      exact List.mem_append_right _ List.mem_cons_self
    obtain ⟨attempt, hattempt, hpair⟩ := List.mem_map.mp hmem
    obtain ⟨rfl, rfl⟩ := Prod.mk.inj hpair
    exact ⟨hattempt, rfl⟩
  · cases h

/-- An accepted envelope stands on localized attempts, and not all of them are smoke. -/
theorem supports_of_accepted {candidate : ActivityEnvelopeCandidate} {attempts : List LocalizationAttempt}
    (h : validateActivityEnvelopeSupports candidate attempts = .ok ()) :
    ∃ supports : List LocalizationAttempt,
      supports.map LocalizationAttempt.attemptId = candidate.supportAttemptIds ∧
      (∀ attempt ∈ supports, attempt ∈ attempts ∧ attempt.status = .localized) ∧
      ∃ attempt ∈ supports, isSmoke attempt.phenomenon = false := by
  obtain ⟨-, h⟩ := Fallible.check_bind_eq_ok.mp h
  obtain ⟨supports, hsupports, h⟩ := Fallible.bind_eq_ok.mp h
  obtain ⟨hlocalized, h⟩ := Fallible.check_bind_eq_ok.mp h
  obtain ⟨hsmoke, -⟩ := Fallible.check_bind_eq_ok.mp h
  have hfound := (Fallible.mapM_eq_ok.mp hsupports).imp fun _ _ => attemptOf_eq_ok
  refine ⟨supports, ?_, ?_, ?_⟩
  · have hids : List.Forall₂ (fun id attempt => id = attempt.attemptId) candidate.supportAttemptIds supports :=
      hfound.imp fun _ _ h => h.2.symm
    rw [← List.forall₂_map_right_iff (f := LocalizationAttempt.attemptId), List.forall₂_eq_eq_eq] at hids
    exact hids.symm
  · intro attempt hattempt
    obtain ⟨id, -, hmem, -⟩ := Fallible.exists_of_forall₂_right hfound hattempt
    have hstatus := List.all_eq_true.mp (Geojson.ensure_eq_ok.mp hlocalized) attempt hattempt
    exact ⟨hmem, of_decide_eq_true hstatus⟩
  · have hnotAll := Geojson.ensure_eq_ok.mp hsmoke
    rw [Bool.not_eq_true', List.all_eq_false] at hnotAll
    obtain ⟨attempt, hattempt, hnot⟩ := hnotAll
    exact ⟨attempt, hattempt, Bool.eq_false_of_not_eq_true hnot⟩

/-! ## Over a run of the pipeline -/

/-- The attempt is the one at the anchor, whose evidence is projected and was not cast across views. -/
structure StandsOn (value : EventPipelineInput) (out : EventPipelineOutput) (attempt : LocalizationAttempt)
    (anchor : PerceptionAnchor) : Prop where
  of_output : attempt ∈ out.localizationAttempts
  of_input : anchor ∈ value.perceptionAnchors
  anchorId_eq : attempt.anchorId = some anchor.anchorId
  evidence : ∃ spatial ∈ value.spatialEvidence, spatial.anchorId = anchor.anchorId ∧
    spatial.status = .projected ∧ spatial.method ≠ some .crossViewRaycast

/-- **At least two different attempts at different anchors, and one of a fire.** -/
def Supported (value : EventPipelineInput) (out : EventPipelineOutput) (candidate : ActivityEnvelopeCandidate) :
    Prop :=
  ∃ supports : List (LocalizationAttempt × PerceptionAnchor), 2 ≤ supports.length ∧
    supports.map (fun s => s.1.attemptId) = candidate.supportAttemptIds ∧
    (supports.map Prod.fst).Nodup ∧ (supports.map fun s => s.2.anchorId).Nodup ∧
    (∀ s ∈ supports, StandsOn value out s.1 s.2) ∧
    ∃ s ∈ supports, s.2.phenomenon = .activeFirePoint ∨ s.2.phenomenon = .visibleFireFront

section Envelope

variable {sha256 : Sha256} {value : EventPipelineInput} {failures : List PerceptionFailure}
  {out : EventPipelineOutput}

/-- An anchor whose attempt is no smoke is a fire. -/
theorem fire_of_not_smoke {anchor : PerceptionAnchor} (h : isSmoke (some (outputPhenomenon anchor)) = false) :
    anchor.phenomenon = .activeFirePoint ∨ anchor.phenomenon = .visibleFireFront := by
  have hallowed := anchor.phenomenon_allowed
  unfold outputPhenomenon at h
  rcases List.mem_cons.mp hallowed with hfire | hallowed
  · exact Or.inl hfire
  · rcases List.mem_cons.mp hallowed with hfront | hallowed
    · exact Or.inr hfront
    · rw [if_pos (List.mem_singleton.mp hallowed)] at h
      exact absurd h (by decide)

/-- A localized attempt is the one at an anchor that has its own evidence. -/
theorem standsOn_of_localized (h : run sha256 value failures = .ok out) {attempt : LocalizationAttempt}
    (hattempt : attempt ∈ out.localizationAttempts) (hlocalized : attempt.status = .localized) :
    ∃ anchor, StandsOn value out attempt anchor ∧ attempt.attemptId = attemptId sha256 value anchor ∧
      attempt.phenomenon = some (outputPhenomenon anchor) := by
  obtain ⟨analyzed, hforall, rfl⟩ := accounts_of_run h
  rcases mem_allAttempts hforall hattempt with ⟨anchor, hanchor, proposal, hdone⟩ | ⟨reason, hnone⟩
  · obtain ⟨spatial, hspatial, hlocalizes⟩ := hdone.localized_iff.mp hlocalized
    obtain ⟨hmem, hid⟩ := evidenceFor_eq_some.mp hspatial
    exact ⟨anchor, ⟨hattempt, hanchor, hdone.anchorId_eq, spatial, hmem, hid, hlocalizes.projected,
      hlocalizes.not_cross_view⟩, hdone.attemptId_eq, hdone.phenomenon_eq⟩
  · rw [hnone.abstained] at hlocalized
    cases hlocalized

/-- **Smoke alone never closes an envelope.**  What is accepted over the output of a run is supported, and
    where every anchor is smoke nothing is. -/
theorem envelope_supported (h : run sha256 value failures = .ok out) :
    (∀ candidate, validateActivityEnvelopeSupports candidate out.localizationAttempts = .ok () →
      Supported value out candidate) ∧
    ((∀ anchor ∈ value.perceptionAnchors, anchor.phenomenon = .smokeColumnBase) →
      ∀ candidate, validateActivityEnvelopeSupports candidate out.localizationAttempts ≠ .ok ()) := by
  have hsupported : ∀ candidate,
      validateActivityEnvelopeSupports candidate out.localizationAttempts = .ok () →
      Supported value out candidate := by
    intro candidate haccepted
    obtain ⟨attempts, hids, hlocalized, attempt, hattempt, hfire⟩ := supports_of_accepted haccepted
    have hanchors : ∀ attempt ∈ attempts, ∃ anchor, StandsOn value out attempt anchor ∧
        attempt.attemptId = attemptId sha256 value anchor ∧
        attempt.phenomenon = some (outputPhenomenon anchor) :=
      fun attempt hattempt => standsOn_of_localized h (hlocalized attempt hattempt).1
        (hlocalized attempt hattempt).2
    obtain ⟨someAnchor, -⟩ := hanchors attempt hattempt
    have : Nonempty PerceptionAnchor := ⟨someAnchor⟩
    choose! anchorOf hstands hid hphenomenon using hanchors
    have hfst : (attempts.map fun a => (a, anchorOf a)).map Prod.fst = attempts := by
      rw [List.map_map]
      exact List.map_id' attempts
    have hnodup : (attempts.map LocalizationAttempt.attemptId).Nodup := by
      rw [hids]
      exact candidate.ids_unique
    refine ⟨attempts.map fun a => (a, anchorOf a), ?_, ?_, ?_, ?_, ?_, ?_⟩
    · rw [List.length_map, ← List.length_map (f := LocalizationAttempt.attemptId), hids]
      exact candidate.ids_bounded.1
    · rw [List.map_map, ← hids]
      rfl
    · rw [hfst]
      exact hnodup.of_map
    · -- attempts with different identifiers are at different anchors
      have hsame : attempts.map LocalizationAttempt.attemptId
          = ((attempts.map fun a => (a, anchorOf a)).map fun s => s.2.anchorId).map
            fun anchorId => stableId sha256 "LOC" [value.bundle.candidateId, anchorId] := by
        rw [List.map_map, List.map_map]
        exact List.map_congr_left hid
      rw [hsame] at hnodup
      exact hnodup.of_map
    · intro s hs
      obtain ⟨a, ha, rfl⟩ := List.mem_map.mp hs
      exact hstands a ha
    · refine ⟨(attempt, anchorOf attempt), List.mem_map_of_mem hattempt, ?_⟩
      rw [hphenomenon attempt hattempt] at hfire
      exact fire_of_not_smoke hfire
  refine ⟨hsupported, fun hsmoke candidate haccepted => ?_⟩
  obtain ⟨supports, -, -, -, -, hstands, s, hs, hfire⟩ := hsupported candidate haccepted
  have hphenomenon := hsmoke s.2 (hstands s hs).of_input
  rw [hphenomenon] at hfire
  rcases hfire with hfire | hfire <;> cases hfire

end Envelope

/-! ### Two fronts along one ridge -/

namespace Sample

theorem secondId_safe : isSafeIdentifier "anchor-2" = true := by decide

def secondFront : PerceptionAnchor :=
  { anchor .visibleFireFront (by decide) with
    anchorId := "anchor-2"
    anchor_id_safe := secondId_safe }

def secondEvidence : SpatialEvidence := { ridgeEvidence with anchorId := "anchor-2" }

def frontsRequest : EventPipelineInput where
  bundle := bundle
  perceptionAnchors := [anchor .visibleFireFront (by decide), secondFront]
  spatialEvidence := [ridgeEvidence, secondEvidence]

def frontDigests : Sha256 := .ofDigests
  [("candidate-1\x1fanchor-1", "22c04ff1f7393e2eaf1074028bc7923402155b03d08fecb3166ceb2c4e2151d8"),
    ("candidate-1\x1fanchor-2", "5beceb61c646a57220ee518c8fbad2d7ab1dae0f237ea18e5058552a515ae07c")]
  "e3b0c44298fc1c149afbf4c8996fb92427ae41e4649b934ca495991b7852b855" (by decide +kernel)

/-- A triangle around the ridge. -/
def triangle : JsonFields :=
  [("type", .str "Polygon"),
    ("coordinates", .arr [.arr [.arr [.ofRat 5, .ofRat 43], .arr [.ofRat 6, .ofRat 44],
      .arr [.ofRat 6, .ofRat 43], .arr [.ofRat 5, .ofRat 43]]])]

def frontsEnvelope : ActivityEnvelopeCandidate where
  geometryGeojson := triangle
  supportAttemptIds := frontsRequest.perceptionAnchors.map (attemptId frontDigests frontsRequest)
  ids_safe := by decide +kernel
  ids_bounded := by decide
  polygon_only := by decide +kernel
  ids_unique := by decide +kernel

end Sample

/-- The envelope of the two fronts is accepted, and it is supported. -/
theorem envelope_supported_fronts :
    ∃ out, run Sample.frontDigests Sample.frontsRequest [] = .ok out ∧
      validateActivityEnvelopeSupports Sample.frontsEnvelope out.localizationAttempts = .ok () ∧
      Supported Sample.frontsRequest out Sample.frontsEnvelope := by
  have hreturns : returns (run Sample.frontDigests Sample.frontsRequest []) (fun out =>
      (validateActivityEnvelopeSupports Sample.frontsEnvelope out.localizationAttempts).isOk) = true := by
    decide
  obtain ⟨out, hout, haccepted⟩ := exists_returned hreturns
  obtain ⟨⟨⟩, haccepted⟩ := exists_ok haccepted
  exact ⟨out, hout, haccepted, (envelope_supported hout).1 _ haccepted⟩

end EventPipeline

end FireviewerOrchestrator
