/-
  The event evidence contract: nine collections of records about one event, which refer to one another
  by their identifiers.

  `EvidenceGraph` is the data.  An `EventEvidence` is a graph its validator accepts; an instance is
  never parsed again, so the bounds of single fields, which only a parser checks, are not part of it.
  What the validator accepts is said by `ClosedGraph` without the order of its checks
  (`validateEvidenceGraph_eq_ok`).
-/
import FireviewerOrchestrator.Contracts.OutputV2

set_option linter.unusedVariables false

namespace FireviewerOrchestrator

namespace EventEvidence

/-! ## Records -/

structure TimeWindow where
  fromAt : Option DateTime := none
  toAt : Option DateTime := none
  deriving DecidableEq

structure CandidateArea where
  center : ℚ × ℚ
  radiusKm : ℚ
  confidence : ℚ
  name : Option String := none
  supportingSourceIds : List String := []
  deriving DecidableEq

inductive SourceType where
  | official | press | social | witness | satellite | panoramax | metadata | other
  deriving DecidableEq, Repr

structure EvidenceSource where
  sourceId : String
  originId : String
  sourceUrl : Option String := none
  publisher : String
  publishedAt : Option DateTime := none
  retrievedAt : DateTime
  sourceType : SourceType
  independenceWeight : ℚ
  deriving DecidableEq

structure Claim where
  claimId : String
  sourceId : String
  claimType : String
  text : String
  observedAt : Option DateTime := none
  confidence : ℚ
  evidenceMediaIds : List String := []
  deriving DecidableEq

inductive EvidenceMediaKind where
  | photo | video | audio | keyframe | satelliteImage
  deriving DecidableEq, Repr

structure EvidenceMedia where
  mediaId : String
  sourceId : String
  mediaGroupId : String
  originId : String
  kind : EvidenceMediaKind
  sha256 : String
  capturedAt : Option DateTime := none
  parentMediaId : Option String := none
  deriving DecidableEq

inductive VisualObservationType where
  | detection | placeCandidate | localMatch | targetPixel
  deriving DecidableEq, Repr

structure VisualObservation where
  observationId : String
  mediaId : String
  observationType : VisualObservationType
  resultReference : String
  confidence : Option ℚ := none
  deriving DecidableEq

inductive SatelliteObservationType where
  | burnScar | change | thermal | hotspot | cloudBlocked
  deriving DecidableEq, Repr

structure SatelliteObservation where
  observationId : String
  sourceId : String
  mediaId : Option String := none
  observationType : SatelliteObservationType
  resultReference : String
  acquiredAt : DateTime
  confidence : Option ℚ := none
  deriving DecidableEq

inductive CandidateEvidenceKind where
  | visualRetrieval | researchPrior | metadata | manual | geometricVerification
  deriving DecidableEq, Repr

structure LocationCandidate where
  candidateId : String
  longitude : ℚ
  latitude : ℚ
  radiusM : ℚ := 50
  score : ℚ
  rank : Nat
  evidenceKind : CandidateEvidenceKind
  providerId : String
  providerVersion : String
  sourceId : Option String := none
  mediaId : Option String := none
  referenceId : Option String := none
  rawScore : Option ℚ := none
  temporalConsistency : Option ℚ := none
  geometricConsistency : Option ℚ := none
  deriving DecidableEq

structure ScoreBreakdown where
  retrieval : ℚ := 0
  sourceIndependence : ℚ := 0
  geographicPrior : ℚ := 0
  metadata : ℚ := 0
  independentMedia : ℚ := 0
  temporalConsistency : ℚ := 0
  geometricVerification : ℚ := 0
  deriving DecidableEq

structure CandidateCluster where
  clusterId : String
  center : ℚ × ℚ
  radiusM : ℚ
  score : ℚ
  scoreBreakdown : ScoreBreakdown
  supportingCandidateIds : List String
  supportingSourceIds : List String := []
  supportingMediaIds : List String := []
  independentSourceCount : Nat := 0
  independentMediaCount : Nat := 0
  deriving DecidableEq

structure Contradiction where
  contradictionId : String
  leftEvidenceId : String
  rightEvidenceId : String
  description : String
  deriving DecidableEq

inductive ScopeType where
  | event | source | media | candidate | cluster
  deriving DecidableEq, Repr

structure Uncertainty where
  uncertaintyId : String
  code : String
  scopeType : ScopeType
  scopeId : String
  description : String
  deriving DecidableEq

/-! ## Graphs -/

/-- All that is known of an event, before the validator has looked at its references. -/
structure EvidenceGraph where
  eventId : String
  timeWindow : TimeWindow := {}
  candidateArea : Option CandidateArea := none
  sources : List EvidenceSource := []
  claims : List Claim := []
  media : List EvidenceMedia := []
  visualObservations : List VisualObservation := []
  satelliteObservations : List SatelliteObservation := []
  locationCandidates : List LocationCandidate := []
  candidateClusters : List CandidateCluster := []
  contradictions : List Contradiction := []
  uncertainties : List Uncertainty := []
  needsHumanReview : Bool := false
  deriving DecidableEq

namespace EvidenceGraph

variable (g : EvidenceGraph)

def sourceIds : List String := g.sources.map EvidenceSource.sourceId
def claimIds : List String := g.claims.map Claim.claimId
def mediaIds : List String := g.media.map EvidenceMedia.mediaId
def visualIds : List String := g.visualObservations.map VisualObservation.observationId
def satelliteIds : List String := g.satelliteObservations.map SatelliteObservation.observationId
def candidateIds : List String := g.locationCandidates.map LocationCandidate.candidateId
def clusterIds : List String := g.candidateClusters.map CandidateCluster.clusterId
def contradictionIds : List String := g.contradictions.map Contradiction.contradictionId
def uncertaintyIds : List String := g.uncertainties.map Uncertainty.uncertaintyId

/-- What a contradiction can be between. -/
def evidenceIds : List String := g.claimIds ++ g.visualIds ++ g.satelliteIds

/-- `media_by_id.get(media_id)`. -/
def mediaById (mediaId : String) : Option EvidenceMedia :=
  g.media.find? fun item => item.mediaId = mediaId

/-- `scope_ids[scope_type]`. -/
def scopeIds : ScopeType → List String
  | .event => [g.eventId]
  | .source => g.sourceIds
  | .media => g.mediaIds
  | .candidate => g.candidateIds
  | .cluster => g.clusterIds

/-- A keyframe's parent is a video, and then of its group. -/
def parentChecks (item : EvidenceMedia) : List (Bool × String) :=
  match item.parentMediaId with
  | none => []
  | some parentId =>
      [((g.mediaById parentId).any (·.kind = .video), "keyframe parent must reference a known video"),
        ((g.mediaById parentId).any (·.mediaGroupId = item.mediaGroupId),
          "keyframe and parent video must share media_group_id")]

/-- `duplicate … identifier`. -/
def identityChecks : List (Bool × String) :=
  [(g.sourceIds.Nodup, "duplicate source identifier"),
    (g.claimIds.Nodup, "duplicate claim identifier"),
    (g.mediaIds.Nodup, "duplicate media identifier"),
    (g.visualIds.Nodup, "duplicate visual observation identifier"),
    (g.satelliteIds.Nodup, "duplicate satellite observation identifier"),
    (g.candidateIds.Nodup, "duplicate location candidate identifier"),
    (g.clusterIds.Nodup, "duplicate candidate cluster identifier"),
    (g.contradictionIds.Nodup, "duplicate contradiction identifier"),
    (g.uncertaintyIds.Nodup, "duplicate uncertainty identifier")]

/-- References of the area, of claims and of media. -/
def sourceChecks : List (Bool × String) :=
  [(g.candidateArea.all fun area => area.supportingSourceIds.all (· ∈ g.sourceIds),
      "candidate area references an unknown source"),
    (g.claims.all (·.sourceId ∈ g.sourceIds), "claim references an unknown source"),
    (g.media.all (·.sourceId ∈ g.sourceIds), "media references an unknown source")]

/-- References of observations. -/
def observationChecks : List (Bool × String) :=
  [(g.visualObservations.all (·.mediaId ∈ g.mediaIds), "visual observation references unknown media"),
    (g.satelliteObservations.all (·.sourceId ∈ g.sourceIds),
      "satellite observation references an unknown source"),
    (g.satelliteObservations.all fun item => item.mediaId.all (· ∈ g.mediaIds),
      "satellite observation references unknown media")]

/-- References of one candidate. -/
def candidateChecks (candidate : LocationCandidate) : List (Bool × String) :=
  [(candidate.sourceId.all (· ∈ g.sourceIds), "location candidate references an unknown source"),
    (candidate.mediaId.all (· ∈ g.mediaIds), "location candidate references unknown media")]

/-- References of one cluster. -/
def clusterChecks (cluster : CandidateCluster) : List (Bool × String) :=
  [(cluster.supportingCandidateIds.all (· ∈ g.candidateIds),
      "candidate cluster references an unknown location candidate"),
    (cluster.supportingSourceIds.all (· ∈ g.sourceIds), "candidate cluster references an unknown source"),
    (cluster.supportingMediaIds.all (· ∈ g.mediaIds), "candidate cluster references unknown media")]

/-- References of contradictions and of uncertainties. -/
def scopeChecks : List (Bool × String) :=
  [(g.contradictions.all fun item => item.leftEvidenceId ∈ g.evidenceIds ∧ item.rightEvidenceId ∈ g.evidenceIds,
      "contradiction references unknown evidence"),
    (g.uncertainties.all fun item => item.scopeId ∈ g.scopeIds item.scopeType,
      "uncertainty references an unknown scope")]

/-- The checks of `validate_evidence_graph`, in their order. -/
def checks : List (Bool × String) :=
  g.identityChecks ++ g.sourceChecks ++ g.media.flatMap g.parentChecks ++ g.observationChecks ++
    g.locationCandidates.flatMap g.candidateChecks ++ g.candidateClusters.flatMap g.clusterChecks ++
    g.scopeChecks

/-- `validate_evidence_graph`. -/
def validateEvidenceGraph : Except PyExc Unit := Pydantic.validate "EventEvidenceV1" g.checks

/-! ## What is accepted -/

/-- Identifiers are not repeated, and references are to records of the graph. -/
structure ClosedGraph : Prop where
  sources_nodup : g.sourceIds.Nodup
  claims_nodup : g.claimIds.Nodup
  media_nodup : g.mediaIds.Nodup
  visual_nodup : g.visualIds.Nodup
  satellite_nodup : g.satelliteIds.Nodup
  candidates_nodup : g.candidateIds.Nodup
  clusters_nodup : g.clusterIds.Nodup
  contradictions_nodup : g.contradictionIds.Nodup
  uncertainties_nodup : g.uncertaintyIds.Nodup
  area_sources : ∀ area ∈ g.candidateArea, ∀ id ∈ area.supportingSourceIds, id ∈ g.sourceIds
  claim_source : ∀ item ∈ g.claims, item.sourceId ∈ g.sourceIds
  media_source : ∀ item ∈ g.media, item.sourceId ∈ g.sourceIds
  parent_media : ∀ item ∈ g.media, ∀ parentId ∈ item.parentMediaId, ∃ parent ∈ g.media,
    parent.mediaId = parentId ∧ parent.kind = .video ∧ parent.mediaGroupId = item.mediaGroupId
  visual_media : ∀ item ∈ g.visualObservations, item.mediaId ∈ g.mediaIds
  satellite_source : ∀ item ∈ g.satelliteObservations, item.sourceId ∈ g.sourceIds
  satellite_media : ∀ item ∈ g.satelliteObservations, ∀ id ∈ item.mediaId, id ∈ g.mediaIds
  candidate_source : ∀ item ∈ g.locationCandidates, ∀ id ∈ item.sourceId, id ∈ g.sourceIds
  candidate_media : ∀ item ∈ g.locationCandidates, ∀ id ∈ item.mediaId, id ∈ g.mediaIds
  cluster_candidates : ∀ item ∈ g.candidateClusters, ∀ id ∈ item.supportingCandidateIds, id ∈ g.candidateIds
  cluster_sources : ∀ item ∈ g.candidateClusters, ∀ id ∈ item.supportingSourceIds, id ∈ g.sourceIds
  cluster_media : ∀ item ∈ g.candidateClusters, ∀ id ∈ item.supportingMediaIds, id ∈ g.mediaIds
  contradiction_evidence : ∀ item ∈ g.contradictions,
    item.leftEvidenceId ∈ g.evidenceIds ∧ item.rightEvidenceId ∈ g.evidenceIds
  uncertainty_scope : ∀ item ∈ g.uncertainties, item.scopeId ∈ g.scopeIds item.scopeType

variable {g}

/-- Where identifiers are not repeated, looking one up is being there. -/
theorem mediaById_eq_some (hnodup : g.mediaIds.Nodup) {mediaId : String} {item : EvidenceMedia} :
    g.mediaById mediaId = some item ↔ item ∈ g.media ∧ item.mediaId = mediaId := by
  unfold mediaById
  constructor
  · intro h
    have hid := List.find?_some h
    exact ⟨List.mem_of_find?_eq_some h, of_decide_eq_true hid⟩
  · rintro ⟨hmem, hid⟩
    cases hfind : g.media.find? fun item => item.mediaId = mediaId with
    | none => exact absurd (decide_eq_true hid) (List.find?_eq_none.mp hfind item hmem)
    | some found =>
      have hfoundId := List.find?_some hfind
      have hfound : found.mediaId = item.mediaId := (of_decide_eq_true hfoundId).trans hid.symm
      rw [List.inj_on_of_nodup_map hnodup (List.mem_of_find?_eq_some hfind) hmem hfound]

/-- The two checks of a keyframe, together. -/
theorem parentChecks_iff (hnodup : g.mediaIds.Nodup) {item : EvidenceMedia} :
    (∀ check ∈ g.parentChecks item, check.1 = true) ↔ ∀ parentId ∈ item.parentMediaId, ∃ parent ∈ g.media,
      parent.mediaId = parentId ∧ parent.kind = .video ∧ parent.mediaGroupId = item.mediaGroupId := by
  unfold parentChecks
  cases item.parentMediaId with
  | none => simp
  | some parentId =>
    show (∀ check ∈ [(_, _), (_, _)], check.1 = true) ↔ _
    rw [List.forall_mem_cons, List.forall_mem_singleton]
    constructor
    · rintro ⟨hvideo, hgroup⟩ id hid
      obtain rfl := Option.some.inj hid
      obtain ⟨parent, hparent, hkind⟩ := (Option.any_eq_true _ _).mp hvideo
      obtain ⟨hmem, hparentId⟩ := (mediaById_eq_some hnodup).mp hparent
      rw [hparent] at hgroup
      exact ⟨parent, hmem, hparentId, of_decide_eq_true hkind, of_decide_eq_true hgroup⟩
    · intro h
      obtain ⟨parent, hmem, hid, hkind, hgroup⟩ := h parentId rfl
      have hparent := (mediaById_eq_some hnodup).mpr ⟨hmem, hid⟩
      simp [hparent, hkind, hgroup]

/-- The checks of a candidate are about the records it refers to. -/
theorem candidateChecks_iff {item : LocationCandidate} : (∀ check ∈ g.candidateChecks item, check.1 = true) ↔
    (∀ id ∈ item.sourceId, id ∈ g.sourceIds) ∧ ∀ id ∈ item.mediaId, id ∈ g.mediaIds := by
  simp [candidateChecks, Option.all_eq_true]

/-- Those of a cluster are about its candidates. -/
theorem clusterChecks_iff {item : CandidateCluster} : (∀ check ∈ g.clusterChecks item, check.1 = true) ↔
    (∀ id ∈ item.supportingCandidateIds, id ∈ g.candidateIds) ∧
      (∀ id ∈ item.supportingSourceIds, id ∈ g.sourceIds) ∧
      ∀ id ∈ item.supportingMediaIds, id ∈ g.mediaIds := by
  simp [clusterChecks]

/-- **The validator accepts exactly the closed graphs.** -/
theorem validateEvidenceGraph_eq_ok : g.validateEvidenceGraph = .ok () ↔ ClosedGraph g := by
  unfold validateEvidenceGraph
  rw [Pydantic.validate_eq_ok]
  unfold checks
  simp only [List.forall_mem_append, List.forall_mem_flatMap, candidateChecks_iff, clusterChecks_iff]
  simp only [identityChecks, sourceChecks, observationChecks, scopeChecks, List.forall_mem_cons,
    List.not_mem_nil, IsEmpty.forall_iff, implies_true, List.all_eq_true, Option.all_eq_true,
    decide_eq_true_eq, and_true]
  constructor
  · rintro ⟨⟨⟨⟨⟨⟨hids, hsources⟩, hparents⟩, hobservations⟩, hcandidates⟩, hclusters⟩, hscopes⟩
    obtain ⟨hsource, hclaim, hmedia, hvisual, hsatellite, hcandidate, hcluster, hcontradiction, hunc⟩ := hids
    exact
      { sources_nodup := hsource
        claims_nodup := hclaim
        media_nodup := hmedia
        visual_nodup := hvisual
        satellite_nodup := hsatellite
        candidates_nodup := hcandidate
        clusters_nodup := hcluster
        contradictions_nodup := hcontradiction
        uncertainties_nodup := hunc
        area_sources := hsources.1
        claim_source := hsources.2.1
        media_source := hsources.2.2
        parent_media := fun item hitem => (parentChecks_iff hmedia).mp (hparents item hitem)
        visual_media := hobservations.1
        satellite_source := hobservations.2.1
        satellite_media := hobservations.2.2
        candidate_source := fun item hitem => (hcandidates item hitem).1
        candidate_media := fun item hitem => (hcandidates item hitem).2
        cluster_candidates := fun item hitem => (hclusters item hitem).1
        cluster_sources := fun item hitem => (hclusters item hitem).2.1
        cluster_media := fun item hitem => (hclusters item hitem).2.2
        contradiction_evidence := hscopes.1
        uncertainty_scope := hscopes.2 }
  · intro h
    refine ⟨⟨⟨⟨⟨⟨?_, h.area_sources, h.claim_source, h.media_source⟩, ?_⟩, h.visual_media,
      h.satellite_source, h.satellite_media⟩, ?_⟩, ?_⟩, h.contradiction_evidence, h.uncertainty_scope⟩
    · exact ⟨h.sources_nodup, h.claims_nodup, h.media_nodup, h.visual_nodup, h.satellite_nodup,
        h.candidates_nodup, h.clusters_nodup, h.contradictions_nodup, h.uncertainties_nodup⟩
    · exact fun item hitem => (parentChecks_iff h.media_nodup).mpr (h.parent_media item hitem)
    · exact fun item hitem => ⟨h.candidate_source item hitem, h.candidate_media item hitem⟩
    · exact fun item hitem =>
        ⟨h.cluster_candidates item hitem, h.cluster_sources item hitem, h.cluster_media item hitem⟩

end EvidenceGraph

end EventEvidence

open EventEvidence in
/-- `EventEvidenceV1`: a closed graph. -/
structure EventEvidenceV1 where
  graph : EvidenceGraph
  closed : graph.ClosedGraph

namespace EventEvidenceV1

@[ext] theorem ext {r r' : EventEvidenceV1} (h : r.graph = r'.graph) : r = r' := by
  cases r
  cases r'
  cases h
  rfl

open EventEvidence in
/-- `EventEvidenceV1.model_validate` of an instance: it is not parsed again, and its validator runs. -/
def modelValidate (graph : EvidenceGraph) : Except PyExc EventEvidenceV1 :=
  match h : graph.validateEvidenceGraph with
  | .error e => .error e
  | .ok () => .ok ⟨graph, EvidenceGraph.validateEvidenceGraph_eq_ok.mp h⟩

open EventEvidence in
/-- An instance is accepted as it is, when its graph is closed. -/
theorem modelValidate_eq_ok {graph : EvidenceGraph} {r : EventEvidenceV1} :
    modelValidate graph = .ok r ↔ graph.ClosedGraph ∧ r.graph = graph := by
  unfold modelValidate
  constructor
  · intro h
    split at h
    · cases h
    · rename_i hvalid
      obtain rfl := Except.ok.inj h
      exact ⟨EvidenceGraph.validateEvidenceGraph_eq_ok.mp hvalid, rfl⟩
  · rintro ⟨hclosed, rfl⟩
    have hvalid := EvidenceGraph.validateEvidenceGraph_eq_ok.mpr hclosed
    split
    · rename_i herror
      rw [hvalid] at herror
      cases herror
    · rfl

end EventEvidenceV1

end FireviewerOrchestrator
