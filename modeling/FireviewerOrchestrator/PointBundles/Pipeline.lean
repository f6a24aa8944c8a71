/-
  Point bundles: one dossier for each geographic hypothesis.

  The hypotheses are sorted by score, and by identifier where scores are equal.  Everything that is
  made of them afterwards is made in this order: the candidates with their ranks, which are put behind
  the event's own ones, and the bundles, each from the references, the uploads and the checks of its own
  hypothesis (`build_eq_ok`).  Since no identifier is repeated, no two hypotheses have one key, and the
  order in which they arrive leaves no trace (`build_reordered`).
-/
import FireviewerOrchestrator.Library.Ranking
import FireviewerOrchestrator.PointBundles.Checks
import Mathlib.Data.Prod.Lex
import Mathlib.Data.String.Basic

set_option linter.unusedVariables false

namespace FireviewerOrchestrator

namespace PointBundles

open EventEvidence

/-! ## Candidates -/

/-- `_candidate_for`. -/
def candidateFor (hypothesis : GeographicHypothesis) (result : GeographicHypothesisResultV1)
    (event : EventEvidenceV1) (rank : Nat) : Except PyExc LocationCandidate :=
  match event.graph.mediaById hypothesis.mediaId with
  | none => .error (.valueError "geographic hypothesis references unknown EventEvidence media")
  | some media => .ok
      { candidateId := hypothesis.hypothesisId
        longitude := hypothesis.longitude
        latitude := hypothesis.latitude
        radiusM := hypothesis.horizontalUncertaintyM
        score := hypothesis.score
        rank := rank
        evidenceKind := .geometricVerification
        providerId := result.providerId
        providerVersion := result.providerVersion
        sourceId := some media.sourceId
        mediaId := some hypothesis.mediaId
        referenceId := some hypothesis.observationId
        rawScore := some hypothesis.scoreBreakdown.visual
        temporalConsistency := hypothesis.scoreBreakdown.temporalAlignment
        geometricConsistency := some ((hypothesis.scoreBreakdown.cameraBearing +
          hypothesis.scoreBreakdown.terrainVisibility) / 2) }

/-- `(-item.score, item.hypothesis_id)`. -/
def sortKey (hypothesis : GeographicHypothesis) : ℚ ×ₗ String :=
  toLex (-hypothesis.score, hypothesis.hypothesisId)

/-- The event's graph with these candidates behind its own. -/
def withCandidates (graph : EvidenceGraph) (candidates : List LocationCandidate) : EvidenceGraph :=
  { graph with locationCandidates := graph.locationCandidates ++ candidates }

/-- `EventEvidenceV1.model_validate(event_payload)`: of a dumped event with more candidates, the number
    of the candidates is looked at again, and the graph. -/
def validatePayload (graph : EvidenceGraph) : Except PyExc EventEvidenceV1 := do
  Pydantic.validate "EventEvidenceV1" [(graph.locationCandidates.length ≤ 8192, "location_candidates")]
  EventEvidenceV1.modelValidate graph

/-! ## The pipeline -/

/-- The arguments of `PointEvidenceAssembler.assemble`. -/
structure AssembleRequest where
  event : EventEvidenceV1
  candidateId : String
  uploadLocations : List UploadLocationEvidence
  priorFireStates : List PriorFireStateReference
  geographicReferences : List GeographicReference
  geospatialChecks : List GeospatialConsistencyCheck
  generatedAt : DateTime
  queryText : String
  maxContextDocuments : Int
  sourceRevisionSha256 : String
  phenomenon : Phenomenon

/-- What `build` is asked beside the event. -/
structure BuildOptions where
  generatedAt : DateTime
  queryText : String := "preuves visuelles satellite géographiques historique du feu"
  maxContextDocuments : Int := 12

/-- The geographic service and the assembler. -/
structure Pipeline (Bundle : Type) where
  sha256 : Sha256
  locate : String → Except PyExc (DurableEventEvidence × GeographicHypothesisResultV1)
  assemble : AssembleRequest → Except PyExc Bundle

section Program

variable {Bundle : Type} (pipeline : Pipeline Bundle) (options : BuildOptions)

/-- What the assembler is given for a hypothesis. -/
def requestFor (durable : DurableEventEvidence) (event : EventEvidenceV1) (hypothesis : GeographicHypothesis)
    (references : List GeographicReference) (checks : List GeospatialConsistencyCheck) : AssembleRequest where
  event := event
  candidateId := hypothesis.hypothesisId
  uploadLocations := durable.uploadLocations.filter fun item => item.mediaId = hypothesis.mediaId
  priorFireStates := durable.priorFireStates
  geographicReferences := references
  geospatialChecks := checks
  generatedAt := options.generatedAt
  queryText := options.queryText
  maxContextDocuments := options.maxContextDocuments
  sourceRevisionSha256 := durable.sourceRevisionSha256
  phenomenon := hypothesis.phenomenon

/-- The bundle of one hypothesis. -/
def bundleFor (durable : DurableEventEvidence) (event : EventEvidenceV1)
    (hypothesis : GeographicHypothesis) : Except PyExc Bundle := do
  let references ← supportedReferences hypothesis durable
  let checks ← checksFor pipeline.sha256 hypothesis references durable
  pipeline.assemble (requestFor options durable event hypothesis references checks)

/-- What is made of the hypotheses, once they are located. -/
def bundlesFor (durable : DurableEventEvidence) (result : GeographicHypothesisResultV1) :
    Except PyExc (List Bundle) :=
  if result.hypotheses = [] then .ok []
  else
    let hypotheses := Ranking.sortedBy sortKey result.hypotheses
    if hypotheses.any fun item => item.hypothesisId ∈ durable.event.graph.candidateIds then
      .error (.valueError "geographic hypothesis collides with an existing candidate")
    else do
      let candidates ← (hypotheses.zipIdx 1).mapM fun item =>
        candidateFor item.1 result durable.event item.2
      let event ← validatePayload (withCandidates durable.event.graph candidates)
      hypotheses.mapM (bundleFor pipeline options durable event)

/-- `build`. -/
def build (eventId : String) : Except PyExc (GeographicHypothesisResultV1 × List Bundle) := do
  let (durable, result) ← pipeline.locate eventId
  let bundles ← bundlesFor pipeline options durable result
  pure (result, bundles)

end Program

/-! ## What is wanted -/

/-- Of two hypotheses, the one in front: by its score, or by its identifier where scores are equal. -/
def InFront (a b : GeographicHypothesis) : Prop :=
  b.score < a.score ∨ (b.score = a.score ∧ a.hypothesisId < b.hypothesisId)

/-- The candidate speaks for the hypothesis: it has its identifier, its position and its score, and its
    media with the media's source. -/
structure SpeaksFor (durable : DurableEventEvidence) (result : GeographicHypothesisResultV1)
    (candidate : LocationCandidate) (hypothesis : GeographicHypothesis) : Prop where
  id_eq : candidate.candidateId = hypothesis.hypothesisId
  position_eq : candidate.longitude = hypothesis.longitude ∧ candidate.latitude = hypothesis.latitude ∧
    candidate.radiusM = hypothesis.horizontalUncertaintyM
  score_eq : candidate.score = hypothesis.score
  provider_eq : candidate.providerId = result.providerId ∧ candidate.providerVersion = result.providerVersion
  media_eq : candidate.mediaId = some hypothesis.mediaId
  source_eq : ∃ media ∈ durable.event.graph.media, media.mediaId = hypothesis.mediaId ∧
    candidate.sourceId = some media.sourceId

/-- The bundle is assembled from the references that the hypothesis declares, all of them and no others,
    from the uploads of its media, and from its own checks. -/
def AssembledFor {Bundle : Type} (pipeline : Pipeline Bundle) (durable : DurableEventEvidence)
    (event : EventEvidenceV1) (hypothesis : GeographicHypothesis) (bundle : Bundle) : Prop :=
  ∃ request, pipeline.assemble request = .ok bundle ∧ request.event = event ∧
    request.candidateId = hypothesis.hypothesisId ∧
    (∀ reference, reference ∈ request.geographicReferences ↔
      reference ∈ durable.geographicReferences ∧ reference.referenceId ∈ hypothesis.supportingReferenceIds) ∧
    (∀ id, id ∈ request.geographicReferences.map GeographicReference.referenceId ↔
      id ∈ hypothesis.supportingReferenceIds) ∧
    (∀ upload, upload ∈ request.uploadLocations ↔
      upload ∈ durable.uploadLocations ∧ upload.mediaId = hypothesis.mediaId) ∧
    checksFor pipeline.sha256 hypothesis request.geographicReferences durable = .ok request.geospatialChecks

/-- One bundle for each hypothesis, in their order; and in the same order, behind the event's own
    candidates, one candidate for each, ranked from one on. -/
structure Dossiers {Bundle : Type} (pipeline : Pipeline Bundle) (durable : DurableEventEvidence)
    (result : GeographicHypothesisResultV1) (hypotheses : List GeographicHypothesis)
    (candidates : List LocationCandidate) (event : EventEvidenceV1) (bundles : List Bundle) : Prop where
  all : hypotheses.Perm result.hypotheses
  ordered : hypotheses.Pairwise InFront
  assembled : List.Forall₂ (AssembledFor pipeline durable event) hypotheses bundles
  event_eq : event.graph = withCandidates durable.event.graph candidates
  candidates_speak : List.Forall₂ (SpeaksFor durable result) candidates hypotheses
  ranks : candidates.map LocationCandidate.rank = List.range' 1 hypotheses.length

/-- The same result, with the hypotheses in another order. -/
def Reorders (result' result : GeographicHypothesisResultV1) : Prop :=
  result'.hypotheses.Perm result.hypotheses ∧ result'.providerId = result.providerId ∧
    result'.providerVersion = result.providerVersion ∧ result'.record = result.record

/-! ## What is built -/

section Built

variable {Bundle : Type} {pipeline : Pipeline Bundle} {options : BuildOptions}
  {durable : DurableEventEvidence} {event : EventEvidenceV1} {result result' : GeographicHypothesisResultV1}
  {hypothesis : GeographicHypothesis} {bundles : List Bundle}

/-! ### The order -/

theorem sortKey_lt_iff {a b : GeographicHypothesis} : sortKey a < sortKey b ↔ InFront a b := by
  unfold sortKey InFront
  rw [Prod.Lex.toLex_lt_toLex, neg_lt_neg_iff, neg_inj, eq_comm]

/-- No two hypotheses have one key, since no two have one identifier. -/
theorem nodup_sortKeys (result : GeographicHypothesisResultV1) : (result.hypotheses.map sortKey).Nodup := by
  have hids := result.hypothesis_ids_unique
  have hmap : (result.hypotheses.map sortKey).map (fun key => (ofLex key).2) =
      result.hypotheses.map GeographicHypothesis.hypothesisId := by
    rw [List.map_map]
    rfl
  rw [← hmap] at hids
  exact hids.of_map

theorem sorted_inFront : (Ranking.sortedBy sortKey result.hypotheses).Pairwise InFront :=
  (Ranking.pairwise_lt_sortedBy (nodup_sortKeys result)).imp sortKey_lt_iff.mp

/-! ### The candidates and the bundles -/

theorem candidateFor_eq_ok {rank : Nat} {candidate : LocationCandidate}
    (h : candidateFor hypothesis result durable.event rank = .ok candidate) :
    SpeaksFor durable result candidate hypothesis ∧ candidate.rank = rank := by
  unfold candidateFor at h
  split at h
  · cases h
  · next media hmedia =>
    obtain rfl := Except.ok.inj h
    obtain ⟨hmem, hid⟩ := (EvidenceGraph.mediaById_eq_some durable.event.closed.media_nodup).mp hmedia
    exact ⟨⟨rfl, ⟨rfl, rfl, rfl⟩, rfl, ⟨rfl, rfl⟩, rfl, media, hmem, hid, rfl⟩, rfl⟩

/-- The candidates stand in the order of the hypotheses, and are ranked in it. -/
theorem candidates_eq_ok {hypotheses : List GeographicHypothesis} {candidates : List LocationCandidate}
    (h : ((hypotheses.zipIdx 1).mapM fun item => candidateFor item.1 result durable.event item.2) =
      .ok candidates) :
    List.Forall₂ (SpeaksFor durable result) candidates hypotheses ∧
      candidates.map LocationCandidate.rank = List.range' 1 hypotheses.length := by
  have hrelated := Fallible.mapM_eq_ok.mp h
  constructor
  · have hspeak : List.Forall₂ (fun item candidate => SpeaksFor durable result candidate (Prod.fst item))
        (hypotheses.zipIdx 1) candidates :=
      hrelated.imp fun item candidate hcandidate => (candidateFor_eq_ok hcandidate).1
    have hfst : (hypotheses.zipIdx 1).map Prod.fst = hypotheses := List.zipIdx_map_fst 1 hypotheses
    rw [← hfst, List.forall₂_map_right_iff]
    exact hspeak.flip
  · have hranks : candidates.map LocationCandidate.rank = (hypotheses.zipIdx 1).map Prod.snd :=
      Fallible.map_eq_of_forall₂ hrelated fun item candidate hcandidate => (candidateFor_eq_ok hcandidate).2
    rw [hranks, List.zipIdx_map_snd]

theorem bundleFor_eq_ok {bundle : Bundle} (h : bundleFor pipeline options durable event hypothesis = .ok bundle) :
    AssembledFor pipeline durable event hypothesis bundle := by
  obtain ⟨references, hreferences, h⟩ := Fallible.bind_eq_ok.mp h
  obtain ⟨checks, hchecks, h⟩ := Fallible.bind_eq_ok.mp h
  obtain ⟨hmem, hids⟩ := supportedReferences_eq_ok hreferences
  refine ⟨requestFor options durable event hypothesis references checks, h, rfl, rfl, hmem, hids, ?_, hchecks⟩
  intro upload
  show upload ∈ durable.uploadLocations.filter _ ↔ _
  rw [List.mem_filter, decide_eq_true_eq]

theorem bundleFor_of {references : List GeographicReference} {checks : List GeospatialConsistencyCheck}
    (hreferences : supportedReferences hypothesis durable = .ok references)
    (hchecks : checksFor pipeline.sha256 hypothesis references durable = .ok checks) :
    bundleFor pipeline options durable event hypothesis =
      pipeline.assemble (requestFor options durable event hypothesis references checks) := by
  unfold bundleFor
  rw [hreferences, Fallible.ok_bind, hchecks, Fallible.ok_bind]

theorem validatePayload_eq_ok {graph : EvidenceGraph} (h : validatePayload graph = .ok event) :
    event.graph = graph := by
  obtain ⟨-, -, h⟩ := Fallible.bind_eq_ok.mp h
  exact (EventEvidenceV1.modelValidate_eq_ok.mp h).2

/-- **One dossier for each hypothesis**, all of them in one order. -/
theorem bundlesFor_eq_ok (h : bundlesFor pipeline options durable result = .ok bundles) :
    ∃ hypotheses candidates event, Dossiers pipeline durable result hypotheses candidates event bundles := by
  unfold bundlesFor at h
  by_cases hnone : result.hypotheses = []
  · rw [if_pos hnone] at h
    obtain rfl := Except.ok.inj h
    refine ⟨[], [], durable.event, hnone ▸ List.Perm.refl _, List.Pairwise.nil, .nil, ?_, .nil, rfl⟩
    unfold withCandidates
    rw [List.append_nil]
  · rw [if_neg hnone] at h
    dsimp only at h
    split_ifs at h with hcollides
    obtain ⟨candidates, hcandidates, h⟩ := Fallible.bind_eq_ok.mp h
    obtain ⟨event, hevent, hbundles⟩ := Fallible.bind_eq_ok.mp h
    obtain ⟨hspeak, hranks⟩ := candidates_eq_ok hcandidates
    have hassembled := (Fallible.mapM_eq_ok.mp hbundles).imp fun _ _ => bundleFor_eq_ok
    exact ⟨Ranking.sortedBy sortKey result.hypotheses, candidates, event, Ranking.sortedBy_perm,
      sorted_inFront, hassembled, validatePayload_eq_ok hevent, hspeak, hranks⟩

/-- **The order in which the hypotheses arrive leaves no trace**: what is built of them is the same, and
    so is what is raised. -/
theorem bundlesFor_reordered (h : Reorders result' result) :
    bundlesFor pipeline options durable result' = bundlesFor pipeline options durable result := by
  obtain ⟨hperm, hprovider, hversion, -⟩ := h
  have hsorted : Ranking.sortedBy sortKey result'.hypotheses = Ranking.sortedBy sortKey result.hypotheses :=
    Ranking.sortedBy_eq_of_perm (nodup_sortKeys result') hperm
  have hcandidate : ∀ item : GeographicHypothesis × Nat,
      candidateFor item.1 result' durable.event item.2 = candidateFor item.1 result durable.event item.2 := by
    intro item
    unfold candidateFor
    rw [hprovider, hversion]
  unfold bundlesFor
  rw [hsorted]
  simp only [hcandidate]
  by_cases hnone : result.hypotheses = []
  · have hnone' : result'.hypotheses = [] := List.Perm.eq_nil (hnone ▸ hperm)
    rw [if_pos hnone, if_pos hnone']
  · have hsome : result'.hypotheses ≠ [] := fun hnone' => hnone (List.Perm.eq_nil (hnone' ▸ hperm.symm))
    rw [if_neg hnone, if_neg hsome]

theorem build_eq_ok {eventId : String} : build pipeline options eventId = .ok (result, bundles) ↔
    ∃ durable, pipeline.locate eventId = .ok (durable, result) ∧
      bundlesFor pipeline options durable result = .ok bundles := by
  constructor
  · intro h
    obtain ⟨⟨durable, located⟩, hlocated, h⟩ := Fallible.bind_eq_ok.mp h
    obtain ⟨built, hbuilt, h⟩ := Fallible.bind_eq_ok.mp h
    obtain ⟨rfl, rfl⟩ := Prod.mk.inj (Fallible.pure_eq_ok.mp h)
    exact ⟨durable, hlocated, hbuilt⟩
  · rintro ⟨durable, hlocated, hbuilt⟩
    exact Fallible.bind_eq_ok.mpr ⟨_, hlocated, Fallible.bind_eq_ok.mpr ⟨_, hbuilt, rfl⟩⟩

/-- **A bundle for each hypothesis, from its own evidence**, in the order of the scores; and the same
    bundles, or the same exception, whatever order the service returns the hypotheses in. -/
theorem build_follows_hypotheses (pipeline : Pipeline Bundle) (options : BuildOptions) (eventId : String) :
    (∀ result bundles, build pipeline options eventId = .ok (result, bundles) →
      ∃ durable, pipeline.locate eventId = .ok (durable, result) ∧ ∃ hypotheses candidates event,
        Dossiers pipeline durable result hypotheses candidates event bundles) ∧
    ∀ (locate' : String → Except PyExc (DurableEventEvidence × GeographicHypothesisResultV1)) durable result
      result', pipeline.locate eventId = .ok (durable, result) → locate' eventId = .ok (durable, result') →
      Reorders result' result →
      (build { pipeline with locate := locate' } options eventId).map Prod.snd =
        (build pipeline options eventId).map Prod.snd := by
  constructor
  · intro result bundles h
    obtain ⟨durable, hlocated, hbuilt⟩ := build_eq_ok.mp h
    exact ⟨durable, hlocated, bundlesFor_eq_ok hbuilt⟩
  · intro locate' durable result result' hlocated hlocated' hreorders
    have hbundles : bundlesFor { pipeline with locate := locate' } options durable result' =
        bundlesFor pipeline options durable result := bundlesFor_reordered hreorders
    unfold build
    dsimp only
    rw [hlocated, hlocated', Fallible.ok_bind, Fallible.ok_bind]
    dsimp only
    rw [hbundles]
    cases bundlesFor pipeline options durable result with
    | ok bundles => rfl
    | error e => rfl

end Built

/-! ## Two hypotheses about one photo -/

namespace Plume

/-- The hypotheses in the one order or in the other one. -/
def located (hypotheses : List GeographicHypothesis)
    (hids : (hypotheses.map GeographicHypothesis.hypothesisId).Nodup) (hlength : hypotheses.length ≤ 2048) :
    GeographicHypothesisResultV1 where
  hypotheses := hypotheses
  providerId := "geographic-hypotheses"
  providerVersion := "1.0.0"
  hypothesis_ids_unique := hids
  hypotheses_bounded := hlength

def inOrder : GeographicHypothesisResultV1 := located [first, second] (by decide) (by decide)
def reversed : GeographicHypothesisResultV1 := located [second, first] (by decide) (by decide)

/-- An assembler that names the candidate and the evidence it was given. -/
def naming (request : AssembleRequest) : Except PyExc (String × List String) :=
  .ok (request.candidateId, request.geospatialChecks.flatMap GeospatialConsistencyCheck.evidenceIds)

def pipeline (result : GeographicHypothesisResultV1) : Pipeline (String × List String) where
  sha256 := sha256
  locate _ := .ok (durable [perimeter], result)
  assemble := naming

def options : BuildOptions := { generatedAt := noon }

/-- The evidence of all checks of a hypothesis. -/
def cited (hypothesisId : String) : List String :=
  [hypothesisId, "OBSERVATION-1", "MEDIA-1", hypothesisId, "OBSERVATION-1", "MEDIA-1", hypothesisId,
    "OBSERVATION-1", "MEDIA-1", hypothesisId, "OBSERVATION-1", "MEDIA-1", "REF-SATELLITE", hypothesisId, "STATE-1"]

theorem references_second : supportedReferences second (durable [perimeter]) = .ok [hotspot] := rfl

/-- The bundle of either names the evidence of its checks. -/
theorem bundle_of (event : EventEvidenceV1) {hypothesis : GeographicHypothesis}
    (hhypothesis : hypothesis = first ∨ hypothesis = second)
    (hreferences : supportedReferences hypothesis (durable [perimeter]) = .ok [hotspot]) :
    bundleFor (pipeline inOrder) options (durable [perimeter]) event hypothesis =
      .ok (hypothesis.hypothesisId, cited hypothesis.hypothesisId) := by
  have hchecks : checksFor (pipeline inOrder).sha256 hypothesis [hotspot] (durable [perimeter]) =
      .ok (plannedChecks sha256 hypothesis [hotspot] (durable [perimeter])) :=
    checks_of [perimeter] (Or.inr rfl) hhypothesis
  rw [bundleFor_of hreferences hchecks]
  show naming _ = _
  rcases hhypothesis with rfl | rfl
  · rfl
  · rfl

/-- The two stand in their order already: of one score, `GEO-1` comes first. -/
theorem sorted_inOrder : Ranking.sortedBy sortKey inOrder.hypotheses = [first, second] := by
  have hfront : InFront first second := Or.inr ⟨rfl, by decide⟩
  have hpairwise : [first, second].Pairwise fun a b => sortKey a ≤ sortKey b :=
    List.pairwise_pair.mpr (sortKey_lt_iff.mpr hfront).le
  exact Ranking.sortedBy_of_pairwise hpairwise

theorem bundles_inOrder : bundlesFor (pipeline inOrder) options (durable [perimeter]) inOrder =
    .ok [("GEO-1", cited "GEO-1"), ("GEO-2", cited "GEO-2")] := by
  have hsome : inOrder.hypotheses ≠ [] := List.cons_ne_nil _ _
  have hevent : ∃ candidates event, ([first, second].zipIdx 1).mapM (fun item =>
      candidateFor item.1 inOrder (durable [perimeter]).event item.2) = .ok candidates ∧
        validatePayload (withCandidates (durable [perimeter]).event.graph candidates) = .ok event :=
    ⟨_, _, rfl, rfl⟩
  obtain ⟨candidates, event, hcandidates, hevent⟩ := hevent
  unfold bundlesFor
  rw [if_neg hsome, sorted_inOrder]
  dsimp only
  rw [if_neg (by decide), hcandidates, Fallible.ok_bind, hevent, Fallible.ok_bind]
  refine Fallible.mapM_eq_ok.mpr (.cons ?_ (.cons ?_ .nil))
  · exact bundle_of event (Or.inl rfl) (references_first [perimeter])
  · exact bundle_of event (Or.inr rfl) references_second

theorem build_inOrder : build (pipeline inOrder) options "EVENT-1" =
    .ok (inOrder, [("GEO-1", cited "GEO-1"), ("GEO-2", cited "GEO-2")]) :=
  build_eq_ok.mpr ⟨_, rfl, bundles_inOrder⟩

end Plume

/-- The bundles of two hypotheses of one score, and what is made of them in the other order. -/
theorem build_follows_hypotheses_pair :
    (∃ durable, (Plume.pipeline Plume.inOrder).locate "EVENT-1" = .ok (durable, Plume.inOrder) ∧
      ∃ hypotheses candidates event, Dossiers (Plume.pipeline Plume.inOrder) durable Plume.inOrder hypotheses
        candidates event [("GEO-1", Plume.cited "GEO-1"), ("GEO-2", Plume.cited "GEO-2")]) ∧
    (build (Plume.pipeline Plume.reversed) Plume.options "EVENT-1").map Prod.snd =
      (build (Plume.pipeline Plume.inOrder) Plume.options "EVENT-1").map Prod.snd := by
  have h := build_follows_hypotheses (Plume.pipeline Plume.inOrder) Plume.options "EVENT-1"
  refine ⟨h.1 _ _ Plume.build_inOrder, ?_⟩
  have hswap : Plume.reversed.hypotheses.Perm Plume.inOrder.hypotheses := List.Perm.swap _ _ _
  exact h.2 (Plume.pipeline Plume.reversed).locate _ _ _ rfl rfl ⟨hswap, rfl, rfl, rfl⟩

end PointBundles

end FireviewerOrchestrator
