/-
  The merge of event evidence: the records that several providers return about one event become one.

  Each of the nine collections is a conflict-checked join (`KeyedJoin`) of those of the records, and the
  graph they make together is closed because each record is.  So the merge is a join as well
  (`IsMerge`): it depends on the set of the records only, and merges can be nested, repeated and
  reordered at will.
-/
import FireviewerOrchestrator.Contracts.EventEvidence
import FireviewerOrchestrator.Library.KeyedJoin

set_option linter.unusedVariables false

namespace FireviewerOrchestrator

namespace EvidenceMerge

open EventEvidence

/-! ## The nine collections -/

inductive Collection where
  | sources | claims | media | visualObservations | satelliteObservations | locationCandidates
  | candidateClusters | contradictions | uncertainties
  deriving DecidableEq, Repr

namespace Collection

@[reducible] def Item : Collection → Type
  | sources => EvidenceSource
  | claims => Claim
  | media => EvidenceMedia
  | visualObservations => VisualObservation
  | satelliteObservations => SatelliteObservation
  | locationCandidates => LocationCandidate
  | candidateClusters => CandidateCluster
  | contradictions => Contradiction
  | uncertainties => Uncertainty

instance (c : Collection) : DecidableEq c.Item := by cases c <;> exact inferInstance

/-- The `identifier` of the collection's items. -/
def identifier : (c : Collection) → c.Item → String
  | sources => EvidenceSource.sourceId
  | claims => Claim.claimId
  | media => EvidenceMedia.mediaId
  | visualObservations => VisualObservation.observationId
  | satelliteObservations => SatelliteObservation.observationId
  | locationCandidates => LocationCandidate.candidateId
  | candidateClusters => CandidateCluster.clusterId
  | contradictions => Contradiction.contradictionId
  | uncertainties => Uncertainty.uncertaintyId

def label : Collection → String
  | sources => "source"
  | claims => "claim"
  | media => "media"
  | visualObservations => "visual observation"
  | satelliteObservations => "satellite observation"
  | locationCandidates => "location candidate"
  | candidateClusters => "candidate cluster"
  | contradictions => "contradiction"
  | uncertainties => "uncertainty"

/-- The collection of a graph. -/
def items : (c : Collection) → EvidenceGraph → List c.Item
  | sources => EvidenceGraph.sources
  | claims => EvidenceGraph.claims
  | media => EvidenceGraph.media
  | visualObservations => EvidenceGraph.visualObservations
  | satelliteObservations => EvidenceGraph.satelliteObservations
  | locationCandidates => EvidenceGraph.locationCandidates
  | candidateClusters => EvidenceGraph.candidateClusters
  | contradictions => EvidenceGraph.contradictions
  | uncertainties => EvidenceGraph.uncertainties

end Collection

/-! ## The program -/

/-- `_merge_records`. -/
def mergeRecords {α : Type} [DecidableEq α] (identifier : α → String) (label : String)
    (records : List (List α)) : Except PyExc (List α) :=
  KeyedJoin.join identifier (fun id => .valueError ("conflicting " ++ label ++ " record " ++ id))
    records.flatten

/-- `_merge_records` of one of the collections. -/
def mergeCollection (c : Collection) (records : List EvidenceGraph) : Except PyExc (List c.Item) :=
  mergeRecords c.identifier c.label (records.map c.items)

/-- The record is about the same event, in the same window and area. -/
def checkSameEvent (reference record : EvidenceGraph) : Except PyExc Unit := do
  Geojson.ensure (record.eventId = reference.eventId) "EventEvidence records belong to different events"
  Geojson.ensure (record.timeWindow = reference.timeWindow)
    "EventEvidence records disagree on the event time window"
  Geojson.ensure (record.candidateArea = reference.candidateArea)
    "EventEvidence records disagree on the candidate area"

/-- `reference.model_copy(update=…)`. -/
def mergedCopy (reference : EvidenceGraph) (records : List EvidenceGraph) : Except PyExc EvidenceGraph := do
  let sources ← mergeCollection .sources records
  let claims ← mergeCollection .claims records
  let media ← mergeCollection .media records
  let visualObservations ← mergeCollection .visualObservations records
  let satelliteObservations ← mergeCollection .satelliteObservations records
  let locationCandidates ← mergeCollection .locationCandidates records
  let candidateClusters ← mergeCollection .candidateClusters records
  let contradictions ← mergeCollection .contradictions records
  let uncertainties ← mergeCollection .uncertainties records
  pure
    { reference with
      sources := sources
      claims := claims
      media := media
      visualObservations := visualObservations
      satelliteObservations := satelliteObservations
      locationCandidates := locationCandidates
      candidateClusters := candidateClusters
      contradictions := contradictions
      uncertainties := uncertainties
      needsHumanReview := records.any EvidenceGraph.needsHumanReview }

/-- The merge, up to the validation of its result. -/
def mergeGraphs : List EvidenceGraph → Except PyExc EvidenceGraph
  | [] => .error (.valueError "at least one EventEvidence record is required")
  | reference :: rest => do
      rest.forM (checkSameEvent reference)
      mergedCopy reference (reference :: rest)

/-- `merge_event_evidence`. -/
def mergeEventEvidence (records : List EventEvidenceV1) : Except PyExc EventEvidenceV1 := do
  let merged ← mergeGraphs (records.map EventEvidenceV1.graph)
  EventEvidenceV1.modelValidate merged

/-! ## What a merge is -/

/-- The items of a collection, of all the records. -/
def allItems (c : Collection) (records : List EvidenceGraph) : List c.Item := records.flatMap c.items

/-- Two records are about the same event, in the same window and area. -/
def SameEvent (r r' : EvidenceGraph) : Prop :=
  r.eventId = r'.eventId ∧ r.timeWindow = r'.timeWindow ∧ r.candidateArea = r'.candidateArea

/-- The records are about one event: what is copied from the first one is the same in all of them. -/
def Agree (records : List EvidenceGraph) : Prop := ∀ r ∈ records, ∀ r' ∈ records, SameEvent r r'

/-- In no collection do two different items have the same identifier. -/
def NoConflict (records : List EvidenceGraph) : Prop :=
  ∀ c : Collection, KeyedJoin.Consistent c.identifier (allItems c records)

/-- What the records agree on, and of each collection the items of all the records, strictly increasing
    by identifier. -/
structure IsMerge (records : List EvidenceGraph) (merged : EvidenceGraph) : Prop where
  agrees : ∀ r ∈ records, SameEvent r merged
  joined : ∀ c : Collection, KeyedJoin.IsJoin c.identifier (allItems c records) (c.items merged)
  needsHumanReview_iff : merged.needsHumanReview = true ↔ ∃ r ∈ records, r.needsHumanReview = true

section Merge

variable {records records' : List EvidenceGraph} {merged merged' : EvidenceGraph}

/-- Being about one event is an equivalence, so any record can stand for the others. -/
theorem SameEvent.symm {r r' : EvidenceGraph} (h : SameEvent r r') : SameEvent r' r :=
  ⟨h.1.symm, h.2.1.symm, h.2.2.symm⟩

theorem SameEvent.trans {r r' r'' : EvidenceGraph} (h : SameEvent r r') (h' : SameEvent r' r'') :
    SameEvent r r'' :=
  ⟨h.1.trans h'.1, h.2.1.trans h'.2.1, h.2.2.trans h'.2.2⟩

/-- An item of all the records is an item of one of them. -/
theorem mem_allItems {c : Collection} {a : c.Item} :
    a ∈ allItems c records ↔ ∃ r ∈ records, a ∈ c.items r := List.mem_flatMap

/-- Graphs are equal if what the records agree on, their collections and their flag are. -/
theorem graph_ext (hevent : merged.eventId = merged'.eventId) (hwindow : merged.timeWindow = merged'.timeWindow)
    (harea : merged.candidateArea = merged'.candidateArea)
    (hitems : ∀ c : Collection, c.items merged = c.items merged')
    (hreview : merged.needsHumanReview = merged'.needsHumanReview) : merged = merged' := by
  have h1 : merged.sources = merged'.sources := hitems .sources
  have h2 : merged.claims = merged'.claims := hitems .claims
  have h3 : merged.media = merged'.media := hitems .media
  have h4 : merged.visualObservations = merged'.visualObservations := hitems .visualObservations
  have h5 : merged.satelliteObservations = merged'.satelliteObservations := hitems .satelliteObservations
  have h6 : merged.locationCandidates = merged'.locationCandidates := hitems .locationCandidates
  have h7 : merged.candidateClusters = merged'.candidateClusters := hitems .candidateClusters
  have h8 : merged.contradictions = merged'.contradictions := hitems .contradictions
  have h9 : merged.uncertainties = merged'.uncertainties := hitems .uncertainties
  cases merged
  cases merged'
  simp_all

/-- **There is one merge at most.** -/
theorem IsMerge.unique (hne : records ≠ []) (h : IsMerge records merged) (h' : IsMerge records merged') :
    merged = merged' := by
  obtain ⟨r, hr⟩ := List.exists_mem_of_ne_nil records hne
  obtain ⟨hevent, hwindow, harea⟩ := h.agrees r hr
  obtain ⟨hevent', hwindow', harea'⟩ := h'.agrees r hr
  have hreview : merged.needsHumanReview = merged'.needsHumanReview := by
    rw [Bool.eq_iff_iff, h.needsHumanReview_iff, h'.needsHumanReview_iff]
  exact graph_ext (hevent.symm.trans hevent') (hwindow.symm.trans hwindow') (harea.symm.trans harea')
    (fun c => (h.joined c).unique (h'.joined c)) hreview

/-- Records that have a merge are about one event, the merge's own. -/
theorem IsMerge.agree (h : IsMerge records merged) : Agree records := by
  intro r hr r' hr'
  exact (h.agrees r hr).trans (h.agrees r' hr').symm

/-- Records that have a merge do not conflict: a join exists only of consistent items. -/
theorem IsMerge.noConflict (h : IsMerge records merged) : NoConflict records :=
  fun c => (h.joined c).consistent

/-- Nothing is lost and nothing is made up, in any collection. -/
theorem IsMerge.items_iff (h : IsMerge records merged) (c : Collection) (a : c.Item) :
    a ∈ c.items merged ↔ ∃ r ∈ records, a ∈ c.items r :=
  ((h.joined c).mem_iff a).trans mem_allItems

/-- A merge is the merge of itself. -/
theorem IsMerge.self (h : IsMerge records merged) : IsMerge [merged] merged := by
  constructor
  · intro r hr
    obtain rfl := List.mem_singleton.mp hr
    exact ⟨rfl, rfl, rfl⟩
  · intro c
    refine (h.joined c).self.congr fun a => ?_
    rw [mem_allItems]
    simp
  · simp

/-- What the records say, their merge says already. -/
theorem IsMerge.absorb (h : IsMerge records merged) {others : List EvidenceGraph}
    (hothers : ∀ r ∈ others, r = merged ∨ r ∈ records) : IsMerge (merged :: others) merged := by
  -- each record of the list adds nothing to the merge: it is the merge, or one it was made of
  have hsaid : ∀ r ∈ merged :: others, SameEvent r merged ∧
      (∀ (c : Collection), ∀ a ∈ c.items r, a ∈ c.items merged) ∧
      (r.needsHumanReview = true → merged.needsHumanReview = true) := by
    intro r hr
    have hcases : r = merged ∨ r ∈ records := by
      rcases List.mem_cons.mp hr with rfl | hr
      · exact Or.inl rfl
      · exact hothers r hr
    rcases hcases with rfl | hmem
    · exact ⟨⟨rfl, rfl, rfl⟩, fun _ _ => id, id⟩
    · exact ⟨h.agrees r hmem, fun c a ha => (h.items_iff c a).mpr ⟨r, hmem, ha⟩,
        fun hreview => h.needsHumanReview_iff.mpr ⟨r, hmem, hreview⟩⟩
  constructor
  · exact fun r hr => (hsaid r hr).1
  · intro c
    refine (h.self.joined c).congr fun a => ?_
    rw [mem_allItems, mem_allItems]
    constructor
    · rintro ⟨r, hr, ha⟩
      exact ⟨merged, List.mem_cons_self, List.mem_singleton.mp hr ▸ ha⟩
    · rintro ⟨r, hr, ha⟩
      exact ⟨merged, List.mem_singleton.mpr rfl, (hsaid r hr).2.1 c a ha⟩
  · constructor
    · exact fun hreview => ⟨merged, List.mem_cons_self, hreview⟩
    · rintro ⟨r, hr, hreview⟩
      exact (hsaid r hr).2.2 hreview

/-! ### The merge of closed graphs is closed -/

/-- The identifiers of a collection are those of the records. -/
theorem IsMerge.mem_ids (h : IsMerge records merged) (c : Collection) {id : String} :
    id ∈ (c.items merged).map c.identifier ↔ ∃ r ∈ records, id ∈ (c.items r).map c.identifier := by
  constructor
  · intro hid
    obtain ⟨a, ha, rfl⟩ := List.mem_map.mp hid
    obtain ⟨r, hr, har⟩ := (h.items_iff c a).mp ha
    exact ⟨r, hr, List.mem_map_of_mem har⟩
  · rintro ⟨r, hr, hid⟩
    obtain ⟨a, ha, rfl⟩ := List.mem_map.mp hid
    exact List.mem_map_of_mem ((h.items_iff c a).mpr ⟨r, hr, ha⟩)

/-- What each record's items refer to, the merged items refer to. -/
theorem IsMerge.forall_items (h : IsMerge records merged) (c : Collection) {P : c.Item → Prop}
    (hrecords : ∀ r ∈ records, ∀ a ∈ c.items r, P a) : ∀ a ∈ c.items merged, P a := by
  intro a ha
  obtain ⟨r, hr, har⟩ := (h.items_iff c a).mp ha
  exact hrecords r hr a har

/-- **The merge of closed graphs is closed.** -/
theorem IsMerge.closed (h : IsMerge records merged) (hne : records ≠ [])
    (hclosed : ∀ r ∈ records, r.ClosedGraph) : merged.ClosedGraph := by
  -- a reference of a record ends in the record, and each family of identifiers only grows in the merge
  have hids : ∀ c : Collection, ((c.items merged).map c.identifier).Nodup := fun c => (h.joined c).nodup_keys
  have hsource : ∀ r ∈ records, ∀ id ∈ r.sourceIds, id ∈ merged.sourceIds :=
    fun r hr id hid => (h.mem_ids .sources).mpr ⟨r, hr, hid⟩
  have hmedia : ∀ r ∈ records, ∀ id ∈ r.mediaIds, id ∈ merged.mediaIds :=
    fun r hr id hid => (h.mem_ids .media).mpr ⟨r, hr, hid⟩
  have hcandidate : ∀ r ∈ records, ∀ id ∈ r.candidateIds, id ∈ merged.candidateIds :=
    fun r hr id hid => (h.mem_ids .locationCandidates).mpr ⟨r, hr, hid⟩
  have hevidence : ∀ r ∈ records, ∀ id ∈ r.evidenceIds, id ∈ merged.evidenceIds := by
    intro r hr id hid
    rcases List.mem_append.mp hid with hid | hid
    · rcases List.mem_append.mp hid with hid | hid
      · exact List.mem_append_left _ (List.mem_append_left _ ((h.mem_ids .claims).mpr ⟨r, hr, hid⟩))
      · exact List.mem_append_left _
          (List.mem_append_right _ ((h.mem_ids .visualObservations).mpr ⟨r, hr, hid⟩))
    · exact List.mem_append_right _ ((h.mem_ids .satelliteObservations).mpr ⟨r, hr, hid⟩)
  have hscope : ∀ r ∈ records, ∀ scope, ∀ id ∈ r.scopeIds scope, id ∈ merged.scopeIds scope := by
    intro r hr scope id hid
    cases scope with
    | event => rwa [EvidenceGraph.scopeIds, ← (h.agrees r hr).1]
    | source => exact hsource r hr id hid
    | media => exact hmedia r hr id hid
    | candidate => exact hcandidate r hr id hid
    | cluster => exact (h.mem_ids .candidateClusters).mpr ⟨r, hr, hid⟩
  obtain ⟨first, hfirst⟩ := List.exists_mem_of_ne_nil records hne
  constructor
  · exact hids .sources
  · exact hids .claims
  · exact hids .media
  · exact hids .visualObservations
  · exact hids .satelliteObservations
  · exact hids .locationCandidates
  · exact hids .candidateClusters
  · exact hids .contradictions
  · exact hids .uncertainties
  -- the nine collections have their identifiers by the join; each reference below leads from an item of one
  -- record into the same record, and what is there is in the merge
  · intro area harea id hid
    rw [← (h.agrees first hfirst).2.2] at harea
    exact hsource first hfirst id ((hclosed first hfirst).area_sources area harea id hid)
  · exact h.forall_items .claims fun r hr a ha => hsource r hr _ ((hclosed r hr).claim_source a ha)
  · exact h.forall_items .media fun r hr a ha => hsource r hr _ ((hclosed r hr).media_source a ha)
  · refine h.forall_items .media fun r hr a ha parentId hparentId => ?_
    obtain ⟨parent, hparent, hid, hkind, hgroup⟩ := (hclosed r hr).parent_media a ha parentId hparentId
    exact ⟨parent, (h.items_iff .media parent).mpr ⟨r, hr, hparent⟩, hid, hkind, hgroup⟩
  · exact h.forall_items .visualObservations fun r hr a ha => hmedia r hr _ ((hclosed r hr).visual_media a ha)
  · exact h.forall_items .satelliteObservations
      fun r hr a ha => hsource r hr _ ((hclosed r hr).satellite_source a ha)
  · exact h.forall_items .satelliteObservations
      fun r hr a ha id hid => hmedia r hr id ((hclosed r hr).satellite_media a ha id hid)
  · exact h.forall_items .locationCandidates
      fun r hr a ha id hid => hsource r hr id ((hclosed r hr).candidate_source a ha id hid)
  · exact h.forall_items .locationCandidates
      fun r hr a ha id hid => hmedia r hr id ((hclosed r hr).candidate_media a ha id hid)
  · exact h.forall_items .candidateClusters
      fun r hr a ha id hid => hcandidate r hr id ((hclosed r hr).cluster_candidates a ha id hid)
  · exact h.forall_items .candidateClusters
      fun r hr a ha id hid => hsource r hr id ((hclosed r hr).cluster_sources a ha id hid)
  · exact h.forall_items .candidateClusters
      fun r hr a ha id hid => hmedia r hr id ((hclosed r hr).cluster_media a ha id hid)
  · refine h.forall_items .contradictions fun r hr a ha => ?_
    obtain ⟨hleft, hright⟩ := (hclosed r hr).contradiction_evidence a ha
    exact ⟨hevidence r hr _ hleft, hevidence r hr _ hright⟩
  · exact h.forall_items .uncertainties
      fun r hr a ha => hscope r hr _ _ ((hclosed r hr).uncertainty_scope a ha)

/-! ## What the program computes -/

/-- One collection: the library's join, of the items of all the records. -/
theorem mergeCollection_eq_ok {c : Collection} {out : List c.Item} :
    mergeCollection c records = .ok out ↔ KeyedJoin.IsJoin c.identifier (allItems c records) out := by
  unfold mergeCollection mergeRecords allItems
  rw [KeyedJoin.join_eq_ok, List.flatMap_def]

/-- The three checks together are the relation. -/
theorem checkSameEvent_eq_ok {reference record : EvidenceGraph} :
    checkSameEvent reference record = .ok () ↔ SameEvent record reference := by
  unfold checkSameEvent SameEvent
  rw [Fallible.check_bind_eq_ok, Fallible.check_bind_eq_ok]
  simp only [Geojson.ensure_eq_ok, decide_eq_true_eq]

/-- The copy: the nine joins, over what the reference says of the event. -/
theorem mergedCopy_eq_ok {reference : EvidenceGraph} : mergedCopy reference records = .ok merged ↔
    SameEvent reference merged ∧
      (∀ c : Collection, KeyedJoin.IsJoin c.identifier (allItems c records) (c.items merged)) ∧
      merged.needsHumanReview = records.any EvidenceGraph.needsHumanReview := by
  unfold mergedCopy
  constructor
  · intro h
    obtain ⟨sources, h1, h⟩ := Fallible.bind_eq_ok.mp h
    obtain ⟨claims, h2, h⟩ := Fallible.bind_eq_ok.mp h
    obtain ⟨media, h3, h⟩ := Fallible.bind_eq_ok.mp h
    obtain ⟨visual, h4, h⟩ := Fallible.bind_eq_ok.mp h
    obtain ⟨satellite, h5, h⟩ := Fallible.bind_eq_ok.mp h
    obtain ⟨candidates, h6, h⟩ := Fallible.bind_eq_ok.mp h
    obtain ⟨clusters, h7, h⟩ := Fallible.bind_eq_ok.mp h
    obtain ⟨contradictions, h8, h⟩ := Fallible.bind_eq_ok.mp h
    obtain ⟨uncertainties, h9, h⟩ := Fallible.bind_eq_ok.mp h
    obtain rfl := Fallible.pure_eq_ok.mp h
    refine ⟨⟨rfl, rfl, rfl⟩, ?_, rfl⟩
    intro c
    cases c with
    | sources => exact mergeCollection_eq_ok.mp h1
    | claims => exact mergeCollection_eq_ok.mp h2
    | media => exact mergeCollection_eq_ok.mp h3
    | visualObservations => exact mergeCollection_eq_ok.mp h4
    | satelliteObservations => exact mergeCollection_eq_ok.mp h5
    | locationCandidates => exact mergeCollection_eq_ok.mp h6
    | candidateClusters => exact mergeCollection_eq_ok.mp h7
    | contradictions => exact mergeCollection_eq_ok.mp h8
    | uncertainties => exact mergeCollection_eq_ok.mp h9
  · rintro ⟨⟨hevent, hwindow, harea⟩, hjoined, hreview⟩
    have hcollection : ∀ c : Collection, mergeCollection c records = .ok (c.items merged) :=
      fun c => mergeCollection_eq_ok.mpr (hjoined c)
    simp only [hcollection, Fallible.ok_bind]
    refine congrArg Except.ok (graph_ext hevent hwindow harea ?_ hreview.symm)
    intro c
    cases c <;> rfl

/-- **The program computes the merge.** -/
theorem mergeGraphs_eq_ok (hne : records ≠ []) :
    mergeGraphs records = .ok merged ↔ IsMerge records merged := by
  obtain ⟨reference, rest, rfl⟩ := List.exists_cons_of_ne_nil hne
  unfold mergeGraphs
  rw [Fallible.check_bind_eq_ok, Fallible.forM_eq_ok, mergedCopy_eq_ok]
  simp only [checkSameEvent_eq_ok]
  constructor
  · rintro ⟨hsame, hreference, hjoined, hreview⟩
    refine ⟨?_, hjoined, by rw [hreview, List.any_eq_true]⟩
    intro r hr
    rcases List.mem_cons.mp hr with rfl | hr
    · exact hreference
    · exact (hsame r hr).trans hreference
  · intro h
    refine ⟨?_, h.agrees reference List.mem_cons_self, h.joined, ?_⟩
    · intro r hr
      exact h.agree r (List.mem_cons_of_mem _ hr) reference List.mem_cons_self
    · rw [Bool.eq_iff_iff, h.needsHumanReview_iff, List.any_eq_true]

/-- **There is a merge exactly if the records agree and no items conflict.** -/
theorem exists_isMerge_iff (hne : records ≠ []) :
    (∃ merged, IsMerge records merged) ↔ Agree records ∧ NoConflict records := by
  constructor
  · rintro ⟨merged, h⟩
    exact ⟨h.agree, h.noConflict⟩
  · rintro ⟨hagree, hconflict⟩
    obtain ⟨reference, hreference⟩ := List.exists_mem_of_ne_nil records hne
    have hjoins : ∀ c : Collection, ∃ out, KeyedJoin.IsJoin c.identifier (allItems c records) out :=
      fun c => KeyedJoin.exists_isJoin_iff.mpr (hconflict c)
    -- the nine joins exist one by one; the graph that has them is the merge
    choose out hout using hjoins
    refine ⟨
      { reference with
        sources := out .sources
        claims := out .claims
        media := out .media
        visualObservations := out .visualObservations
        satelliteObservations := out .satelliteObservations
        locationCandidates := out .locationCandidates
        candidateClusters := out .candidateClusters
        contradictions := out .contradictions
        uncertainties := out .uncertainties
        needsHumanReview := records.any EvidenceGraph.needsHumanReview }, ?_, ?_, ?_⟩
    · exact fun r hr => hagree r hr reference hreference
    · intro c
      cases c <;> exact hout _
    · exact List.any_eq_true

/-- Nothing has to be given up to merge fewer records. -/
theorem Agree.mono (h : Agree records) (hsub : ∀ r ∈ records', r ∈ records) : Agree records' :=
  fun r hr r' hr' => h r (hsub r hr) r' (hsub r' hr')

/-- Fewer records, fewer items, and no conflict that was not there before. -/
theorem NoConflict.mono (h : NoConflict records) (hsub : ∀ r ∈ records', r ∈ records) :
    NoConflict records' := by
  intro c
  refine (h c).mono ?_
  intro a ha
  obtain ⟨r, hr, har⟩ := mem_allItems.mp ha
  exact mem_allItems.mpr ⟨r, hsub r hr, har⟩

/-! ## Order, repetition and grouping -/

/-- The records have the same to say, together. -/
structure Equivalent (records records' : List EvidenceGraph) : Prop where
  same_iff : ∀ merged, (∀ r ∈ records, SameEvent r merged) ↔ ∀ r ∈ records', SameEvent r merged
  items_iff : ∀ (c : Collection) (a : c.Item), a ∈ allItems c records ↔ a ∈ allItems c records'
  review_iff : (∃ r ∈ records, r.needsHumanReview = true) ↔ ∃ r ∈ records', r.needsHumanReview = true

theorem Equivalent.refl (records : List EvidenceGraph) : Equivalent records records :=
  ⟨fun _ => Iff.rfl, fun _ _ => Iff.rfl, Iff.rfl⟩

theorem Equivalent.trans {records'' : List EvidenceGraph} (h : Equivalent records records')
    (h' : Equivalent records' records'') : Equivalent records records'' :=
  ⟨fun m => (h.same_iff m).trans (h'.same_iff m), fun c a => (h.items_iff c a).trans (h'.items_iff c a),
    h.review_iff.trans h'.review_iff⟩

/-- Parts can be replaced by what says the same, which is what nesting does. -/
theorem Equivalent.append {more more' : List EvidenceGraph} (h : Equivalent records records')
    (h' : Equivalent more more') : Equivalent (records ++ more) (records' ++ more') := by
  constructor
  · intro merged
    rw [List.forall_mem_append, List.forall_mem_append, h.same_iff, h'.same_iff]
  · intro c a
    simp only [allItems, List.flatMap_append, List.mem_append]
    exact or_congr (h.items_iff c a) (h'.items_iff c a)
  · simp only [List.mem_append, or_and_right, exists_or]
    exact or_congr h.review_iff h'.review_iff

/-- The same records, in any order and any number of times. -/
theorem Equivalent.of_mem_iff (h : ∀ r, r ∈ records ↔ r ∈ records') : Equivalent records records' := by
  constructor
  · intro merged
    simp only [h]
  · intro c a
    simp only [mem_allItems, h]
  · simp only [h]

/-- A merge says what its records say. -/
theorem IsMerge.equivalent (h : IsMerge records merged) (hne : records ≠ []) :
    Equivalent [merged] records := by
  obtain ⟨first, hfirst⟩ := List.exists_mem_of_ne_nil records hne
  constructor
  · intro other
    rw [List.forall_mem_singleton]
    exact ⟨fun hother r hr => (h.agrees r hr).trans hother,
      fun hall => (h.agrees first hfirst).symm.trans (hall first hfirst)⟩
  · intro c a
    simp only [mem_allItems, List.mem_singleton, exists_eq_left]
    exact h.items_iff c a
  · simp only [List.mem_singleton, exists_eq_left]
    exact h.needsHumanReview_iff

/-- **A merge depends only on what the records say together.** -/
theorem Equivalent.isMerge_iff (h : Equivalent records records') :
    IsMerge records merged ↔ IsMerge records' merged := by
  constructor
  · intro hmerge
    exact ⟨(h.same_iff merged).mp hmerge.agrees, fun c => (hmerge.joined c).congr (h.items_iff c),
      hmerge.needsHumanReview_iff.trans h.review_iff⟩
  · intro hmerge
    exact ⟨(h.same_iff merged).mpr hmerge.agrees,
      fun c => (hmerge.joined c).congr fun a => (h.items_iff c a).symm,
      hmerge.needsHumanReview_iff.trans h.review_iff.symm⟩

end Merge

/-! ## The merge of validated records -/

/-- The graphs of the records. -/
def graphs (records : List EventEvidenceV1) : List EvidenceGraph := records.map EventEvidenceV1.graph

section Validated

variable {records records' : List EventEvidenceV1} {out : EventEvidenceV1}

theorem graphs_ne_nil (hne : records ≠ []) : graphs records ≠ [] := by
  rw [graphs, Ne, List.map_eq_nil_iff]
  exact hne

/-- What was validated once is closed, by the record's own field. -/
theorem graphs_closed : ∀ r ∈ graphs records, r.ClosedGraph := by
  intro r hr
  obtain ⟨record, -, rfl⟩ := List.mem_map.mp hr
  exact record.closed

/-- The validator never refuses a merge. -/
theorem mergeEventEvidence_eq_ok (hne : records ≠ []) :
    mergeEventEvidence records = .ok out ↔ IsMerge (graphs records) out.graph := by
  unfold mergeEventEvidence
  rw [Fallible.bind_eq_ok]
  constructor
  · rintro ⟨merged, hmerged, hvalid⟩
    rw [(EventEvidenceV1.modelValidate_eq_ok.mp hvalid).2]
    exact (mergeGraphs_eq_ok (graphs_ne_nil hne)).mp hmerged
  · intro h
    exact ⟨out.graph, (mergeGraphs_eq_ok (graphs_ne_nil hne)).mpr h,
      EventEvidenceV1.modelValidate_eq_ok.mpr ⟨out.closed, rfl⟩⟩

/-- A merge of validated records raises only where they disagree or conflict: the validation at its end has
    nothing left to refuse. -/
theorem exists_mergeEventEvidence_iff (hne : records ≠ []) :
    (∃ out, mergeEventEvidence records = .ok out) ↔ Agree (graphs records) ∧ NoConflict (graphs records) := by
  rw [← exists_isMerge_iff (graphs_ne_nil hne)]
  constructor
  · rintro ⟨out, h⟩
    exact ⟨out.graph, (mergeEventEvidence_eq_ok hne).mp h⟩
  · rintro ⟨merged, h⟩
    have hclosed := h.closed (graphs_ne_nil hne) graphs_closed
    exact ⟨⟨merged, hclosed⟩, (mergeEventEvidence_eq_ok hne).mpr h⟩

/-- Both raise, or both return the same record. -/
def SameOutcome (x y : Except PyExc EventEvidenceV1) : Prop := ∀ out, x = .ok out ↔ y = .ok out

/-- Records that say the same together have one outcome, raising included. -/
theorem Equivalent.sameOutcome (h : Equivalent (graphs records) (graphs records')) (hne : records ≠ [])
    (hne' : records' ≠ []) : SameOutcome (mergeEventEvidence records) (mergeEventEvidence records') := by
  intro out
  rw [mergeEventEvidence_eq_ok hne, mergeEventEvidence_eq_ok hne', h.isMerge_iff]

/-- Order and repetition do not change what the records say together. -/
theorem equivalent_of_mem_iff (h : ∀ r, r ∈ records ↔ r ∈ records') :
    Equivalent (graphs records) (graphs records') := by
  apply Equivalent.of_mem_iff
  intro g
  simp only [graphs, List.mem_map, h]

end Validated

/-! ### Nested merges -/

/-- A way to merge: a record, or the merge of at least one part. -/
inductive Grouping where
  | record (r : EventEvidenceV1)
  | merge (first : Grouping) (rest : List Grouping)

namespace Grouping

mutual

/-- The parts are merged first. -/
def eval : Grouping → Except PyExc EventEvidenceV1
  | record r => .ok r
  | merge first rest => do
      let first ← eval first
      let rest ← evalAll rest
      mergeEventEvidence (first :: rest)

/-- The parts in order; the first that raises ends the merge. -/
def evalAll : List Grouping → Except PyExc (List EventEvidenceV1)
  | [] => .ok []
  | part :: parts => do
      let part ← eval part
      let parts ← evalAll parts
      .ok (part :: parts)

end

mutual

/-- The records that are merged, in order. -/
def records : Grouping → List EventEvidenceV1
  | record r => [r]
  | merge first rest => records first ++ recordsAll rest

def recordsAll : List Grouping → List EventEvidenceV1
  | [] => []
  | part :: parts => records part ++ recordsAll parts

end

/-- A merge is of one part at least, so there is a record in it. -/
theorem records_ne_nil : ∀ g : Grouping, g.records ≠ []
  | record r => List.cons_ne_nil _ _
  | merge first rest => by
    rw [records]
    exact List.append_ne_nil_of_left_ne_nil (records_ne_nil first) _

mutual

/-- What a grouping evaluates to says what its records say, and it evaluates if they can be merged. -/
theorem eval_spec : ∀ g : Grouping,
    (∀ out, g.eval = .ok out → Equivalent [out.graph] (graphs g.records)) ∧
      (Agree (graphs g.records) → NoConflict (graphs g.records) → ∃ out, g.eval = .ok out)
  | record r => by
    constructor
    · intro out h
      rw [eval] at h
      obtain rfl := Except.ok.inj h
      exact Equivalent.refl _
    · intro _ _
      exact ⟨r, by rw [eval]⟩
  | merge first rest => by
    have hgraphs : graphs (merge first rest).records = graphs first.records ++ graphs (recordsAll rest) := by
      rw [records, graphs, List.map_append]
      rfl
    obtain ⟨hfirst, hfirstOk⟩ := eval_spec first
    obtain ⟨hrest, hrestOk⟩ := evalAll_spec rest
    rw [hgraphs]
    constructor
    · intro out h
      rw [eval] at h
      obtain ⟨f, hf, h⟩ := Fallible.bind_eq_ok.mp h
      obtain ⟨fs, hfs, h⟩ := Fallible.bind_eq_ok.mp h
      have hmerge := (mergeEventEvidence_eq_ok (List.cons_ne_nil f fs)).mp h
      have hparts : Equivalent (graphs (f :: fs)) (graphs first.records ++ graphs (recordsAll rest)) :=
        (hfirst f hf).append (hrest fs hfs)
      exact (hmerge.equivalent (graphs_ne_nil (List.cons_ne_nil f fs))).trans hparts
    · intro hagree hconflict
      obtain ⟨f, hf⟩ := hfirstOk (hagree.mono fun r hr => List.mem_append_left _ hr)
        (hconflict.mono fun r hr => List.mem_append_left _ hr)
      obtain ⟨fs, hfs⟩ := hrestOk (hagree.mono fun r hr => List.mem_append_right _ hr)
        (hconflict.mono fun r hr => List.mem_append_right _ hr)
      have hparts : Equivalent (graphs (f :: fs)) (graphs first.records ++ graphs (recordsAll rest)) :=
        (hfirst f hf).append (hrest fs hfs)
      have hne : graphs first.records ++ graphs (recordsAll rest) ≠ [] :=
        List.append_ne_nil_of_left_ne_nil (graphs_ne_nil (records_ne_nil first)) _
      obtain ⟨merged, hmerge⟩ := (exists_isMerge_iff hne).mpr ⟨hagree, hconflict⟩
      -- the parts have been merged already; what they evaluate to says the same as their records, so it has
      -- the same merge
      have hmerge' := hparts.isMerge_iff.mpr hmerge
      obtain ⟨out, hout⟩ := (exists_mergeEventEvidence_iff (List.cons_ne_nil f fs)).mpr
        ⟨hmerge'.agree, hmerge'.noConflict⟩
      refine ⟨out, ?_⟩
      rw [eval]
      exact Fallible.bind_eq_ok.mpr ⟨f, hf, Fallible.bind_eq_ok.mpr ⟨fs, hfs, hout⟩⟩

/-- The same of the parts of a merge, together. -/
theorem evalAll_spec : ∀ parts : List Grouping,
    (∀ outs, evalAll parts = .ok outs → Equivalent (graphs outs) (graphs (recordsAll parts))) ∧
      (Agree (graphs (recordsAll parts)) → NoConflict (graphs (recordsAll parts)) →
        ∃ outs, evalAll parts = .ok outs)
  | [] => by
    constructor
    · intro outs h
      rw [evalAll] at h
      obtain rfl := Except.ok.inj h
      exact Equivalent.refl _
    · intro _ _
      exact ⟨[], by rw [evalAll]⟩
  | part :: parts => by
    have hgraphs : graphs (recordsAll (part :: parts)) = graphs part.records ++ graphs (recordsAll parts) := by
      rw [recordsAll, graphs, List.map_append]
      rfl
    obtain ⟨hpart, hpartOk⟩ := eval_spec part
    obtain ⟨hparts, hpartsOk⟩ := evalAll_spec parts
    rw [hgraphs]
    constructor
    · intro outs h
      rw [evalAll] at h
      obtain ⟨f, hf, h⟩ := Fallible.bind_eq_ok.mp h
      obtain ⟨fs, hfs, h⟩ := Fallible.bind_eq_ok.mp h
      obtain rfl := Except.ok.inj h
      exact (hpart f hf).append (hparts fs hfs)
    · intro hagree hconflict
      obtain ⟨f, hf⟩ := hpartOk (hagree.mono fun r hr => List.mem_append_left _ hr)
        (hconflict.mono fun r hr => List.mem_append_left _ hr)
      obtain ⟨fs, hfs⟩ := hpartsOk (hagree.mono fun r hr => List.mem_append_right _ hr)
        (hconflict.mono fun r hr => List.mem_append_right _ hr)
      refine ⟨f :: fs, ?_⟩
      rw [evalAll]
      exact Fallible.bind_eq_ok.mpr ⟨f, hf, Fallible.bind_eq_ok.mpr ⟨fs, hfs, rfl⟩⟩

end

/-- **Nesting makes no difference**: a nested merge has the outcome of the flat merge of its records. -/
theorem eval_merge (first : Grouping) (rest : List Grouping) :
    SameOutcome (merge first rest).eval (mergeEventEvidence (merge first rest).records) := by
  obtain ⟨hequivalent, hok⟩ := eval_spec (merge first rest)
  have hne := records_ne_nil (merge first rest)
  -- a merge that is nested is sorted as well, so it is the merge of its records
  have hmerge : ∀ out, (merge first rest).eval = .ok out →
      IsMerge (graphs (merge first rest).records) out.graph := by
    intro out h
    have hself : IsMerge [out.graph] out.graph := by
      rw [eval] at h
      obtain ⟨f, -, h⟩ := Fallible.bind_eq_ok.mp h
      obtain ⟨fs, -, h⟩ := Fallible.bind_eq_ok.mp h
      exact ((mergeEventEvidence_eq_ok (List.cons_ne_nil f fs)).mp h).self
    exact (hequivalent out h).isMerge_iff.mp hself
  intro out
  rw [mergeEventEvidence_eq_ok hne]
  refine ⟨hmerge out, ?_⟩
  intro h
  obtain ⟨out', hout'⟩ := hok h.agree h.noConflict
  rw [EventEvidenceV1.ext ((h.unique (graphs_ne_nil hne)) (hmerge out' hout'))]
  exact hout'

end Grouping

/-! ### The merge as a whole -/

/-- **The merge is a conflict-checked join.**  It succeeds exactly if the records agree and no items
    conflict, and then it is their merge and closed if they are; order and grouping make no difference to
    it, and neither does a record that is there already or comes from an earlier merge. -/
theorem mergeEventEvidence_join :
    (∀ records : List EventEvidenceV1, records ≠ [] →
      ((∃ out, mergeEventEvidence records = .ok out) ↔
        Agree (graphs records) ∧ NoConflict (graphs records)) ∧
      ∀ out, mergeEventEvidence records = .ok out → IsMerge (graphs records) out.graph) ∧
    (∀ records merged, records ≠ [] → IsMerge records merged → (∀ r ∈ records, r.ClosedGraph) →
      merged.ClosedGraph) ∧
    (∀ records records' : List EventEvidenceV1, records.Perm records' →
      SameOutcome (mergeEventEvidence records) (mergeEventEvidence records')) ∧
    (∀ first rest (records : List EventEvidenceV1),
      (∀ r, r ∈ (Grouping.merge first rest).records ↔ r ∈ records) →
      SameOutcome (Grouping.merge first rest).eval (mergeEventEvidence records)) ∧
    (∀ (r : EventEvidenceV1) rest,
      SameOutcome (mergeEventEvidence (r :: r :: rest)) (mergeEventEvidence (r :: rest))) ∧
    (∀ (records : List EventEvidenceV1) out, records ≠ [] → mergeEventEvidence records = .ok out →
      ∀ others, (∀ r ∈ others, r = out ∨ r ∈ records) → mergeEventEvidence (out :: others) = .ok out) := by
  have hsame : ∀ records records' : List EventEvidenceV1, records ≠ [] → (∀ r, r ∈ records ↔ r ∈ records') →
      SameOutcome (mergeEventEvidence records) (mergeEventEvidence records') := by
    intro records records' hne h
    obtain ⟨r, hr⟩ := List.exists_mem_of_ne_nil records hne
    exact (equivalent_of_mem_iff h).sameOutcome hne (List.ne_nil_of_mem ((h r).mp hr))
  refine ⟨?_, ?_, ?_, ?_, ?_, ?_⟩
  · intro records hne
    exact ⟨exists_mergeEventEvidence_iff hne, fun out => (mergeEventEvidence_eq_ok hne).mp⟩
  · intro records merged hne hmerge hclosed
    exact hmerge.closed hne hclosed
  · intro records records' hperm
    rcases eq_or_ne records [] with rfl | hne
    · rw [hperm.nil_eq]
      exact fun _ => Iff.rfl
    · exact hsame records records' hne fun r => hperm.mem_iff
  · intro first rest records hrecords out
    have hne := Grouping.records_ne_nil (.merge first rest)
    exact (Grouping.eval_merge first rest out).trans (hsame _ records hne hrecords out)
  · intro r rest
    exact hsame _ _ (List.cons_ne_nil _ _) fun r' => by simp
  · intro records out hne h others hothers
    rw [mergeEventEvidence_eq_ok (List.cons_ne_nil out others)]
    apply ((mergeEventEvidence_eq_ok hne).mp h).absorb
    intro r hr
    obtain ⟨record, hrecord, rfl⟩ := List.mem_map.mp hr
    rcases hothers record hrecord with rfl | hmem
    · exact Or.inl rfl
    · exact Or.inr (List.mem_map_of_mem hmem)

/-! ### Two providers -/

namespace Sample

def base : EvidenceGraph where
  eventId := "EVENT-MERGE-1"
  sources := [
    { sourceId := "SOURCE-1"
      originId := "ORIGIN-1"
      publisher := "Fixture"
      retrievedAt := { micros := 1787306400000000, aware := true }
      sourceType := .witness
      independenceWeight := 1 }]

/-- What another provider adds. -/
def vision : EvidenceGraph :=
  { base with
    media := [
      { mediaId := "MEDIA-1"
        sourceId := "SOURCE-1"
        mediaGroupId := "GROUP-1"
        originId := "ORIGIN-1"
        kind := .photo
        sha256 := "aaaaaaaaaaaaaaaaaaaaaaaaaaaaaaaaaaaaaaaaaaaaaaaaaaaaaaaaaaaaaaaa" }]
    visualObservations := [
      { observationId := "OBS-1"
        mediaId := "MEDIA-1"
        observationType := .detection
        resultReference := "GDN-1"
        confidence := some (4 / 5) }] }

def records : List EventEvidenceV1 :=
  [⟨base, EvidenceGraph.validateEvidenceGraph_eq_ok.mp (by decide +kernel)⟩,
    ⟨vision, EvidenceGraph.validateEvidenceGraph_eq_ok.mp (by decide +kernel)⟩]

end Sample

/-- The records of the two providers are merged. -/
theorem mergeEventEvidence_join_sample :
    ∃ out, mergeEventEvidence Sample.records = .ok out ∧ IsMerge (graphs Sample.records) out.graph := by
  have hagree : Agree (graphs Sample.records) := by
    intro r hr r' hr'
    have hsame : ∀ g ∈ graphs Sample.records, SameEvent g Sample.base := by
      intro g hg
      rcases List.mem_cons.mp hg with rfl | hg
      · exact ⟨rfl, rfl, rfl⟩
      · obtain rfl := List.mem_singleton.mp hg
        exact ⟨rfl, rfl, rfl⟩
    exact (hsame r hr).trans (hsame r' hr').symm
  have hconflict : NoConflict (graphs Sample.records) := by
    intro c
    unfold KeyedJoin.Consistent
    cases c <;> decide +kernel
  obtain ⟨hiff, hmerge⟩ := mergeEventEvidence_join.1 Sample.records (List.cons_ne_nil _ _)
  obtain ⟨out, hout⟩ := hiff.mpr ⟨hagree, hconflict⟩
  exact ⟨out, hout, hmerge out hout⟩

end EvidenceMerge

end FireviewerOrchestrator
