/-
  The identifiers the conversion generates for one output.

  An identifier is the digest of parts that are joined by a separator.  Three families of them occur
  in an output: annotations, spatial proposals and facts.  `hashedParts` are the parts of all of them;
  most can be read back from the text that is hashed, because they are identifiers or numbers, and the
  texts of a fact stand behind two parts that can (`generated_ids_unique`).

  The plan has three steps.
    1. Each function of the conversion is followed once more, but only for the parts it hashes
       (`…Parts`), and its identifiers are those of the parts (`…Ids_eq`).
    2. The parts differ: within an item by the region, the number or the annotation they name, and
       between items by the item.  A spatial proposal for an annotation does not name the item, but an
       annotation, which in turn was named after it: so the digests enter a second time.
    3. Different parts have different texts, different texts different digests, and the three families
       differ in their first letters.
-/
import FireviewerOrchestrator.V2Runner.Hotspots
import FireviewerOrchestrator.V2Runner.Report

set_option linter.unusedVariables false

namespace FireviewerOrchestrator

/-- Lists whose elements tell which key they belong to do not repeat where the keys do not. -/
theorem nodup_flatMap_of_key {α β κ : Type} {key : α → κ} {f : α → List β} {xs : List α}
    (hkeys : (xs.map key).Nodup) (hnodup : ∀ x ∈ xs, (f x).Nodup)
    (hkey : ∀ x ∈ xs, ∀ y ∈ xs, ∀ b, b ∈ f x → b ∈ f y → key x = key y) : (xs.flatMap f).Nodup := by
  rw [List.nodup_flatMap]
  refine ⟨hnodup, ?_⟩
  have hapart : xs.Pairwise fun x y => key x ≠ key y := List.pairwise_map.mp hkeys
  refine hapart.imp_of_mem fun {x y} hx hy hne => ?_
  show List.Disjoint (f x) (f y)
  intro b hb hb'
  exact hne (hkey x hx y hy b hb hb')

/-- Identifiers with heads that begin differently differ. -/
theorem stableId_head_ne {sha256 : Sha256} {c c' : Char} {head head' : String} {parts parts' : List String}
    (hhead : head.toList.head? = some c) (hhead' : head'.toList.head? = some c') (hne : c ≠ c') :
    stableId sha256 head parts ≠ stableId sha256 head' parts' := by
  have hfirst : ∀ {head : String} {c : Char} (rest : List Char), head.toList.head? = some c →
      (head.toList ++ rest).head? = some c := by
    intro head c rest h
    rw [List.head?_append, h]
    rfl
  intro heq
  have hlist := congrArg (fun text : String => text.toList.head?) heq
  simp only [stableId, String.toList_append, List.append_assoc] at hlist
  rw [hfirst _ hhead, hfirst _ hhead'] at hlist
  exact hne (Option.some.inj hlist)

namespace V2Runner

/-! ## What is generated for an item -/

/-- What the conversion makes of one item, as far as it has generated identifiers. -/
structure Generated where
  annotations : List SourceAnnotationV2
  proposals : List SpatialProposalV2
  facts : List FactProposalV2

section Program

variable (host : Host) (batch : WorkerInputV2) (item : WorkerBatchItemV2) (legacyResult : ItemResult)

/-- The annotations, the proposals for them and the facts of an item. -/
def generate : Except PyExc Generated := do
  let annotations ← sourceAnnotations host item legacyResult
  let proposals ← spatialProposals host batch item annotations
  let facts ← factProposals host batch item legacyResult
  pure ⟨annotations, proposals, facts⟩

/-! ## What is hashed -/

/-- For an annotation: the region and the anchor it was made of.  Regions without an anchor make none. -/
def annotationParts : List (List String) :=
  (anchoredRegions host legacyResult).map fun entry => [item.inputId, entry.1.regionId, entry.2.value]

/-- For a fact: its number among the observations, from 1 on, and its texts. -/
def factParts : List (List String) :=
  (legacyResult.factualObservations.zipIdx 1).map fun entry =>
    [item.inputId, toString entry.2, entry.1.type, entry.1.description]

/-- For an annotation: its place on the satellite image, or its abstention. -/
def annotationProposalParts (annot : SourceAnnotationV2) : List String :=
  [annot.annotationId,
    match satelliteGroundPoint host batch item annot with
    | .ok (some _) => "satellite"
    | _ => "abstain"]

/-- For a payload: its features that count, or the reason why there is none. -/
def payloadParts (hotspot : HotspotMetadataV2) (payload : JsonValue) : List (List String) :=
  match featureCollection payload with
  | none => [[item.inputId, "invalid-geojson"]]
  | some collection =>
      match collectionFeatures collection with
      | none => [[item.inputId, "feature-count-invalid"]]
      | some features =>
          match numberedPositions hotspot.bboxWgs84 features with
          | [] => [[item.inputId, "no-hotspots"]]
          | positions => positions.map fun entry => [item.inputId, "hotspot", toString entry.1]

/-- For an item of satellite data: what its payload gives, or what it lacks.  A payload that cannot be
    loaded makes the conversion raise, so that there is nothing to name. -/
def hotspotParts : List (List String) :=
  match item.hotspot, item.articleText with
  | some hotspot, some text =>
      match batch.referenceBundle with
      | none => [[item.inputId, "reference-missing"]]
      | some _ =>
          match loadPayload host text with
          | .ok payload => payloadParts item hotspot payload
          | .error _ => []
  | _, _ => [[item.inputId, "hotspot-metadata-missing"]]

/-- For an item: by its medium, and for images by the annotations.  The branches are those of
    `spatialProposals`. -/
def spatialParts (annotations : List SourceAnnotationV2) : List (List String) :=
  if item.mediaType = .satelliteData then hotspotParts host batch item
  else if annotations.isEmpty && (item.workingFileUrl.isSome || !item.frames.isEmpty) then
    [[item.inputId, "no-anchor"]]
  else annotations.map (annotationProposalParts host batch item)

/-- The annotations of an item, if they can be made. -/
def madeAnnotations : List SourceAnnotationV2 :=
  match sourceAnnotations host item legacyResult with
  | .ok annotations => annotations
  | .error _ => []

end Program

/-! ## The identifiers are theirs -/

section Names

variable {host : Host} {batch : WorkerInputV2} {item : WorkerBatchItemV2} {legacyResult : ItemResult}
  {annotations : List SourceAnnotationV2} {proposals : List SpatialProposalV2}

/-- One annotation for each region with an anchor, named after both. -/
theorem annotationIds_eq (h : sourceAnnotations host item legacyResult = .ok annotations) :
    annotations.map SourceAnnotationV2.annotationId
      = (annotationParts host item legacyResult).map (stableId host.sha256 "ANN") := by
  rw [annotationParts, List.map_map]
  refine Fallible.map_eq_of_forall₂ (Fallible.mapM_eq_ok.mp h) fun entry annot hannot => ?_
  exact SourceAnnotationV2.annotationId_of_build hannot

/-- One fact for each observation, named after its number. -/
theorem factIds_eq {facts : List FactProposalV2} (h : factProposals host batch item legacyResult = .ok facts) :
    facts.map FactProposalV2.factId
      = (factParts item legacyResult).map (stableId host.sha256 "FACT") := by
  rw [factParts, List.map_map]
  refine Fallible.map_eq_of_forall₂ (Fallible.mapM_eq_ok.mp h) fun entry fact hfact => ?_
  unfold factOfObservation FactProposalV2.build at hfact
  obtain ⟨-, rfl⟩ := checked_eq_ok.mp hfact
  rfl

/-- An abstention for the whole item is named after its reason. -/
theorem itemAbstention_ids {reason code : String} (h : itemAbstention host item reason code = .ok proposals) :
    proposals.map SpatialProposalV2.proposalId = [[item.inputId, reason]].map (stableId host.sha256 "SP") := by
  obtain ⟨proposal, hproposal, h⟩ := Fallible.bind_eq_ok.mp h
  obtain rfl := Fallible.pure_eq_ok.mp h
  show [proposal.proposalId] = _
  rw [SpatialProposalV2.proposalId_of_build hproposal]
  rfl

/-- A payload that was answered has the numbered positions of its features as proposals, or one abstention.
    That the loop over the features raised nothing is a hypothesis here: the answer is there. -/
theorem payloadIds_eq {hotspot : HotspotMetadataV2} {reference : SpatialReferenceBundleV2} {payload : JsonValue}
    (h : answerPayload host item hotspot reference payload = .ok proposals) :
    proposals.map SpatialProposalV2.proposalId
      = (payloadParts item hotspot payload).map (stableId host.sha256 "SP") := by
  have hconvert := convertible_of_answerPayload h
  unfold answerPayload at h
  unfold payloadParts
  cases hcollection : featureCollection payload with
  | none =>
    rw [hcollection] at h
    exact itemAbstention_ids h
  | some collection =>
    simp only [hcollection] at h
    cases hfeatures : collectionFeatures collection with
    | none =>
      simp only [hfeatures] at h ⊢
      exact itemAbstention_ids h
    | some features =>
      simp only [hfeatures] at h ⊢
      -- the answer is there, so every feature could be converted
      have hall : ∀ f ∈ features, Convertible f := by
        apply hconvert features
        rw [hcollection, Option.bind_some, hfeatures]
        rfl
      obtain ⟨outcomes, houtcomes, hreduced⟩ := hotspotLoop_eq host item hotspot reference hall
      rw [houtcomes, Fallible.ok_bind, hreduced] at h
      cases hpositions : numberedPositions hotspot.bboxWgs84 features with
      | nil =>
        rw [hpositions] at h
        exact itemAbstention_ids h
      | cons position positions =>
        rw [hpositions] at h
        obtain rfl := Fallible.pure_eq_ok.mp h
        rw [List.map_map, List.map_map]
        rfl

/-- The same for the item, by what it has. -/
theorem hotspotIds_eq (h : hotspotSpatialProposals host batch item = .ok proposals) :
    proposals.map SpatialProposalV2.proposalId
      = (hotspotParts host batch item).map (stableId host.sha256 "SP") := by
  unfold hotspotSpatialProposals at h
  unfold hotspotParts
  cases hhotspot : item.hotspot with
  | none =>
    rw [hhotspot] at h
    exact itemAbstention_ids h
  | some hotspot =>
    cases htext : item.articleText with
    | none =>
      rw [hhotspot, htext] at h
      exact itemAbstention_ids h
    | some text =>
      cases hreference : batch.referenceBundle with
      | none =>
        rw [hhotspot, htext, hreference] at h
        exact itemAbstention_ids h
      | some reference =>
        rw [hhotspot, htext, hreference] at h
        obtain ⟨payload, hpayload, h⟩ := Fallible.bind_eq_ok.mp h
        simp only [hpayload]
        exact payloadIds_eq h

/-- A proposal for an annotation says in its name whether the satellite image had a place for it. -/
theorem annotationProposalId_eq {annot : SourceAnnotationV2} {proposal : SpatialProposalV2}
    (h : annotationProposal host batch item annot = .ok proposal) :
    proposal.proposalId = stableId host.sha256 "SP" (annotationProposalParts host batch item annot) := by
  obtain ⟨projected, hprojected, h⟩ := Fallible.bind_eq_ok.mp h
  unfold annotationProposalParts
  rw [hprojected]
  cases projected with
  | none => exact SpatialProposalV2.proposalId_of_build h
  | some projected =>
    obtain rfl := Fallible.pure_eq_ok.mp h
    unfold satelliteGroundPoint at hprojected
    split at hprojected
    · split at hprojected
      · cases hprojected
      · dsimp only at hprojected
        split at hprojected
        · obtain ⟨built, hbuilt, h⟩ := Fallible.bind_eq_ok.mp hprojected
          obtain rfl : built = projected := Option.some.inj (Fallible.pure_eq_ok.mp h)
          exact SpatialProposalV2.proposalId_of_build hbuilt
        · cases hprojected
    · cases hprojected

/-- **The proposals of an item are named after its spatial parts.** -/
theorem spatialIds_eq (h : spatialProposals host batch item annotations = .ok proposals) :
    proposals.map SpatialProposalV2.proposalId
      = (spatialParts host batch item annotations).map (stableId host.sha256 "SP") := by
  unfold spatialProposals at h
  unfold spatialParts
  split
  · rename_i hdata
    rw [if_pos hdata] at h
    exact hotspotIds_eq h
  · rename_i hdata
    rw [if_neg hdata] at h
    split
    · rename_i hempty
      rw [if_pos hempty] at h
      exact itemAbstention_ids h
    · rename_i hsome
      rw [if_neg hsome] at h
      rw [List.map_map]
      exact Fallible.map_eq_of_forall₂ (Fallible.mapM_eq_ok.mp h) fun _ _ => annotationProposalId_eq

end Names

/-! ## The parts differ -/

/-- The regions of an item have different names, without the separator. -/
structure RegionsNamed (legacyResult : ItemResult) : Prop where
  unique : (legacyResult.pixelRegions.map PixelRegion.regionId).Nodup
  free : ∀ region ∈ legacyResult.pixelRegions, Separated.Free '\x1f' region.regionId

/-- The reasons of the abstentions for a whole item. -/
def itemReasons : List String :=
  ["no-anchor", "hotspot-metadata-missing", "reference-missing", "invalid-geojson", "feature-count-invalid",
    "no-hotspots"]

/-- The parts of a spatial proposal begin with an annotation or with the item. -/
inductive SpatialPart (item : WorkerBatchItemV2) (annotations : List SourceAnnotationV2) : List String → Prop
  | ofAnnot {annot : SourceAnnotationV2} {outcome : String} (hannot : annot ∈ annotations)
      (houtcome : outcome ∈ ["satellite", "abstain"]) :
      SpatialPart item annotations [annot.annotationId, outcome]
  | ofItem {reason : String} (hreason : reason ∈ itemReasons) : SpatialPart item annotations [item.inputId, reason]
  | ofHotspot (index : Nat) : SpatialPart item annotations [item.inputId, "hotspot", toString index]

section Parts

variable {host : Host} {batch : WorkerInputV2} {item : WorkerBatchItemV2} {legacyResult : ItemResult}
  {annotations : List SourceAnnotationV2}

theorem free_inputId (item : WorkerBatchItemV2) : Separated.Free '\x1f' item.inputId :=
  free_of_isSafeIdentifier item.input_id_safe

/-! ### Annotations -/

/-- What is anchored is one of the regions. -/
theorem region_of_anchored {entry : PixelRegion × SourceSemanticAnchorV2}
    (h : entry ∈ anchoredRegions host legacyResult) : entry.1 ∈ legacyResult.pixelRegions := by
  obtain ⟨region, hregion, hanchor⟩ := List.mem_filterMap.mp h
  obtain ⟨anchor, -, rfl⟩ := Option.map_eq_some_iff.mp hanchor
  exact hregion

/-- All three parts of an annotation are free of the separator: the item by its contract, the region by
    assumption, the anchor as one of a few words. -/
theorem plain_annotationParts (hregions : RegionsNamed legacyResult) :
    ∀ parts ∈ annotationParts host item legacyResult, PlainParts parts := by
  intro parts hparts
  obtain ⟨entry, hentry, rfl⟩ := List.mem_map.mp hparts
  refine ⟨List.cons_ne_nil _ _, ?_⟩
  rw [List.forall_mem_cons, List.forall_mem_cons, List.forall_mem_singleton]
  refine ⟨free_inputId item, hregions.free _ (region_of_anchored hentry), ?_⟩
  cases entry.2 <;> decide

/-- The region tells the annotations of an item apart.  Those with an anchor are some of them, in their
    order. -/
theorem annotationParts_nodup (hregions : RegionsNamed legacyResult) :
    (annotationParts host item legacyResult).Nodup := by
  have hsub : ((anchoredRegions host legacyResult).map fun entry => entry.1.regionId).Sublist
      (legacyResult.pixelRegions.map PixelRegion.regionId) := by
    unfold anchoredRegions
    rw [List.map_filterMap]
    generalize legacyResult.pixelRegions = regions
    -- along the regions: one without an anchor is left out
    induction regions with
    | nil => exact List.Sublist.slnil
    | cons region regions ih =>
      rw [List.filterMap_cons]
      cases semanticAnchor host region.label with
      | none => exact ih.cons _
      | some anchor => exact ih.cons_cons _
  have hids := hsub.nodup hregions.unique
  rw [annotationParts, List.nodup_map_iff_inj_on hids.of_map]
  intro entry hentry entry' hentry' heq
  have hregion : entry.1.regionId = entry'.1.regionId := by
    simp only [List.cons.injEq] at heq
    exact heq.2.1
  exact List.inj_on_of_nodup_map hids hentry hentry' hregion

/-! ### Proposals -/

/-- What a payload gives is an abstention or a numbered position. -/
theorem payloadParts_spatial {hotspot : HotspotMetadataV2} {payload : JsonValue} :
    ∀ parts ∈ payloadParts item hotspot payload, SpatialPart item annotations parts := by
  intro parts hparts
  unfold payloadParts at hparts
  split at hparts
  · obtain rfl := List.mem_singleton.mp hparts
    exact .ofItem (by decide)
  · split at hparts
    · obtain rfl := List.mem_singleton.mp hparts
      exact .ofItem (by decide)
    · split at hparts
      · obtain rfl := List.mem_singleton.mp hparts
        exact .ofItem (by decide)
      · obtain ⟨entry, -, rfl⟩ := List.mem_map.mp hparts
        exact .ofHotspot entry.1

/-- So is what an item of satellite data gives. -/
theorem hotspotParts_spatial :
    ∀ parts ∈ hotspotParts host batch item, SpatialPart item annotations parts := by
  intro parts hparts
  unfold hotspotParts at hparts
  split at hparts
  · split at hparts
    · obtain rfl := List.mem_singleton.mp hparts
      exact .ofItem (by decide)
    · split at hparts
      · exact payloadParts_spatial parts hparts
      · exact absurd hparts List.not_mem_nil
  · obtain rfl := List.mem_singleton.mp hparts
    exact .ofItem (by decide)

/-- And an image gives an abstention, or something for each of its annotations. -/
theorem spatialParts_spatial :
    ∀ parts ∈ spatialParts host batch item annotations, SpatialPart item annotations parts := by
  intro parts hparts
  unfold spatialParts at hparts
  split at hparts
  · exact hotspotParts_spatial parts hparts
  · split at hparts
    · obtain rfl := List.mem_singleton.mp hparts
      exact .ofItem (by decide)
    · obtain ⟨annot, hannot, rfl⟩ := List.mem_map.mp hparts
      refine .ofAnnot hannot ?_
      split
      · exact List.mem_cons_self
      · exact List.mem_cons_of_mem _ List.mem_cons_self

/-- The number tells the positions of a payload apart. -/
theorem payloadParts_nodup {hotspot : HotspotMetadataV2} {payload : JsonValue} :
    (payloadParts item hotspot payload).Nodup := by
  unfold payloadParts
  split
  · exact List.nodup_singleton _
  · split
    · exact List.nodup_singleton _
    · rename_i features _
      split
      · exact List.nodup_singleton _
      · have hnumbers := nodup_map_fst_numberedPositions hotspot.bboxWgs84 features
        rw [List.nodup_map_iff_inj_on hnumbers.of_map]
        intro entry hentry entry' hentry' heq
        have htext : toString entry.1 = toString entry'.1 := by
          simp only [List.cons.injEq] at heq
          exact heq.2.2.1
        exact List.inj_on_of_nodup_map hnumbers hentry hentry' (toString_nat_injective htext)

/-- The annotation tells the proposals of an image apart. -/
theorem spatialParts_nodup (hannotations : (annotations.map SourceAnnotationV2.annotationId).Nodup) :
    (spatialParts host batch item annotations).Nodup := by
  unfold spatialParts
  split
  · unfold hotspotParts
    split
    · split
      · exact List.nodup_singleton _
      · split
        · exact payloadParts_nodup
        · exact List.nodup_nil
    · exact List.nodup_singleton _
  · split
    · exact List.nodup_singleton _
    · rw [List.nodup_map_iff_inj_on hannotations.of_map]
      intro annot hannot annot' hannot' heq
      have hid : annot.annotationId = annot'.annotationId := (List.cons.inj heq).1
      exact List.inj_on_of_nodup_map hannotations hannot hannot' hid

/-! ### Facts -/

/-- The number of a fact, and the item, can be read back whatever the texts are. -/
theorem joined_factParts_inj {inputId inputId' : String} {n n' : Nat} {a b a' b' : String}
    (hinput : Separated.Free '\x1f' inputId) (hinput' : Separated.Free '\x1f' inputId')
    (h : joinedParts [inputId, toString n, a, b] = joinedParts [inputId', toString n', a', b']) :
    inputId = inputId' ∧ n = n' := by
  obtain ⟨hid, hrest⟩ := Separated.join_cons_inj hinput hinput' h
  obtain ⟨hnumber, -⟩ := Separated.join_cons_inj (free_toString n) (free_toString n') hrest
  exact ⟨hid, toString_nat_injective hnumber⟩

/-- The number tells the facts of an item apart, even in the joined text: nothing before it has the
    separator. -/
theorem factTexts_nodup : ((factParts item legacyResult).map joinedParts).Nodup := by
  have hnumbers : ((legacyResult.factualObservations.zipIdx 1).map Prod.snd).Nodup := by
    rw [List.zipIdx_map_snd]
    exact List.nodup_range'
  rw [factParts, List.map_map, List.nodup_map_iff_inj_on hnumbers.of_map]
  intro entry hentry entry' hentry' heq
  obtain ⟨-, hnumber⟩ := joined_factParts_inj (free_inputId item) (free_inputId item) heq
  exact List.inj_on_of_nodup_map hnumbers hentry hentry' hnumber

/-! ### Between items -/

/-- Parts in common are parts of one item, if annotations in common are. -/
theorem SpatialPart.inputId_eq {x y : WorkerBatchItemV2} {as bs : List SourceAnnotationV2} {parts : List String}
    (hannotations : ∀ a ∈ as, ∀ b ∈ bs, a.annotationId = b.annotationId → x.inputId = y.inputId)
    (h : SpatialPart x as parts) (h' : SpatialPart y bs parts) : x.inputId = y.inputId := by
  have houtcome : ∀ text ∈ ["satellite", "abstain"], text ∉ itemReasons := by decide
  -- the kinds are told apart by their length, and two of the same length by their last part
  generalize hparts : parts = parts' at h'
  cases h with
  | ofAnnot hannot houtcome' =>
    cases h' with
    | ofAnnot hannot' _ =>
      exact hannotations _ hannot _ hannot' (List.cons.inj hparts).1
    | ofItem hreason =>
      simp only [List.cons.injEq, and_true] at hparts
      rw [← hparts.2] at hreason
      exact absurd hreason (houtcome _ houtcome')
    | ofHotspot index => simp at hparts
  | ofItem hreason =>
    cases h' with
    | ofAnnot hannot' houtcome' =>
      simp only [List.cons.injEq, and_true] at hparts
      rw [hparts.2] at hreason
      exact absurd hreason (houtcome _ houtcome')
    | ofItem _ => exact (List.cons.inj hparts).1
    | ofHotspot index => simp at hparts
  | ofHotspot index =>
    cases h' with
    | ofAnnot _ _ => simp at hparts
    | ofItem _ => simp at hparts
    | ofHotspot index' => exact (List.cons.inj hparts).1

/-- All parts of a proposal are free of the separator. -/
theorem SpatialPart.plain {parts : List String}
    (hannotations : ∀ a ∈ annotations, isSafeIdentifier a.annotationId = true)
    (h : SpatialPart item annotations parts) : PlainParts parts := by
  have houtcomes : ∀ text ∈ ["satellite", "abstain"], Separated.Free '\x1f' text := by decide
  have hreasons : ∀ text ∈ itemReasons, Separated.Free '\x1f' text := by decide
  cases h with
  | ofAnnot hannot houtcome =>
    refine ⟨List.cons_ne_nil _ _, ?_⟩
    rw [List.forall_mem_cons, List.forall_mem_singleton]
    exact ⟨free_of_isSafeIdentifier (hannotations _ hannot), houtcomes _ houtcome⟩
  | ofItem hreason =>
    refine ⟨List.cons_ne_nil _ _, ?_⟩
    rw [List.forall_mem_cons, List.forall_mem_singleton]
    exact ⟨free_inputId item, hreasons _ hreason⟩
  | ofHotspot index =>
    refine ⟨List.cons_ne_nil _ _, ?_⟩
    rw [List.forall_mem_cons, List.forall_mem_cons, List.forall_mem_singleton]
    exact ⟨free_inputId item, by decide, free_toString index⟩

/-- An annotation of the item is named after parts of the item. -/
theorem exists_annotationParts {annot : SourceAnnotationV2} (h : annot ∈ madeAnnotations host item legacyResult) :
    ∃ parts ∈ annotationParts host item legacyResult, stableId host.sha256 "ANN" parts = annot.annotationId := by
  unfold madeAnnotations at h
  split at h
  · rename_i annotations hannotations
    have hid := List.mem_map_of_mem (f := SourceAnnotationV2.annotationId) h
    rw [annotationIds_eq hannotations] at hid
    exact List.mem_map.mp hid
  · exact absurd h List.not_mem_nil

/-- The parts of an annotation begin with the item. -/
theorem inputId_of_annotationParts {x y : WorkerBatchItemV2} {r r' : ItemResult} {parts : List String}
    (h : parts ∈ annotationParts host x r) (h' : parts ∈ annotationParts host y r') : x.inputId = y.inputId := by
  obtain ⟨entry, -, rfl⟩ := List.mem_map.mp h
  obtain ⟨entry', -, heq⟩ := List.mem_map.mp h'
  exact (List.cons.inj heq).1.symm

end Parts

/-! ## The identifiers of an output -/

section Output

variable (host : Host) (batch : WorkerInputV2) (results : WorkerBatchItemV2 → ItemResult)

/-- The parts of the annotations of all items. -/
def allAnnotationParts : List (List String) :=
  batch.items.flatMap fun item => annotationParts host item (results item)

/-- The parts of the proposals of all items, for the annotations that were made. -/
def allSpatialParts : List (List String) :=
  batch.items.flatMap fun item =>
    spatialParts host batch item (madeAnnotations host item (results item))

/-- The parts of the facts of all items. -/
def allFactParts : List (List String) := batch.items.flatMap fun item => factParts item (results item)

/-- All that is hashed for an output. -/
def hashedParts : List (List String) :=
  allAnnotationParts host batch results ++ (allSpatialParts host batch results ++ allFactParts batch results)

/-- The identifiers of what is generated. -/
def generatedIds (outputs : List Generated) : List String :=
  outputs.flatMap (fun g => g.annotations.map SourceAnnotationV2.annotationId) ++
    (outputs.flatMap (fun g => g.proposals.map SpatialProposalV2.proposalId) ++
      outputs.flatMap (fun g => g.facts.map FactProposalV2.factId))

variable {host batch results}

/-- Where an item was generated, each of its families was. -/
theorem generate_eq_ok {item : WorkerBatchItemV2} {g : Generated}
    (h : generate host batch item (results item) = .ok g) :
    sourceAnnotations host item (results item) = .ok g.annotations ∧
      spatialProposals host batch item g.annotations = .ok g.proposals ∧
      factProposals host batch item (results item) = .ok g.facts := by
  obtain ⟨annotations, hannotations, h⟩ := Fallible.bind_eq_ok.mp h
  obtain ⟨proposals, hproposals, h⟩ := Fallible.bind_eq_ok.mp h
  obtain ⟨facts, hfacts, h⟩ := Fallible.bind_eq_ok.mp h
  obtain rfl := Fallible.pure_eq_ok.mp h
  exact ⟨hannotations, hproposals, hfacts⟩

/-- What is generated is named after the parts. -/
theorem generatedIds_eq {outputs : List Generated}
    (h : batch.items.mapM (fun item => generate host batch item (results item)) = .ok outputs) :
    generatedIds outputs = (allAnnotationParts host batch results).map (stableId host.sha256 "ANN") ++
      ((allSpatialParts host batch results).map (stableId host.sha256 "SP") ++
        (allFactParts batch results).map (stableId host.sha256 "FACT")) := by
  have hforall := Fallible.mapM_eq_ok.mp h
  unfold generatedIds allAnnotationParts allSpatialParts allFactParts
  rw [List.map_flatMap, List.map_flatMap, List.map_flatMap]
  congr 1
  · exact Fallible.flatMap_eq_of_forall₂ hforall fun _ _ hg => annotationIds_eq (generate_eq_ok hg).1
  · congr 1
    · refine Fallible.flatMap_eq_of_forall₂ hforall fun item g hg => ?_
      obtain ⟨hannotations, hproposals, -⟩ := generate_eq_ok hg
      -- the annotations that the parts speak of are those that were generated
      have hmade : madeAnnotations host item (results item) = g.annotations := by
        unfold madeAnnotations
        rw [hannotations]
      rw [hmade]
      exact spatialIds_eq hproposals
    · exact Fallible.flatMap_eq_of_forall₂ hforall fun _ _ hg => factIds_eq (generate_eq_ok hg).2.2

section Unique

variable (hregions : ∀ item ∈ batch.items, RegionsNamed (results item))
  (hdist : host.sha256.Distinguishes ((hashedParts host batch results).map joinedParts))

include hregions in
/-- So the text of an annotation can be taken apart again. -/
theorem plain_allAnnotationParts : ∀ parts ∈ allAnnotationParts host batch results, PlainParts parts := by
  intro parts hparts
  obtain ⟨item, hitem, hparts⟩ := List.mem_flatMap.mp hparts
  exact plain_annotationParts (hregions item hitem) parts hparts

include hregions in
/-- Items differ in their identifiers, which the batch was checked for. -/
theorem allAnnotationParts_nodup : (allAnnotationParts host batch results).Nodup :=
  nodup_flatMap_of_key batch.input_ids_unique (fun item hitem => annotationParts_nodup (hregions item hitem))
    fun _ _ _ _ _ h h' => inputId_of_annotationParts h h'

/-- Of facts it is the texts that are shown to differ, not the parts: two lists of parts may have one text
    where a description contains the separator, but then they have one number, and one item. -/
theorem allFactTexts_nodup : ((allFactParts batch results).map joinedParts).Nodup := by
  unfold allFactParts
  rw [List.map_flatMap]
  refine nodup_flatMap_of_key batch.input_ids_unique (fun item _ => factTexts_nodup) ?_
  intro x _ y _ text htext htext'
  obtain ⟨parts, hparts, rfl⟩ := List.mem_map.mp htext
  obtain ⟨parts', hparts', heq⟩ := List.mem_map.mp htext'
  obtain ⟨entry, -, rfl⟩ := List.mem_map.mp hparts
  obtain ⟨entry', -, rfl⟩ := List.mem_map.mp hparts'
  exact (joined_factParts_inj (free_inputId y) (free_inputId x) heq).1.symm

/-- A family of the texts is told apart if all of them are. -/
theorem distinguishes_family {family : List (List String)}
    (hdist : host.sha256.Distinguishes ((hashedParts host batch results).map joinedParts))
    (hsub : ∀ parts ∈ family, parts ∈ hashedParts host batch results) :
    host.sha256.Distinguishes (family.map joinedParts) := by
  refine hdist.mono fun text htext => ?_
  obtain ⟨parts, hparts, rfl⟩ := List.mem_map.mp htext
  exact List.mem_map_of_mem (hsub parts hparts)

/-- A digest is hexadecimal, so that a generated name is an identifier like any other. -/
theorem safe_madeAnnotations {item : WorkerBatchItemV2} {r : ItemResult} :
    ∀ annot ∈ madeAnnotations host item r, isSafeIdentifier annot.annotationId = true := by
  intro annot hannot
  obtain ⟨parts, -, hid⟩ := exists_annotationParts hannot
  rw [← hid]
  exact stableId_safe host.sha256 parts (by decide) (by decide)

include hregions hdist in
/-- Annotations of different items have different names. -/
theorem inputId_of_annot {x y : WorkerBatchItemV2} (hx : x ∈ batch.items) (hy : y ∈ batch.items) :
    ∀ a ∈ madeAnnotations host x (results x), ∀ b ∈ madeAnnotations host y (results y),
      a.annotationId = b.annotationId → x.inputId = y.inputId := by
  intro a ha b hb heq
  obtain ⟨parts, hparts, hid⟩ := exists_annotationParts ha
  obtain ⟨parts', hparts', hid'⟩ := exists_annotationParts hb
  have hmem : parts ∈ allAnnotationParts host batch results := List.mem_flatMap.mpr ⟨x, hx, hparts⟩
  have hmem' : parts' ∈ allAnnotationParts host batch results := List.mem_flatMap.mpr ⟨y, hy, hparts'⟩
  have hsame : stableId host.sha256 "ANN" parts = stableId host.sha256 "ANN" parts' := by
    rw [hid, hid', heq]
  -- one name, one text; one text, the same parts
  have hjoined := (stableId_inj hdist (List.mem_map_of_mem (List.mem_append_left _ hmem))
    (List.mem_map_of_mem (List.mem_append_left _ hmem'))).mp hsame
  have hplain : ∀ parts ∈ allAnnotationParts host batch results, PlainParts parts :=
    plain_allAnnotationParts hregions
  obtain rfl := (joinedParts_inj (hplain _ hmem) (hplain _ hmem')).mp hjoined
  exact inputId_of_annotationParts hparts hparts'

include hregions hdist in
/-- **The parts of all proposals differ.**  Within an item the names of the annotations differ, between
    items they do as well (`inputId_of_annot`); both rest on the digests. -/
theorem allSpatialParts_nodup : (allSpatialParts host batch results).Nodup := by
  refine nodup_flatMap_of_key batch.input_ids_unique (fun item hitem => spatialParts_nodup ?_) ?_
  · unfold madeAnnotations
    split
    · rename_i annotations hannotations
      rw [annotationIds_eq hannotations]
      refine (stableId_nodup_iff ?_ (plain_annotationParts (hregions item hitem))).mpr
        (annotationParts_nodup (hregions item hitem))
      refine distinguishes_family hdist fun parts hparts => ?_
      exact List.mem_append_left _ (List.mem_flatMap.mpr ⟨item, hitem, hparts⟩)
    · exact List.nodup_nil
  · intro x hx y hy parts hparts hparts'
    exact (spatialParts_spatial parts hparts).inputId_eq (inputId_of_annot hregions hdist hx hy)
      (spatialParts_spatial parts hparts')

/-- And their texts can be taken apart, since a generated name has no separator. -/
theorem plain_allSpatialParts : ∀ parts ∈ allSpatialParts host batch results, PlainParts parts := by
  intro parts hparts
  obtain ⟨item, hitem, hparts⟩ := List.mem_flatMap.mp hparts
  exact (spatialParts_spatial parts hparts).plain safe_madeAnnotations

end Unique

/-- **The identifiers of an output are pairwise distinct**, those of all its annotations, proposals and
    facts together, whatever texts the observations contain.  The digests are taken to tell the hashed
    texts apart. -/
theorem generated_ids_unique (hregions : ∀ item ∈ batch.items, RegionsNamed (results item))
    {outputs : List Generated}
    (h : batch.items.mapM (fun item => generate host batch item (results item)) = .ok outputs)
    (hdist : host.sha256.Distinguishes ((hashedParts host batch results).map joinedParts)) :
    (generatedIds outputs).Nodup := by
  have hannotations : ((allAnnotationParts host batch results).map (stableId host.sha256 "ANN")).Nodup := by
    refine (stableId_nodup_iff (distinguishes_family hdist fun parts hparts => ?_)
      (plain_allAnnotationParts hregions)).mpr (allAnnotationParts_nodup hregions)
    exact List.mem_append_left _ hparts
  have hproposals : ((allSpatialParts host batch results).map (stableId host.sha256 "SP")).Nodup := by
    refine (stableId_nodup_iff (distinguishes_family hdist fun parts hparts => ?_)
      plain_allSpatialParts).mpr (allSpatialParts_nodup hregions hdist)
    exact List.mem_append_right _ (List.mem_append_left _ hparts)
  have hfacts : ((allFactParts batch results).map (stableId host.sha256 "FACT")).Nodup := by
    refine stableId_nodup (distinguishes_family hdist fun parts hparts => ?_) allFactTexts_nodup
    exact List.mem_append_right _ (List.mem_append_right _ hparts)
  -- the three families have different heads
  have hapart : ∀ {head head' : String} {c c' : Char} {ids ids' : List (List String)},
      head.toList.head? = some c → head'.toList.head? = some c' → c ≠ c' →
      List.Disjoint (ids.map (stableId host.sha256 head)) (ids'.map (stableId host.sha256 head')) := by
    intro head head' c c' ids ids' hhead hhead' hne id hid hid'
    obtain ⟨parts, -, rfl⟩ := List.mem_map.mp hid
    obtain ⟨parts', -, heq⟩ := List.mem_map.mp hid'
    exact stableId_head_ne hhead hhead' hne heq.symm
  have hA : "ANN".toList.head? = some 'A' := by decide
  have hS : "SP".toList.head? = some 'S' := by decide
  have hF : "FACT".toList.head? = some 'F' := by decide
  rw [generatedIds_eq h]
  refine hannotations.append (hproposals.append hfacts (hapart hS hF (by decide))) ?_
  rw [List.disjoint_append_right]
  exact ⟨hapart hA hS (by decide), hapart hA hF (by decide)⟩

end Output

/-! ### Two images with one observation

  One of them shows smoke; the description of both observations contains the separator. -/

namespace Sample

def seenImage (inputId : String) (hid : isSafeIdentifier inputId = true) : WorkerBatchItemV2 :=
  .ofImage inputId "https://media/image" provenance hid

def seenBatch : WorkerInputV2 where
  batchId := "batch-6"
  batchType := .userMedia
  analysisWindow := window
  items := [seenImage "image-1" (by decide +kernel), seenImage "image-2" (by decide +kernel)]

def plumeRegion : PixelRegion where
  regionId := "region-1"
  evidenceId := "image-1"
  label := "smoke"
  bboxNormalized := ⟨1 / 10, 1 / 10, 1 / 2, 1 / 2⟩
  task := .phraseGrounding

def seenResult (item : WorkerBatchItemV2) : ItemResult where
  inputId := item.inputId
  metadataResult := { captureLocationAvailable := false }
  pixelRegions := if item.inputId = "image-1" then [plumeRegion] else []
  factualObservations :=
    [{ type := "smoke", evidenceKind := .image, evidenceId := item.inputId, description := "plume\x1fseen",
       certainty := .directlyVisible }]
  locationStatus := .noLocation

def seenHost : Host := .ofSha256 (.ofDigests
  [("image-1\x1fregion-1\x1fsmoke_column_base",
      "c10d602c9ef2dd43577156c42b8ea54ec92d4c7334a1c760fe340178d5ebeda4"),
    ("ANN-c10d602c9ef2dd43577156c4\x1fabstain",
      "8b9f96cebd94f2681c9ea01de0977ef9bbec82d5ef70bb9fc0b430b162f7b15d"),
    ("image-2\x1fno-anchor",
      "904ce64cea01ff3641995c531f35a7ba793486cbb1072d7035e3e9c0039b6621"),
    ("image-1\x1f1\x1fsmoke\x1fplume\x1fseen",
      "b010722e41102de9a391365082eb01ff9766068990aabde0abbb89fe22363db6"),
    ("image-2\x1f1\x1fsmoke\x1fplume\x1fseen",
      "b5a7a5365023a632cad80cf623572c7cd02042499116d737d6bc3e9e60ef2848")]
  "e3b0c44298fc1c149afbf4c8996fb92427ae41e4649b934ca495991b7852b855" (by decide +kernel))
  "2026-07-01T12:00:00+00:00"

theorem seenRegions_named (item : WorkerBatchItemV2) : RegionsNamed (seenResult item) := by
  by_cases hfirst : item.inputId = "image-1"
  · have hregions : (seenResult item).pixelRegions = [plumeRegion] := if_pos hfirst
    refine ⟨?_, ?_⟩
    · rw [hregions]
      exact List.nodup_singleton _
    · rw [hregions, List.forall_mem_singleton]
      decide
  · have hregions : (seenResult item).pixelRegions = [] := if_neg hfirst
    refine ⟨?_, ?_⟩
    · rw [hregions]
      exact List.nodup_nil
    · rw [hregions]
      exact fun region h => absurd h List.not_mem_nil

end Sample

/-- The identifiers of the two images are pairwise distinct. -/
theorem generated_ids_unique_images :
    ∃ outputs, Sample.seenBatch.items.mapM (fun item =>
        generate Sample.seenHost Sample.seenBatch item (Sample.seenResult item)) = .ok outputs ∧
      (generatedIds outputs).Nodup := by
  have hok : (Sample.seenBatch.items.mapM fun item =>
      generate Sample.seenHost Sample.seenBatch item (Sample.seenResult item)).isOk = true := by decide +kernel
  obtain ⟨outputs, h⟩ := exists_ok hok
  exact ⟨outputs, h, generated_ids_unique (fun item _ => Sample.seenRegions_named item) h (by decide +kernel)⟩

end V2Runner

end FireviewerOrchestrator
