/-
  No annotation is dropped: every annotation of an item is referred to by one of its proposals.

  The annotations of an item are put together from the burned-area stage and from the pointing stage
  or the session; its proposals are those of one stage only, the first that made any.  The spatial
  pipeline and the conversion itself speak for all annotations.  The burned-area stage speaks for its
  own, so where it made a proposal the others are covered only if it happens to refer to them
  (`annotationsCovered_iff`).
-/
import FireviewerOrchestrator.SessionRunner.Scripted
import FireviewerOrchestrator.V2Runner.Conversion

set_option linter.unusedVariables false

namespace FireviewerOrchestrator

namespace V2Runner

/-! ## What the stages promise, and what is wanted -/

/-- The pipeline has a proposal for every annotation it was given, of every input it answers for. -/
def SpatialPipeline.Speaks (project : SpatialPipeline) : Prop :=
  ∀ batch annotations sequence execution, project batch annotations sequence = .ok execution →
    ∀ inputId proposals, execution.proposalsByInput.get? inputId = some proposals →
      Covers proposals ((annotations.get? inputId).getD [])

/-- The burned-area stage has a proposal for every annotation of its own. -/
def BurnedAreaExecution.Speaks (execution : BurnedAreaExecution) : Prop :=
  ∀ inputId, Covers ((execution.proposalsByInput.get? inputId).getD [])
    ((execution.annotationsByInput.get? inputId).getD [])

/-- Every annotation of an item that is not satellite data is referred to by one of its proposals. -/
def AnnotationsCovered (batch : WorkerInputV2) (out : WorkerOutputV2) : Prop :=
  ∀ item ∈ out.items, ∀ source ∈ batch.items, source.inputId = item.inputId →
    source.mediaType ≠ .satelliteData → Covers item.spatialProposals item.sourceAnnotations

/-- Where the burned-area stage made a proposal, its proposals also refer to the annotations that were
    pointed at or, if none were, grounded by the session. -/
def BurnedAreaSpeaksForOthers (host : Host) (batch : WorkerInputV2) (pointing : Option FirePointingExecution)
    (burned : Option BurnedAreaExecution) (results : List ItemResult) : Prop :=
  ∀ execution ∈ burned, ∀ result ∈ results, ∀ source ∈ batch.items, source.inputId = result.inputId →
    source.mediaType ≠ .satelliteData →
    ∀ proposals, execution.proposalsByInput.get? source.inputId = some proposals → proposals ≠ [] →
    ∀ legacyAnnotations, sourceAnnotations host source result = .ok legacyAnnotations →
      Covers proposals (pointedOrLegacy pointing source.inputId legacyAnnotations)

section Covered

variable {host : Host} {batch : WorkerInputV2} {pointing : Option FirePointingExecution}
  {burned : Option BurnedAreaExecution} {spatial : Option SpatialPipelineExecution} {legacy : WorkerOutput}
  {stageTraces : List WorkerStageTraceV2} {pipeline : Option SpatialPipeline}
  {prepared : List PreparedItem} {out : WorkerOutputV2}

/-! ## The choice of the proposals -/

/-- Which stage the proposals of an item come from. -/
theorem earlierProposals_cases (burned : Option BurnedAreaExecution)
    (spatial : Option SpatialPipelineExecution) (inputId : String) :
    (∃ execution ∈ burned, ∃ proposals, execution.proposalsByInput.get? inputId = some proposals ∧
      proposals ≠ [] ∧ earlierProposals burned spatial inputId = some proposals) ∨
    ((∀ execution ∈ burned, ∀ proposals, execution.proposalsByInput.get? inputId = some proposals →
        proposals = []) ∧
      earlierProposals burned spatial inputId
        = spatial.bind fun execution => execution.proposalsByInput.get? inputId) := by
  unfold earlierProposals
  split
  · rename_i proposal proposals hburned
    obtain ⟨execution, hexecution, hget⟩ := Option.bind_eq_some_iff.mp hburned
    exact Or.inl ⟨execution, hexecution, _, hget, List.cons_ne_nil _ _, rfl⟩
  · rename_i hnot
    refine Or.inr ⟨?_, rfl⟩
    intro execution hexecution proposals hget
    cases proposals with
    | nil => rfl
    | cons proposal proposals =>
      exact absurd (Option.bind_eq_some_iff.mpr ⟨execution, hexecution, hget⟩) (hnot proposal proposals)

/-! ## What is handed to the spatial pipeline -/

/-- The items of the output are the prepared ones, in order. -/
theorem Converted.inputIds_eq
    (h : Converted host batch pointing burned spatial legacy stageTraces pipeline prepared out) :
    out.items.map WorkerItemResultV2.inputId = prepared.map fun p => p.source.inputId := by
  have hforall := Fallible.mapM_eq_ok.mp h.items_eq
  clear h
  generalize out.items = items at hforall
  induction hforall with
  | nil => rfl
  | cons hitem _ ih => rw [List.map_cons, List.map_cons, ih, (resultItem_ok hitem).1]

/-- The pipeline is given the annotations of each item under its input id. -/
theorem Converted.annotations_given
    (h : Converted host batch pointing burned spatial legacy stageTraces pipeline prepared out)
    {p : PreparedItem} (hp : p ∈ prepared) :
    (annotationsByInput prepared).get? p.source.inputId = some p.annotations := by
  have hnodup : ((prepared.map fun p => (p.source.inputId, p.annotations)).map Prod.fst).Nodup := by
    have hids := h.input_ids_nodup
    rw [h.inputIds_eq] at hids
    rw [List.map_map]
    exact hids
  rw [Dict.get?_eq_some, annotationsByInput, Dict.entries_ofPairs hnodup]
  exact List.mem_map.mpr ⟨p, hp, rfl⟩

/-- So its answer for an item covers the item's annotations. -/
theorem Converted.pipeline_covers
    (h : Converted host batch pointing burned spatial legacy stageTraces pipeline prepared out)
    (hpipeline : ∀ project ∈ pipeline, SpatialPipeline.Speaks project) {p : PreparedItem} (hp : p ∈ prepared)
    {execution : SpatialPipelineExecution} (hexecution : execution ∈ spatial)
    {proposals : List SpatialProposalV2}
    (hget : execution.proposalsByInput.get? p.source.inputId = some proposals) :
    Covers proposals p.annotations := by
  have hspatial := h.spatial_eq
  unfold projectSpatial at hspatial
  split at hspatial
  · obtain rfl := Fallible.pure_eq_ok.mp hspatial
    cases hexecution
  · rename_i project
    obtain ⟨execution', hproject, hsome⟩ := Fallible.bind_eq_ok.mp hspatial
    obtain rfl := Fallible.pure_eq_ok.mp hsome
    obtain rfl : execution' = execution := Option.some.inj hexecution
    have hcovers := hpipeline project rfl _ _ _ _ hproject _ _ hget
    rw [h.annotations_given hp] at hcovers
    exact hcovers

/-! ## One item -/

/-- An item that is not satellite data is covered exactly if, where the burned-area stage made
    proposals for it, these refer to the annotations that are not that stage's. -/
theorem Converted.covers_iff
    (h : Converted host batch pointing burned spatial legacy stageTraces pipeline prepared out)
    (hpipeline : ∀ project ∈ pipeline, SpatialPipeline.Speaks project)
    (hburned : ∀ execution ∈ burned, BurnedAreaExecution.Speaks execution)
    {p : PreparedItem} (hp : p ∈ prepared) {others : List SourceAnnotationV2}
    (hannotations : p.annotations = burnedAreaAnnotations burned p.source.inputId ++ others)
    (hmedia : p.source.mediaType ≠ .satelliteData) {proposals : List SpatialProposalV2}
    (hproposals : itemProposals host batch burned spatial p = .ok proposals) :
    Covers proposals p.annotations ↔
      ∀ execution ∈ burned, ∀ made, execution.proposalsByInput.get? p.source.inputId = some made →
        made ≠ [] → Covers made others := by
  rw [itemProposals, if_neg hmedia] at hproposals
  rcases earlierProposals_cases burned spatial p.source.inputId with
    ⟨execution, hexecution, made, hget, hne, heq⟩ | ⟨hnone, heq⟩
  · -- the burned-area stage made proposals, and they are the item's
    rw [heq] at hproposals
    obtain rfl : made = proposals := Fallible.pure_eq_ok.mp hproposals
    have hown : Covers made (burnedAreaAnnotations burned p.source.inputId) := by
      have hspeaks := hburned execution hexecution p.source.inputId
      rw [hget] at hspeaks
      rw [Option.mem_def.mp hexecution]
      exact hspeaks
    rw [hannotations, covers_append]
    constructor
    · rintro ⟨-, hothers⟩ execution' hexecution' made' hget' -
      obtain rfl : execution = execution' := Option.some.inj (hexecution.symm.trans hexecution')
      rw [hget] at hget'
      rw [← Option.some.inj hget']
      exact hothers
    · exact fun hcovers => ⟨hown, hcovers execution hexecution made hget hne⟩
  · -- it made none, so both sides hold
    have hvacuous : ∀ execution ∈ burned, ∀ made,
        execution.proposalsByInput.get? p.source.inputId = some made → made ≠ [] → Covers made others :=
      fun execution hexecution made hget hne => absurd (hnone execution hexecution made hget) hne
    refine iff_of_true ?_ hvacuous
    rw [heq] at hproposals
    cases hspatial : spatial.bind fun execution => execution.proposalsByInput.get? p.source.inputId with
    | none =>
      rw [hspatial] at hproposals
      exact spatialProposals_covers hmedia hproposals
    | some answered =>
      rw [hspatial] at hproposals
      obtain rfl : answered = proposals := Fallible.pure_eq_ok.mp hproposals
      obtain ⟨execution, hexecution, hget⟩ := Option.bind_eq_some_iff.mp hspatial
      exact h.pipeline_covers hpipeline hp hexecution hget

/-! ## All items -/

/-- **When no annotation is dropped.**  For every batch, session output and executions of the external
    stages, of which the burned-area stage and the spatial pipeline speak for what is their own:
    exactly when the burned-area proposals of an item, where there are any, also refer to the
    annotations that other stages put on the item. -/
theorem annotationsCovered_iff {candidateRuns : List WorkerModelCandidateRunV2}
    {consensusResults : List WorkerConsensusResultV2} {contractDigest : String}
    (hpipeline : ∀ project ∈ pipeline, SpatialPipeline.Speaks project)
    (hburned : ∀ execution ∈ burned, BurnedAreaExecution.Speaks execution)
    (hout : fromLegacyOutput host batch pointing burned legacy stageTraces candidateRuns consensusResults
      contractDigest pipeline = .ok out) :
    AnnotationsCovered batch out ↔ BurnedAreaSpeaksForOthers host batch pointing burned legacy.items := by
  obtain ⟨prepared, spatial, h⟩ := converted_of_ok hout
  constructor
  · intro hcovered execution hexecution result hresult source hsource hid hmedia made hget hne
      legacyAnnotations hlegacy
    obtain ⟨p, hp, hprepare⟩ := Fallible.exists_of_mem_input h.prepared_eq hresult
    obtain ⟨item, hitem, hresultItem⟩ := Fallible.exists_of_mem_input h.items_eq hp
    obtain ⟨-, hpsource, hpid, legacyAnnotations', hlegacy', hannotations⟩ := prepareItem_ok hprepare
    obtain ⟨hitemId, hitemAnnotations, hproposals⟩ := resultItem_ok hresultItem
    -- the batch names an input once
    have hsame : p.source = source :=
      List.inj_on_of_nodup_map batch.input_ids_unique hpsource hsource (hpid.trans hid.symm)
    have hcovers := hcovered item hitem p.source hpsource hitemId.symm (by rw [hsame]; exact hmedia)
    rw [hitemAnnotations] at hcovers
    rw [hsame] at hlegacy' hannotations
    obtain rfl : legacyAnnotations' = legacyAnnotations := Except.ok.inj (hlegacy'.symm.trans hlegacy)
    rw [← hsame] at hannotations hmedia hget
    have hothers := (h.covers_iff hpipeline hburned hp hannotations hmedia hproposals).mp hcovers
    rw [← hsame]
    exact hothers execution hexecution made hget hne
  · intro hspeaks item hitem source hsource hid hmedia
    obtain ⟨p, hp, hresultItem⟩ := Fallible.exists_of_mem_output h.items_eq hitem
    obtain ⟨result, hresult, hprepare⟩ := Fallible.exists_of_mem_output h.prepared_eq hp
    obtain ⟨-, hpsource, hpid, legacyAnnotations, hlegacy, hannotations⟩ := prepareItem_ok hprepare
    obtain ⟨hitemId, hitemAnnotations, hproposals⟩ := resultItem_ok hresultItem
    have hsame : source = p.source :=
      List.inj_on_of_nodup_map batch.input_ids_unique hsource hpsource (hid.trans hitemId)
    rw [hsame] at hmedia
    rw [hitemAnnotations]
    refine (h.covers_iff hpipeline hburned hp hannotations hmedia hproposals).mpr ?_
    intro execution hexecution made hget hne
    exact hspeaks execution hexecution result hresult p.source hpsource hpid hmedia made hget hne
      legacyAnnotations hlegacy

end Covered

/-! ### A burned area with smoke beside it

  One satellite image.  The session grounds a plume of smoke on it, the burned-area stage finds a
  polygon, and no stage of the spatial pipeline applies. -/

namespace Sample

def satelliteImage : WorkerBatchItemV2 :=
  .ofSatelliteImage "satellite-1" "https://media/satellite-1" provenance
    (tile ⟨5, 1 / 1000, 0, 44, 0, -1 / 1000⟩) (by decide)

def satelliteBatch : WorkerInputV2 where
  batchId := "batch-2"
  batchType := .satelliteMedia
  analysisWindow := window
  referenceBundle := some reference
  items := [satelliteImage]

def plume : PixelRegion where
  regionId := "satellite-1:region:0001"
  evidenceId := "satellite-1"
  label := "smoke"
  bboxNormalized := ⟨1 / 10, 1 / 10, 1 / 2, 1 / 2⟩
  task := .phraseGrounding

def plumeOutput : WorkerOutput where
  batchId := "batch-2"
  status := .succeeded
  retryable := false
  modelRuns := []
  items := [{ inputId := "satellite-1", metadataResult := ⟨false, none⟩, pixelRegions := [plume],
              locationStatus := .noLocation }]
  bootMs := 12

def plumeTraces : List WorkerStageTraceV2 :=
  [skippedTrace .asr 1 .notApplicable "no_applicable_input", succeededTrace .fireDetection 2,
    succeededTrace .visualGrounding 3, succeededTrace .multimodalExtraction 4]

def plumeDigests : Sha256 := .ofDigests
  [("satellite-1\x1fsatellite-1:region:0001\x1fsmoke_column_base",
    "c2b132af9bdc4e508d11807450b7a86692d8dfe4e17c2bcb816cf077486aba43")]
  "e3b0c44298fc1c149afbf4c8996fb92427ae41e4649b934ca495991b7852b855" (by decide +kernel)

def plumeHost : Host := .ofSha256 plumeDigests "2026-07-01T12:00:00+00:00"

def notPointing : FirePointingExecution where
  annotationsByInput := .empty
  stageTrace := skippedTrace .firePointing 5 .notApplicable "no_applicable_input"

/-- A closed ring of four positions. -/
def square (x y size : ℚ) : JsonFields :=
  [("type", .str "Polygon"),
    ("coordinates", .arr [.arr ([(x, y), (x + size, y), (x + size, y + size), (x, y)].map fun position =>
      .arr [.ofRat position.1, .ofRat position.2])])]

def scar : SourceAnnotationV2 where
  annotationId := "ANN-scar"
  evidenceId := "satellite-1"
  evidenceKind := .satelliteImage
  semanticAnchor := .burnedAreaPolygon
  sourceGeometryNormalized := some (square (1 / 2) (1 / 2) (1 / 4))

def scarProposal : SpatialProposalV2 where
  proposalId := "SP-scar"
  annotationId := some "ANN-scar"
  status := .projectedGeometry
  proposalKind := some .burnedAreaPolygon
  observedAt := some noon
  geometryOrigin := some .satelliteGeotransform
  geometryGeojson := some (square 5 44 (1 / 8))
  horizontalAccuracyM := some 20
  referenceBundleSha256 := some reference.manifestSha256

def burnedArea : BurnedAreaExecution where
  annotationsByInput := .ofPairs [("satellite-1", [scar])]
  proposalsByInput := .ofPairs [("satellite-1", [scarProposal])]
  stageTrace := succeededTrace .burnedArea 6

theorem burnedArea_speaks : burnedArea.Speaks := by
  intro inputId annot hannot
  by_cases hid : inputId = "satellite-1"
  · subst hid
    obtain rfl : annot = scar := List.mem_singleton.mp hannot
    exact ⟨scarProposal, List.mem_singleton_self _, rfl⟩
  · have hnone : burnedArea.annotationsByInput.get? inputId = none := by
      rw [Dict.get?_eq_none]
      exact fun hmem => hid (List.mem_singleton.mp hmem)
    rw [hnone] at hannot
    cases hannot

/-- Nothing to register and nothing to project. -/
def notApplicable : SpatialPipeline := fun _ _ sequence => .ok
  { proposalsByInput := .empty
    stageTraces := [skippedTrace .crossViewRegistration sequence .notApplicable "no_applicable_input",
      skippedTrace .spatialProjection (sequence + 1) .notApplicable "no_applicable_input"] }

theorem notApplicable_speaks : notApplicable.Speaks := by
  rintro batch annotations sequence execution ⟨rfl⟩ inputId proposals hget
  cases hget

/-- The conversion of the session of the plume. -/
def convertPlume : Except PyExc WorkerOutputV2 :=
  fromLegacyOutput plumeHost satelliteBatch (some notPointing) (some burnedArea) plumeOutput plumeTraces
    [] [] contractDigest (some notApplicable)

/-- The item has an annotation to which no proposal refers. -/
def dropsAnnotation (out : WorkerOutputV2) : Bool :=
  out.items.any fun item => decide (item.inputId = "satellite-1") &&
    item.sourceAnnotations.any fun annot =>
      item.spatialProposals.all fun proposal => decide (proposal.annotationId ≠ some annot.annotationId)

theorem exists_dropping : ∃ out, convertPlume = .ok out ∧ dropsAnnotation out = true :=
  exists_returned (by decide +kernel)

end Sample

/-- **A dropped annotation**: the plume the session grounded has no proposal, not even an abstention. -/
theorem not_annotationsCovered_plume :
    ∃ out, Sample.convertPlume = .ok out ∧ Sample.burnedArea.Speaks ∧ Sample.notApplicable.Speaks ∧
      ¬ AnnotationsCovered Sample.satelliteBatch out := by
  obtain ⟨out, hout, hdrops⟩ := Sample.exists_dropping
  refine ⟨out, hout, Sample.burnedArea_speaks, Sample.notApplicable_speaks, ?_⟩
  intro hcovered
  obtain ⟨item, hitem, hdrops⟩ := List.any_eq_true.mp hdrops
  obtain ⟨hid, hdrops⟩ := Bool.and_eq_true_iff.mp hdrops
  obtain ⟨annot, hannot, hnone⟩ := List.any_eq_true.mp hdrops
  obtain ⟨proposal, hproposal, hrefers⟩ := hcovered item hitem Sample.satelliteImage
    List.mem_cons_self (of_decide_eq_true hid).symm (by decide) annot hannot
  exact of_decide_eq_true (List.all_eq_true.mp hnone proposal hproposal) hrefers

/-- The same conversion: whether an annotation is dropped is decided by the burned-area proposals. -/
theorem annotationsCovered_iff_plume :
    ∃ out, Sample.convertPlume = .ok out ∧
      (AnnotationsCovered Sample.satelliteBatch out ↔ BurnedAreaSpeaksForOthers Sample.plumeHost
        Sample.satelliteBatch (some Sample.notPointing) (some Sample.burnedArea) Sample.plumeOutput.items) := by
  obtain ⟨out, hout, -⟩ := Sample.exists_dropping
  refine ⟨out, hout, annotationsCovered_iff ?_ ?_ hout⟩
  · rintro project ⟨rfl⟩
    exact Sample.notApplicable_speaks
  · rintro execution ⟨rfl⟩
    exact Sample.burnedArea_speaks

end V2Runner

end FireviewerOrchestrator
