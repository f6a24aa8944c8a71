/-
  Facts and the report draft.

  The report has one section for each group of fact categories that has a fact, a section of sources
  when there is any fact, and a section of limitations when there is none.
-/
import FireviewerOrchestrator.Library.Dict
import FireviewerOrchestrator.V2Runner.Text

set_option linter.unusedVariables false

namespace FireviewerOrchestrator

namespace V2Runner

variable (host : Host) (batch : WorkerInputV2)

/-! ## Facts -/

/-- An image of a satellite item is a satellite image. -/
def factEvidenceKind (item : WorkerBatchItemV2) (kind : EvidenceKind) : FactEvidenceKind :=
  match kind with
  | .frame => .frame
  | .image => if item.mediaType = .satelliteImage then .satelliteImage else .image
  | .transcriptSegment => .transcriptSegment
  | .articleText => .articleText
  | .metadata => .metadata

/-- The moment a fact of the item holds at. -/
def factAsOf (item : WorkerBatchItemV2) : DateTime :=
  item.capturedAt.getD ((item.satellite.map (·.acquiredAt)).getD batch.analysisWindow.windowEndAt)

/-- The fact of one numbered observation. -/
def factOfObservation (item : WorkerBatchItemV2) (entry : FactualObservation × Nat) :
    Except PyExc FactProposalV2 :=
  let observation := entry.1
  FactProposalV2.build
    { factId := stableId host.sha256 "FACT"
        [item.inputId, toString entry.2, observation.type, observation.description]
      inputId := item.inputId
      category := factCategory host observation.type
      factKey := safeFactKey observation.type
      asOf := factAsOf batch item
      evidenceKind := factEvidenceKind item observation.evidenceKind
      evidenceId := observation.evidenceId
      certainty := observation.certainty
      valueText := some observation.description
      summary := observation.description }

/-- `_fact_proposals`. -/
def factProposals (item : WorkerBatchItemV2) (legacyResult : ItemResult) :
    Except PyExc (List FactProposalV2) :=
  (legacyResult.factualObservations.zipIdx 1).mapM (factOfObservation host batch item)

/-! ## The report -/

/-- `section_for_category`. -/
def sectionForCategory : FactCategory → ReportSectionKey
  | .fireActivity | .burnedArea => .observedActivity
  | .resources => .resources
  | .evacuation | .access | .infrastructure => .impacts
  | .weather | .other => .situation

/-- `headings`. -/
def heading : ReportSectionKey → String
  | .situation => "Situation et consignes"
  | .observedActivity => "Activité observée"
  | .resources => "Moyens engagés"
  | .impacts => "Population, impacts et accès"
  | .sourcesAndFreshness => "Sources et fraîcheur"
  | .limitations => "Limites"
  | .probableActivityZone => ""

/-- `a or b` of texts. -/
def orText (a : Option String) (b : String) : String :=
  match a with
  | some text => if text = "" then b else text
  | none => b

/-- `source_by_input[input_id]`. -/
def sourceOf (inputId : String) : Except PyExc SourceProvenanceV2 :=
  match batch.items.find? (·.inputId = inputId) with
  | some item => pure item.provenance
  | none => .error (.keyError inputId)

/-- `source.attribution or source.source_policy_domain or source.source_key`. -/
def sourceLabel (source : SourceProvenanceV2) : String :=
  orText source.attribution (orText source.sourcePolicyDomain source.sourceKey)

/-- A lead or a press source. -/
def isReported (source : SourceProvenanceV2) : Bool :=
  source.sourceConfidence = some .lead || source.sourceKind = some .press

/-- `sourced_fact_line`. -/
def sourcedFactLine (fact : FactProposalV2) : Except PyExc String := do
  let source ← sourceOf batch fact.inputId
  let status := if isReported source then "rapporté, à recouper" else "source institutionnelle ou technique"
  pure ("- " ++ fact.summary ++ " — " ++ sourceLabel source ++ ", " ++ host.isoformat fact.asOf
    ++ " (" ++ status ++ ")")

/-- The facts of the items, in order. -/
def allFacts (items : List WorkerItemResultV2) : List FactProposalV2 :=
  items.flatMap WorkerItemResultV2.factProposals

/-- `facts_by_section.get(key, [])`. -/
def factsOfSection (items : List WorkerItemResultV2) (key : ReportSectionKey) : List FactProposalV2 :=
  (allFacts items).filter fun fact => sectionForCategory fact.category = key

/-- The section of a group of categories, if it has a fact. -/
def factSection (items : List WorkerItemResultV2) (key : ReportSectionKey) :
    Except PyExc (Option ReportSectionV2) :=
  let facts := factsOfSection items key
  if facts.isEmpty then pure none
  else do
    let lines ← facts.mapM (sourcedFactLine host batch)
    let built ← ReportSectionV2.build
      { key := key
        heading := heading key
        body := "\n".intercalate lines
        factIds := facts.map FactProposalV2.factId }
    pure (some built)

/-- The label, the confidence and the address of a source. -/
structure SourceLine where
  label : String
  confidence : String
  url : String
  deriving DecidableEq, Repr

def sourceLine (source : SourceProvenanceV2) : SourceLine where
  label := sourceLabel source
  confidence := (source.sourceConfidence.map SourceConfidence.value).getD source.trust.value
  url := source.sourceReferenceUrl.getD "sans URL"

def SourceLine.text (line : SourceLine) : String :=
  "- " ++ line.label ++ " — niveau " ++ line.confidence ++ " — " ++ line.url

/-- One step of the loop that fills `sources`. -/
def addSource (sources : Dict String SourceLine) (fact : FactProposalV2) :
    Except PyExc (Dict String SourceLine) := do
  let source ← sourceOf batch fact.inputId
  pure (sources.set source.sourceKey (sourceLine source))

/-- The section of sources, if there is any fact. -/
def sourcesSection (items : List WorkerItemResultV2) : Except PyExc (Option ReportSectionV2) :=
  let facts := allFacts items
  if facts.isEmpty then pure none
  else do
    let sources ← facts.foldlM (addSource batch) Dict.empty
    let built ← ReportSectionV2.build
      { key := .sourcesAndFreshness
        heading := heading .sourcesAndFreshness
        body := "\n".intercalate (sources.values.map SourceLine.text)
        factIds := facts.map FactProposalV2.factId }
    pure (some built)

/-- The codes of the items' spatial proposals, or the default one. -/
def limitationCodes (items : List WorkerItemResultV2) : List String :=
  let codes := sortedDistinct (items.flatMap fun item =>
    item.spatialProposals.flatMap SpatialProposalV2.uncertaintyCodes)
  if codes.isEmpty then ["no_explicit_fact_extracted"] else codes

def limitationsSection (items : List WorkerItemResultV2) : Except PyExc ReportSectionV2 :=
  ReportSectionV2.build
    { key := .limitations
      heading := heading .limitations
      body := "Aucun fait explicite exploitable n'a été extrait pour cette fenêtre."
      basisCodes := limitationCodes items }

/-- The keys of the sections of facts, in the order of the report. -/
def factSectionKeys : List ReportSectionKey := [.situation, .observedActivity, .resources, .impacts]

/-- The sections of the report. -/
def reportSections (items : List WorkerItemResultV2) : Except PyExc (List ReportSectionV2) := do
  let ofFacts ← factSectionKeys.mapM (factSection host batch items)
  let ofSources ← sourcesSection batch items
  let sections := ofFacts.reduceOption ++ ofSources.toList
  if sections.isEmpty then do
    let limitations ← limitationsSection items
    pure [limitations]
  else pure sections

def sectionMarkdown (s : ReportSectionV2) : String := "## " ++ s.heading ++ "\n\n" ++ s.body

/-- `_report`. -/
def report (items : List WorkerItemResultV2) : Except PyExc SituationReportDraftV2 := do
  let sections ← reportSections host batch items
  SituationReportDraftV2.build
    { title := "Point de situation du " ++ batch.analysisWindow.localDate.isoformat
      bodyMarkdown := "\n\n".intercalate (sections.map sectionMarkdown)
      sections := sections }

end V2Runner

end FireviewerOrchestrator
