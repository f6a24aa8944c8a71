/-
  The data functions of the session: initial results, patches, their merge, and the measures the
  gates take of a stage's output.

  A stage never edits the accumulated map in place: it builds a candidate map from it by merging
  patches (`validatedCandidates`) and either adopts that map whole or not at all.  `mergeAll` is the
  map a set of patches describes, item by item; `validatedCandidates_eq_ok` says the code's loop
  computes it.
-/
import FireviewerOrchestrator.Consensus
import FireviewerOrchestrator.StageGates
import Mathlib.Data.List.Dedup

set_option linter.unusedVariables false

namespace FireviewerOrchestrator

namespace SessionRunner

/-! ## Initial results -/

/-- `_temporal_sample`: at most `limit` of the ids, spread evenly from the first to the last. -/
def temporalSample (evidenceIds : List String) (limit : Nat) : List String :=
  if evidenceIds.length ≤ limit then evidenceIds
  else if limit = 1 then (evidenceIds[evidenceIds.length / 2]?).toList
  else
    let indexes := ((List.range limit).map fun position =>
      (roundHalfEven ((position * (evidenceIds.length - 1 : Nat) : ℚ) / (limit - 1 : Nat))).toNat).dedup
    (indexes.insertionSort (· ≤ ·)).filterMap fun index => evidenceIds[index]?

def locationStatusOf : LocationOrigin → LocationStatus
  | .metadata => .captureLocationOnly
  | .userDeclared => .userDeclaredObservationLocation
  | .explicitSourceGeometry => .explicitSourceGeometry
  | .humanConfirmed => .humanConfirmedObservationLocation

/-- The evidence ids an item can be looked at through: its frames, or itself. -/
def visualSources (item : BatchItem) : List String :=
  if item.frames.isEmpty && item.workingFileUrl.isSome then [item.inputId]
  else item.frames.map FrameInput.frameId

def fallbackSelection (visualSources : List String) : List VisualEvidenceSelection :=
  let fallbackSelected := temporalSample visualSources 8
  visualSources.map fun evidenceId =>
    { evidenceId := evidenceId
      selectedForGrounding := decide (evidenceId ∈ fallbackSelected)
      selectionReason :=
        if visualSources.length = 1 then .singleImage
        else if evidenceId ∈ fallbackSelected then .detectorFallback
        else .capacityLimit }

/-- `_initial_result`.  `metadata.locationOrigin` is present exactly when the coordinates are, so
    the assertion on it cannot fail. -/
def initialResult (item : BatchItem) : ItemResult where
  inputId := item.inputId
  metadataResult :=
    { captureLocationAvailable := item.metadata.latitude.isSome
      captureLocationOrigin := item.metadata.locationOrigin }
  visualEvidenceSelection := fallbackSelection (visualSources item)
  locationStatus := (item.metadata.locationOrigin.map locationStatusOf).getD .noLocation
  geographicMarkerCandidate := item.metadata.locationOrigin.map GeographicMarkerCandidate.mk

/-- `{item.input_id: _initial_result(item) for item in batch.items}`. -/
def initialResults (batch : WorkerInput) : Dict String ItemResult :=
  .ofPairs (batch.items.map fun item => (item.inputId, initialResult item))

theorem entries_initialResults (batch : WorkerInput) :
    (initialResults batch).entries = batch.items.map fun item => (item.inputId, initialResult item) := by
  apply Dict.entries_ofPairs
  rw [List.map_map]
  exact batch.input_ids_unique

theorem keys_initialResults (batch : WorkerInput) :
    (initialResults batch).keys = batch.items.map BatchItem.inputId := by
  rw [Dict.keys, entries_initialResults, List.map_map]
  rfl

theorem get?_initialResults {batch : WorkerInput} {item : BatchItem} (h : item ∈ batch.items) :
    (initialResults batch).get? item.inputId = some (initialResult item) := by
  rw [Dict.get?_eq_some, entries_initialResults]
  exact List.mem_map.mpr ⟨item, h, rfl⟩

/-! ## Patches -/

/-- `_as_patch`. -/
def asPatch (result : ItemResult) : ItemPatch where
  transcript := some result.transcript
  pixelRegions := some result.pixelRegions
  visualEvidenceSelection := some result.visualEvidenceSelection
  factualObservations := some result.factualObservations
  explicitPlaces := some result.explicitPlaces
  explicitTimes := some result.explicitTimes

/-- The map as an adapter is shown it. -/
def asPatches (results : Dict String ItemResult) : Dict String ItemPatch :=
  results.mapValues fun _ result => asPatch result

/-- `_merge`: the patch's fields that are not `None` replace the result's. -/
def merge (result : ItemResult) (patch : ItemPatch) : ItemResult :=
  { result with
    transcript := patch.transcript.getD result.transcript
    pixelRegions := patch.pixelRegions.getD result.pixelRegions
    visualEvidenceSelection := patch.visualEvidenceSelection.getD result.visualEvidenceSelection
    factualObservations := patch.factualObservations.getD result.factualObservations
    explicitPlaces := patch.explicitPlaces.getD result.explicitPlaces
    explicitTimes := patch.explicitTimes.getD result.explicitTimes }

/-- What a set of patches makes of one item's result: its merge, or the result itself. -/
def applyPatch (patches : Dict String ItemPatch) (inputId : String) (result : ItemResult) : ItemResult :=
  match patches.get? inputId with
  | some patch => merge result patch
  | none => result

/-- **The map a set of patches describes**: every item merged with its own patch, if it has one. -/
def mergeAll (results : Dict String ItemResult) (patches : Dict String ItemPatch) : Dict String ItemResult :=
  results.mapValues (applyPatch patches)

@[simp] theorem keys_mergeAll (results : Dict String ItemResult) (patches : Dict String ItemPatch) :
    (mergeAll results patches).keys = results.keys := Dict.keys_mapValues _ _

theorem get?_mergeAll (results : Dict String ItemResult) (patches : Dict String ItemPatch) (k : String) :
    (mergeAll results patches).get? k = (results.get? k).map (applyPatch patches k) :=
  Dict.get?_mapValues _ _ _

/-! ## Validated candidates -/

/-- `for input_id, patch in patches.items(): …`. -/
def mergePatches (candidate : Dict String ItemResult) :
    List (String × ItemPatch) → Except PyExc (Dict String ItemResult)
  | [] => .ok candidate
  | (inputId, patch) :: rest =>
      match candidate.get? inputId with
      | none => .error (.outputValidationError ("adapter returned unknown input_id " ++ inputId))
      | some result => mergePatches (candidate.set inputId (merge result patch)) rest

/-- `for item in batch.items: validate_item_result(item, candidate[item.input_id])`. -/
def validateItems (validateItemResult : BatchItem → ItemResult → Except PyExc Unit)
    (candidate : Dict String ItemResult) : List BatchItem → Except PyExc Unit
  | [] => .ok ()
  | item :: rest =>
      match candidate.get? item.inputId with
      | none => .error (.keyError item.inputId)
      | some result => do
          validateItemResult item result
          validateItems validateItemResult candidate rest

/-- `_validated_candidates`. -/
def validatedCandidates (validateItemResult : BatchItem → ItemResult → Except PyExc Unit)
    (batch : WorkerInput) (results : Dict String ItemResult) (patches : Dict String ItemPatch) :
    Except PyExc (Dict String ItemResult) := do
  let candidate ← mergePatches results patches.entries
  validateItems validateItemResult candidate batch.items
  pure candidate

/-- The merging loop, on any rest of the patches: keys stay, and each item met exactly once gets its
    patch, because the patches' own keys are distinct. -/
theorem mergePatches_spec : ∀ (rest : List (String × ItemPatch)) (candidate m : Dict String ItemResult),
    (rest.map Prod.fst).Nodup → mergePatches candidate rest = .ok m →
    m.keys = candidate.keys ∧ ∀ k, m.get? k = (candidate.get? k).map fun result =>
      match Dict.getEntry k rest with
      | some patch => merge result patch
      | none => result := by
  intro rest
  induction rest with
  | nil =>
    rintro candidate m - ⟨rfl⟩
    exact ⟨rfl, fun k => by simp [Dict.getEntry]⟩
  | cons e rest ih =>
    obtain ⟨inputId, patch⟩ := e
    intro candidate m hn h
    rw [List.map_cons, List.nodup_cons] at hn
    rw [mergePatches] at h
    cases hget : candidate.get? inputId with
    | none => simp [hget] at h
    | some result =>
      rw [hget] at h
      have hmem : inputId ∈ candidate.keys := by
        by_contra hnot
        rw [Dict.get?_eq_none.mpr hnot] at hget
        cases hget
      obtain ⟨hkeys, hvals⟩ := ih _ _ hn.2 h
      refine ⟨hkeys.trans (Dict.keys_set_of_mem _ hmem), fun k => ?_⟩
      rw [hvals k, Dict.get?_set]
      by_cases hk : k = inputId
      · subst hk
        have hnone : Dict.getEntry k rest = none := Dict.getEntry_eq_none.mpr hn.1
        simp [hget, hnone, Dict.getEntry]
      · have hk' : inputId ≠ k := fun hsym => hk hsym.symm
        simp [hk, hk', Dict.getEntry]

/-- **The code's loop computes `mergeAll`**, whenever it ends. -/
theorem validatedCandidates_eq_ok {validateItemResult : BatchItem → ItemResult → Except PyExc Unit}
    {batch : WorkerInput} {results m : Dict String ItemResult} {patches : Dict String ItemPatch}
    (h : validatedCandidates validateItemResult batch results patches = .ok m) :
    m = mergeAll results patches := by
  cases hmerge : mergePatches results patches.entries with
  | error e =>
    simp only [validatedCandidates, hmerge] at h
    cases h
  | ok candidate =>
    have hcand : candidate = m := by
      simp only [validatedCandidates, hmerge, bind, Except.bind] at h
      cases hval : validateItems validateItemResult candidate batch.items with
      | error e =>
        rw [hval] at h
        cases h
      | ok u =>
        rw [hval] at h
        cases h
        rfl
    subst hcand
    obtain ⟨hkeys, hvals⟩ := mergePatches_spec _ _ _ patches.nodup hmerge
    apply Dict.ext_get?
    · rw [hkeys, keys_mergeAll]
    · intro k
      rw [hvals k, get?_mergeAll]
      rfl

/-- What the loop refuses, it refuses with an `Exception`, if the item validator does. -/
theorem validatedCandidates_isException {validateItemResult : BatchItem → ItemResult → Except PyExc Unit}
    {batch : WorkerInput} {results : Dict String ItemResult} {patches : Dict String ItemPatch} {e : PyExc}
    (hvalidate : ∀ item result e, validateItemResult item result = .error e → e.isException = true)
    (h : validatedCandidates validateItemResult batch results patches = .error e) :
    e.isException = true := by
  have hmerge : ∀ (rest : List (String × ItemPatch)) (candidate : Dict String ItemResult),
      mergePatches candidate rest = .error e → e.isException = true := by
    intro rest
    induction rest with
    | nil => intro candidate h; cases h
    | cons entry rest ih =>
      intro candidate h
      rw [mergePatches] at h
      cases hget : candidate.get? entry.1 with
      | none =>
        rw [hget] at h
        cases h
        rfl
      | some result =>
        rw [hget] at h
        exact ih _ h
  have hitems : ∀ (items : List BatchItem) (candidate : Dict String ItemResult),
      validateItems validateItemResult candidate items = .error e → e.isException = true := by
    intro items candidate
    induction items with
    | nil => intro h; cases h
    | cons item items ih =>
      intro h
      rw [validateItems] at h
      cases hget : candidate.get? item.inputId with
      | none =>
        rw [hget] at h
        cases h
        rfl
      | some result =>
        rw [hget] at h
        cases hval : validateItemResult item result with
        | ok u => exact ih (by simpa [hval, bind, Except.bind] using h)
        | error e' =>
          simp only [hval, bind, Except.bind] at h
          cases h
          exact hvalidate item result _ hval
  cases hm : mergePatches results patches.entries with
  | error e' =>
    simp only [validatedCandidates, hm, bind, Except.bind] at h
    cases h
    exact hmerge _ _ hm
  | ok candidate =>
    simp only [validatedCandidates, hm, bind, Except.bind] at h
    cases hv : validateItems validateItemResult candidate batch.items with
    | error e' =>
      rw [hv] at h
      cases h
      exact hitems _ _ hv
    | ok u =>
      rw [hv] at h
      cases h

/-! ## Payloads and measures -/

variable (models : ContractModels)

/-- `[item.model_dump(mode="json") for item in value]`. -/
def dumpList {α : Type} (dump : α → Except PyExc JsonValue) (values : List α) : Except PyExc JsonValue :=
  (values.mapM dump).map JsonValue.arr

/-- One entry of the payload, when the field is not `None`. -/
def dumpField {α : Type} (name : String) (dump : α → Except PyExc JsonValue) :
    Option α → Except PyExc JsonFields
  | none => .ok []
  | some value => (dump value).map fun json => [(name, json)]

def patchFields (inputId : String) (patch : ItemPatch) : Except PyExc JsonValue := do
  let transcript ← dumpField "transcript" models.dumpTranscript patch.transcript
  let regions ← dumpField "pixel_regions" (dumpList models.dumpRegion) patch.pixelRegions
  let selection ←
    dumpField "visual_evidence_selection" (dumpList models.dumpSelection) patch.visualEvidenceSelection
  let observations ←
    dumpField "factual_observations" (dumpList models.dumpObservation) patch.factualObservations
  let places ← dumpField "explicit_places" (dumpList models.dumpLiteral) patch.explicitPlaces
  let times ← dumpField "explicit_times" (dumpList models.dumpLiteral) patch.explicitTimes
  pure (.obj (("input_id", .str inputId)
    :: (transcript ++ regions ++ selection ++ observations ++ places ++ times)))

/-- `_candidate_payload`: the patches in the order of their input ids. -/
def candidatePayload (patches : Dict String ItemPatch) : Except PyExc JsonFields := do
  let sorted := patches.entries.insertionSort fun a b => a.1 ≤ b.1
  let items ← sorted.mapM fun e => patchFields models e.1 e.2
  pure [("schema_version", .str "candidate-patch-v1"), ("items", .arr items)]

variable {models}

theorem dumpField_eq_ok {α : Type} {dump : α → Except PyExc JsonValue} (h : ∀ v, ∃ j, dump v = .ok j)
    (name : String) (value : Option α) : ∃ fields, dumpField name dump value = .ok fields := by
  cases value with
  | none => exact ⟨[], rfl⟩
  | some v =>
    obtain ⟨j, hj⟩ := h v
    exact ⟨[(name, j)], by rw [dumpField, hj]; rfl⟩

theorem dumpList_eq_ok {α : Type} {dump : α → Except PyExc JsonValue} (h : ∀ v, ∃ j, dump v = .ok j)
    (values : List α) : ∃ j, dumpList dump values = .ok j := by
  obtain ⟨js, hjs⟩ : ∃ js, values.mapM dump = .ok js := Fallible.exists_mapM_iff.mpr fun v _ => h v
  exact ⟨.arr js, by rw [dumpList, hjs]; rfl⟩

/-- Models that accept everything serialise every set of patches. -/
theorem candidatePayload_eq_ok (h : models.Accepting) (patches : Dict String ItemPatch) :
    ∃ payload, candidatePayload models patches = .ok payload := by
  have hfields : ∀ e ∈ patches.entries.insertionSort (fun a b => a.1 ≤ b.1),
      ∃ j, patchFields models e.1 e.2 = .ok j := by
    intro e _
    obtain ⟨f₁, h₁⟩ := dumpField_eq_ok h.dumpTranscript "transcript" e.2.transcript
    obtain ⟨f₂, h₂⟩ := dumpField_eq_ok (dumpList_eq_ok h.dumpRegion) "pixel_regions" e.2.pixelRegions
    obtain ⟨f₃, h₃⟩ := dumpField_eq_ok (dumpList_eq_ok h.dumpSelection) "visual_evidence_selection"
      e.2.visualEvidenceSelection
    obtain ⟨f₄, h₄⟩ := dumpField_eq_ok (dumpList_eq_ok h.dumpObservation) "factual_observations"
      e.2.factualObservations
    obtain ⟨f₅, h₅⟩ := dumpField_eq_ok (dumpList_eq_ok h.dumpLiteral) "explicit_places" e.2.explicitPlaces
    obtain ⟨f₆, h₆⟩ := dumpField_eq_ok (dumpList_eq_ok h.dumpLiteral) "explicit_times" e.2.explicitTimes
    refine ⟨.obj (("input_id", .str e.1) :: (f₁ ++ f₂ ++ f₃ ++ f₄ ++ f₅ ++ f₆)), ?_⟩
    rw [patchFields, h₁, h₂, h₃, h₄, h₅, h₆]
    rfl
  obtain ⟨items, hitems⟩ := Fallible.exists_mapM_iff.mpr hfields
  refine ⟨[("schema_version", .str "candidate-patch-v1"), ("items", .arr items)], ?_⟩
  rw [candidatePayload, hitems]
  rfl

/-- What an item's result counts for, in the stage that owns it. -/
def stageOutputItems (role : PipelineModelRole) (result : ItemResult) : Nat :=
  match role with
  | .asr => result.transcript.segments.length
  | .fireDetection =>
      (result.pixelRegions.filter (·.task == .fireDetection)).length
        + result.visualEvidenceSelection.length
  | .visualGrounding => (result.pixelRegions.filter Consensus.isGrounding).length
  | .multimodalExtraction =>
      result.factualObservations.length + result.explicitPlaces.length + result.explicitTimes.length

/-- `_maximum_stage_output_items`. -/
def maximumStageOutputItems (role : PipelineModelRole) (results : Dict String ItemResult) : Nat :=
  (results.values.map (stageOutputItems role)).foldl max 0

/-- `_trace_gate`. -/
def traceGate (record : StageGateRecord) : WorkerStageGateV2 where
  phase := record.phase
  decision := record.decision
  reasonCodes := record.reasonCodes
  availableCapabilities := record.availableCapabilities.map StageCapability.value
  missingCapabilities := record.missingCapabilities.map StageCapability.value
  downstreamPossible := record.downstreamPossible

end SessionRunner

end FireviewerOrchestrator
