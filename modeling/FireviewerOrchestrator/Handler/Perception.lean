/-
  Event perception: which working URLs are refused, and what is seen on the images behind the others.

  A refusal of an asset is a `PerceptionFailure` that names it.  Everything else is computed from the
  assets that the failures leave: what is kept of the request (`withoutRejected`), whether an image has
  to be looked at at all, and which images the adapter is shown.
-/
import FireviewerOrchestrator.Handler.Environment

set_option linter.unusedVariables false

namespace FireviewerOrchestrator

/-- A text that is an identifier. -/
abbrev Identifier := { text : String // isSafeIdentifier text = true }

namespace Handler

open Guarded

/-! ## Working URLs -/

/-- `event_has_working_urls`. -/
def eventHasWorkingUrls (value : EventPipelineInput) : Bool :=
  value.bundle.evidenceAssets.any (·.workingFileUrl.isSome)

/-- `PerceptionFailure(evidence_asset_id=…, reason_code=…)`. -/
def urlFailure (reason : Identifier) (asset : EvidenceAsset) : PerceptionFailure where
  evidenceAssetId := some asset.evidenceAssetId
  reasonCode := reason
  asset_safe := by
    rintro id ⟨⟩
    exact asset.asset_id_safe
  reason_safe := reason.property

def notAllowed : Identifier := ⟨"media_url_not_allowed", by decide⟩
def unconfigured : Identifier := ⟨"media_url_allowlist_unconfigured", by decide⟩

section

variable (lib : Urllib) (normalizedHosts : List (List Char))

/-- The URL is fetched from: over HTTPS, by nobody in particular, from an allowed host, at its port. -/
def isAllowedUrl (parsed : Url.SplitResult) : Bool :=
  parsed.scheme = "https".toList && parsed.username.isNone && parsed.password.isNone
    && (parsed.hostname lib).any (fun host => lib.lower host ∈ normalizedHosts)
    -- a port that is no number is one that is not allowed
    && match parsed.port lib with
      | .ok port => Url.SplitResult.isDefaultPort port
      | .error _ => false

/-- One round of the loop: an asset without a URL is passed over. -/
def checkWorkingUrl (asset : EvidenceAsset) : Except PyExc (Option PerceptionFailure) :=
  match asset.workingFileUrl with
  | none => pure none
  | some url => do
      let parsed ← Url.urlsplit lib url.toList
      pure (if isAllowedUrl lib normalizedHosts parsed then none else some (urlFailure notAllowed asset))

/-- `validate_event_working_urls`. -/
def validateEventWorkingUrls (value : EventPipelineInput) (allowedHosts : List (List Char)) :
    Except PyExc (List PerceptionFailure) := do
  let outcomes ← value.bundle.evidenceAssets.mapM (checkWorkingUrl lib (allowedHosts.map lib.lower))
  pure outcomes.reduceOption

end

/-- The assets that failures are about. -/
def invalidAssets (failures : List PerceptionFailure) : List String :=
  failures.filterMap PerceptionFailure.evidenceAssetId

/-- The anchors of assets that are not rejected. -/
def safeAnchors (invalid : List String) (request : EventPipelineInput) : List PerceptionAnchor :=
  request.perceptionAnchors.filter (·.evidenceAssetId ∉ invalid)

/-- The evidence of these anchors. -/
def safeEvidence (invalid : List String) (request : EventPipelineInput) : List SpatialEvidence :=
  request.spatialEvidence.filter fun item =>
    item.anchorId ∈ (safeAnchors invalid request).map PerceptionAnchor.anchorId

/-- The request without what its rejected assets brought. -/
def withoutRejected (invalid : List String) (request : EventPipelineInput) : Except PyExc EventPipelineInput :=
  if invalid = [] then pure request
  else EventPipelineInput.revalidate request.bundle (safeAnchors invalid request) (safeEvidence invalid request)

/-! ## Images -/

/-- An image whose working file can be looked at. -/
def isPending (invalid : List String) (asset : EvidenceAsset) : Bool :=
  asset.kind = .image && asset.evidenceAssetId ∉ invalid && asset.workingFileUrl.isSome

/-- `event_requires_image_inference`. -/
def eventRequiresImageInference (value : EventPipelineInput) (urlFailures : List PerceptionFailure) : Bool :=
  value.bundle.evidenceAssets.any (isPending (invalidAssets urlFailures))

/-- Why an asset that should be looked at cannot be. -/
def missingReason (invalid : List String) (asset : EvidenceAsset) : Option Identifier :=
  match asset.kind with
  | .video => some ⟨"video_frames_missing", by decide⟩
  | .image =>
      if asset.evidenceAssetId ∈ invalid then none
      else if asset.workingFileUrl.isNone then some ⟨"image_working_file_url_missing", by decide⟩
      else none
  | .document => none

/-- A model with a name and a revision of the lengths the records allow. -/
def ModelNamed (spec : ModelSpec) : Prop :=
  (1 ≤ spec.modelId.length ∧ spec.modelId.length ≤ 500) ∧
    1 ≤ spec.revision.length ∧ spec.revision.length ≤ 255

instance (spec : ModelSpec) : Decidable (ModelNamed spec) := inferInstanceAs (Decidable (_ ∧ _))

instance (spec : Option ModelSpec) : Decidable (∀ s ∈ spec, ModelNamed s) :=
  match spec with
  | none => isTrue fun s hs => by cases hs
  | some s => decidable_of_iff (ModelNamed s) ⟨fun h s' hs' => by cases hs'; exact h, fun h => h s rfl⟩

/-- `_failure`. -/
def failure (spec : Option ModelSpec) (reason : Identifier) (asset : EvidenceAsset) :
    Except PyExc PerceptionFailure :=
  if h : ∀ s ∈ spec, ModelNamed s then
    .ok
      { evidenceAssetId := some asset.evidenceAssetId
        reasonCode := reason
        modelId := spec.map ModelSpec.modelId
        modelRevision := spec.map ModelSpec.revision
        asset_safe := by
          rintro id ⟨⟩
          exact asset.asset_id_safe
        reason_safe := reason.property
        model_named := by
          constructor
          · intro id hid
            obtain ⟨s, hs, rfl⟩ := Option.map_eq_some_iff.mp hid
            exact (h s hs).1
          · intro revision hrevision
            obtain ⟨s, hs, rfl⟩ := Option.map_eq_some_iff.mp hrevision
            exact (h s hs).2 }
  else .error (.validationError "PerceptionFailure" "model_id")

/-- `_phenomenon`. -/
def phenomenon : EventPointSemantic → PhenomenonKind
  | .visibleFireFrontPoint => .visibleFireFront
  | .smokeOriginPoint => .smokeColumnBase
  | .activeFirePoint => .activeFirePoint

theorem phenomenon_mem (semantic : EventPointSemantic) : phenomenon semantic ∈ anchorPhenomena := by
  cases semantic <;> decide

section

variable (sha256 : Sha256)

/-- `_anchor_id`. -/
def anchorId (candidateId evidenceAssetId : String) (semantic : EventPointSemantic) (index : Nat) : String :=
  stableId sha256 "ANCHOR" [candidateId, evidenceAssetId, semantic.value, toString index]

/-- The anchor at the point with its number. -/
def perceivedAnchor (candidateId : String) (spec : ModelSpec) (asset : EvidenceAsset)
    (entry : EventPerceptionPoint × Nat) : Except PyExc PerceptionAnchor :=
  if h : ModelNamed spec then
    .ok
      { anchorId := anchorId sha256 candidateId asset.evidenceAssetId entry.1.semanticAnchor entry.2
        evidenceAssetId := asset.evidenceAssetId
        phenomenon := phenomenon entry.1.semanticAnchor
        sourcePointNormalized := some entry.1.sourcePointNormalized
        modelId := spec.modelId
        modelRevision := spec.revision
        modelScore := entry.1.modelScore
        anchor_id_safe := stableId_safe sha256 _ (by decide) (by decide)
        asset_id_safe := asset.asset_id_safe
        model_named := h
        score_unit := entry.1.score_unit
        phenomenon_allowed := phenomenon_mem entry.1.semanticAnchor
        one_source := rfl
        point_normalized := by
          rintro p ⟨⟩
          exact entry.1.point_normalized }
  else .error (.validationError "PerceptionAnchor" "model_id")

/-! ## What the adapter sees -/

/-- What the loop has collected. -/
structure Seen where
  anchors : List PerceptionAnchor := []
  failures : List PerceptionFailure := []

/-- One round of the loop over the images. -/
def lookAt (candidateId : String) (adapter : PerceptionAdapter) (asset : EvidenceAsset) (seen : Seen) :
    Job Seen := do
  let points ← attempt (.inferEventImage adapter asset.evidenceAssetId asset.workingFileUrl) id
  match points with
  | none => do
      let failed ← lift (failure (some adapter.spec) ⟨"fire_pointing_inference_failed", by decide⟩ asset)
      pure { seen with failures := seen.failures ++ [failed] }
  | some [] => do
      let failed ← lift (failure (some adapter.spec) ⟨"fire_pointing_no_anchor", by decide⟩ asset)
      pure { seen with failures := seen.failures ++ [failed] }
  | some points => do
      let anchors ← lift ((points.zipIdx 1).mapM (perceivedAnchor sha256 candidateId adapter.spec asset))
      pure { seen with anchors := seen.anchors ++ anchors }

/-- The loop over the images. -/
def lookAtAll (candidateId : String) (adapter : PerceptionAdapter) : List EvidenceAsset → Seen → Job Seen
  | [], seen => pure seen
  | asset :: rest, seen => do
      let seen ← lookAt sha256 candidateId adapter asset seen
      lookAtAll candidateId adapter rest seen

end

/-- `adapter.unload()`: whether that failed. -/
def releaseFails (adapter : PerceptionAdapter) : Job Bool := do
  let unloaded ← attempt (.unloadAdapter adapter) id
  pure unloaded.isNone

/-- `try: … finally: adapter.unload()`, which notes whether the release failed. -/
def thenUnload {α : Type} (adapter : PerceptionAdapter) (c : Job α) : Job (α × Bool) :=
  c.andThen fun result => do
    let releaseFailed ← releaseFails adapter
    match result with
    | .ok a => pure (a, releaseFailed)
    | .error e => .raise e

def modelUnavailable : Identifier := ⟨"fire_pointing_model_unavailable", by decide⟩
def gpuSessionAlreadyActive : Identifier := ⟨"gpu_session_already_active", by decide⟩

section

variable (sha256 : Sha256) (value : EventPipelineInput) (failures : List PerceptionFailure)
  (images : List EvidenceAsset)

/-- The failures of all images, where the adapter could not be released. -/
def releaseFailures (adapter : PerceptionAdapter) (releaseFailed : Bool) :
    Except PyExc (List PerceptionFailure) :=
  if releaseFailed then
    images.mapM (failure (some adapter.spec) ⟨"fire_pointing_model_release_failed", by decide⟩)
  else pure []

/-- What is returned when the adapter has looked at the images. -/
def enriched (adapter : PerceptionAdapter) (seen : Seen) (releaseFailed : Bool) :
    Except PyExc (EventPipelineInput × List PerceptionFailure) := do
  let released ← releaseFailures images adapter releaseFailed
  let input ← EventPipelineInput.revalidate value.bundle (if releaseFailed then [] else seen.anchors)
    value.spatialEvidence
  pure (input, failures ++ seen.failures ++ released)

/-- The images are looked at with the adapter. -/
def perceiveWith (adapter : PerceptionAdapter) : Job (EventPipelineInput × List PerceptionFailure) := do
  let loaded ← attempt (.loadAdapter adapter) id
  if loaded.isSome then do
    let (seen, releaseFailed) ← thenUnload adapter
      (lookAtAll sha256 value.bundle.candidateId adapter images {})
    lift (enriched value failures images adapter seen releaseFailed)
  else do
    let failed ← lift (images.mapM (failure (some adapter.spec) modelUnavailable))
    let _ ← releaseFails adapter
    pure (value, failures ++ failed)

/-- The failures of the assets that cannot be looked at. -/
def missingFailures (spec : Option ModelSpec) (invalid : List String) :
    Except PyExc (List PerceptionFailure) :=
  (value.bundle.evidenceAssets.filterMap fun asset =>
    (missingReason invalid asset).map fun reason => (reason, asset)).mapM fun entry =>
      failure spec entry.1 entry.2

/-- What becomes of the images that can be looked at. -/
def perceiveImages (unavailable : Identifier) : List EvidenceAsset → Option PerceptionAdapter →
    Job (EventPipelineInput × List PerceptionFailure)
  | [], _ => pure (value, failures)
  | image :: images, none => do
      let failed ← lift ((image :: images).mapM (failure none unavailable))
      pure (value, failures ++ failed)
  | image :: images, some adapter => perceiveWith sha256 value failures (image :: images) adapter

/-- `run_event_image_perception`. -/
def runEventImagePerception (adapter : Option PerceptionAdapter) (urlFailures : List PerceptionFailure)
    (unavailable : Identifier) : Job (EventPipelineInput × List PerceptionFailure) :=
  if value.perceptionAnchors ≠ [] then pure (value, urlFailures)
  else do
    let invalid := invalidAssets urlFailures
    let missing ← lift (missingFailures value (adapter.map PerceptionAdapter.spec) invalid)
    perceiveImages sha256 value (urlFailures ++ missing) unavailable
      (value.bundle.evidenceAssets.filter (isPending invalid)) adapter

end

/-! ## What is kept of a request -/

section Rejected

variable {invalid : List String} {request value : EventPipelineInput}

/-- **The request without its rejected assets is always valid.** -/
theorem withoutRejected_eq_ok (invalid : List String) (request : EventPipelineInput) :
    ∃ value, withoutRejected invalid request = .ok value ∧ value.bundle = request.bundle ∧
      value.perceptionAnchors = safeAnchors invalid request ∧
      value.spatialEvidence = safeEvidence invalid request := by
  unfold withoutRejected
  by_cases hinvalid : invalid = []
  · have hanchors : safeAnchors invalid request = request.perceptionAnchors := by
      apply List.filter_eq_self.mpr
      intro anchor hanchor
      simp [hinvalid]
    have hevidence : safeEvidence invalid request = request.spatialEvidence := by
      apply List.filter_eq_self.mpr
      intro item hitem
      rw [hanchors]
      exact decide_eq_true (request.evidence_of_anchors item hitem)
    rw [if_pos hinvalid]
    exact ⟨request, rfl, rfl, hanchors.symm, hevidence.symm⟩
  · rw [if_neg hinvalid]
    have hvalid : EventPipelineInput.validateReferences request.bundle (safeAnchors invalid request)
        (safeEvidence invalid request) = .ok () := by
      refine EventPipelineInput.validateReferences_eq_ok.mpr ⟨?_, ?_, ?_, ?_⟩
      · intro anchor hanchor
        exact request.assets_known anchor (List.mem_of_mem_filter hanchor)
      · exact request.anchor_ids_unique.sublist (List.filter_sublist.map _)
      · exact request.evidence_unique.sublist (List.filter_sublist.map _)
      · intro item hitem
        exact of_decide_eq_true (List.mem_filter.mp hitem).2
    obtain ⟨built, hbuilt, hfields⟩ := EventPipelineInput.revalidate_of_valid hvalid
    exact ⟨built, hbuilt, hfields⟩

end Rejected

/-! ## What perception asks -/

section Asks

variable {asked : Question → Prop} {sha256 : Sha256} {value : EventPipelineInput}

theorem asksOnly_lift {α : Type} {result : Except PyExc α} : AsksOnly asked (lift result) := asksOnly_done

/-- Behind a result, only what follows its value is asked. -/
theorem asksOnly_lift_bind {α β : Type} {result : Except PyExc α} {f : α → Job β}
    (h : ∀ a, result = .ok a → AsksOnly asked (f a)) : AsksOnly asked (lift result >>= f) := by
  cases result with
  | error e => exact asksOnly_done
  | ok a => exact h a rfl

theorem asksOnly_releaseFails (adapter : PerceptionAdapter) (h : ∀ q, asked q) :
    AsksOnly asked (releaseFails adapter) := (asksOnly_attempt (h _)).bind fun _ => asksOnly_pure

theorem asksOnly_lookAtAll (candidateId : String) (adapter : PerceptionAdapter) (h : ∀ q, asked q) :
    ∀ (images : List EvidenceAsset) (seen : Seen),
      AsksOnly asked (lookAtAll sha256 candidateId adapter images seen)
  | [], seen => asksOnly_pure
  | asset :: rest, seen => by
      refine AsksOnly.bind ?_ fun seen => asksOnly_lookAtAll candidateId adapter h rest seen
      refine (asksOnly_attempt (h _)).bind fun points => ?_
      split <;> exact asksOnly_lift.bind fun _ => asksOnly_pure

theorem asksOnly_perceiveWith (failures : List PerceptionFailure) (images : List EvidenceAsset)
    (adapter : PerceptionAdapter) (h : ∀ q, asked q) :
    AsksOnly asked (perceiveWith sha256 value failures images adapter) := by
  refine (asksOnly_attempt (h _)).bind fun loaded => ?_
  split
  · refine AsksOnly.bind (AsksOnly.andThen (asksOnly_lookAtAll _ adapter h images {}) fun result =>
      (asksOnly_releaseFails adapter h).bind fun releaseFailed => ?_) fun seen => asksOnly_lift
    cases result with
    | ok seen => exact asksOnly_pure
    | error e => exact asksOnly_done
  · exact asksOnly_lift.bind fun _ => (asksOnly_releaseFails adapter h).bind fun _ => asksOnly_pure

/-- **Perception asks nothing without an adapter, or without an image to look at.** -/
theorem asksOnly_perception (adapter : Option PerceptionAdapter) (urlFailures : List PerceptionFailure)
    (unavailable : Identifier) : AsksOnly
      (fun _ => adapter.isSome = true ∧ eventRequiresImageInference value urlFailures = true)
      (runEventImagePerception sha256 value adapter urlFailures unavailable) := by
  unfold runEventImagePerception
  split
  · exact asksOnly_pure
  · refine asksOnly_lift.bind fun missing => ?_
    cases himages : value.bundle.evidenceAssets.filter (isPending (invalidAssets urlFailures)) with
    | nil => exact asksOnly_pure
    | cons image images =>
      cases adapter with
      | none => exact asksOnly_lift.bind fun _ => asksOnly_pure
      | some adapter =>
        refine asksOnly_perceiveWith _ _ adapter fun _ => ⟨rfl, ?_⟩
        have himage := List.mem_filter.mp (himages.symm ▸ List.mem_cons_self (a := image))
        exact List.any_eq_true.mpr ⟨image, himage⟩

/-- **Without an adapter** an image that could be looked at is a failure under the reason that is given,
    and a request that has anchors is left as it is. -/
theorem perception_without_adapter (urlFailures : List PerceptionFailure) (unavailable : Identifier) :
    ∃ failures, runEventImagePerception sha256 value none urlFailures unavailable = pure (value, failures) ∧
      (value.perceptionAnchors ≠ [] → failures = urlFailures) ∧
      (value.perceptionAnchors = [] → eventRequiresImageInference value urlFailures = true →
        ∃ failure ∈ failures, failure.reasonCode = unavailable) := by
  -- no model is named, so every failure can be made
  have hfailure : ∀ reason asset, ∃ made, failure none reason asset = .ok made ∧ made.reasonCode = reason := by
    intro reason asset
    unfold failure
    rw [dif_pos (by rintro s ⟨⟩)]
    exact ⟨_, rfl, rfl⟩
  unfold runEventImagePerception
  by_cases hnone : value.perceptionAnchors = []
  · rw [if_neg (not_not.mpr hnone)]
    obtain ⟨missing, hmissing⟩ : ∃ missing, missingFailures value none (invalidAssets urlFailures) = .ok missing :=
      Fallible.exists_mapM_iff.mpr fun entry _ => by
        obtain ⟨made, hmade, -⟩ := hfailure entry.1 entry.2
        exact ⟨made, hmade⟩
    obtain ⟨failed, hfailed⟩ : ∃ failed, (value.bundle.evidenceAssets.filter
        (isPending (invalidAssets urlFailures))).mapM (failure none unavailable) = .ok failed :=
      Fallible.exists_mapM_iff.mpr fun asset _ => by
        obtain ⟨made, hmade, -⟩ := hfailure unavailable asset
        exact ⟨made, hmade⟩
    show ∃ failures, (lift (missingFailures value none _) >>= _) = _ ∧ _
    rw [hmissing]
    show ∃ failures, perceiveImages sha256 value (urlFailures ++ missing) unavailable
      (value.bundle.evidenceAssets.filter (isPending (invalidAssets urlFailures))) none = _ ∧ _
    cases himages : value.bundle.evidenceAssets.filter (isPending (invalidAssets urlFailures)) with
    | nil =>
      refine ⟨urlFailures ++ missing, rfl, fun h => absurd hnone h, fun _ hrequires => ?_⟩
      obtain ⟨asset, hasset, hpending⟩ := List.any_eq_true.mp hrequires
      have hmem := List.mem_filter.mpr ⟨hasset, hpending⟩
      rw [himages] at hmem
      cases hmem
    | cons image images =>
      rw [himages] at hfailed
      refine ⟨urlFailures ++ missing ++ failed, ?_, fun h => absurd hnone h, fun _ _ => ?_⟩
      · show (lift ((image :: images).mapM (failure none unavailable)) >>= _) = _
        rw [hfailed]
        rfl
      · obtain ⟨made, hmade, hreason⟩ := Fallible.exists_of_mem_input hfailed List.mem_cons_self
        obtain ⟨made', hmade', hcode⟩ := hfailure unavailable image
        rw [hmade'] at hreason
        obtain rfl := Except.ok.inj hreason
        exact ⟨_, List.mem_append_right _ hmade, hcode⟩
  · rw [if_pos hnone]
    exact ⟨urlFailures, rfl, fun _ => rfl, fun h => absurd h hnone⟩

end Asks

/-! ## What perception makes of a request -/

/-- **Perception adds to a request**: failures behind those it was given, and, where the request had no
    anchors, anchors of assets that are not rejected. -/
structure Enriches (value : EventPipelineInput) (urlFailures : List PerceptionFailure)
    (out : EventPipelineInput × List PerceptionFailure) : Prop where
  bundle_eq : out.1.bundle = value.bundle
  evidence_eq : out.1.spatialEvidence = value.spatialEvidence
  failures_kept : ∀ failure ∈ urlFailures, failure ∈ out.2
  anchors_kept : value.perceptionAnchors ≠ [] → out.1.perceptionAnchors = value.perceptionAnchors
  anchors_accepted : ∀ anchor ∈ out.1.perceptionAnchors,
    anchor ∈ value.perceptionAnchors ∨ anchor.evidenceAssetId ∉ invalidAssets urlFailures

/-- The adapter's methods raise `Exception`s, or what counts as raised by perception. -/
structure AdapterRaises (permitted : ∀ q, Answer q → Prop) (E : JobExc → Prop) : Prop where
  load : ∀ adapter (answer : Except JobExc Unit), permitted (.loadAdapter adapter) answer →
    ∀ e, answer = .error e → e.isException = true ∨ E e
  infer : ∀ adapter id url (answer : Except JobExc (List EventPerceptionPoint)),
    permitted (.inferEventImage adapter id url) answer → ∀ e, answer = .error e → e.isException = true ∨ E e
  unload : ∀ adapter (answer : Except JobExc Unit), permitted (.unloadAdapter adapter) answer →
    ∀ e, answer = .error e → e.isException = true ∨ E e

section Enriches

variable {permitted : ∀ q, Answer q → Prop} {E : JobExc → Prop} {sha256 : Sha256}
  {value : EventPipelineInput} {urlFailures failures : List PerceptionFailure}

/-- Perception does not change a request by adding failures. -/
theorem enriches_self (hkept : ∀ failure ∈ urlFailures, failure ∈ failures) :
    Enriches value urlFailures (value, failures) where
  bundle_eq := rfl
  evidence_eq := rfl
  failures_kept := hkept
  anchors_kept := fun _ => rfl
  anchors_accepted := fun anchor hanchor => Or.inl hanchor

theorem raisesOnly_failure (spec : Option ModelSpec) (reason : Identifier) (asset : EvidenceAsset) :
    Fallible.RaisesOnly PyExc.IsValidation (failure spec reason asset) := by
  unfold failure
  split
  · exact Fallible.raisesOnly_ok _
  · exact Fallible.raisesOnly_error.mpr ⟨_, _, rfl⟩

/-- An anchor perception makes is one of the image it looked at. -/
theorem perceivedAnchor_spec (candidateId : String) (spec : ModelSpec) (asset : EvidenceAsset)
    (entry : EventPerceptionPoint × Nat) :
    Fallible.RaisesOnly PyExc.IsValidation (perceivedAnchor sha256 candidateId spec asset entry) ∧
      ∀ anchor, perceivedAnchor sha256 candidateId spec asset entry = .ok anchor →
        anchor.evidenceAssetId = asset.evidenceAssetId := by
  unfold perceivedAnchor
  split
  · refine ⟨Fallible.raisesOnly_ok _, ?_⟩
    rintro anchor ⟨⟩
    rfl
  · refine ⟨Fallible.raisesOnly_error.mpr ⟨_, _, rfl⟩, ?_⟩
    rintro anchor ⟨⟩

/-- What is raised as a `PyExc` validation error is raised by the job. -/
theorem yields_lift_validation {α : Type} {P : α → Prop} {result : Except PyExc α}
    (hE : ∀ e : JobExc, e.IsValidation → E e) (hraises : Fallible.RaisesOnly PyExc.IsValidation result)
    (hok : ∀ a, result = .ok a → P a) : Yields permitted E P (lift result) := by
  refine yields_lift hok fun e he => hE _ ?_
  obtain ⟨model, message, rfl⟩ := hraises e he
  exact ⟨model, message, rfl⟩

variable (hE : ∀ e : JobExc, e.IsValidation → E e) (hadapter : AdapterRaises permitted E)
include hE hadapter

/-- One image adds anchors of that image. -/
theorem yields_lookAt (candidateId : String) (adapter : PerceptionAdapter) (asset : EvidenceAsset)
    (seen : Seen) : Yields permitted E
      (fun seen' => ∀ anchor ∈ seen'.anchors, anchor ∈ seen.anchors ∨
        anchor.evidenceAssetId = asset.evidenceAssetId)
      (lookAt sha256 candidateId adapter asset seen) := by
  refine (yields_attempt (q := .inferEventImage adapter _ _) (r := id) (hadapter.infer adapter _ _)).bind fun points _ => ?_
  have hfailed : ∀ reason, Yields permitted E
      (fun seen' : Seen => ∀ anchor ∈ seen'.anchors, anchor ∈ seen.anchors ∨
        anchor.evidenceAssetId = asset.evidenceAssetId)
      (lift (failure (some adapter.spec) reason asset) >>= fun failed =>
        pure { seen with failures := seen.failures ++ [failed] }) := fun reason =>
    (yields_lift_validation (P := fun _ => True) hE (raisesOnly_failure _ _ _) fun _ _ => trivial).bind
      fun failed _ => yields_pure fun anchor hanchor => Or.inl hanchor
  split
  · exact hfailed _
  · exact hfailed _
  · refine Yields.bind (P := fun anchors : List PerceptionAnchor => ∀ anchor ∈ anchors,
      anchor.evidenceAssetId = asset.evidenceAssetId) ?_ fun anchors hanchors => yields_pure ?_
    · refine yields_lift_validation hE ?_ fun anchors hanchors anchor hanchor => ?_
      · exact Fallible.raisesOnly_mapM fun entry _ => (perceivedAnchor_spec _ _ _ entry).1
      · obtain ⟨entry, -, hentry⟩ := Fallible.exists_of_mem_output hanchors hanchor
        exact (perceivedAnchor_spec _ _ _ entry).2 anchor hentry
    · intro anchor hanchor
      exact (List.mem_append.mp hanchor).imp id fun hnew => hanchors anchor hnew

/-- All of them together add anchors of these images. -/
theorem yields_lookAtAll (candidateId : String) (adapter : PerceptionAdapter) :
    ∀ (images : List EvidenceAsset) (seen : Seen), Yields permitted E
      (fun seen' => ∀ anchor ∈ seen'.anchors, anchor ∈ seen.anchors ∨
        ∃ asset ∈ images, anchor.evidenceAssetId = asset.evidenceAssetId)
      (lookAtAll sha256 candidateId adapter images seen) := by
  intro images
  induction images with
  | nil => exact fun seen => yields_pure fun anchor hanchor => Or.inl hanchor
  | cons asset rest ih =>
    intro seen
    refine (yields_lookAt hE hadapter candidateId adapter asset seen).bind fun seen' hseen' => ?_
    refine (ih seen').mono (fun _ he => he) fun out hout anchor hanchor => ?_
    rcases hout anchor hanchor with hanchor | ⟨other, hother, hid⟩
    · exact (hseen' anchor hanchor).imp id fun hid => ⟨asset, List.mem_cons_self, hid⟩
    · exact Or.inr ⟨other, List.mem_cons_of_mem _ hother, hid⟩

omit hE in
theorem yields_releaseFails (adapter : PerceptionAdapter) :
    Yields permitted E (fun _ => True) (releaseFails adapter) :=
  (yields_attempt (q := .unloadAdapter adapter) (r := id) (hadapter.unload adapter)).bind fun _ _ => yields_pure trivial

omit hE in
theorem yields_thenUnload {α : Type} {P : α → Prop} (adapter : PerceptionAdapter) {c : Job α}
    (h : Yields permitted E P c) : Yields permitted E (fun out => P out.1) (thenUnload adapter c) := by
  refine Yields.andThen h fun result hresult => ?_
  refine (yields_releaseFails hadapter adapter).bind fun releaseFailed _ => ?_
  cases result with
  | ok a => exact yields_pure hresult
  | error e => exact yields_raise hresult

/-- Looking at images that are pending enriches the request. -/
theorem yields_perceiveWith (hnone : value.perceptionAnchors = [])
    (hkept : ∀ failure ∈ urlFailures, failure ∈ failures) {images : List EvidenceAsset}
    (himages : ∀ asset ∈ images, asset.evidenceAssetId ∉ invalidAssets urlFailures)
    (adapter : PerceptionAdapter) : Yields permitted E (Enriches value urlFailures)
      (perceiveWith sha256 value failures images adapter) := by
  refine (yields_attempt (q := .loadAdapter adapter) (r := id) (hadapter.load adapter)).bind fun loaded _ => ?_
  have hmapM : ∀ reason, Fallible.RaisesOnly PyExc.IsValidation
      (images.mapM (failure (some adapter.spec) reason)) := fun reason =>
    Fallible.raisesOnly_mapM fun asset _ => raisesOnly_failure _ _ _
  split
  · refine (yields_thenUnload hadapter adapter
      (yields_lookAtAll hE hadapter _ adapter images {})).bind fun out hout => ?_
    refine yields_lift_validation hE ?_ fun result hresult => ?_
    · refine Fallible.RaisesOnly.bind ?_ fun _ _ =>
        (EventPipelineInput.raisesOnly_revalidate _ _ _).bind fun _ _ => Fallible.raisesOnly_ok _
      unfold releaseFailures
      split
      · exact hmapM _
      · exact Fallible.raisesOnly_ok _
    · obtain ⟨released, -, hresult⟩ := Fallible.bind_eq_ok.mp hresult
      obtain ⟨input, hinput, hresult⟩ := Fallible.bind_eq_ok.mp hresult
      obtain rfl := Fallible.pure_eq_ok.mp hresult
      obtain ⟨hbundle, hanchors, hevidence⟩ := EventPipelineInput.revalidate_eq_ok hinput
      refine ⟨hbundle, hevidence, ?_, fun h => absurd hnone h, ?_⟩
      · intro failure hfailure
        exact List.mem_append_left _ (List.mem_append_left _ (hkept failure hfailure))
      · intro anchor hanchor
        have hseen : anchor ∈ out.1.anchors := by
          rw [show input.perceptionAnchors = _ from hanchors] at hanchor
          split at hanchor
          · cases hanchor
          · exact hanchor
        rcases hout anchor hseen with hnil | ⟨asset, hasset, hid⟩
        · cases hnil
        · exact Or.inr (hid ▸ himages asset hasset)
  · refine (yields_lift_validation (P := fun _ => True) hE (hmapM _) fun _ _ => trivial).bind
      fun failed _ => ?_
    refine (yields_releaseFails hadapter adapter).bind fun _ _ => yields_pure ?_
    exact enriches_self fun failure hfailure => List.mem_append_left _ (hkept failure hfailure)

/-- **What perception returns enriches the request**, and all it raises is `ValidationError`s, unless the
    adapter raises what is no `Exception`. -/
theorem yields_perception (adapter : Option PerceptionAdapter) (unavailable : Identifier) :
    Yields permitted E (Enriches value urlFailures)
      (runEventImagePerception sha256 value adapter urlFailures unavailable) := by
  unfold runEventImagePerception
  split
  · exact yields_pure (enriches_self fun _ hfailure => hfailure)
  · rename_i hnone
    refine (yields_lift_validation (P := fun _ => True) hE ?_ fun _ _ => trivial).bind fun missing _ => ?_
    · exact Fallible.raisesOnly_mapM fun entry _ => raisesOnly_failure _ _ _
    · have hkept : ∀ failure ∈ urlFailures, failure ∈ urlFailures ++ missing := fun failure hfailure =>
        List.mem_append_left _ hfailure
      cases himages : value.bundle.evidenceAssets.filter (isPending (invalidAssets urlFailures)) with
      | nil => exact yields_pure (enriches_self hkept)
      | cons image images =>
        cases adapter with
        | none =>
          refine (yields_lift_validation (P := fun _ => True) hE ?_ fun _ _ => trivial).bind fun failed _ => ?_
          · exact Fallible.raisesOnly_mapM fun asset _ => raisesOnly_failure _ _ _
          · exact yields_pure (enriches_self fun failure hfailure =>
              List.mem_append_left _ (hkept failure hfailure))
        | some adapter =>
          refine yields_perceiveWith hE hadapter (not_not.mp hnone) hkept ?_ _
          intro asset hasset
          have hpending := (List.mem_filter.mp (himages.symm ▸ hasset)).2
          simp only [isPending, Bool.and_eq_true, decide_eq_true_eq] at hpending
          exact hpending.1.2

end Enriches

end Handler

end FireviewerOrchestrator
