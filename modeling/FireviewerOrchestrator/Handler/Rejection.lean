/-
  What a rejected asset leaves behind: a reason code, and nothing spatial.

  The rejection is computed on the assets of the bundle (`mem_urlFailures`), the anchors and the evidence
  are filtered by it, perception may add anchors afterwards (`Enriches`), and the pipeline joins anchors
  and evidence by their ids.  `rejected_contribute_nothing` carries the rejection through all of these.

  The reason codes are lost where the response is the failed envelope: one accepted asset whose anchor
  cannot be proposed is enough (`code_untold`).
-/
import FireviewerOrchestrator.Handler.Lock
import Mathlib.Data.List.ReduceOption

set_option linter.unusedVariables false

namespace FireviewerOrchestrator

namespace Handler

open Guarded

/-! ## Which assets are rejected -/

/-- **The working URL of the asset is rejected**, for this reason. -/
def Rejects (vars : Variables) (asset : EvidenceAsset) (reason : Identifier) : Prop :=
  ∃ url ∈ asset.workingFileUrl, match WorkerSettings.fromEnvironment vars with
    | .error (.configurationError _) => reason = unconfigured
    | .error _ => False
    | .ok settings => reason = notAllowed ∧ ∃ parsed, Url.urlsplit vars.toUrllib url.toList = .ok parsed ∧
        isAllowedUrl vars.toUrllib (settings.allowedMediaHosts.map vars.toUrllib.lower) parsed = false

/-- The id is that of a rejected asset. -/
def IsRejected (vars : Variables) (request : EventPipelineInput) (assetId : String) : Prop :=
  ∃ asset ∈ request.bundle.evidenceAssets, asset.evidenceAssetId = assetId ∧ ∃ reason, Rejects vars asset reason

section Rejected

variable {d : Deployment} {request : EventPipelineInput} {settings : Option WorkerSettings}
  {urlFailures : List PerceptionFailure}

/-- The failure that is made of a working URL. -/
theorem checkWorkingUrl_eq_some {lib : Urllib} {hosts : List (List Char)} {asset : EvidenceAsset}
    {failure : PerceptionFailure} : checkWorkingUrl lib hosts asset = .ok (some failure) ↔
      failure = urlFailure notAllowed asset ∧ ∃ url ∈ asset.workingFileUrl, ∃ parsed,
        Url.urlsplit lib url.toList = .ok parsed ∧ isAllowedUrl lib hosts parsed = false := by
  unfold checkWorkingUrl
  cases hurl : asset.workingFileUrl with
  | none =>
    constructor
    · intro h
      cases h
    · rintro ⟨-, url, hmem, -⟩
      cases hmem
  | some url =>
    show (Url.urlsplit lib url.toList >>= _) = _ ↔ _
    rw [Fallible.bind_eq_ok]
    simp only [Fallible.pure_eq_ok, Option.mem_some_iff, exists_eq_left']
    constructor
    · rintro ⟨parsed, hparsed, hif⟩
      cases hallowed : isAllowedUrl lib hosts parsed with
      | true =>
        rw [hallowed] at hif
        cases hif
      | false =>
        rw [hallowed] at hif
        exact ⟨(Option.some.inj hif).symm, parsed, hparsed, hallowed⟩
    · rintro ⟨rfl, parsed, hparsed, hallowed⟩
      exact ⟨parsed, hparsed, by rw [hallowed]; rfl⟩

/-- The failures made of the working URLs are those of the assets it rejects. -/
theorem mem_validateEventWorkingUrls {lib : Urllib} {hosts : List (List Char)}
    (h : validateEventWorkingUrls lib request hosts = .ok urlFailures) {failure : PerceptionFailure} :
    failure ∈ urlFailures ↔ ∃ asset ∈ request.bundle.evidenceAssets,
      checkWorkingUrl lib (hosts.map lib.lower) asset = .ok (some failure) := by
  obtain ⟨outcomes, houtcomes, hpure⟩ := Fallible.bind_eq_ok.mp h
  obtain rfl := Fallible.pure_eq_ok.mp hpure
  rw [List.reduceOption_mem_iff]
  constructor
  · intro hmem
    exact Fallible.exists_of_mem_output houtcomes hmem
  · rintro ⟨asset, hasset, hfailure⟩
    obtain ⟨outcome, hmem, houtcome⟩ := Fallible.exists_of_mem_input houtcomes hasset
    rw [hfailure] at houtcome
    obtain rfl := Except.ok.inj houtcome
    exact hmem

/-- **The failures are the rejections**, whether or not an allowlist is configured. -/
theorem mem_urlFailures (h : checkedWorkingUrls d request = .ok (settings, urlFailures))
    {failure : PerceptionFailure} : failure ∈ urlFailures ↔
      ∃ asset ∈ request.bundle.evidenceAssets, ∃ reason, Rejects d.vars asset reason ∧
        failure = urlFailure reason asset := by
  unfold checkedWorkingUrls at h
  cases hhas : eventHasWorkingUrls request with
  | false =>
    rw [if_neg (by simp [hhas])] at h
    obtain ⟨-, rfl⟩ := Prod.mk.inj (Except.ok.inj h)
    constructor
    · exact fun hmem => absurd hmem List.not_mem_nil
    · rintro ⟨asset, hasset, reason, ⟨url, hurl, -⟩, -⟩
      -- the asset has a working URL after all
      have hany : eventHasWorkingUrls request = true :=
        List.any_eq_true.mpr ⟨asset, hasset, Option.isSome_iff_exists.mpr ⟨url, hurl⟩⟩
      rw [hhas] at hany
      cases hany
  | true =>
    rw [if_pos hhas] at h
    unfold Rejects
    cases hsettings : WorkerSettings.fromEnvironment d.vars with
    | ok found =>
      rw [hsettings] at h
      obtain ⟨failures, hfailures, hpure⟩ := Fallible.bind_eq_ok.mp h
      obtain ⟨-, rfl⟩ := Prod.mk.inj (Fallible.pure_eq_ok.mp hpure)
      have hvalidated : validateEventWorkingUrls d.vars.toUrllib request found.allowedMediaHosts = .ok failures := by
        cases hvalidated : validateEventWorkingUrls d.vars.toUrllib request found.allowedMediaHosts with
        | ok failures' =>
          rw [hvalidated] at hfailures
          exact congrArg Except.ok (Except.ok.inj hfailures)
        | error e =>
          rw [hvalidated] at hfailures
          cases hfailures
      rw [mem_validateEventWorkingUrls hvalidated]
      refine exists_congr fun asset => and_congr_right fun _ => ?_
      rw [checkWorkingUrl_eq_some]
      constructor
      · rintro ⟨rfl, url, hurl, hrejected⟩
        exact ⟨notAllowed, ⟨url, hurl, rfl, hrejected⟩, rfl⟩
      · rintro ⟨reason, ⟨url, hurl, rfl, hrejected⟩, rfl⟩
        exact ⟨rfl, url, hurl, hrejected⟩
    | error e =>
      rw [hsettings] at h
      cases e with
      | configurationError message =>
        obtain ⟨-, rfl⟩ := Prod.mk.inj (Except.ok.inj h)
        rw [List.mem_map]
        constructor
        · rintro ⟨asset, hasset, rfl⟩
          obtain ⟨hmem, hsome⟩ := List.mem_filter.mp hasset
          obtain ⟨url, hurl⟩ := Option.isSome_iff_exists.mp hsome
          exact ⟨asset, hmem, unconfigured, ⟨url, hurl, rfl⟩, rfl⟩
        · rintro ⟨asset, hasset, reason, ⟨url, hurl, rfl⟩, rfl⟩
          exact ⟨asset, List.mem_filter.mpr ⟨hasset, Option.isSome_iff_exists.mpr ⟨url, hurl⟩⟩, rfl⟩
      | researchServiceError code detail => cases h
      | py e => cases h

/-- Only the bundle is looked at, and only the variables. -/
theorem checkedWorkingUrls_congr {d' : Deployment} {request' : EventPipelineInput} (hvars : d.vars = d'.vars)
    (hbundle : request.bundle = request'.bundle) : checkedWorkingUrls d request = checkedWorkingUrls d' request' := by
  unfold checkedWorkingUrls eventHasWorkingUrls validateEventWorkingUrls
  rw [hvars, hbundle]

theorem mem_invalidAssets (h : checkedWorkingUrls d request = .ok (settings, urlFailures)) {assetId : String} :
    assetId ∈ invalidAssets urlFailures ↔ IsRejected d.vars request assetId := by
  rw [invalidAssets, List.mem_filterMap]
  constructor
  · rintro ⟨failure, hfailure, hid⟩
    obtain ⟨asset, hasset, reason, hrejects, rfl⟩ := (mem_urlFailures h).mp hfailure
    exact ⟨asset, hasset, Option.some.inj hid, reason, hrejects⟩
  · rintro ⟨asset, hasset, rfl, reason, hrejects⟩
    exact ⟨_, (mem_urlFailures h).mpr ⟨asset, hasset, reason, hrejects, rfl⟩, rfl⟩

end Rejected

/-! ## What the pipeline makes of what is left -/

/-- **Rejected assets contribute nothing spatial**, and their reason codes unless the response is the
    failed envelope, which has nothing spatial at all. -/
structure NothingOfRejected (vars : Variables) (request : EventPipelineInput) (out : EventPipelineOutput) :
    Prop where
  anchors_accepted : ∀ anchor ∈ out.perceptionAnchors, ¬ IsRejected vars request anchor.evidenceAssetId
  anchor_ids_unique : (out.perceptionAnchors.map PerceptionAnchor.anchorId).Nodup
  evidence_anchored : ∀ item ∈ out.spatialEvidence,
    item.anchorId ∈ out.perceptionAnchors.map PerceptionAnchor.anchorId
  attempts_anchored : ∀ attempt ∈ out.localizationAttempts, attempt.status = .localized ∨
    attempt.status = .sector → ∃ anchor ∈ out.perceptionAnchors, attempt.anchorId = some anchor.anchorId
  proposals_anchored : ∀ proposal ∈ out.eventProposals, ∃ attempt ∈ out.localizationAttempts,
    attempt.status = .localized ∧ EventPipeline.Promotes attempt proposal ∧
      ∃ anchor ∈ out.perceptionAnchors, attempt.anchorId = some anchor.anchorId
  /-- An attempt bears the id of a given anchor of a rejected asset only if perception gave that id to an
      anchor of its own, and then it is not localized. -/
  given_ids : ∀ anchor ∈ request.perceptionAnchors, IsRejected vars request anchor.evidenceAssetId →
    ∀ attempt ∈ out.localizationAttempts, attempt.anchorId = some anchor.anchorId →
      attempt.status ≠ .localized ∧
        ∀ other ∈ request.perceptionAnchors, IsRejected vars request other.evidenceAssetId
  codes_told : out.status ≠ .failed → ∀ asset ∈ request.bundle.evidenceAssets, ∀ reason,
    Rejects vars asset reason → (∃ attempt ∈ out.localizationAttempts, attempt.status = .abstained ∧
      reason.val ∈ attempt.reasonCodes) ∧ reason.val ∈ out.reasonCodes
  failed_empty : out.status = .failed → out.perceptionAnchors = [] ∧ out.spatialEvidence = [] ∧
    out.localizationAttempts = [] ∧ out.eventProposals = []

/-- The failed envelope is empty. -/
theorem nothingOfRejected_failedEvent (vars : Variables) (request : EventPipelineInput) (raw : JsonFields)
    (reasonCodes : List String) : NothingOfRejected vars request (failedEvent raw reasonCodes) where
  anchors_accepted _ h := absurd h List.not_mem_nil
  anchor_ids_unique := List.nodup_nil
  evidence_anchored _ h := absurd h List.not_mem_nil
  attempts_anchored _ h := absurd h List.not_mem_nil
  proposals_anchored _ h := absurd h List.not_mem_nil
  given_ids _ _ _ _ h := absurd h List.not_mem_nil
  codes_told hstatus := absurd rfl hstatus
  failed_empty _ := ⟨rfl, rfl, rfl, rfl⟩

section Outputs

variable {d : Deployment} {request value : EventPipelineInput} {settings : Option WorkerSettings}
  {urlFailures failures : List PerceptionFailure} {enriched : EventPipelineInput} {out : EventPipelineOutput}

/-- **The pipeline says nothing of rejected assets**: what it was given was filtered, and perception only
    added what is accepted. -/
theorem nothingOfRejected_run {sha256 : Sha256} (hurls : checkedWorkingUrls d request = .ok (settings, urlFailures))
    (hvalue : withoutRejected (invalidAssets urlFailures) request = .ok value)
    (henriches : Enriches value urlFailures (enriched, failures))
    (hrun : EventPipeline.run sha256 enriched failures = .ok out) : NothingOfRejected d.vars request out := by
  obtain ⟨value', hvalue', hbundle, hanchors, hevidence⟩ :=
    withoutRejected_eq_ok (invalidAssets urlFailures) request
  obtain rfl : value' = value := Except.ok.inj (hvalue'.symm.trans hvalue)
  obtain ⟨hinvented, -⟩ := EventPipeline.run_nothing_invented sha256 enriched failures
  have hinvented := hinvented out hrun
  obtain ⟨analyzed, hforall, hout⟩ := EventPipeline.accounts_of_run hrun
  have houtAnchors : out.perceptionAnchors = enriched.perceptionAnchors := by rw [hout]; rfl
  have houtEvidence : out.spatialEvidence = enriched.spatialEvidence := by rw [hout]; rfl
  have hinvalid : ∀ assetId, assetId ∈ invalidAssets urlFailures ↔ IsRejected d.vars request assetId :=
    fun _ => mem_invalidAssets hurls
  have hsafe : ∀ anchor ∈ value'.perceptionAnchors, anchor ∈ request.perceptionAnchors ∧
      anchor.evidenceAssetId ∉ invalidAssets urlFailures := by
    intro anchor hanchor
    rw [hanchors] at hanchor
    exact ⟨List.mem_of_mem_filter hanchor, of_decide_eq_true (List.mem_filter.mp hanchor).2⟩
  -- every attempt is about an anchor that is left, or about none
  have hattempts : ∀ attempt ∈ out.localizationAttempts, (∃ anchor ∈ enriched.perceptionAnchors,
      attempt.anchorId = some anchor.anchorId) ∨ attempt.anchorId = none ∧ attempt.status = .abstained := by
    intro attempt hattempt
    rw [hout] at hattempt
    rcases EventPipeline.mem_allAttempts hforall hattempt with ⟨anchor, hanchor, proposal, hdone⟩ | ⟨reason, hnone⟩
    · exact Or.inl ⟨anchor, hanchor, hdone.anchorId_eq⟩
    · exact Or.inr ⟨hnone.anchorId_none, hnone.abstained⟩
  constructor
  · intro anchor hanchor hrejected
    rw [houtAnchors] at hanchor
    have hmem := (hinvalid _).mpr hrejected
    rcases henriches.anchors_accepted anchor hanchor with hgiven | haccepted
    · exact (hsafe anchor hgiven).2 hmem
    · exact haccepted hmem
  · rw [houtAnchors]
    exact enriched.anchor_ids_unique
  · rw [houtAnchors, houtEvidence]
    exact enriched.evidence_of_anchors
  · intro attempt hattempt hstatus
    rw [houtAnchors]
    rcases hattempts attempt hattempt with hanchored | ⟨-, habstained⟩
    · exact hanchored
    · rw [habstained] at hstatus
      rcases hstatus with hstatus | hstatus <;> cases hstatus
  · intro proposal hproposal
    obtain ⟨attempt, hattempt, hpromotes⟩ :=
      Fallible.exists_of_forall₂_right hinvented.proposals_promote hproposal
    obtain ⟨hattempt, hpromotable⟩ := List.mem_filter.mp hattempt
    have hlocalized := of_decide_eq_true (Bool.and_eq_true_iff.mp hpromotable).1
    obtain ⟨anchor, hanchor, hid, -⟩ := hinvented.localized_carries attempt hattempt hlocalized
    exact ⟨attempt, hattempt, hlocalized, hpromotes, anchor, houtAnchors ▸ hanchor, hid⟩
  · intro anchor hanchor hrejected attempt hattempt hid
    -- an anchor that was kept has another id
    have hother : ∀ kept ∈ value'.perceptionAnchors, kept.anchorId ≠ anchor.anchorId := by
      intro kept hkept hsame
      obtain ⟨hgiven, haccepted⟩ := hsafe kept hkept
      obtain rfl := List.inj_on_of_nodup_map request.anchor_ids_unique hgiven hanchor hsame
      exact haccepted ((hinvalid _).mpr hrejected)
    constructor
    · intro hlocalized
      obtain ⟨localized, -, hid', spatial, hspatial, hspatialId, -⟩ :=
        hinvented.localized_carries attempt hattempt hlocalized
      have hsame : localized.anchorId = anchor.anchorId := Option.some.inj (hid'.symm.trans hid)
      rw [henriches.evidence_eq] at hspatial
      obtain ⟨kept, hkept, hkeptId⟩ := List.mem_map.mp (value'.evidence_of_anchors spatial hspatial)
      exact hother kept hkept (hkeptId.trans (hspatialId.trans hsame))
    · by_contra hnot
      push Not at hnot
      obtain ⟨other, hgiven, haccepted⟩ := hnot
      have hkept : other ∈ value'.perceptionAnchors := by
        rw [hanchors]
        exact List.mem_filter.mpr ⟨hgiven, decide_eq_true fun h => haccepted ((hinvalid _).mp h)⟩
      have hsame := henriches.anchors_kept (List.ne_nil_of_mem hkept)
      rcases hattempts attempt hattempt with ⟨left, hleft, hleftId⟩ | ⟨hnone, -⟩
      · rw [hsame] at hleft
        exact hother left hleft (Option.some.inj (hleftId.symm.trans hid))
      · rw [hnone] at hid
        cases hid
  · intro _ asset hasset reason hrejects
    have hfailure := (mem_urlFailures hurls).mpr ⟨asset, hasset, reason, hrejects, rfl⟩
    exact EventPipeline.failure_accounted hrun (henriches.failures_kept _ hfailure)
  · intro hfailed
    rw [hout] at hfailed
    have hnot : (if EventPipeline.hasReviewable _ _ then PipelineStatus.needsReview else .abstained) = .failed :=
      hfailed
    split at hnot <;> cases hnot

end Outputs

/-! ## The branch of the events -/

section Branch

variable {d : Deployment} {injected : Injected} {raw : JsonFields} {request : EventPipelineInput}

theorem yields_inJobScope {α : Type} {P : α → Prop} (factory : Factory) {c : Job α}
    (h : Yields anything (fun _ => True) P c) : Yields anything (fun _ => True) P (inJobScope factory c) := by
  unfold inJobScope
  split
  · exact yields_trivial.bind fun _ _ => h.finallyDo yields_trivial
  · exact h

/-- Perception enriches the request, with the lock or without it. -/
theorem yields_perceiveEvent (value : EventPipelineInput) (urlFailures : List PerceptionFailure)
    (factory : Option Factory) (adapter : Option PerceptionAdapter) :
    Yields anything (fun _ => True) (Enriches value urlFailures)
      (perceiveEvent d value urlFailures factory adapter) := by
  have hraises : AdapterRaises anything fun _ => True :=
    ⟨fun _ _ _ _ _ => Or.inr trivial, fun _ _ _ _ _ _ _ => Or.inr trivial, fun _ _ _ _ _ => Or.inr trivial⟩
  have hperception : ∀ adapter unavailable, Yields anything (fun _ => True) (Enriches value urlFailures)
      (runEventImagePerception d.host.sha256 value adapter urlFailures unavailable) :=
    fun adapter unavailable => yields_perception (fun _ _ => trivial) hraises adapter unavailable
  unfold perceiveEvent
  split
  · refine yields_tryAcquire fun got => ?_
    cases got with
    | false => exact hperception none _
    | true =>
      refine Yields.finallyDo ?_ yields_releaseLock
      cases factory with
      | none => exact yields_raise trivial
      | some factory => exact yields_inJobScope factory (hperception adapter _)
  · exact hperception adapter _

/-- Whatever an accepted event is answered with says nothing of its rejected assets. -/
theorem yields_analyseEvent (hrequest : d.validators.event raw = .ok request) :
    Yields anything (fun _ => True) (NothingOfRejected d.vars request) (analyseEvent d injected raw) := by
  have hread : Yields anything (fun _ => True) (· = request) (lift (d.validators.event raw)) := by
    rw [hrequest]
    exact yields_done rfl
  refine hread.bind ?_
  rintro request rfl
  cases hurls : checkedWorkingUrls d request with
  | error e => exact yields_raise trivial
  | ok checked =>
    refine Yields.bind (yields_done (P := (· = checked)) rfl) ?_
    rintro checked rfl
    refine Yields.bind (yields_lift (P := fun value => withoutRejected _ request = .ok value)
      (fun value hvalue => hvalue) fun _ _ => trivial) fun value hvalue => ?_
    refine yields_trivial.bind fun factory _ => yields_trivial.bind fun adapter _ => ?_
    refine (yields_perceiveEvent value checked.2 factory adapter).bind fun perceived henriches => ?_
    exact yields_lift (fun out hrun => nothingOfRejected_run hurls hvalue henriches hrun) fun _ _ => trivial

/-- **Rejected assets contribute nothing spatial**, whichever assets of an event are rejected, whatever it
    brings for them, and whatever the models answer. -/
theorem rejected_contribute_nothing {job : JsonFields} {response : Response}
    (hinput : getField "input" job = .obj raw) (hschema : requestedSchema raw = some "event-2.0")
    (hrequest : d.validators.event raw = .ok request)
    (hends : Ends anything (handleJob d injected job) (.ok response)) :
    ∃ out, response = .event out ∧ NothingOfRejected d.vars request out := by
  have hbranch : branchOf d raw = .event := by
    unfold branchOf
    rw [hschema, if_neg (by simp), if_pos rfl]
  have hhandle : handleJob d injected job = handleEvent d injected raw := by
    unfold handleJob handleInput
    rw [hinput]
    dsimp only
    rw [hbranch]
  rw [hhandle] at hends
  cases henabled : eventPipelineEnabled d with
  | false =>
    unfold handleEvent at hends
    rw [if_neg (by simp [henabled])] at hends
    obtain rfl : .event (failedEvent raw ["event_pipeline_disabled"]) = response := Except.ok.inj hends
    exact ⟨_, rfl, nothingOfRejected_failedEvent _ _ _ _⟩
  | true =>
    rw [handleEvent_eq d injected raw henabled] at hends
    obtain ⟨r, hr, hresult⟩ := ends_andThen.mp hends
    have hsaid := yields_analyseEvent hrequest r hr
    have hresult : eventResult d raw r = .ok response := hresult
    cases r with
    | ok out => exact ⟨out, (Except.ok.inj hresult).symm, hsaid⟩
    | error e =>
      unfold eventResult at hresult
      split at hresult
      · rename_i hok
        cases hok
      · exact ⟨_, (Except.ok.inj hresult).symm, nothingOfRejected_failedEvent _ _ _ _⟩
      · cases hresult

end Branch

/-! ## A fire at a line, next to an asset of another host -/

/-- An event with anchors of its own, and no image to look at, is answered with the pipeline's result. -/
theorem handleEvent_supplied {d : Deployment} {raw : JsonFields} {request value : EventPipelineInput}
    {settings : Option WorkerSettings} {urlFailures : List PerceptionFailure}
    (henabled : eventPipelineEnabled d = true) (hrequest : d.validators.event raw = .ok request)
    (hurls : checkedWorkingUrls d request = .ok (settings, urlFailures))
    (hvalue : withoutRejected (invalidAssets urlFailures) request = .ok value)
    (hrequires : eventRequiresImageInference value urlFailures = false)
    (hanchors : value.perceptionAnchors ≠ []) : handleEvent d {} raw
      = .done (eventResult d raw ((EventPipeline.run d.host.sha256 value urlFailures).mapError .py)) := by
  have hfactory : eventFactory d {} false settings = pure none := by
    cases settings with
    | none => rfl
    | some settings => rfl
  have hperception : runEventImagePerception d.host.sha256 value none urlFailures modelUnavailable
      = pure (value, urlFailures) := if_pos hanchors
  have hperceive : perceiveEvent d value urlFailures none none = pure (value, urlFailures) := by
    unfold perceiveEvent
    rw [hrequires, if_neg (by decide)]
    exact hperception
  rw [handleEvent_eq d {} raw henabled, analyseEvent_eq hrequest hurls hvalue]
  unfold locateEvent
  rw [hrequires, hfactory]
  show ((perceiveEvent d value urlFailures none none).andThen _).andThen _ = _
  rw [hperceive]
  rfl

namespace Sample

/-- Two images, the second of which is at a host that is not allowed, and an anchor of each.  The first
    anchor is at a line. -/
def mixed (phenomenon : PhenomenonKind) (hphenomenon : phenomenon ∈ anchorPhenomena) : EventPipelineInput where
  bundle :=
    { EventPipeline.Sample.bundle with
      evidenceAssets :=
        [EventPipeline.Sample.photo,
          { evidenceAssetId := "asset-2", kind := .image, workingFileUrl := some "https://other.example/2.jpg" }]
      assets_unique := by decide
      assets_bounded := by decide }
  perceptionAnchors :=
    [EventPipeline.Sample.anchor phenomenon hphenomenon,
      { EventPipeline.Sample.anchor phenomenon hphenomenon with
        anchorId := "anchor-2"
        evidenceAssetId := "asset-2"
        anchor_id_safe := by decide
        asset_id_safe := by decide }]
  spatialEvidence := [EventPipeline.Sample.ridgeEvidence]
  assets_known := by
    intro anchor hanchor
    rcases List.mem_cons.mp hanchor with rfl | hanchor
    · exact .head _
    · obtain rfl := List.mem_singleton.mp hanchor
      exact .tail _ (.head _)
  anchor_ids_unique := by
    show ["anchor-1", "anchor-2"].Nodup
    decide
  evidence_unique := List.nodup_singleton _
  evidence_of_anchors := by
    intro item hitem
    obtain rfl := List.mem_singleton.mp hitem
    exact .head _

def mixedJob : JsonFields := input [("schema_version", .str "event-2.0")]

end Sample

/-- The job of either phenomenon is the pipeline's run on the first anchor. -/
theorem handleJob_mixed (phenomenon : PhenomenonKind) (hphenomenon : phenomenon ∈ anchorPhenomena) :
    ∃ settings urlFailures value,
      checkedWorkingUrls (Sample.deployment Sample.enabled (Sample.mixed phenomenon hphenomenon))
        (Sample.mixed phenomenon hphenomenon) = .ok (settings, urlFailures) ∧
      invalidAssets urlFailures = ["asset-2"] ∧
      value.perceptionAnchors = [EventPipeline.Sample.anchor phenomenon hphenomenon] ∧
      value.spatialEvidence = [EventPipeline.Sample.ridgeEvidence] ∧
      handleJob (Sample.deployment Sample.enabled (Sample.mixed phenomenon hphenomenon)) {} Sample.mixedJob
        = .done (eventResult (Sample.deployment Sample.enabled (Sample.mixed phenomenon hphenomenon))
          [("schema_version", .str "event-2.0")]
          ((EventPipeline.run Sample.digests value urlFailures).mapError .py)) := by
  have hchecked : returns (checkedWorkingUrls
      (Sample.deployment Sample.enabled (Sample.mixed phenomenon hphenomenon))
      (Sample.mixed phenomenon hphenomenon)) (fun checked => invalidAssets checked.2 = ["asset-2"]) = true := by
    have hsame : checkedWorkingUrls (Sample.deployment Sample.enabled (Sample.mixed phenomenon hphenomenon))
        (Sample.mixed phenomenon hphenomenon)
        = checkedWorkingUrls (Sample.deployment Sample.enabled (Sample.mixed .activeFirePoint (by decide)))
          (Sample.mixed .activeFirePoint (by decide)) := checkedWorkingUrls_congr rfl rfl
    rw [hsame]
    decide
  obtain ⟨⟨settings, urlFailures⟩, hurls, hinvalid⟩ := exists_returned hchecked
  have hinvalid := of_decide_eq_true hinvalid
  obtain ⟨value, hvalue, hbundle, hanchors, hevidence⟩ :=
    withoutRejected_eq_ok (invalidAssets urlFailures) (Sample.mixed phenomenon hphenomenon)
  rw [hinvalid] at hanchors hevidence
  have hrequires : eventRequiresImageInference value urlFailures = false := by
    unfold eventRequiresImageInference
    rw [hbundle, hinvalid]
    rfl
  have henabled : eventPipelineEnabled (Sample.deployment Sample.enabled (Sample.mixed .activeFirePoint (by decide)))
      = true := by decide
  refine ⟨settings, urlFailures, value, hurls, hinvalid, hanchors, hevidence, ?_⟩
  exact handleEvent_supplied henabled rfl hurls hvalue hrequires (by rw [hanchors]; exact List.cons_ne_nil _ _)

/-- A front along the ridge is localized, and the other asset leaves its reason code. -/
theorem rejected_contribute_nothing_mixed : ∃ out,
    Ends anything (handleJob (Sample.deployment Sample.enabled (Sample.mixed .visibleFireFront (by decide))) {}
      Sample.mixedJob) (.ok (.event out)) ∧ out.status = .needsReview ∧
    NothingOfRejected (Sample.environment Sample.enabled) (Sample.mixed .visibleFireFront (by decide)) out := by
  obtain ⟨settings, urlFailures, value, hurls, hinvalid, hanchors, hevidence, hjob⟩ :=
    handleJob_mixed .visibleFireFront (by decide)
  have hpoints : EventPipeline.PointsWhereLocalized value := by
    intro anchor hanchor hphenomenon
    rw [hanchors] at hanchor
    obtain rfl := List.mem_singleton.mp hanchor
    exact absurd rfl hphenomenon
  obtain ⟨hinvented, hreturns⟩ := EventPipeline.run_nothing_invented Sample.digests value urlFailures
  obtain ⟨out, hout⟩ := hreturns hpoints
  rw [hout] at hjob
  have hends : Ends anything (handleJob
      (Sample.deployment Sample.enabled (Sample.mixed .visibleFireFront (by decide))) {} Sample.mixedJob)
      (.ok (.event out)) := by
    rw [hjob]
    rfl
  have hfirst : EventPipeline.Sample.anchor .visibleFireFront (by decide) ∈ value.perceptionAnchors := by
    rw [hanchors]
    exact .head _
  have hitem : EventPipeline.Sample.ridgeEvidence ∈ value.spatialEvidence := by
    rw [hevidence]
    exact .head _
  have hlocalized := ((hinvented out hout).localized_iff _ hfirst).mpr
    ⟨EventPipeline.Sample.ridgeEvidence, hitem, rfl, EventPipeline.ridgeEvidence_localizes⟩
  obtain ⟨attempt, hattempt, -, hstatus⟩ := hlocalized
  have hreview := (hinvented out hout).needsReview_iff.mpr ⟨attempt, hattempt, Or.inl hstatus⟩
  obtain ⟨out', heq, hnothing⟩ := rejected_contribute_nothing (d := Sample.deployment Sample.enabled
    (Sample.mixed .visibleFireFront (by decide))) rfl rfl rfl hends
  obtain rfl := Response.event.inj heq
  exact ⟨out, hends, hreview, hnothing⟩

/-- **A reason code can go untold.**  A fire at a point whose source gave a line leaves the whole event
    without a result, and the other asset without its reason code. -/
theorem code_untold : ¬ ∀ (d : Deployment) (job raw : JsonFields) (request : EventPipelineInput)
    (response : Response), getField "input" job = .obj raw → requestedSchema raw = some "event-2.0" →
    d.validators.event raw = .ok request → Ends anything (handleJob d {} job) (.ok response) →
    ∃ out, response = .event out ∧ ∀ asset ∈ request.bundle.evidenceAssets, ∀ reason,
      Rejects d.vars asset reason → reason.val ∈ out.reasonCodes := by
  intro h
  obtain ⟨settings, urlFailures, value, hurls, hinvalid, hanchors, hevidence, hjob⟩ :=
    handleJob_mixed .activeFirePoint (by decide)
  -- the pipeline raises
  have hraises : ∀ out, EventPipeline.run Sample.digests value urlFailures ≠ .ok out := by
    intro out hout
    have hfirst : EventPipeline.Sample.anchor .activeFirePoint (by decide) ∈ value.perceptionAnchors := by
      rw [hanchors]
      exact .head _
    have hitem : EventPipeline.Sample.ridgeEvidence ∈ value.spatialEvidence := by
      rw [hevidence]
      exact .head _
    have hpoint := EventPipeline.exists_run_iff.mp ⟨out, hout⟩ _ hfirst (by decide)
      EventPipeline.Sample.ridgeEvidence hitem rfl EventPipeline.ridgeEvidence_localizes
      EventPipeline.Sample.ridge rfl
    exact absurd hpoint (by decide)
  cases hrun : EventPipeline.run Sample.digests value urlFailures with
  | ok out => exact hraises out hrun
  | error e =>
    obtain ⟨model, message, rfl⟩ := EventPipeline.raisesOnly_run e hrun
    rw [hrun] at hjob
    obtain ⟨out, heq, htold⟩ := h _ Sample.mixedJob _ (Sample.mixed .activeFirePoint (by decide)) _ rfl rfl rfl
      (by rw [hjob]; rfl)
    obtain rfl := Response.event.inj heq
    -- the second asset is rejected, and the envelope only says that the input is invalid
    obtain ⟨asset, hasset, -, reason, hrejects⟩ :=
      (mem_invalidAssets hurls).mp (hinvalid ▸ List.mem_singleton.mpr rfl : "asset-2" ∈ invalidAssets urlFailures)
    have hreason : reason.val = "event_input_invalid" := List.mem_singleton.mp (htold asset hasset reason hrejects)
    obtain ⟨url, -, hwhy⟩ := hrejects
    have hcodes : reason = unconfigured ∨ reason = notAllowed := by
      split at hwhy
      · exact Or.inl hwhy
      · exact hwhy.elim
      · exact Or.inr hwhy.1
    rcases hcodes with rfl | rfl
    · exact absurd hreason (by decide)
    · exact absurd hreason (by decide)

end Handler

end FireviewerOrchestrator
