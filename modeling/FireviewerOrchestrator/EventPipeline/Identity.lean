/-
  The identifiers of attempts and proposals.

  An attempt is named after what it is about: an anchor, a failure of perception, or nothing at all.
  The three kinds have different numbers of parts, or stand alone, so they never share a name.  Two
  failures do: one without an asset puts its reason code where another has an asset, and an asset may
  be called like a reason code (`attempt_ids_unique_iff`).
-/
import FireviewerOrchestrator.EventPipeline.Run

set_option linter.unusedVariables false

namespace FireviewerOrchestrator

namespace EventPipeline

/-! ## What is hashed -/

section Parts

variable (value : EventPipelineInput)

def anchorParts (anchor : PerceptionAnchor) : List String := [value.bundle.candidateId, anchor.anchorId]

def failureParts (failure : PerceptionFailure) : List String :=
  [value.bundle.candidateId, "perception-failure", failure.evidenceAssetId.getD failure.reasonCode,
    failure.reasonCode]

/-- The parts of the identifiers of all attempts of a run, in order. -/
def attemptParts (failures : List PerceptionFailure) : List (List String) :=
  if value.perceptionAnchors = [] ∧ failures = [] then [[value.bundle.candidateId, "no-anchor"]]
  else value.perceptionAnchors.map (anchorParts value) ++ failures.map (failureParts value)

end Parts

section Identity

variable {sha256 : Sha256} {value : EventPipelineInput} {failures : List PerceptionFailure}
  {out : EventPipelineOutput}

/-- No part contains the separator. -/
theorem plain_attemptParts : ∀ parts ∈ attemptParts value failures, PlainParts parts := by
  have hcandidate : Separated.Free '\x1f' value.bundle.candidateId :=
    free_of_isSafeIdentifier value.bundle.candidate_id_safe
  intro parts hparts
  unfold attemptParts at hparts
  split at hparts
  · obtain rfl := List.mem_singleton.mp hparts
    refine ⟨List.cons_ne_nil _ _, ?_⟩
    rw [List.forall_mem_cons, List.forall_mem_singleton]
    exact ⟨hcandidate, by decide⟩
  · rcases List.mem_append.mp hparts with hparts | hparts
    · obtain ⟨anchor, -, rfl⟩ := List.mem_map.mp hparts
      refine ⟨List.cons_ne_nil _ _, ?_⟩
      rw [anchorParts, List.forall_mem_cons, List.forall_mem_singleton]
      exact ⟨hcandidate, free_of_isSafeIdentifier anchor.anchor_id_safe⟩
    · obtain ⟨failure, -, rfl⟩ := List.mem_map.mp hparts
      have hsuffix : Separated.Free '\x1f' (failure.evidenceAssetId.getD failure.reasonCode) := by
        cases hasset : failure.evidenceAssetId with
        | none => exact free_of_isSafeIdentifier failure.reason_safe
        | some asset => exact free_of_isSafeIdentifier (failure.asset_safe asset hasset)
      refine ⟨List.cons_ne_nil _ _, ?_⟩
      rw [failureParts, List.forall_mem_cons, List.forall_mem_cons, List.forall_mem_cons,
        List.forall_mem_singleton]
      exact ⟨hcandidate, by decide, hsuffix, free_of_isSafeIdentifier failure.reason_safe⟩

/-- The attempts are named after the parts. -/
theorem attemptIds_of_run (h : run sha256 value failures = .ok out) :
    out.localizationAttempts.map LocalizationAttempt.attemptId
      = (attemptParts value failures).map (stableId sha256 "LOC") := by
  obtain ⟨analyzed, hforall, rfl⟩ := accounts_of_run h
  have hanchors : (analyzed.map Prod.fst).map LocalizationAttempt.attemptId
      = value.perceptionAnchors.map (attemptId sha256 value) := by
    have heq : List.Forall₂ (fun anchor id => attemptId sha256 value anchor = id) value.perceptionAnchors
        ((analyzed.map Prod.fst).map LocalizationAttempt.attemptId) := by
      rw [List.forall₂_map_right_iff, List.forall₂_map_right_iff]
      exact hforall.imp fun _ _ hdone => hdone.attemptId_eq.symm
    rw [← List.forall₂_map_left_iff (f := attemptId sha256 value), List.forall₂_eq_eq_eq] at heq
    exact heq.symm
  show (allAttempts sha256 value failures (analyzed.map Prod.fst)).map _ = _
  unfold allAttempts attemptParts
  split
  · rfl
  · rw [List.map_append, List.map_append, hanchors, List.map_map, List.map_map, List.map_map]
    rfl

/-- A proposal is named after its anchor. -/
theorem proposalId_of_analyzeAnchor {anchor : PerceptionAnchor} {attempt : LocalizationAttempt}
    {proposal : Option FireActivityProposal}
    (h : analyzeAnchor sha256 value anchor = .ok (attempt, proposal)) :
    ∀ p ∈ proposal, p.proposalId = stableId sha256 "EVP" (anchorParts value anchor) := by
  rcases analyzeAnchor_cases sha256 value anchor with ⟨spatial, geometry, accuracy, -, -, -, -, heq⟩ |
    ⟨-, bare, -, heq⟩
  · rw [heq] at h
    obtain ⟨built, -, h⟩ := Fallible.bind_eq_ok.mp h
    split at h
    · obtain ⟨-, rfl⟩ := Prod.mk.inj (Fallible.pure_eq_ok.mp h)
      rintro p ⟨⟩
    · obtain ⟨proposal, hproposal, h⟩ := Fallible.bind_eq_ok.mp h
      obtain rfl := FireActivityProposal.build_eq hproposal
      obtain ⟨-, rfl⟩ := Prod.mk.inj (Fallible.pure_eq_ok.mp h)
      rintro p ⟨⟩
      rfl
  · rw [heq] at h
    obtain ⟨-, rfl⟩ := Prod.mk.inj (Except.ok.inj h)
    rintro p ⟨⟩

/-- The identifiers of the proposals are among those of the anchors, in order. -/
theorem proposalIds_of_run (h : run sha256 value failures = .ok out) :
    (out.eventProposals.map FireActivityProposal.proposalId).Sublist
      ((value.perceptionAnchors.map (anchorParts value)).map (stableId sha256 "EVP")) := by
  obtain ⟨analyzed, hforall, rfl⟩ := run_eq_ok.mp h
  show ((analyzed.filterMap Prod.snd).map _).Sublist _
  clear h
  generalize value.perceptionAnchors = anchors at hforall
  induction hforall with
  | nil => exact List.Sublist.slnil
  | @cons anchor result anchors analyzed hresult _ ih =>
    obtain ⟨attempt, proposal⟩ := result
    cases proposal with
    | none => exact ih.cons _
    | some p =>
      have hid := proposalId_of_analyzeAnchor hresult p rfl
      show (p.proposalId :: (analyzed.filterMap Prod.snd).map FireActivityProposal.proposalId).Sublist _
      rw [hid]
      exact ih.cons_cons _

/-! ## When they repeat -/

/-- No failure without an asset has the reason code of a failure whose asset is called like it. -/
def SuffixesApart (failures : List PerceptionFailure) : Prop :=
  ∀ f ∈ failures, ∀ g ∈ failures, f.evidenceAssetId = none → g.reasonCode = f.reasonCode →
    g.evidenceAssetId ≠ some f.reasonCode

theorem anchorParts_nodup : (value.perceptionAnchors.map (anchorParts value)).Nodup := by
  have hids := value.anchor_ids_unique
  rw [List.nodup_map_iff_inj_on hids.of_map]
  intro anchor hanchor anchor' hanchor' heq
  have hid : anchor.anchorId = anchor'.anchorId := by simpa [anchorParts] using heq
  exact List.inj_on_of_nodup_map hids hanchor hanchor' hid

/-- What an absent asset is replaced by is all that can make two failures alike. -/
theorem failureParts_nodup_iff
    (hpairs : (failures.map fun f => (f.evidenceAssetId, f.reasonCode)).Nodup) :
    (failures.map (failureParts value)).Nodup ↔ SuffixesApart failures := by
  have hparts : ∀ f g : PerceptionFailure, failureParts value f = failureParts value g ↔
      f.evidenceAssetId.getD f.reasonCode = g.evidenceAssetId.getD g.reasonCode ∧
        f.reasonCode = g.reasonCode := by
    intro f g
    simp [failureParts]
  rw [List.nodup_map_iff_inj_on hpairs.of_map]
  constructor
  · intro hinj f hf g hg hnone hcode hsome
    have hsame : f = g := by
      refine hinj f hf g hg ((hparts f g).mpr ⟨?_, hcode.symm⟩)
      rw [hnone, hsome]
      rfl
    rw [← hsame, hnone] at hsome
    cases hsome
  · intro hapart f hf g hg heq
    obtain ⟨hsuffix, hcode⟩ := (hparts f g).mp heq
    have hasset : f.evidenceAssetId = g.evidenceAssetId := by
      cases hf' : f.evidenceAssetId with
      | none =>
        cases hg' : g.evidenceAssetId with
        | none => rfl
        | some asset =>
          rw [hf', hg'] at hsuffix
          exact absurd (hg'.trans (congrArg some hsuffix.symm)) (hapart f hf g hg hf' hcode.symm)
      | some asset =>
        cases hg' : g.evidenceAssetId with
        | none =>
          rw [hf', hg'] at hsuffix
          exact absurd (hf'.trans (congrArg some hsuffix)) (hapart g hg f hf hg' hcode)
        | some asset' =>
          rw [hf', hg'] at hsuffix
          exact congrArg some hsuffix
    exact List.inj_on_of_nodup_map hpairs hf hg (Prod.ext hasset hcode)

theorem attemptParts_nodup_iff
    (hpairs : (failures.map fun f => (f.evidenceAssetId, f.reasonCode)).Nodup) :
    (attemptParts value failures).Nodup ↔ SuffixesApart failures := by
  unfold attemptParts
  split
  · rename_i hnone
    rw [hnone.2]
    exact iff_of_true (List.nodup_singleton _) fun f hf => absurd hf List.not_mem_nil
  · have hparts : (failures.map (failureParts value)).Nodup ↔ SuffixesApart failures :=
      failureParts_nodup_iff hpairs
    rw [← hparts, List.nodup_append]
    constructor
    · exact fun h => h.2.1
    · intro hfailures
      refine ⟨anchorParts_nodup, hfailures, ?_⟩
      intro parts hparts parts' hparts' heq
      obtain ⟨anchor, -, rfl⟩ := List.mem_map.mp hparts
      obtain ⟨failure, -, rfl⟩ := List.mem_map.mp hparts'
      simp [anchorParts, failureParts] at heq

/-- **When the identifiers are unique.**  They repeat exactly where a failure without an asset meets one
    whose asset is called like their common reason code. -/
theorem attempt_ids_unique_iff (h : run sha256 value failures = .ok out)
    (hpairs : (failures.map fun f => (f.evidenceAssetId, f.reasonCode)).Nodup)
    (hdist : sha256.Distinguishes ((attemptParts value failures).map joinedParts)) :
    ((out.localizationAttempts.map LocalizationAttempt.attemptId).Nodup ∧
      (out.eventProposals.map FireActivityProposal.proposalId).Nodup) ↔ SuffixesApart failures := by
  have hattempts : (out.localizationAttempts.map LocalizationAttempt.attemptId).Nodup ↔
      SuffixesApart failures := by
    rw [attemptIds_of_run h, stableId_nodup_iff hdist plain_attemptParts, attemptParts_nodup_iff hpairs]
  have hproposals : (out.eventProposals.map FireActivityProposal.proposalId).Nodup := by
    refine (proposalIds_of_run h).nodup ?_
    by_cases hnone : value.perceptionAnchors = [] ∧ failures = []
    · rw [hnone.1]
      exact List.nodup_nil
    · have hanchors : ∀ parts ∈ value.perceptionAnchors.map (anchorParts value),
          parts ∈ attemptParts value failures := by
        intro parts hparts
        unfold attemptParts
        rw [if_neg hnone]
        exact List.mem_append_left _ hparts
      refine (stableId_nodup_iff (hdist.mono fun text htext => ?_)
        fun parts hparts => plain_attemptParts parts (hanchors parts hparts)).mpr anchorParts_nodup
      obtain ⟨parts, hparts, rfl⟩ := List.mem_map.mp htext
      exact List.mem_map_of_mem (hanchors parts hparts)
  rw [hattempts]
  exact and_iff_left hproposals

end Identity

/-! ### Two failures with one reason -/

namespace Sample

/-- A failure without an asset, and one of the asset. -/
def timeouts (asset : String) (hasset : isSafeIdentifier asset = true) : List PerceptionFailure :=
  [{ reasonCode := "timeout", model_named := PerceptionFailure.unnamed },
    { evidenceAssetId := some asset, reasonCode := "timeout", model_named := PerceptionFailure.unnamed
      asset_safe := by rintro id ⟨⟩; exact hasset }]

def failureDigests : Sha256 := .ofDigests
  [("candidate-1\x1fanchor-1",
      "22c04ff1f7393e2eaf1074028bc7923402155b03d08fecb3166ceb2c4e2151d8"),
    ("candidate-1\x1fperception-failure\x1ftimeout\x1ftimeout",
      "62260151bbde96a0060e261197fe467fd1ed8281c7baba73a477db1b929a4d31"),
    ("candidate-1\x1fperception-failure\x1fasset-1\x1ftimeout",
      "d714ed3fad8db2d10c7d48d36cf5eb501ffcd0fc296b00c00b7fab7841230a5a")]
  "e3b0c44298fc1c149afbf4c8996fb92427ae41e4649b934ca495991b7852b855" (by decide +kernel)

end Sample

/-- A front along the ridge, and two failures of which one has its own asset. -/
theorem attempt_ids_unique_iff_ridgeFront :
    ∃ out, run Sample.failureDigests (Sample.ridgeRequest .visibleFireFront (by decide))
        (Sample.timeouts "asset-1" (by decide +kernel)) = .ok out ∧
      (((out.localizationAttempts.map LocalizationAttempt.attemptId).Nodup ∧
        (out.eventProposals.map FireActivityProposal.proposalId).Nodup) ↔
          SuffixesApart (Sample.timeouts "asset-1" (by decide +kernel))) := by
  have hpoints : PointsWhereLocalized (Sample.ridgeRequest .visibleFireFront (by decide)) := by
    intro anchor hanchor hphenomenon
    obtain rfl := List.mem_singleton.mp hanchor
    exact absurd rfl hphenomenon
  obtain ⟨out, hout⟩ := exists_run_iff.mpr hpoints
  exact ⟨out, hout, attempt_ids_unique_iff hout (by decide) (by decide)⟩

/-- **Two attempts with one identifier**: a failure without an asset, and one whose asset is called
    `timeout` like the reason of both. -/
theorem failure_ids_repeat :
    ∃ out, run Sample.failureDigests { bundle := Sample.bundle }
        (Sample.timeouts "timeout" (by decide +kernel)) = .ok out ∧
      ((Sample.timeouts "timeout" (by decide +kernel)).map fun f => (f.evidenceAssetId, f.reasonCode)).Nodup ∧
      Sample.failureDigests.Distinguishes ((attemptParts { bundle := Sample.bundle }
        (Sample.timeouts "timeout" (by decide +kernel))).map joinedParts) ∧
      ¬ (out.localizationAttempts.map LocalizationAttempt.attemptId).Nodup := by
  have hrun : ∃ out, run Sample.failureDigests { bundle := Sample.bundle }
      (Sample.timeouts "timeout" (by decide)) = .ok out := exists_run_of_no_anchors rfl
  obtain ⟨out, hout⟩ := hrun
  refine ⟨out, hout, by decide, by decide, ?_⟩
  rw [attemptIds_of_run hout]
  decide

end EventPipeline

end FireviewerOrchestrator
