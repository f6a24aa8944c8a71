/-
  `EventVisionRunner.run`: one detector over the photos and keyframes of an event's evidence.

  A run replaces what an earlier run has left: the detections of its own kind, and the uncertainties about
  inference.  The loop appends to four accumulators.  Its closed form (`foldl_visit`) says what each of
  them holds at the end, and all else is read off it: that no medium is passed over in silence, that a
  second run changes nothing, and when the contract refuses the result.
-/
import FireviewerOrchestrator.Contracts.Configuration
import FireviewerOrchestrator.Contracts.EventEvidence
import FireviewerOrchestrator.Contracts.Identifiers
import FireviewerOrchestrator.Library.Ranking

set_option linter.unusedVariables false

namespace FireviewerOrchestrator

namespace EventVision

open EventEvidence Fallible Ranking

/-! ## Detections -/

inductive DetectionClass where
  | fire | smoke
  deriving DecidableEq, Repr

structure Detection where
  detectionId : String
  detectionClass : DetectionClass
  bbox : ℚ × ℚ × ℚ × ℚ
  score : ℚ
  prompt : String
  deriving DecidableEq

inductive DetectionStatus where
  | fire | smoke | fireAndSmoke | none | uncertain
  deriving DecidableEq, Repr

/-- `DetectionResultV1`, without the account of its provider's run. -/
structure DetectionResult where
  mediaId : String
  detections : List Detection := []
  status : DetectionStatus
  needsHumanReview : Bool := false
  deriving DecidableEq

/-- `max((item.score for item in result.detections), default=None)`. -/
def DetectionResult.confidence (result : DetectionResult) : Option ℚ :=
  (result.detections.map Detection.score).max?

structure VisionArtifact where
  resultReference : String
  result : DetectionResult
  deriving DecidableEq

/-- `ProviderDescriptor`.  `config` is its canonical JSON. -/
structure ProviderDescriptor where
  providerId : String
  providerVersion : String
  modelId : Option String := none
  modelVersion : Option String := none
  config : String
  deriving DecidableEq

def backslash : Char := Char.ofNat 92

/-- The escape of a code unit in four hexadecimal digits. -/
def unicodeEscape (n : Nat) : List Char :=
  [backslash, 'u', Nat.digitChar (n / 4096 % 16), Nat.digitChar (n / 256 % 16), Nat.digitChar (n / 16 % 16),
    Nat.digitChar (n % 16)]

/-- One character in `json.dumps`: ASCII only, above the basic plane as two surrogates. -/
def escapedChar (c : Char) : List Char :=
  if c.toNat = 34 ∨ c.toNat = 92 then [backslash, c]
  else if c.toNat = 10 then [backslash, 'n']
  else if c.toNat = 13 then [backslash, 'r']
  else if c.toNat = 9 then [backslash, 't']
  else if c.toNat = 12 then [backslash, 'f']
  else if c.toNat = 8 then [backslash, 'b']
  else if 32 ≤ c.toNat ∧ c.toNat < 127 then [c]
  else if c.toNat < 0x10000 then unicodeEscape c.toNat
  else unicodeEscape (0xd800 + (c.toNat - 0x10000) / 1024) ++ unicodeEscape (0xdc00 + (c.toNat - 0x10000) % 1024)

/-- `json.dumps` of a text. -/
def quoted (text : String) : String := "\"" ++ String.ofList (text.toList.flatMap escapedChar) ++ "\""

/-- `json.dumps` of a text that may be absent. -/
def quotedOrNull : Option String → String
  | none => "null"
  | some text => quoted text

/-- The text that `vision_result_reference` hashes: the keys sorted, no blanks. -/
def referenceText (descriptor : ProviderDescriptor) (mediaId inputHash : String) : String :=
  "\x7b\"config\":" ++ descriptor.config ++ ",\"input_hash\":" ++ quoted inputHash ++ ",\"media_id\":"
    ++ quoted mediaId ++ ",\"model_id\":" ++ quotedOrNull descriptor.modelId ++ ",\"model_version\":"
    ++ quotedOrNull descriptor.modelVersion ++ ",\"provider_id\":" ++ quoted descriptor.providerId
    ++ ",\"provider_version\":" ++ quoted descriptor.providerVersion ++ "\x7d"

/-- `vision_result_reference`. -/
def visionResultReference (sha256 : Sha256) (descriptor : ProviderDescriptor) (mediaId inputHash : String) :
    String :=
  "GDN-" ++ sha256.shortDigest (referenceText descriptor mediaId inputHash)

/-! ## The run -/

/-- `EventVisionConfig`. -/
structure EventVisionConfig where
  eligibleKinds : List EvidenceMediaKind := [.photo, .keyframe]
  maxMedia : Nat := 256

/-- What came of one medium: its detections, or the exception of the detector. -/
abbrev Visit := EvidenceMedia × Except PyExc DetectionResult

@[ext] structure Accumulators where
  observations : List VisualObservation
  uncertainties : List Uncertainty
  artifacts : List VisionArtifact := []
  needsHumanReview : Bool
  deriving DecidableEq

structure EventVisionRun where
  evidence : EventEvidenceV1
  artifacts : List VisionArtifact

/-- `_uncertainty`. -/
def uncertainty (sha256 : Sha256) (eventId code : String) (scope : ScopeType) (scopeName scopeId description : String) :
    Uncertainty where
  uncertaintyId := "UNC-" ++ sha256.shortDigest (eventId ++ ":" ++ code ++ ":" ++ scopeName ++ ":" ++ scopeId)
  code := code
  scopeType := scope
  scopeId := scopeId
  description := description

section Run

variable (sha256 : Sha256) (descriptor : ProviderDescriptor) (config : EventVisionConfig) (g : EvidenceGraph)

def eligible : List EvidenceMedia :=
  sortedBy EvidenceMedia.mediaId (g.media.filter fun item => item.kind ∈ config.eligibleKinds)

def selected : List EvidenceMedia := (eligible config g).take config.maxMedia

def selectedIds : List String := (selected config g).map EvidenceMedia.mediaId

/-- A detection that an earlier run has left. -/
def isStaleObservation (item : VisualObservation) : Bool :=
  item.mediaId ∈ selectedIds config g ∧ item.observationType = .detection ∧
    "GDN-".toList <+: item.resultReference.toList

/-- An uncertainty that an earlier run has left. -/
def isStaleUncertainty (item : Uncertainty) : Bool :=
  (item.code = "vision_inference_failed" ∧ item.scopeType = .media ∧ item.scopeId ∈ selectedIds config g) ∨
    (item.code = "vision_media_limit_applied" ∧ item.scopeType = .event ∧ item.scopeId = g.eventId)

/-- More media are eligible than are looked at. -/
def limited : Bool := (selected config g).length < (eligible config g).length

def limitUncertainty : Uncertainty :=
  uncertainty sha256 g.eventId "vision_media_limit_applied" .event "event" g.eventId
    "The event exceeded the configured VisionProvider media limit."

def failureUncertainty (mediaId typeName : String) : Uncertainty :=
  uncertainty sha256 g.eventId "vision_inference_failed" .media "media" mediaId
    ("Vision inference failed with " ++ typeName ++ ".")

/-- Before the loop. -/
def start : Accumulators where
  observations := g.visualObservations.filter fun item => !isStaleObservation config g item
  uncertainties := (g.uncertainties.filter fun item => !isStaleUncertainty config g item)
    ++ if limited config g then [limitUncertainty sha256 g] else []
  needsHumanReview := g.needsHumanReview || limited config g

/-- `if result.media_id != media.media_id: raise …`. -/
def ofMedium (media : EvidenceMedia) (result : DetectionResult) : Except PyExc DetectionResult :=
  if result.mediaId = media.mediaId then .ok result
  else .error (.valueError "VisionProvider returned a result for another media item")

def referenceOf (media : EvidenceMedia) : String :=
  visionResultReference sha256 descriptor media.mediaId media.sha256

def observationOf (media : EvidenceMedia) (result : DetectionResult) : VisualObservation where
  observationId := "OBS-" ++ sha256.shortDigest (referenceOf sha256 descriptor media)
  mediaId := media.mediaId
  observationType := .detection
  resultReference := referenceOf sha256 descriptor media
  confidence := result.confidence

/-- One round of the loop. -/
def visit (acc : Accumulators) (v : Visit) : Accumulators :=
  match v.2.bind (ofMedium v.1) with
  | .error e => { acc with
      uncertainties := acc.uncertainties ++ [failureUncertainty sha256 g v.1.mediaId e.typeName]
      needsHumanReview := true }
  | .ok result => { acc with
      artifacts := acc.artifacts ++ [⟨referenceOf sha256 descriptor v.1, result⟩]
      observations := acc.observations ++ [observationOf sha256 descriptor v.1 result]
      needsHumanReview := acc.needsHumanReview || result.needsHumanReview }

/-- `evidence.model_copy(update=…)`. -/
def updated (acc : Accumulators) : EvidenceGraph :=
  { g with
    visualObservations := acc.observations
    uncertainties := acc.uncertainties
    needsHumanReview := acc.needsHumanReview }

/-- What comes after the loop. -/
def finish (acc : Accumulators) : Except PyExc EventVisionRun := do
  let evidence ← EventEvidenceV1.modelValidate (updated g acc)
  pure ⟨evidence, acc.artifacts⟩

/-- What `except Exception` leaves of an outcome: nothing, where it is no `Exception`. -/
def caught : Except PyExc DetectionResult → Except PyExc (Except PyExc DetectionResult)
  | .error e => if e.isException then .ok (.error e) else .error e
  | .ok result => .ok (.ok result)

/-- One round of the loop, from the detector on. -/
def round (detect : EvidenceMedia → Except PyExc DetectionResult) (acc : Accumulators) (media : EvidenceMedia) :
    Except PyExc Accumulators := do
  let outcome ← caught (detect media)
  pure (visit sha256 descriptor g acc (media, outcome))

/-- **`EventVisionRunner.run`**, with a detector that does this for each medium. -/
def run (detect : EvidenceMedia → Except PyExc DetectionResult) (evidence : EventEvidenceV1) :
    Except PyExc EventVisionRun := do
  let acc ← (selected config evidence.graph).foldlM (round sha256 descriptor evidence.graph detect)
    (start sha256 config evidence.graph)
  finish evidence.graph acc

end Run

/-! ## The closed form -/

variable {sha256 : Sha256} {descriptor : ProviderDescriptor} {config : EventVisionConfig} {g : EvidenceGraph}

/-- What a visit comes to. -/
def settled (v : Visit) : Except PyExc DetectionResult := v.2.bind (ofMedium v.1)

section

variable (sha256 : Sha256) (descriptor : ProviderDescriptor) (g : EvidenceGraph)

/-- The artifact, the detection, the failure and the review of one visit: the four branches of a round, each
    by itself. -/
def artifactOf (v : Visit) : Option VisionArtifact :=
  match settled v with
  | .ok result => some ⟨referenceOf sha256 descriptor v.1, result⟩
  | .error _ => none

def detectionOf (v : Visit) : Option VisualObservation :=
  match settled v with
  | .ok result => some (observationOf sha256 descriptor v.1 result)
  | .error _ => none

def failureOf (v : Visit) : Option Uncertainty :=
  match settled v with
  | .ok _ => none
  | .error e => some (failureUncertainty sha256 g v.1.mediaId e.typeName)

def asksReview (v : Visit) : Bool :=
  match settled v with
  | .ok result => result.needsHumanReview
  | .error _ => true

/-- The accumulators after some visits. -/
def after (acc : Accumulators) (visits : List Visit) : Accumulators where
  observations := acc.observations ++ visits.filterMap (detectionOf sha256 descriptor)
  uncertainties := acc.uncertainties ++ visits.filterMap (failureOf sha256 g)
  artifacts := acc.artifacts ++ visits.filterMap (artifactOf sha256 descriptor)
  needsHumanReview := acc.needsHumanReview || visits.any asksReview

end

/-- **What the loop has accumulated.** -/
theorem foldl_visit (visits : List Visit) (acc : Accumulators) :
    visits.foldl (visit sha256 descriptor g) acc = after sha256 descriptor g acc visits := by
  induction visits generalizing acc with
  | nil => simp [after]
  | cons v visits ih =>
    rw [List.foldl_cons, ih]
    cases hv : settled v with
    | ok result =>
      have hvisit : v.2.bind (ofMedium v.1) = .ok result := hv
      simp [after, visit, hvisit, detectionOf, failureOf, artifactOf, asksReview, hv, Bool.or_assoc]
    | error e =>
      have hvisit : v.2.bind (ofMedium v.1) = .error e := hv
      simp [after, visit, hvisit, detectionOf, failureOf, artifactOf, asksReview, hv]

/-- The exceptions of the detector are `Exception`s. -/
def Caught (detect : EvidenceMedia → Except PyExc DetectionResult) (media : List EvidenceMedia) : Prop :=
  ∀ item ∈ media, ∀ e, detect item = .error e → e.isException = true

/-- The detector is asked once for each medium, in their order. -/
def visits (detect : EvidenceMedia → Except PyExc DetectionResult) (media : List EvidenceMedia) : List Visit :=
  media.map fun item => (item, detect item)

/-- An outcome goes on as it is, or the round is left. -/
theorem caught_eq_ok {outcome outcome' : Except PyExc DetectionResult} :
    caught outcome = .ok outcome' ↔ (∀ e, outcome = .error e → e.isException = true) ∧ outcome' = outcome := by
  cases outcome with
  | ok result =>
    constructor
    · intro h
      exact ⟨fun e he => (by cases he), (Except.ok.inj h).symm⟩
    · rintro ⟨-, rfl⟩
      rfl
  | error e =>
    have hif : caught (.error e) = if e.isException then .ok (.error e) else .error e := rfl
    rw [hif]
    by_cases he : e.isException = true
    · rw [if_pos he]
      constructor
      · intro h
        refine ⟨fun e' he' => ?_, (Except.ok.inj h).symm⟩
        obtain rfl := Except.error.inj he'
        exact he
      · rintro ⟨-, rfl⟩
        rfl
    · rw [if_neg he]
      constructor
      · intro h
        cases h
      · rintro ⟨hcaught, -⟩
        exact absurd (hcaught e rfl) he

/-- A round is left by what is no `Exception`. -/
theorem round_eq {detect : EvidenceMedia → Except PyExc DetectionResult} {item : EvidenceMedia}
    {acc acc' : Accumulators} : round sha256 descriptor g detect acc item = .ok acc' ↔
      (∀ e, detect item = .error e → e.isException = true) ∧ acc' = visit sha256 descriptor g acc (item, detect item) := by
  unfold round
  rw [bind_eq_ok]
  constructor
  · rintro ⟨outcome, houtcome, hvisit⟩
    obtain ⟨hcaught, rfl⟩ := caught_eq_ok.mp houtcome
    exact ⟨hcaught, (Except.ok.inj hvisit).symm⟩
  · rintro ⟨hcaught, rfl⟩
    exact ⟨detect item, caught_eq_ok.mpr ⟨hcaught, rfl⟩, rfl⟩

/-- **The loop in closed form**: it goes through exactly when all rounds do, and then it has accumulated its
    visits. -/
theorem foldlM_round {detect : EvidenceMedia → Except PyExc DetectionResult} {media : List EvidenceMedia}
    {acc acc' : Accumulators} : media.foldlM (round sha256 descriptor g detect) acc = .ok acc' ↔
      Caught detect media ∧ acc' = after sha256 descriptor g acc (visits detect media) := by
  rw [← foldl_visit]
  induction media generalizing acc with
  | nil =>
    constructor
    · intro h
      exact ⟨fun item hitem => (by cases hitem), (Except.ok.inj h).symm⟩
    · rintro ⟨-, rfl⟩
      rfl
  | cons item media ih =>
    rw [List.foldlM_cons]
    constructor
    · intro h
      obtain ⟨next, hnext, hrest⟩ := bind_eq_ok.mp h
      obtain ⟨hcaught, rfl⟩ := round_eq.mp hnext
      obtain ⟨hcaughtRest, rfl⟩ := ih.mp hrest
      exact ⟨List.forall_mem_cons.mpr ⟨hcaught, hcaughtRest⟩, rfl⟩
    · rintro ⟨hcaught, rfl⟩
      obtain ⟨hhead, hcaughtRest⟩ := List.forall_mem_cons.mp hcaught
      exact bind_eq_ok.mpr ⟨_, round_eq.mpr ⟨hhead, rfl⟩, ih.mpr ⟨hcaughtRest, rfl⟩⟩

/-! ## What a run returns -/

/-- The accumulators at the end. -/
def ended (sha256 : Sha256) (descriptor : ProviderDescriptor) (config : EventVisionConfig) (g : EvidenceGraph)
    (detect : EvidenceMedia → Except PyExc DetectionResult) : Accumulators :=
  after sha256 descriptor g (start sha256 config g) (visits detect (selected config g))

variable {detect : EvidenceMedia → Except PyExc DetectionResult} {evidence : EventEvidenceV1} {out : EventVisionRun}

/-- **What a run returns**, and when.  The rest of the module reads this equivalence and does not run the
    loop again. -/
theorem run_eq_ok : run sha256 descriptor config detect evidence = .ok out ↔
    Caught detect (selected config evidence.graph) ∧
      (updated evidence.graph (ended sha256 descriptor config evidence.graph detect)).ClosedGraph ∧
      out.evidence.graph = updated evidence.graph (ended sha256 descriptor config evidence.graph detect) ∧
      out.artifacts = (ended sha256 descriptor config evidence.graph detect).artifacts := by
  unfold run
  rw [bind_eq_ok]
  constructor
  · rintro ⟨acc, hacc, hfinish⟩
    obtain ⟨hcaught, rfl⟩ := foldlM_round.mp hacc
    obtain ⟨found, hfound, hout⟩ := bind_eq_ok.mp hfinish
    obtain rfl := Except.ok.inj hout
    obtain ⟨hclosed, hgraph⟩ := EventEvidenceV1.modelValidate_eq_ok.mp hfound
    exact ⟨hcaught, hclosed, hgraph, rfl⟩
  · rintro ⟨hcaught, hclosed, hgraph, hartifacts⟩
    refine ⟨_, foldlM_round.mpr ⟨hcaught, rfl⟩, bind_eq_ok.mpr ⟨out.evidence, ?_, ?_⟩⟩
    · exact EventEvidenceV1.modelValidate_eq_ok.mpr ⟨hclosed, hgraph⟩
    · obtain ⟨found, artifacts⟩ := out
      obtain rfl : artifacts = _ := hartifacts
      rfl

/-- A selected medium is one of the graph, of an eligible kind. -/
theorem mem_selected {media : EvidenceMedia} (h : media ∈ selected config g) :
    media ∈ g.media ∧ media.kind ∈ config.eligibleKinds := by
  have hmem := mem_sortedBy.mp (List.mem_of_mem_take h)
  exact ⟨(List.mem_filter.mp hmem).1, of_decide_eq_true (List.mem_filter.mp hmem).2⟩

/-- So its identifier is known to the graph. -/
theorem selectedIds_subset {id : String} (h : id ∈ selectedIds config g) : id ∈ g.mediaIds := by
  obtain ⟨media, hmedia, rfl⟩ := List.mem_map.mp h
  exact List.mem_map_of_mem (mem_selected hmedia).1

/-- A visit is a selected medium with what the detector has said of it. -/
theorem mem_visits {v : Visit} {media : List EvidenceMedia} :
    v ∈ visits detect media ↔ v.1 ∈ media ∧ v.2 = detect v.1 := by
  unfold visits
  constructor
  · intro h
    obtain ⟨item, hitem, rfl⟩ := List.mem_map.mp h
    exact ⟨hitem, rfl⟩
  · rintro ⟨hmedia, hdetect⟩
    exact List.mem_map.mpr ⟨v.1, hmedia, Prod.ext rfl hdetect.symm⟩

/-- A new detection is one of a selected medium, under this run's reference. -/
theorem mem_detections {item : VisualObservation}
    (h : item ∈ (visits detect (selected config g)).filterMap (detectionOf sha256 descriptor)) :
    ∃ media ∈ selected config g, ∃ result, settled (media, detect media) = .ok result ∧
      item = observationOf sha256 descriptor media result := by
  obtain ⟨v, hv, hitem⟩ := List.mem_filterMap.mp h
  obtain ⟨hmedia, hdetect⟩ := mem_visits.mp hv
  obtain ⟨media, outcome⟩ := v
  obtain rfl : outcome = detect media := hdetect
  refine ⟨media, hmedia, ?_⟩
  cases hsettled : settled (media, detect media) with
  | ok result =>
    rw [detectionOf, hsettled] at hitem
    exact ⟨result, rfl, (Option.some.inj hitem).symm⟩
  | error e =>
    rw [detectionOf, hsettled] at hitem
    cases hitem

/-- A new uncertainty is about a selected medium, and names the exception. -/
theorem mem_failures {item : Uncertainty}
    (h : item ∈ (visits detect (selected config g)).filterMap (failureOf sha256 g)) :
    ∃ media ∈ selected config g, ∃ e, settled (media, detect media) = .error e ∧
      item = failureUncertainty sha256 g media.mediaId e.typeName := by
  obtain ⟨v, hv, hitem⟩ := List.mem_filterMap.mp h
  obtain ⟨hmedia, hdetect⟩ := mem_visits.mp hv
  obtain ⟨media, outcome⟩ := v
  obtain rfl : outcome = detect media := hdetect
  refine ⟨media, hmedia, ?_⟩
  cases hsettled : settled (media, detect media) with
  | ok result =>
    rw [failureOf, hsettled] at hitem
    cases hitem
  | error e =>
    rw [failureOf, hsettled] at hitem
    exact ⟨e, rfl, (Option.some.inj hitem).symm⟩

/-! ## One entry of each medium -/

/-- Where keys are not repeated, what is made of one element is all that is found under its key. -/
theorem filter_filterMap_of_key {α β κ : Type} {key : α → κ} {f : α → Option β} {p : β → Bool} {x : α} :
    ∀ {xs : List α}, (xs.map key).Nodup → x ∈ xs →
      (∀ y ∈ xs, ∀ z, f y = some z → (p z = true ↔ key y = key x)) → (xs.filterMap f).filter p = (f x).toList := by
  intro xs
  induction xs with
  | nil => exact fun _ hx _ => absurd hx List.not_mem_nil
  | cons a xs ih =>
    intro hnodup hx hp
    obtain ⟨ha, hnodup⟩ := List.nodup_cons.mp hnodup
    have hrest : ∀ y ∈ xs, ∀ z, f y = some z → (p z = true ↔ key y = key x) :=
      fun y hy => hp y (List.mem_cons_of_mem _ hy)
    rcases List.mem_cons.mp hx with rfl | hx
    · -- nothing of the rest has this key
      have hnone : (xs.filterMap f).filter p = [] := by
        refine List.filter_eq_nil_iff.mpr fun z hz hpz => ?_
        obtain ⟨y, hy, hfy⟩ := List.mem_filterMap.mp hz
        have hkey : key y = key x := (hrest y hy z hfy).mp hpz
        exact ha (hkey ▸ List.mem_map_of_mem hy)
      cases hfx : f x with
      | none => rw [List.filterMap_cons_none hfx, hnone, Option.toList_none]
      | some z =>
        have hpz : p z = true := (hp x List.mem_cons_self z hfx).mpr rfl
        rw [List.filterMap_cons_some hfx, List.filter_cons_of_pos hpz, hnone, Option.toList_some]
    · have hne : key a ≠ key x := fun heq => ha (heq ▸ List.mem_map_of_mem hx)
      cases hfa : f a with
      | none => rw [List.filterMap_cons_none hfa, ih hnodup hx hrest]
      | some z =>
        have hpz : ¬p z = true := fun hpz => hne ((hp a List.mem_cons_self z hfa).mp hpz)
        rw [List.filterMap_cons_some hfa, List.filter_cons_of_neg hpz, ih hnodup hx hrest]

/-- The graph does not repeat a medium, and the selection takes some of its media in another order. -/
theorem selectedIds_nodup (h : g.mediaIds.Nodup) : (selectedIds config g).Nodup := by
  have hperm : ((eligible config g).map EvidenceMedia.mediaId).Perm
      ((g.media.filter fun item => item.kind ∈ config.eligibleKinds).map EvidenceMedia.mediaId) :=
    sortedBy_perm.map _
  have hnodup : ((eligible config g).map EvidenceMedia.mediaId).Nodup :=
    hperm.nodup_iff.mpr (h.sublist (List.filter_sublist.map _))
  exact hnodup.sublist ((List.take_sublist _ _).map _)

/-- No medium is visited twice. -/
theorem visits_nodup (h : g.mediaIds.Nodup) :
    ((visits detect (selected config g)).map fun v => v.1.mediaId).Nodup := by
  have hmap : ((visits detect (selected config g)).map fun v => v.1.mediaId) = selectedIds config g := by
    rw [visits, List.map_map]
    rfl
  rw [hmap]
  exact selectedIds_nodup h

/-! ### A detector of what was seen -/

/-- The detector that does at each medium what was done there. -/
def recorded (vs : List Visit) (media : EvidenceMedia) : Except PyExc DetectionResult :=
  ((vs.find? fun v => v.1 = media).map Prod.snd).getD (.error (.exit "SystemExit"))

/-- What it answers was answered. -/
theorem recorded_eq_ok {vs : List Visit} {media : EvidenceMedia} {result : DetectionResult}
    (h : recorded vs media = .ok result) : (media, .ok result) ∈ vs := by
  unfold recorded at h
  cases hfind : vs.find? fun v => v.1 = media with
  | none =>
    rw [hfind] at h
    cases h
  | some v =>
    rw [hfind] at h
    have hmedia : v.1 = media := of_decide_eq_true (List.find?_some (p := fun v : Visit => decide (v.1 = media)) hfind)
    have hresult : v.2 = .ok result := h
    have hv : v = (media, .ok result) := Prod.ext hmedia hresult
    exact hv ▸ List.mem_of_find?_eq_some hfind

/-- Asked again for the same media, it makes the same visits, since none of them comes twice. -/
theorem visits_recorded {vs : List Visit} (h : (vs.map Prod.fst).Nodup) :
    visits (recorded vs) (vs.map Prod.fst) = vs := by
  unfold visits
  rw [List.map_map]
  refine (List.map_congr_left fun v hv => ?_).trans (List.map_id vs)
  have hrecorded : recorded vs v.1 = v.2 := by
    unfold recorded
    cases hfind : vs.find? fun v' => v'.1 = v.1 with
    | none => exact absurd (decide_eq_true rfl) (List.find?_eq_none.mp hfind v hv)
    | some v' =>
      have hmedia : v'.1 = v.1 := of_decide_eq_true (List.find?_some (p := fun v' : Visit => decide (v'.1 = v.1)) hfind)
      rw [List.inj_on_of_nodup_map h (List.mem_of_find?_eq_some hfind) hv hmedia]
      rfl
  exact Prod.ext rfl hrecorded

/-- **Visits to the selected media make a run.** -/
theorem run_of_visits {vs : List Visit} (hmedia : vs.map Prod.fst = selected config evidence.graph)
    (hcaught : ∀ v ∈ vs, ∀ e, v.2 = .error e → e.isException = true)
    (hfinish : finish evidence.graph
      (vs.foldl (visit sha256 descriptor evidence.graph) (start sha256 config evidence.graph)) = .ok out) :
    run sha256 descriptor config (recorded vs) evidence = .ok out := by
  have hnodup : (vs.map Prod.fst).Nodup := by
    rw [hmedia]
    exact (selectedIds_nodup evidence.closed.media_nodup).of_map
  have hvisits : visits (recorded vs) (selected config evidence.graph) = vs := hmedia ▸ visits_recorded hnodup
  unfold run
  rw [bind_eq_ok]
  refine ⟨_, foldlM_round.mpr ⟨fun media hselected e he => ?_, ?_⟩, hfinish⟩
  · have hv : (media, recorded vs media) ∈ visits (recorded vs) (selected config evidence.graph) :=
      mem_visits.mpr ⟨hselected, rfl⟩
    rw [hvisits] at hv
    exact hcaught _ hv e he
  · rw [hvisits, foldl_visit]

/-- A detection of this medium, by a run. -/
def isDetectionOf (media : EvidenceMedia) (item : VisualObservation) : Bool :=
  item.mediaId = media.mediaId ∧ item.observationType = .detection ∧ "GDN-".toList <+: item.resultReference.toList

/-- The failure of a run at this medium. -/
def isFailureOf (media : EvidenceMedia) (item : Uncertainty) : Bool :=
  item.code = "vision_inference_failed" ∧ item.scopeType = .media ∧ item.scopeId = media.mediaId

/-- The detection of a run is recognised by its reference, which begins with the prefix of all runs. -/
theorem isDetectionOf_observationOf {media media' : EvidenceMedia} {result : DetectionResult} :
    isDetectionOf media (observationOf sha256 descriptor media' result) = true ↔ media'.mediaId = media.mediaId := by
  have hreference : "GDN-".toList <+: (referenceOf sha256 descriptor media').toList := by
    unfold referenceOf visionResultReference
    rw [String.toList_append]
    exact List.prefix_append _ _
  unfold isDetectionOf
  rw [decide_eq_true_iff]
  exact ⟨fun h => h.1, fun h => ⟨h, rfl, hreference⟩⟩

/-- A failure is recognised by its code and its scope. -/
theorem isFailureOf_failureUncertainty {media : EvidenceMedia} {mediaId typeName : String} :
    isFailureOf media (failureUncertainty sha256 g mediaId typeName) = true ↔ mediaId = media.mediaId := by
  unfold isFailureOf
  rw [decide_eq_true_iff]
  exact ⟨fun h => h.2.2, fun h => ⟨rfl, rfl, h⟩⟩

/-- The notice of the limit has another code. -/
theorem not_isFailureOf_limitUncertainty {media : EvidenceMedia} :
    ¬isFailureOf media (limitUncertainty sha256 g) = true := by
  unfold isFailureOf
  rw [decide_eq_true_iff]
  rintro ⟨hcode, -, -⟩
  have hlimit : "vision_media_limit_applied" = "vision_inference_failed" := hcode
  exact absurd hlimit (by decide)

/-- What an earlier run has left of a selected medium is dropped. -/
theorem isStaleObservation_of_isDetectionOf {media : EvidenceMedia} (hmedia : media ∈ selected config g)
    {item : VisualObservation} (h : isDetectionOf media item = true) : isStaleObservation config g item = true := by
  obtain ⟨hid, htype, hreference⟩ := of_decide_eq_true h
  exact decide_eq_true ⟨hid ▸ List.mem_map_of_mem hmedia, htype, hreference⟩

/-- The same of its failures. -/
theorem isStaleUncertainty_of_isFailureOf {media : EvidenceMedia} (hmedia : media ∈ selected config g)
    {item : Uncertainty} (h : isFailureOf media item = true) : isStaleUncertainty config g item = true := by
  obtain ⟨hcode, htype, hid⟩ := of_decide_eq_true h
  exact decide_eq_true (Or.inl ⟨hcode, htype, hid ▸ List.mem_map_of_mem hmedia⟩)

/-- A visit has succeeded when the detector has answered, and about this medium. -/
theorem settled_eq_ok {media : EvidenceMedia} {outcome : Except PyExc DetectionResult} {result : DetectionResult} :
    settled (media, outcome) = .ok result ↔ outcome = .ok result ∧ result.mediaId = media.mediaId := by
  cases outcome with
  | error e =>
    constructor
    · intro h
      cases h
    · rintro ⟨h, -⟩
      cases h
  | ok found =>
    show ofMedium media found = .ok result ↔ _
    unfold ofMedium
    constructor
    · intro h
      obtain ⟨hid, hfound⟩ := ite_eq_ok.mp h
      obtain rfl := Except.ok.inj hfound
      exact ⟨rfl, hid⟩
    · rintro ⟨hfound, hid⟩
      obtain rfl := Except.ok.inj hfound
      exact ite_eq_ok.mpr ⟨hid, rfl⟩

section Entries

variable {media : EvidenceMedia} (hnodup : g.mediaIds.Nodup) (hmedia : media ∈ selected config g)

include hnodup hmedia

/-- The run has one artifact of a medium where its visit has succeeded, and none otherwise. -/
theorem artifacts_of_medium :
    (ended sha256 descriptor config g detect).artifacts.filter (fun item => item.result.mediaId = media.mediaId)
      = (artifactOf sha256 descriptor (media, detect media)).toList := by
  refine filter_filterMap_of_key (visits_nodup hnodup) (mem_visits.mpr ⟨hmedia, rfl⟩) ?_
  intro v hv artifact hartifact
  cases hsettled : settled v with
  | ok result =>
    rw [artifactOf, hsettled] at hartifact
    obtain rfl := Option.some.inj hartifact
    have hid : result.mediaId = v.1.mediaId := (settled_eq_ok.mp hsettled).2
    rw [decide_eq_true_iff, hid]
  | error e =>
    rw [artifactOf, hsettled] at hartifact
    cases hartifact

/-- And one detection.  What an earlier run has left of this medium was dropped before the loop. -/
theorem observations_of_medium :
    (ended sha256 descriptor config g detect).observations.filter (isDetectionOf media)
      = (detectionOf sha256 descriptor (media, detect media)).toList := by
  -- what is left of the earlier observations has none of this medium
  have hkept : (start sha256 config g).observations.filter (isDetectionOf media) = [] := by
    refine List.filter_eq_nil_iff.mpr fun item hitem hdetection => ?_
    have hfresh := (List.mem_filter.mp hitem).2
    rw [isStaleObservation_of_isDetectionOf hmedia hdetection] at hfresh
    cases hfresh
  show ((start sha256 config g).observations ++ _).filter _ = _
  rw [List.filter_append, hkept, List.nil_append]
  refine filter_filterMap_of_key (visits_nodup hnodup) (mem_visits.mpr ⟨hmedia, rfl⟩) ?_
  intro v hv item hitem
  cases hsettled : settled v with
  | ok result =>
    rw [detectionOf, hsettled] at hitem
    obtain rfl := Option.some.inj hitem
    exact isDetectionOf_observationOf
  | error e =>
    rw [detectionOf, hsettled] at hitem
    cases hitem

/-- And one failure where its visit has failed.  The notice of the limit is none. -/
theorem uncertainties_of_medium :
    (ended sha256 descriptor config g detect).uncertainties.filter (isFailureOf media)
      = (failureOf sha256 g (media, detect media)).toList := by
  have hkept : (start sha256 config g).uncertainties.filter (isFailureOf media) = [] := by
    refine List.filter_eq_nil_iff.mpr fun item hitem hfailure => ?_
    rcases List.mem_append.mp hitem with hitem | hitem
    · have hfresh := (List.mem_filter.mp hitem).2
      rw [isStaleUncertainty_of_isFailureOf hmedia hfailure] at hfresh
      cases hfresh
    · split at hitem
      · obtain rfl := List.mem_singleton.mp hitem
        exact not_isFailureOf_limitUncertainty hfailure
      · cases hitem
  show ((start sha256 config g).uncertainties ++ _).filter _ = _
  rw [List.filter_append, hkept, List.nil_append]
  refine filter_filterMap_of_key (visits_nodup hnodup) (mem_visits.mpr ⟨hmedia, rfl⟩) ?_
  intro v hv item hitem
  cases hsettled : settled v with
  | ok result =>
    rw [failureOf, hsettled] at hitem
    cases hitem
  | error e =>
    rw [failureOf, hsettled] at hitem
    obtain rfl := Option.some.inj hitem
    exact isFailureOf_failureUncertainty

end Entries

/-! ## No medium in silence -/

section

variable (sha256 : Sha256) (descriptor : ProviderDescriptor) (config : EventVisionConfig) (g : EvidenceGraph)
  (detect : EvidenceMedia → Except PyExc DetectionResult) (out : EventVisionRun)

/-- The run has its one detection of a medium to show. -/
def Detected (media : EvidenceMedia) : Prop :=
  ∃ result, detect media = .ok result ∧ result.mediaId = media.mediaId ∧
    out.artifacts.filter (fun item => item.result.mediaId = media.mediaId)
      = [⟨referenceOf sha256 descriptor media, result⟩] ∧
    out.evidence.graph.visualObservations.filter (isDetectionOf media)
      = [observationOf sha256 descriptor media result] ∧
    out.evidence.graph.uncertainties.filter (isFailureOf media) = []

/-- The run says that it has none. -/
def Abstained (media : EvidenceMedia) : Prop :=
  (∀ result, detect media = .ok result → result.mediaId ≠ media.mediaId) ∧
    out.artifacts.filter (fun item => item.result.mediaId = media.mediaId) = [] ∧
    out.evidence.graph.visualObservations.filter (isDetectionOf media) = [] ∧
    (∃ typeName, out.evidence.graph.uncertainties.filter (isFailureOf media)
      = [failureUncertainty sha256 g media.mediaId typeName]) ∧
    out.evidence.graph.needsHumanReview = true

/-- What a run has made of the evidence. -/
structure Account : Prop where
  looked : ∀ media ∈ selected config g, Detected sha256 descriptor detect out media ∨
    Abstained sha256 g detect out media
  limit : limited config g = true → limitUncertainty sha256 g ∈ out.evidence.graph.uncertainties
  review : out.evidence.graph.needsHumanReview = true ↔ g.needsHumanReview = true ∨ limited config g = true ∨
    ∃ media ∈ selected config g, ∀ result, detect media = .ok result → result.mediaId = media.mediaId →
      result.needsHumanReview = true
  observations_kept : (out.evidence.graph.visualObservations.filter fun item => !isStaleObservation config g item)
    = g.visualObservations.filter fun item => !isStaleObservation config g item
  uncertainties_kept : (out.evidence.graph.uncertainties.filter fun item => !isStaleUncertainty config g item)
    = g.uncertainties.filter fun item => !isStaleUncertainty config g item
  rest : out.evidence.graph = { g with
    visualObservations := out.evidence.graph.visualObservations
    uncertainties := out.evidence.graph.uncertainties
    needsHumanReview := out.evidence.graph.needsHumanReview }

end

/-- What a run adds is of the kind that the next one drops: its detections, … -/
theorem isStaleObservation_observationOf {media : EvidenceMedia} (hmedia : media ∈ selected config g)
    {result : DetectionResult} : isStaleObservation config g (observationOf sha256 descriptor media result) = true :=
  isStaleObservation_of_isDetectionOf hmedia (isDetectionOf_observationOf.mpr rfl)

/-- … its failures, … -/
theorem isStaleUncertainty_failureUncertainty {media : EvidenceMedia} (hmedia : media ∈ selected config g)
    {typeName : String} :
    isStaleUncertainty config g (failureUncertainty sha256 g media.mediaId typeName) = true :=
  isStaleUncertainty_of_isFailureOf hmedia (isFailureOf_failureUncertainty.mpr rfl)

/-- … and its notice of the limit. -/
theorem isStaleUncertainty_limitUncertainty : isStaleUncertainty config g (limitUncertainty sha256 g) = true :=
  decide_eq_true (Or.inr ⟨rfl, rfl, rfl⟩)

/-- All that a run adds is what the next run drops. -/
theorem fresh_observations :
    ((ended sha256 descriptor config g detect).observations.filter fun item => !isStaleObservation config g item)
      = g.visualObservations.filter fun item => !isStaleObservation config g item := by
  show ((start sha256 config g).observations ++ _).filter _ = _
  have hnew : (((visits detect (selected config g)).filterMap (detectionOf sha256 descriptor)).filter fun item =>
      !isStaleObservation config g item) = [] := by
    refine List.filter_eq_nil_iff.mpr fun item hitem hfresh => ?_
    obtain ⟨media, hmedia, result, -, rfl⟩ := mem_detections hitem
    rw [isStaleObservation_observationOf hmedia] at hfresh
    cases hfresh
  rw [List.filter_append, hnew, List.append_nil]
  show (List.filter _ (List.filter _ _)) = _
  rw [List.filter_filter]
  simp only [Bool.and_self]

/-- The same of the uncertainties, the notice included. -/
theorem fresh_uncertainties :
    ((ended sha256 descriptor config g detect).uncertainties.filter fun item => !isStaleUncertainty config g item)
      = g.uncertainties.filter fun item => !isStaleUncertainty config g item := by
  show ((start sha256 config g).uncertainties ++ _).filter _ = _
  have hnew : (((visits detect (selected config g)).filterMap (failureOf sha256 g)).filter fun item =>
      !isStaleUncertainty config g item) = [] := by
    refine List.filter_eq_nil_iff.mpr fun item hitem hfresh => ?_
    obtain ⟨media, hmedia, e, -, rfl⟩ := mem_failures hitem
    rw [isStaleUncertainty_failureUncertainty hmedia] at hfresh
    cases hfresh
  have hlimit : ((if limited config g = true then [limitUncertainty sha256 g] else []).filter fun item =>
      !isStaleUncertainty config g item) = [] := by
    refine List.filter_eq_nil_iff.mpr fun item hitem hfresh => ?_
    split at hitem
    · obtain rfl := List.mem_singleton.mp hitem
      rw [isStaleUncertainty_limitUncertainty] at hfresh
      cases hfresh
    · cases hitem
  rw [List.filter_append, hnew, List.append_nil]
  show (List.filter _ (List.filter _ _ ++ _)) = _
  rw [List.filter_append, hlimit, List.append_nil, List.filter_filter]
  simp only [Bool.and_self]

/-- When a visit asks for a human. -/
theorem asksReview_iff {media : EvidenceMedia} : asksReview (media, detect media) = true ↔
    ∀ result, detect media = .ok result → result.mediaId = media.mediaId → result.needsHumanReview = true := by
  unfold asksReview
  cases hsettled : settled (media, detect media) with
  | ok result =>
    obtain ⟨hdetect, hid⟩ := settled_eq_ok.mp hsettled
    constructor
    · intro hreview result' hdetect' _
      obtain rfl := Except.ok.inj (hdetect.symm.trans hdetect')
      exact hreview
    · exact fun h => h result hdetect hid
  | error e =>
    constructor
    · intro _ result hdetect hid
      rw [settled_eq_ok.mpr ⟨hdetect, hid⟩] at hsettled
      cases hsettled
    · exact fun _ => rfl

/-- Some visit asks for a human: one that has failed, or whose result says so. -/
theorem any_asksReview {media : List EvidenceMedia} : (visits detect media).any asksReview = true ↔
    ∃ item ∈ media, ∀ result, detect item = .ok result → result.mediaId = item.mediaId →
      result.needsHumanReview = true := by
  rw [List.any_eq_true]
  constructor
  · rintro ⟨⟨item, outcome⟩, hv, hasks⟩
    obtain ⟨hitem, houtcome⟩ := mem_visits.mp hv
    obtain rfl : outcome = detect item := houtcome
    exact ⟨item, hitem, asksReview_iff.mp hasks⟩
  · rintro ⟨item, hitem, hall⟩
    exact ⟨(item, detect item), mem_visits.mpr ⟨hitem, rfl⟩, asksReview_iff.mpr hall⟩

/-- **Every selected medium ends with its one detection, or with an uncertainty that names it** and the
    call for a human; what is not the run's own is as it was. -/
theorem run_accounts (h : run sha256 descriptor config detect evidence = .ok out) :
    Account sha256 descriptor config evidence.graph detect out := by
  obtain ⟨hcaught, -, hgraph, hartifacts⟩ := run_eq_ok.mp h
  have hnodup := evidence.closed.media_nodup
  have hobservations : out.evidence.graph.visualObservations
      = (ended sha256 descriptor config evidence.graph detect).observations := by rw [hgraph]; rfl
  have huncertainties : out.evidence.graph.uncertainties
      = (ended sha256 descriptor config evidence.graph detect).uncertainties := by rw [hgraph]; rfl
  have hreview : out.evidence.graph.needsHumanReview = true ↔ (evidence.graph.needsHumanReview = true ∨
      limited config evidence.graph = true) ∨ (visits detect (selected config evidence.graph)).any asksReview = true := by
    rw [hgraph]
    show ((evidence.graph.needsHumanReview || limited config evidence.graph) || _) = true ↔ _
    rw [Bool.or_eq_true, Bool.or_eq_true]
  refine ⟨fun media hmedia => ?_, fun hlimited => ?_, ?_, ?_, ?_, ?_⟩
  · have hartifact : out.artifacts.filter (fun item => item.result.mediaId = media.mediaId)
        = (artifactOf sha256 descriptor (media, detect media)).toList := by
      rw [hartifacts]
      exact artifacts_of_medium hnodup hmedia
    have hdetection : out.evidence.graph.visualObservations.filter (isDetectionOf media)
        = (detectionOf sha256 descriptor (media, detect media)).toList := by
      rw [hobservations]
      exact observations_of_medium hnodup hmedia
    have hfailure : out.evidence.graph.uncertainties.filter (isFailureOf media)
        = (failureOf sha256 evidence.graph (media, detect media)).toList := by
      rw [huncertainties]
      exact uncertainties_of_medium hnodup hmedia
    cases hsettled : settled (media, detect media) with
    | ok result =>
      rw [artifactOf, hsettled] at hartifact
      rw [detectionOf, hsettled] at hdetection
      rw [failureOf, hsettled] at hfailure
      obtain ⟨hdetect, hid⟩ := settled_eq_ok.mp hsettled
      exact Or.inl ⟨result, hdetect, hid, hartifact, hdetection, hfailure⟩
    | error e =>
      rw [artifactOf, hsettled] at hartifact
      rw [detectionOf, hsettled] at hdetection
      rw [failureOf, hsettled] at hfailure
      have hnone : ∀ result, detect media = .ok result → result.mediaId ≠ media.mediaId := by
        intro result hdetect hid
        rw [settled_eq_ok.mpr ⟨hdetect, hid⟩] at hsettled
        cases hsettled
      -- a failed visit always asks for a human
      have hasks : (visits detect (selected config evidence.graph)).any asksReview = true :=
        any_asksReview.mpr ⟨media, hmedia, fun result hdetect hid => absurd hid (hnone result hdetect)⟩
      exact Or.inr ⟨hnone, hartifact, hdetection, ⟨e.typeName, hfailure⟩, hreview.mpr (Or.inr hasks)⟩
  · rw [huncertainties]
    show _ ∈ (_ ++ if limited config evidence.graph then _ else _) ++ _
    rw [if_pos hlimited]
    exact List.mem_append_left _ (List.mem_append_right _ (List.mem_singleton.mpr rfl))
  · rw [hreview, any_asksReview, or_assoc]
  · rw [hobservations, fresh_observations]
  · rw [huncertainties, fresh_uncertainties]
  · rw [hgraph]
    rfl

/-! ## A second run -/

/-- The accumulators of a second run are those of the first. -/
theorem ended_updated : ended sha256 descriptor config (updated g (ended sha256 descriptor config g detect)) detect
    = ended sha256 descriptor config g detect := by
  have hobservations : (start sha256 config (updated g (ended sha256 descriptor config g detect))).observations
      = (start sha256 config g).observations := by
    show ((ended sha256 descriptor config g detect).observations.filter fun item =>
      !isStaleObservation config g item) = g.visualObservations.filter _
    exact fresh_observations
  have huncertainties : (start sha256 config (updated g (ended sha256 descriptor config g detect))).uncertainties
      = (start sha256 config g).uncertainties := by
    show ((ended sha256 descriptor config g detect).uncertainties.filter fun item =>
      !isStaleUncertainty config g item) ++ _ = g.uncertainties.filter _ ++ _
    rw [fresh_uncertainties]
    rfl
  apply Accumulators.ext
  · exact congrArg (fun kept => kept ++ (visits detect (selected config g)).filterMap
      (detectionOf sha256 descriptor)) hobservations
  · exact congrArg (fun kept => kept ++ (visits detect (selected config g)).filterMap
      (failureOf sha256 g)) huncertainties
  · rfl
  -- a review that was asked for is asked for again, by the same visits
  · have hor : ∀ a b c : Bool, ((((a || b) || c) || b) || c) = ((a || b) || c) := by decide
    exact hor g.needsHumanReview (limited config g) ((visits detect (selected config g)).any asksReview)

/-- **Running again changes nothing.** -/
theorem run_again (h : run sha256 descriptor config detect evidence = .ok out) :
    run sha256 descriptor config detect out.evidence = .ok out := by
  obtain ⟨hcaught, hclosed, hgraph, hartifacts⟩ := run_eq_ok.mp h
  refine run_eq_ok.mpr ?_
  rw [hgraph, ended_updated]
  exact ⟨hcaught, hclosed, rfl, hartifacts⟩

/-! ## When the contract refuses the result -/

/-- A run returns when its loop goes through and the contract accepts the graph. -/
theorem exists_run_iff : (∃ out, run sha256 descriptor config detect evidence = .ok out) ↔
    Caught detect (selected config evidence.graph) ∧
      (updated evidence.graph (ended sha256 descriptor config evidence.graph detect)).ClosedGraph := by
  constructor
  · rintro ⟨out, h⟩
    obtain ⟨hcaught, hupdated, -, -⟩ := run_eq_ok.mp h
    exact ⟨hcaught, hupdated⟩
  · rintro ⟨hcaught, hupdated⟩
    exact ⟨⟨⟨_, hupdated⟩, _⟩, run_eq_ok.mpr ⟨hcaught, hupdated, rfl, rfl⟩⟩

/-- What is observed is observed of the event's media. -/
theorem observations_known (hclosed : g.ClosedGraph) :
    ∀ item ∈ (ended sha256 descriptor config g detect).observations, item.mediaId ∈ g.mediaIds := by
  intro item hitem
  rcases List.mem_append.mp hitem with hitem | hitem
  · exact hclosed.visual_media item (List.mem_filter.mp hitem).1
  · obtain ⟨media, hmedia, result, -, rfl⟩ := mem_detections hitem
    exact selectedIds_subset (List.mem_map_of_mem hmedia)

/-- An uncertainty is about the event, or about one of its media. -/
theorem uncertainties_known (hclosed : g.ClosedGraph) :
    ∀ item ∈ (ended sha256 descriptor config g detect).uncertainties, item.scopeId ∈ g.scopeIds item.scopeType := by
  intro item hitem
  rcases List.mem_append.mp hitem with hitem | hitem
  · rcases List.mem_append.mp hitem with hitem | hitem
    · exact hclosed.uncertainty_scope item (List.mem_filter.mp hitem).1
    · split at hitem
      · obtain rfl := List.mem_singleton.mp hitem
        exact List.mem_singleton.mpr rfl
      · cases hitem
  · obtain ⟨media, hmedia, e, -, rfl⟩ := mem_failures hitem
    exact selectedIds_subset (List.mem_map_of_mem hmedia)

/-- Of the validator's questions, those that the new observations and uncertainties can answer in a new way. -/
theorem updated_closed_iff {acc : Accumulators} (hclosed : g.ClosedGraph)
    (hobservations : ∀ item ∈ acc.observations, item.mediaId ∈ g.mediaIds)
    (huncertainties : ∀ item ∈ acc.uncertainties, item.scopeId ∈ g.scopeIds item.scopeType) :
    (updated g acc).ClosedGraph ↔ (acc.observations.map VisualObservation.observationId).Nodup ∧
      (acc.uncertainties.map Uncertainty.uncertaintyId).Nodup ∧
      ∀ item ∈ g.contradictions, ∀ id ∈ [item.leftEvidenceId, item.rightEvidenceId],
        id ∈ g.claimIds ∨ id ∈ g.satelliteIds ∨ id ∈ acc.observations.map VisualObservation.observationId := by
  have hevidence : ∀ id, id ∈ (updated g acc).evidenceIds ↔
      id ∈ g.claimIds ∨ id ∈ g.satelliteIds ∨ id ∈ acc.observations.map VisualObservation.observationId := by
    intro id
    show id ∈ (g.claimIds ++ acc.observations.map VisualObservation.observationId) ++ g.satelliteIds ↔ _
    rw [List.mem_append, List.mem_append, or_assoc]
    exact or_congr_right or_comm
  constructor
  · intro h
    refine ⟨h.visual_nodup, h.uncertainties_nodup, fun item hitem id hid => ?_⟩
    obtain ⟨hleft, hright⟩ := h.contradiction_evidence item hitem
    rcases List.mem_pair.mp hid with rfl | rfl
    · exact (hevidence _).mp hleft
    · exact (hevidence _).mp hright
  · rintro ⟨hvisual, hids, hcontradictions⟩
    exact { hclosed with
      visual_nodup := hvisual
      uncertainties_nodup := hids
      visual_media := hobservations
      contradiction_evidence := fun item hitem =>
        ⟨(hevidence _).mpr (hcontradictions item hitem _ List.mem_cons_self),
          (hevidence _).mpr (hcontradictions item hitem _ (List.mem_cons_of_mem _ List.mem_cons_self))⟩
      uncertainty_scope := huncertainties }

/-- **A run returns iff** nothing but `Exception`s is raised, no identifier of an observation or an uncertainty
    comes twice, and no contradiction is about a detection that is gone. -/
theorem run_returns_iff : (∃ out, run sha256 descriptor config detect evidence = .ok out) ↔
    Caught detect (selected config evidence.graph) ∧
      ((ended sha256 descriptor config evidence.graph detect).observations.map
        VisualObservation.observationId).Nodup ∧
      ((ended sha256 descriptor config evidence.graph detect).uncertainties.map Uncertainty.uncertaintyId).Nodup ∧
      ∀ item ∈ evidence.graph.contradictions, ∀ id ∈ [item.leftEvidenceId, item.rightEvidenceId],
        id ∈ evidence.graph.claimIds ∨ id ∈ evidence.graph.satelliteIds ∨
          id ∈ (ended sha256 descriptor config evidence.graph detect).observations.map
            VisualObservation.observationId := by
  have hclosed := evidence.closed
  rw [exists_run_iff, updated_closed_iff hclosed (observations_known hclosed) (uncertainties_known hclosed)]

/-! ## Three photos, of which two are looked at

  At the second the detector times out.  Of the first an earlier run has left a detection. -/

section Sample

def photo (mediaId : String) : EvidenceMedia where
  mediaId := mediaId
  sourceId := "source-1"
  mediaGroupId := mediaId
  originId := "origin-1"
  kind := .photo
  sha256 := "e3b0c44298fc1c149afbf4c8996fb92427ae41e4649b934ca495991b7852b855"

def threePhotos : EvidenceGraph where
  eventId := "event-1"
  sources :=
    [{ sourceId := "source-1", originId := "origin-1", publisher := "Town", sourceType := .press,
       retrievedAt := ⟨0, true⟩, independenceWeight := 1 }]
  media := [photo "photo-3", photo "photo-1", photo "photo-2"]
  visualObservations :=
    [{ observationId := "OBS-old", mediaId := "photo-1", observationType := .detection,
       resultReference := "GDN-old" },
     { observationId := "OBS-place", mediaId := "photo-1", observationType := .placeCandidate,
       resultReference := "MEG-1" }]

def photoEvidence : EventEvidenceV1 := ⟨threePhotos, EvidenceGraph.validateEvidenceGraph_eq_ok.mp (by decide +kernel)⟩

def groundingDino : ProviderDescriptor where
  providerId := "grounding-dino"
  providerVersion := "1.0"
  config := "\x7b\x7d"

def photoDigests : Sha256 := .ofDigests
  [("\x7b\"config\":\x7b\x7d,\"input_hash\":\"e3b0c44298fc1c149afbf4c8996fb92427ae41e4649b934ca495991b7852b855\"," ++
      "\"media_id\":\"photo-1\",\"model_id\":null,\"model_version\":null,\"provider_id\":\"grounding-dino\"," ++
      "\"provider_version\":\"1.0\"\x7d",
      "398f7c1becac506174d98b21943f7c616ea06fc4e4aa178f3d06802a13607d8e"),
    ("GDN-398f7c1becac506174d98b21", "2b39f565896bf1d2972e29ccd6f1d88c3dcd2c562bd6d506a567abe3fc3d6f15"),
    ("event-1:vision_media_limit_applied:event:event-1",
      "1e642716e05c8e63049593cf4b0c329e418906a7a95e5d70aeb9990bc4c6d477"),
    ("event-1:vision_inference_failed:media:photo-2",
      "4714c697e6608a1212864bb2905577d01748bd4edcae4961569c870c85fc8958")]
  "e3b0c44298fc1c149afbf4c8996fb92427ae41e4649b934ca495991b7852b855" (by decide +kernel)

/-- Smoke in every photo but the second. -/
def seesSmoke (media : EvidenceMedia) : Except PyExc DetectionResult :=
  if media.mediaId = "photo-2" then .error (.raised "TimeoutError" "")
  else .ok
    { mediaId := media.mediaId
      detections :=
        [{ detectionId := "DET-1", detectionClass := .smoke, bbox := (0, 0, 1, 1), score := 3 / 4,
           prompt := "smoke" }]
      status := .smoke }

def twoOfThem : EventVisionConfig := { maxMedia := 2 }

theorem caught_seesSmoke (media : List EvidenceMedia) : Caught seesSmoke media := by
  intro item _ e he
  unfold seesSmoke at he
  split at he
  · obtain rfl := Except.error.inj he
    rfl
  · cases he

theorem exists_photo_run : ∃ out, run photoDigests groundingDino twoOfThem seesSmoke photoEvidence = .ok out :=
  exists_run_iff.mpr ⟨caught_seesSmoke _, EvidenceGraph.validateEvidenceGraph_eq_ok.mp (by decide +kernel)⟩

theorem run_accounts_two_of_three :
    ∃ out, Account photoDigests groundingDino twoOfThem threePhotos seesSmoke out ∧
      limited twoOfThem threePhotos = true ∧ (selected twoOfThem threePhotos).map (·.mediaId) = ["photo-1", "photo-2"] := by
  obtain ⟨out, hrun⟩ := exists_photo_run
  exact ⟨out, run_accounts hrun, by decide +kernel, by decide +kernel⟩

theorem run_again_two_of_three :
    ∃ out, run photoDigests groundingDino twoOfThem seesSmoke photoEvidence = .ok out ∧
      run photoDigests groundingDino twoOfThem seesSmoke out.evidence = .ok out := by
  obtain ⟨out, hrun⟩ := exists_photo_run
  exact ⟨out, hrun, run_again hrun⟩

end Sample

end EventVision

end FireviewerOrchestrator
