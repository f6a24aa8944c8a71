/-
  What the event pipeline makes of one anchor: a localization attempt, and a proposal if the attempt
  can be promoted to one.

  Evidence that is projected either localizes the anchor, with the geometry and the accuracy of the
  evidence, or is kept as a shadow; anything else leaves at most a direction.  `AnchorDone` is the
  whole account (`anchorDone_of_ok`), and `exists_analyzeAnchor_iff` says for which anchors there is
  one: the contract of the proposals refuses a point phenomenon that is not at a point.
-/
import FireviewerOrchestrator.Contracts.Events
import FireviewerOrchestrator.Library.Dict

set_option linter.unusedVariables false

namespace FireviewerOrchestrator

/-! ## The contract, for the records the pipeline makes -/

namespace LocalizationAttempt

variable {r built : LocalizationAttempt}

theorem build_eq (h : build r = .ok built) : built = r := (checked_eq_ok.mp h).2

/-- An attempt without geometry is valid if it has its sector or its reasons. -/
theorem build_bare (hid : isSafeIdentifier r.attemptId = true)
    (hanchor : Pydantic.optional isSafeIdentifier r.anchorId = true) (hcodes : r.reasonCodes.length ≤ 32)
    (hstatus : r.status = .sector ∧ r.sector.isSome = true ∨ r.status = .abstained ∧ r.reasonCodes ≠ [])
    (hgeometry : r.geometryGeojson = none) : build r = .ok r := by
  refine checked_eq_ok.mpr ⟨?_, rfl⟩
  unfold check
  rw [hgeometry]
  refine Fallible.check_bind_eq_ok.mpr ⟨Pydantic.validate_eq_ok.mpr ?_, rfl⟩
  rcases hstatus with ⟨hstatus, hsector⟩ | ⟨hstatus, hreasons⟩
  · simp [hid, hanchor, hcodes, hstatus, hsector]
  · simp [hid, hanchor, hcodes, hstatus, hreasons]

/-- A localized attempt is valid if its geometry is. -/
theorem build_localized {geometry : JsonFields} (hid : isSafeIdentifier r.attemptId = true)
    (hanchor : Pydantic.optional isSafeIdentifier r.anchorId = true) (hcodes : r.reasonCodes.length ≤ 32)
    (hstatus : r.status = .localized) (hgeometry : r.geometryGeojson = some geometry)
    (hvalid : Geojson.validateGeojsonGeometry geometry Geojson.supportedGeometryTypes false = .ok ()) :
    build r = .ok r := by
  refine checked_eq_ok.mpr ⟨?_, rfl⟩
  unfold check
  rw [hgeometry]
  refine Fallible.check_bind_eq_ok.mpr
    ⟨Pydantic.validate_eq_ok.mpr ?_, asValidation_eq_ok.mpr hvalid⟩
  simp [hid, hanchor, hcodes, hstatus]

end LocalizationAttempt

namespace FireActivityProposal

variable {r built : FireActivityProposal}

theorem build_eq (h : build r = .ok built) : built = r := (checked_eq_ok.mp h).2

/-- **A proposal is accepted exactly if its geometry has a type of its phenomenon**, all else being
    valid. -/
theorem exists_build_iff (hid : isSafeIdentifier r.proposalId = true)
    (hattempt : isSafeIdentifier r.attemptId = true) (hphenomenon : r.phenomenon ∈ proposalPhenomena)
    (haccuracy : 0 < r.horizontalAccuracyM ∧ r.horizontalAccuracyM ≤ 100000)
    (hvalid : Geojson.validateGeojsonGeometry r.geometryGeojson Geojson.supportedGeometryTypes false
      = .ok ()) :
    (∃ built, build r = .ok built) ↔
      ∃ t ∈ allowedTypes r.phenomenon, Geojson.geometryType? r.geometryGeojson = some t := by
  have hfields : ∀ check ∈ [(isSafeIdentifier r.proposalId, "proposal_id"),
      (isSafeIdentifier r.attemptId, "attempt_id"),
      (decide (r.phenomenon ∈ proposalPhenomena), "phenomenon"),
      (decide (0 < r.horizontalAccuracyM ∧ r.horizontalAccuracyM ≤ 100000), "horizontal_accuracy_m")],
      check.1 = true := by
    simp [hid, hattempt, hphenomenon, haccuracy]
  have hgeometry : asValidation "FireActivityProposal"
      (Geojson.validateGeojsonGeometry r.geometryGeojson (allowedTypes r.phenomenon) false) = .ok () ↔
      ∃ t ∈ allowedTypes r.phenomenon, Geojson.geometryType? r.geometryGeojson = some t := by
    rw [asValidation_eq_ok, Geojson.validate_narrow hvalid]
  rw [← hgeometry]
  constructor
  · rintro ⟨built, h⟩
    exact (Fallible.check_bind_eq_ok.mp (checked_eq_ok.mp h).1).2
  · intro h
    exact ⟨r, checked_eq_ok.mpr
      ⟨Fallible.check_bind_eq_ok.mpr ⟨Pydantic.validate_eq_ok.mpr hfields, h⟩, rfl⟩⟩

end FireActivityProposal

namespace EventPipeline

/-! ## Directions -/

/-- `fmod(a, b)`: the remainder of the division whose quotient is truncated. -/
def fmod (a b : ℚ) : ℚ := a - b * (if 0 ≤ a / b then ⌊a / b⌋ else ⌈a / b⌉ : ℤ)

theorem fmod_range {a b : ℚ} (ha : 0 ≤ a) (hb : 0 < b) : 0 ≤ fmod a b ∧ fmod a b < b := by
  have hquotient : 0 ≤ a / b := div_nonneg ha hb.le
  have hlow : b * (⌊a / b⌋ : ℚ) ≤ a := by
    have h := mul_le_mul_of_nonneg_left (Int.floor_le (a / b)) hb.le
    rwa [mul_div_cancel₀ a hb.ne'] at h
  have hhigh : a < b * (⌊a / b⌋ + 1 : ℚ) := by
    have h := mul_lt_mul_of_pos_left (Int.lt_floor_add_one (a / b)) hb
    rwa [mul_div_cancel₀ a hb.ne'] at h
  unfold fmod
  rw [if_pos hquotient]
  constructor <;> linarith

/-- The direction of a point of an image taken in a direction, `fov` wide. -/
def pointBearing (yaw fov x : ℚ) : ℚ := fmod (yaw + (x - 1 / 2) * fov + 360) 360

theorem pointBearing_range {yaw fov x : ℚ} (hyaw : 0 ≤ yaw ∧ yaw < 360) (hfov : 0 < fov ∧ fov < 180)
    (hx : 0 ≤ x ∧ x ≤ 1) : 0 ≤ pointBearing yaw fov x ∧ pointBearing yaw fov x < 360 := by
  -- no point is more than half the width away from the middle
  have hhalf : -fov ≤ (x - 1 / 2) * fov := by nlinarith [hx.1, hfov.1]
  apply fmod_range
  · linarith [hyaw.1, hfov.2]
  · norm_num

theorem uncertainty_range {fov : ℚ} (hfov : 0 < fov ∧ fov < 180) :
    0 < max (fov * (1 / 20)) 1 ∧ max (fov * (1 / 20)) 1 ≤ 180 := by
  constructor
  · exact lt_max_of_lt_right one_pos
  · exact max_le (by linarith [hfov.2]) (by norm_num)

/-- `_bearing`. -/
def bearing (viewpoint : Viewpoint) (anchor : PerceptionAnchor) : Option SectorEstimate :=
  match hyaw : viewpoint.yawDeg, hfov : viewpoint.fovDeg, hpoint : anchor.sourcePointNormalized with
  | some yaw, some fov, some (x, y) =>
      some
        { bearingDeg := pointBearing yaw fov x
          angularUncertaintyDeg := max (fov * (1 / 20)) 1
          bearing_range := pointBearing_range (viewpoint.yaw_range yaw hyaw)
            (viewpoint.fov_range fov hfov) (anchor.point_normalized (x, y) hpoint).1
          uncertainty_range := uncertainty_range (viewpoint.fov_range fov hfov) }
  | _, _, _ => none

/-! ## Attempts and proposals -/

/-- `_output_phenomenon`. -/
def outputPhenomenon (anchor : PerceptionAnchor) : PhenomenonKind :=
  if anchor.phenomenon = .smokeColumnBase then .smokeOrigin
  else if anchor.phenomenon = .visibleFireFront then .visibleFireFront
  else .activeFirePoint

/-- `geometry.get("type") in {"LineString", "MultiLineString"}`. -/
def isLine (geometry : JsonFields) : Bool :=
  Geojson.geometryType? geometry = some "LineString" ∨
    Geojson.geometryType? geometry = some "MultiLineString"

/-- `front_geometry_insufficient`. -/
def frontGeometryInsufficient (phenomenon : PhenomenonKind) (geometry : JsonFields) : Bool :=
  phenomenon = .visibleFireFront && !isLine geometry

/-- A raycast that does not say what it was cast on. -/
def unreferencedRaycast (spatial : SpatialEvidence) : Bool :=
  (spatial.method = some .cameraRaycast ∨ spatial.method = some .crossViewRaycast) ∧
    spatial.referenceRevision = none

section Attempts

variable (sha256 : Sha256) (value : EventPipelineInput)

/-- `_stable_id("LOC", …)` of an anchor. -/
def attemptId (anchor : PerceptionAnchor) : String :=
  stableId sha256 "LOC" [value.bundle.candidateId, anchor.anchorId]

/-- What every attempt at an anchor says. -/
def attemptAt (anchor : PerceptionAnchor) (status : LocalizationStatus) : LocalizationAttempt where
  attemptId := attemptId sha256 value anchor
  anchorId := some anchor.anchorId
  phenomenon := some (outputPhenomenon anchor)
  status := status
  modelId := some anchor.modelId
  modelRevision := some anchor.modelRevision

def abstainedUnreferenced (anchor : PerceptionAnchor) (spatial : SpatialEvidence) : LocalizationAttempt :=
  { attemptAt sha256 value anchor .abstained with
    method := spatial.method
    reasonCodes := ["camera_pose_or_reference_missing"] }

def abstainedShadow (anchor : PerceptionAnchor) (spatial : SpatialEvidence) : LocalizationAttempt :=
  { attemptAt sha256 value anchor .abstained with
    method := spatial.method
    reasonCodes := ["cross_view_shadow_only"]
    referenceRevision := spatial.referenceRevision
    shadowOnly := true }

def localizedAttempt (anchor : PerceptionAnchor) (spatial : SpatialEvidence) (geometry : JsonFields)
    (accuracy : ℚ) : LocalizationAttempt :=
  { attemptAt sha256 value anchor .localized with
    method := spatial.method
    geometryGeojson := some geometry
    horizontalAccuracyM := some accuracy
    directionUncertaintyDeg := spatial.directionUncertaintyDeg
    distanceUncertaintyM := spatial.distanceUncertaintyM
    referenceRevision := spatial.referenceRevision
    reasonCodes :=
      if frontGeometryInsufficient (outputPhenomenon anchor) geometry then ["front_geometry_insufficient"]
      else [] }

def proposalAt (anchor : PerceptionAnchor) (geometry : JsonFields) (accuracy : ℚ) :
    FireActivityProposal where
  proposalId := stableId sha256 "EVP" [value.bundle.candidateId, anchor.anchorId]
  attemptId := attemptId sha256 value anchor
  phenomenon := outputPhenomenon anchor
  observedTime := value.bundle.observedTime
  geometryGeojson := geometry
  horizontalAccuracyM := accuracy

def sectorAttempt (anchor : PerceptionAnchor) (sector : SectorEstimate) : LocalizationAttempt :=
  { attemptAt sha256 value anchor .sector with
    method := some .viewpointSector
    sector := some sector
    reasonCodes := ["distance_unknown"] }

def abstainedUnlocated (anchor : PerceptionAnchor) (spatial : Option SpatialEvidence) :
    LocalizationAttempt :=
  { attemptAt sha256 value anchor .abstained with
    reasonCodes := (spatial.map (·.reasonCodes)).getD ["direction_and_distance_missing"] }

/-- The attempt alone. -/
def only (attempt : LocalizationAttempt) :
    Except PyExc (LocalizationAttempt × Option FireActivityProposal) := do
  let attempt ← attempt.build
  pure (attempt, none)

/-- The attempt at a located anchor, and its proposal unless the anchor is a front that is not at a line. -/
def promote (anchor : PerceptionAnchor) (spatial : SpatialEvidence) (geometry : JsonFields)
    (accuracy : ℚ) : Except PyExc (LocalizationAttempt × Option FireActivityProposal) := do
  let attempt ← (localizedAttempt sha256 value anchor spatial geometry accuracy).build
  if frontGeometryInsufficient (outputPhenomenon anchor) geometry then pure (attempt, none)
  else
    let proposal ← (proposalAt sha256 value anchor geometry accuracy).build
    pure (attempt, some proposal)

/-- The body of the loop, where the evidence is projected. -/
def analyzeProjected (anchor : PerceptionAnchor) (spatial : SpatialEvidence) :
    Except PyExc (LocalizationAttempt × Option FireActivityProposal) :=
  if unreferencedRaycast spatial then only (abstainedUnreferenced sha256 value anchor spatial)
  else if spatial.method = some .crossViewRaycast then only (abstainedShadow sha256 value anchor spatial)
  else
    match spatial.geometryGeojson, spatial.horizontalAccuracyM with
    | some geometry, some accuracy => promote sha256 value anchor spatial geometry accuracy
    -- the assertions
    | _, _ => .error .assertionError

/-- The body of the loop, where no evidence is projected. -/
def analyzeUnprojected (anchor : PerceptionAnchor) (spatial : Option SpatialEvidence) :
    Except PyExc (LocalizationAttempt × Option FireActivityProposal) :=
  match bearing value.bundle.viewpoint anchor with
  | some sector => only (sectorAttempt sha256 value anchor sector)
  | none => only (abstainedUnlocated sha256 value anchor spatial)

/-- `spatial_by_anchor.get(anchor.anchor_id)`. -/
def evidenceFor (anchor : PerceptionAnchor) : Option SpatialEvidence :=
  (Dict.ofPairs (value.spatialEvidence.map fun item => (item.anchorId, item))).get? anchor.anchorId

/-- The body of the loop over the anchors. -/
def analyzeAnchor (anchor : PerceptionAnchor) :
    Except PyExc (LocalizationAttempt × Option FireActivityProposal) :=
  match evidenceFor value anchor with
  | some spatial =>
      if spatial.status = .projected then analyzeProjected sha256 value anchor spatial
      else analyzeUnprojected sha256 value anchor (some spatial)
  | none => analyzeUnprojected sha256 value anchor none

end Attempts

/-! ## What it comes to -/

/-- The evidence has a position, and it was neither cast across views nor without a reference. -/
structure Localizes (spatial : SpatialEvidence) : Prop where
  projected : spatial.status = .projected
  not_cross_view : spatial.method ≠ some .crossViewRaycast
  referenced : spatial.method = some .cameraRaycast → spatial.referenceRevision.isSome = true

/-- A localized attempt, unless it is a front that is not at a line. -/
def promotable (attempt : LocalizationAttempt) : Bool :=
  attempt.status = .localized &&
    !(attempt.phenomenon = some .visibleFireFront && !attempt.geometryGeojson.any isLine)

/-- The proposal is the attempt's, and says nothing about the place that the attempt does not. -/
structure Promotes (attempt : LocalizationAttempt) (proposal : FireActivityProposal) : Prop where
  attemptId_eq : proposal.attemptId = attempt.attemptId
  phenomenon_eq : attempt.phenomenon = some proposal.phenomenon
  geometry_eq : attempt.geometryGeojson = some proposal.geometryGeojson
  accuracy_eq : attempt.horizontalAccuracyM = some proposal.horizontalAccuracyM

section Account

variable {sha256 : Sha256} {value : EventPipelineInput} {anchor : PerceptionAnchor}

/-- An attempt that does not say where. -/
structure Bare (sha256 : Sha256) (value : EventPipelineInput) (anchor : PerceptionAnchor)
    (attempt : LocalizationAttempt) : Prop where
  attemptId_eq : attempt.attemptId = attemptId sha256 value anchor
  anchorId_eq : attempt.anchorId = some anchor.anchorId
  phenomenon_eq : attempt.phenomenon = some (outputPhenomenon anchor)
  geometry_none : attempt.geometryGeojson = none
  status : attempt.status = .sector ∧ attempt.sector.isSome = true ∨
    attempt.status = .abstained ∧ attempt.reasonCodes ≠ []
  codes_bounded : attempt.reasonCodes.length ≤ 32

/-- The account of an anchor. -/
structure AnchorDone (sha256 : Sha256) (value : EventPipelineInput) (anchor : PerceptionAnchor)
    (attempt : LocalizationAttempt) (proposal : Option FireActivityProposal) : Prop where
  attemptId_eq : attempt.attemptId = attemptId sha256 value anchor
  anchorId_eq : attempt.anchorId = some anchor.anchorId
  phenomenon_eq : attempt.phenomenon = some (outputPhenomenon anchor)
  localized_iff : attempt.status = .localized ↔ ∃ spatial ∈ evidenceFor value anchor, Localizes spatial
  carries : ∀ spatial ∈ evidenceFor value anchor, attempt.status = .localized →
    attempt.geometryGeojson = spatial.geometryGeojson ∧
      attempt.horizontalAccuracyM = spatial.horizontalAccuracyM
  bare : attempt.status ≠ .localized → attempt.geometryGeojson = none
  proposal_iff : proposal.isSome = promotable attempt
  promotes : ∀ p ∈ proposal, Promotes attempt p

/-! ### The evidence -/

theorem evidenceFor_eq_some {spatial : SpatialEvidence} : evidenceFor value anchor = some spatial ↔
    spatial ∈ value.spatialEvidence ∧ spatial.anchorId = anchor.anchorId := by
  have hnodup : ((value.spatialEvidence.map fun item => (item.anchorId, item)).map Prod.fst).Nodup := by
    rw [List.map_map]
    exact value.evidence_unique
  rw [evidenceFor, Dict.get?_eq_some, Dict.entries_ofPairs hnodup, List.mem_map]
  constructor
  · rintro ⟨item, hitem, heq⟩
    obtain ⟨hid, rfl⟩ := Prod.mk.inj heq
    exact ⟨hitem, hid⟩
  · rintro ⟨hmem, hid⟩
    exact ⟨spatial, hmem, by rw [hid]⟩

/-- The two branches that keep projected evidence back are the two that do not localize. -/
theorem localizes_iff {spatial : SpatialEvidence} (hprojected : spatial.status = .projected) :
    Localizes spatial ↔
      unreferencedRaycast spatial = false ∧ spatial.method ≠ some .crossViewRaycast := by
  have hunreferenced : unreferencedRaycast spatial = false ↔
      (spatial.method = some .cameraRaycast ∨ spatial.method = some .crossViewRaycast →
        spatial.referenceRevision ≠ none) := by
    rw [unreferencedRaycast, decide_eq_false_iff_not, not_and]
  rw [hunreferenced]
  constructor
  · rintro ⟨-, hcross, hreferenced⟩
    refine ⟨?_, hcross⟩
    rintro (hcamera | hshadow)
    · exact Option.isSome_iff_ne_none.mp (hreferenced hcamera)
    · exact absurd hshadow hcross
  · rintro ⟨hreferenced, hcross⟩
    exact ⟨hprojected, hcross, fun hcamera => Option.isSome_iff_ne_none.mpr (hreferenced (Or.inl hcamera))⟩

theorem outputPhenomenon_eq_front : outputPhenomenon anchor = .visibleFireFront ↔
    anchor.phenomenon = .visibleFireFront := by
  unfold outputPhenomenon
  constructor
  · intro h
    split at h
    · cases h
    · split at h
      · assumption
      · cases h
  · intro h
    rw [h]
    rfl

theorem outputPhenomenon_mem : outputPhenomenon anchor ∈ proposalPhenomena := by
  unfold outputPhenomenon
  split
  · decide
  · split <;> decide

/-! ### Attempts that do not say where -/

theorem attemptId_safe : isSafeIdentifier (attemptId sha256 value anchor) = true :=
  stableId_safe sha256 _ (by decide) (by decide)

/-- They are always valid. -/
theorem Bare.only_eq {attempt : LocalizationAttempt} (h : Bare sha256 value anchor attempt) :
    only attempt = .ok (attempt, none) := by
  have hid : isSafeIdentifier attempt.attemptId = true := by
    rw [h.attemptId_eq]
    exact attemptId_safe
  have hanchor : Pydantic.optional isSafeIdentifier attempt.anchorId = true := by
    rw [h.anchorId_eq]
    exact anchor.anchor_id_safe
  unfold only
  rw [LocalizationAttempt.build_bare hid hanchor h.codes_bounded h.status h.geometry_none]
  rfl

theorem Bare.done {attempt : LocalizationAttempt} (h : Bare sha256 value anchor attempt)
    (hnot : ∀ spatial ∈ evidenceFor value anchor, ¬ Localizes spatial) :
    AnchorDone sha256 value anchor attempt none := by
  have hstatus : attempt.status ≠ .localized := by
    rcases h.status with ⟨hsector, -⟩ | ⟨habstained, -⟩
    · simp [hsector]
    · simp [habstained]
  exact
    { attemptId_eq := h.attemptId_eq
      anchorId_eq := h.anchorId_eq
      phenomenon_eq := h.phenomenon_eq
      localized_iff := ⟨fun hlocalized => absurd hlocalized hstatus,
        fun ⟨spatial, hspatial, hlocalizes⟩ => absurd hlocalizes (hnot spatial hspatial)⟩
      carries := fun _ _ hlocalized => absurd hlocalized hstatus
      bare := fun _ => h.geometry_none
      proposal_iff := by simp [promotable, hstatus]
      promotes := fun _ hp => by cases hp }

/-- Without projected evidence the attempt says at most in which direction. -/
theorem analyzeUnprojected_eq (spatial : Option SpatialEvidence)
    (hreasons : ∀ s ∈ spatial, s.reasonCodes ≠ []) :
    ∃ attempt, Bare sha256 value anchor attempt ∧
      analyzeUnprojected sha256 value anchor spatial = .ok (attempt, none) := by
  unfold analyzeUnprojected
  split
  · rename_i sector hsector
    have hcodes : (sectorAttempt sha256 value anchor sector).reasonCodes.length ≤ 32 := by
      show 1 ≤ 32
      omega
    have hbare : Bare sha256 value anchor (sectorAttempt sha256 value anchor sector) :=
      ⟨rfl, rfl, rfl, rfl, Or.inl ⟨rfl, rfl⟩, hcodes⟩
    exact ⟨_, hbare, hbare.only_eq⟩
  · have hcodes : (abstainedUnlocated sha256 value anchor spatial).reasonCodes ≠ [] ∧
        (abstainedUnlocated sha256 value anchor spatial).reasonCodes.length ≤ 32 := by
      rcases spatial with _ | s
      · refine ⟨List.cons_ne_nil _ _, ?_⟩
        show 1 ≤ 32
        omega
      · exact ⟨hreasons s rfl, s.reason_codes_bounded⟩
    have hbare : Bare sha256 value anchor (abstainedUnlocated sha256 value anchor spatial) :=
      ⟨rfl, rfl, rfl, rfl, Or.inr ⟨rfl, hcodes.1⟩, hcodes.2⟩
    exact ⟨_, hbare, hbare.only_eq⟩

/-! ### Attempts that do -/

section Promoted

variable {spatial : SpatialEvidence} {geometry : JsonFields} {accuracy : ℚ}

theorem localizedAttempt_build (hprojected : spatial.status = .projected)
    (hgeometry : spatial.geometryGeojson = some geometry) :
    (localizedAttempt sha256 value anchor spatial geometry accuracy).build
      = .ok (localizedAttempt sha256 value anchor spatial geometry accuracy) := by
  have hcodes : (localizedAttempt sha256 value anchor spatial geometry accuracy).reasonCodes.length ≤ 32 := by
    show (if frontGeometryInsufficient (outputPhenomenon anchor) geometry then
      ["front_geometry_insufficient"] else []).length ≤ 32
    split
    · show 1 ≤ 32
      omega
    · exact Nat.zero_le _
  exact LocalizationAttempt.build_localized attemptId_safe anchor.anchor_id_safe hcodes rfl rfl
    (spatial.projected_valid hprojected geometry hgeometry)

theorem promotable_localizedAttempt :
    promotable (localizedAttempt sha256 value anchor spatial geometry accuracy)
      = !frontGeometryInsufficient (outputPhenomenon anchor) geometry := by
  simp [promotable, localizedAttempt, attemptAt, frontGeometryInsufficient]

/-- What is promoted is the evidence. -/
theorem promote_done (hevidence : evidenceFor value anchor = some spatial) (hlocalizes : Localizes spatial)
    (hgeometry : spatial.geometryGeojson = some geometry)
    (haccuracy : spatial.horizontalAccuracyM = some accuracy) {attempt : LocalizationAttempt}
    {proposal : Option FireActivityProposal}
    (h : promote sha256 value anchor spatial geometry accuracy = .ok (attempt, proposal)) :
    AnchorDone sha256 value anchor attempt proposal := by
  obtain ⟨built, hbuilt, h⟩ := Fallible.bind_eq_ok.mp h
  obtain rfl := LocalizationAttempt.build_eq hbuilt
  -- whether there is a proposal or not, the attempt is the same
  have hdone : ∀ p : Option FireActivityProposal,
      p.isSome = promotable (localizedAttempt sha256 value anchor spatial geometry accuracy) →
      (∀ q ∈ p, Promotes (localizedAttempt sha256 value anchor spatial geometry accuracy) q) →
      AnchorDone sha256 value anchor (localizedAttempt sha256 value anchor spatial geometry accuracy) p := by
    intro p hiff hpromotes
    exact
      { attemptId_eq := rfl
        anchorId_eq := rfl
        phenomenon_eq := rfl
        localized_iff := ⟨fun _ => ⟨spatial, hevidence, hlocalizes⟩, fun _ => rfl⟩
        carries := by
          intro s hs _
          obtain rfl : spatial = s := Option.some.inj (hevidence.symm.trans hs)
          exact ⟨hgeometry.symm, haccuracy.symm⟩
        bare := fun hnot => absurd rfl hnot
        proposal_iff := hiff
        promotes := hpromotes }
  split at h
  · rename_i hfront
    obtain ⟨rfl, rfl⟩ := Prod.mk.inj (Fallible.pure_eq_ok.mp h)
    refine hdone none ?_ (fun _ hq => by cases hq)
    rw [promotable_localizedAttempt, hfront]
    rfl
  · rename_i hfront
    obtain ⟨p, hp, h⟩ := Fallible.bind_eq_ok.mp h
    obtain rfl := FireActivityProposal.build_eq hp
    obtain ⟨rfl, rfl⟩ := Prod.mk.inj (Fallible.pure_eq_ok.mp h)
    refine hdone _ ?_ ?_
    · rw [promotable_localizedAttempt, Bool.eq_false_of_not_eq_true hfront]
      rfl
    · intro q hq
      obtain rfl := Option.some.inj hq
      exact ⟨rfl, rfl, rfl, rfl⟩

/-- The promotion succeeds exactly if a point phenomenon is at a point. -/
theorem exists_promote_iff (hprojected : spatial.status = .projected)
    (hgeometry : spatial.geometryGeojson = some geometry)
    (haccuracy : spatial.horizontalAccuracyM = some accuracy) :
    (∃ result, promote sha256 value anchor spatial geometry accuracy = .ok result) ↔
      (anchor.phenomenon ≠ .visibleFireFront → Geojson.geometryType? geometry = some "Point") := by
  have hproposal : (∃ built, (proposalAt sha256 value anchor geometry accuracy).build = .ok built) ↔
      ∃ t ∈ FireActivityProposal.allowedTypes (outputPhenomenon anchor),
        Geojson.geometryType? geometry = some t := by
    have hid : isSafeIdentifier (proposalAt sha256 value anchor geometry accuracy).proposalId = true :=
      stableId_safe sha256 _ (by decide) (by decide)
    exact FireActivityProposal.exists_build_iff hid attemptId_safe outputPhenomenon_mem
      (spatial.accuracy_range accuracy haccuracy) (spatial.projected_valid hprojected geometry hgeometry)
  unfold promote
  rw [localizedAttempt_build hprojected hgeometry]
  show (∃ result, (if frontGeometryInsufficient (outputPhenomenon anchor) geometry then _ else _)
    = Except.ok result) ↔ _
  by_cases hfront : anchor.phenomenon = .visibleFireFront
  · have houtput : outputPhenomenon anchor = .visibleFireFront := outputPhenomenon_eq_front.mpr hfront
    refine iff_of_true ?_ (fun hnot => absurd hfront hnot)
    split
    · exact ⟨_, rfl⟩
    · rename_i hline
      -- a front at a line has a proposal
      have htypes : ∃ t ∈ FireActivityProposal.allowedTypes (outputPhenomenon anchor),
          Geojson.geometryType? geometry = some t := by
        have hisLine : isLine geometry = true := by
          simpa [frontGeometryInsufficient, houtput] using hline
        rw [houtput]
        rcases of_decide_eq_true hisLine with htype | htype
        · exact ⟨"LineString", by decide, htype⟩
        · exact ⟨"MultiLineString", by decide, htype⟩
      obtain ⟨built, hbuilt⟩ := hproposal.mpr htypes
      exact ⟨_, Fallible.bind_eq_ok.mpr ⟨built, hbuilt, rfl⟩⟩
  · have houtput : outputPhenomenon anchor ≠ .visibleFireFront :=
      fun h => hfront (outputPhenomenon_eq_front.mp h)
    have hinsufficient : frontGeometryInsufficient (outputPhenomenon anchor) geometry = false := by
      simp [frontGeometryInsufficient, houtput]
    have htypes : (∃ t ∈ FireActivityProposal.allowedTypes (outputPhenomenon anchor),
        Geojson.geometryType? geometry = some t) ↔ Geojson.geometryType? geometry = some "Point" := by
      simp [FireActivityProposal.allowedTypes, houtput]
    rw [hinsufficient]
    constructor
    · rintro ⟨result, h⟩ -
      obtain ⟨built, hbuilt, -⟩ := Fallible.bind_eq_ok.mp h
      exact htypes.mp (hproposal.mp ⟨built, hbuilt⟩)
    · intro h
      obtain ⟨built, hbuilt⟩ := hproposal.mpr (htypes.mpr (h hfront))
      exact ⟨_, Fallible.bind_eq_ok.mpr ⟨built, hbuilt, rfl⟩⟩

end Promoted

/-! ### One anchor -/

/-- Either the evidence localizes the anchor and is promoted, or the attempt does not say where. -/
theorem analyzeAnchor_cases (sha256 : Sha256) (value : EventPipelineInput) (anchor : PerceptionAnchor) :
    (∃ spatial geometry accuracy, evidenceFor value anchor = some spatial ∧ Localizes spatial ∧
      spatial.geometryGeojson = some geometry ∧ spatial.horizontalAccuracyM = some accuracy ∧
      analyzeAnchor sha256 value anchor = promote sha256 value anchor spatial geometry accuracy) ∨
    ((∀ spatial ∈ evidenceFor value anchor, ¬ Localizes spatial) ∧
      ∃ attempt, Bare sha256 value anchor attempt ∧
        analyzeAnchor sha256 value anchor = .ok (attempt, none)) := by
  unfold analyzeAnchor
  cases hevidence : evidenceFor value anchor with
  | none =>
    refine Or.inr ⟨?_, analyzeUnprojected_eq none (fun _ h => by cases h)⟩
    intro spatial h
    cases h
  | some spatial =>
    by_cases hprojected : spatial.status = .projected
    · show _ ∨ _ ∧ ∃ attempt, _ ∧ (if spatial.status = .projected then _ else _) = _
      obtain ⟨-, hgeometry, haccuracy⟩ := spatial.projected_complete hprojected
      obtain ⟨geometry, hgeometry⟩ := Option.isSome_iff_exists.mp hgeometry
      obtain ⟨accuracy, haccuracy⟩ := Option.isSome_iff_exists.mp haccuracy
      simp only [if_pos hprojected, analyzeProjected]
      by_cases hunreferenced : unreferencedRaycast spatial = true
      · have hnot : ¬ Localizes spatial := by
          rw [localizes_iff hprojected, hunreferenced]
          simp
        have hbare : Bare sha256 value anchor (abstainedUnreferenced sha256 value anchor spatial) :=
          ⟨rfl, rfl, rfl, rfl, Or.inr ⟨rfl, List.cons_ne_nil _ _⟩, by show 1 ≤ 32; omega⟩
        rw [if_pos hunreferenced]
        exact Or.inr ⟨fun s hs => Option.some.inj hs ▸ hnot, _, hbare, hbare.only_eq⟩
      · rw [if_neg hunreferenced]
        by_cases hcross : spatial.method = some .crossViewRaycast
        · have hnot : ¬ Localizes spatial := fun h => h.not_cross_view hcross
          have hbare : Bare sha256 value anchor (abstainedShadow sha256 value anchor spatial) :=
            ⟨rfl, rfl, rfl, rfl, Or.inr ⟨rfl, List.cons_ne_nil _ _⟩, by show 1 ≤ 32; omega⟩
          rw [if_pos hcross]
          exact Or.inr ⟨fun s hs => Option.some.inj hs ▸ hnot, _, hbare, hbare.only_eq⟩
        · have hlocalizes : Localizes spatial :=
            (localizes_iff hprojected).mpr ⟨Bool.eq_false_of_not_eq_true hunreferenced, hcross⟩
          rw [if_neg hcross, hgeometry, haccuracy]
          exact Or.inl ⟨spatial, geometry, accuracy, rfl, hlocalizes, hgeometry, haccuracy, rfl⟩
    · have hnot : ¬ Localizes spatial := fun h => hprojected h.projected
      have hinsufficient : spatial.status = .insufficientGeometry := by
        cases hstatus : spatial.status with
        | projected => exact absurd hstatus hprojected
        | insufficientGeometry => rfl
      refine Or.inr ⟨fun s hs => Option.some.inj hs ▸ hnot, ?_⟩
      simp only [if_neg hprojected]
      refine analyzeUnprojected_eq (some spatial) ?_
      rintro s ⟨⟩
      exact spatial.insufficient_reason hinsufficient

/-- **The account of an anchor**, where there is an attempt. -/
theorem anchorDone_of_ok {attempt : LocalizationAttempt} {proposal : Option FireActivityProposal}
    (h : analyzeAnchor sha256 value anchor = .ok (attempt, proposal)) :
    AnchorDone sha256 value anchor attempt proposal := by
  rcases analyzeAnchor_cases sha256 value anchor with
    ⟨spatial, geometry, accuracy, hevidence, hlocalizes, hgeometry, haccuracy, heq⟩ |
    ⟨hnot, bare, hbare, heq⟩
  · exact promote_done hevidence hlocalizes hgeometry haccuracy (heq.symm.trans h)
  · obtain ⟨rfl, rfl⟩ := Prod.mk.inj (Except.ok.inj (heq.symm.trans h))
    exact hbare.done hnot

/-- **Where there is one**: a point phenomenon that is localized must be at a point. -/
theorem exists_analyzeAnchor_iff : (∃ result, analyzeAnchor sha256 value anchor = .ok result) ↔
    (anchor.phenomenon ≠ .visibleFireFront → ∀ spatial ∈ evidenceFor value anchor, Localizes spatial →
      ∀ geometry ∈ spatial.geometryGeojson, Geojson.geometryType? geometry = some "Point") := by
  rcases analyzeAnchor_cases sha256 value anchor with
    ⟨spatial, geometry, accuracy, hevidence, hlocalizes, hgeometry, haccuracy, heq⟩ |
    ⟨hnot, bare, hbare, heq⟩
  · rw [heq, exists_promote_iff hlocalizes.projected hgeometry haccuracy, hevidence]
    constructor
    · intro h hphenomenon s hs _ g hg
      obtain rfl := Option.some.inj hs
      obtain rfl : geometry = g := Option.some.inj (hgeometry.symm.trans hg)
      exact h hphenomenon
    · intro h hphenomenon
      exact h hphenomenon spatial rfl hlocalizes geometry hgeometry
  · exact iff_of_true ⟨_, heq⟩ fun _ s hs hlocalizes => absurd hlocalizes (hnot s hs)

end Account

end EventPipeline

end FireviewerOrchestrator
