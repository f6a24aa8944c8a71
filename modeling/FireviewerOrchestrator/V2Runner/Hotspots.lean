/-
  What is read from the text of a satellite data item.

  The text is untrusted: any JSON value may stand under any key.  `hotspotPosition` says which features
  count and where, without any exception; the code agrees with it on every feature whose coordinates
  convert to floats (`Convertible`), and raises on the others.  So one integer too large for a float
  throws the item away, whatever the other features are (`hotspots_answered_iff`).

  `sourcePosition` is the same reading by the letter of GeoJSON, where a boolean is no number.  The two
  differ on booleans only (`hotspots_exact_iff`).
-/
import FireviewerOrchestrator.SessionRunner.Scripted
import FireviewerOrchestrator.V2Runner.Conversion

set_option linter.unusedVariables false

namespace FireviewerOrchestrator

/-! ## Records that always validate -/

namespace SpatialProposalV2

/-- A proposal that only says why there is no place. -/
def abstention (proposalId : String) (annotationId : Option String) (observedAt : Option DateTime)
    (codes : List String) : SpatialProposalV2 where
  proposalId := proposalId
  annotationId := annotationId
  status := .insufficientGeometry
  observedAt := observedAt
  uncertaintyCodes := codes

/-- It is valid if its identifiers are. -/
theorem build_abstention {proposalId : String} {annotationId : Option String} {observedAt : Option DateTime}
    {codes : List String} (hid : isSafeIdentifier proposalId = true)
    (hannot : Pydantic.optional isSafeIdentifier annotationId = true)
    (hobserved : Pydantic.optional DateTime.aware observedAt = true)
    (hcodes : codes.length ≤ 12 ∧ Pydantic.identifiers codes = true) (hnonempty : codes ≠ []) :
    (abstention proposalId annotationId observedAt codes).build
      = .ok (abstention proposalId annotationId observedAt codes) := by
  refine Fallible.check_bind_eq_ok.mpr ⟨Pydantic.validate_eq_ok.mpr ?_, asValidation_eq_ok.mpr ?_⟩
  · simp only [List.forall_mem_cons, abstention]
    refine ⟨hid, hannot, rfl, rfl, rfl, rfl, decide_eq_true hcodes, ?_⟩
    simp
  · refine Fallible.check_bind_eq_ok.mpr ⟨Geojson.ensure_eq_ok.mpr hobserved, ?_⟩
    refine Fallible.check_bind_eq_ok.mpr ⟨rfl, Fallible.check_bind_eq_ok.mpr ⟨?_, rfl⟩⟩
    rw [Geojson.ensure_eq_ok]
    simpa [abstention] using hnonempty

end SpatialProposalV2

namespace Geojson

/-- The position of a point geometry within the globe. -/
theorem position_pointGeometry {x y : ℚ} (hx : -180 ≤ x ∧ x ≤ 180) (hy : -90 ≤ y ∧ y ≤ 90) :
    position false (getField "coordinates" (pointGeometry x y)) = .ok [x, y] := by
  have hrange : inRange false [x, y] = true := by
    simp only [inRange, Bool.false_eq_true, if_false]
    exact decide_eq_true ⟨hx.1, hx.2, hy.1, hy.2⟩
  show position false (.arr [.ofRat x, .ofRat y]) = .ok [x, y]
  unfold position
  refine Fallible.check_bind_eq_ok.mpr ⟨rfl, Fallible.check_bind_eq_ok.mpr ⟨rfl, ?_⟩⟩
  refine Fallible.bind_eq_ok.mpr ⟨[.finite x, .finite y], rfl, ?_⟩
  exact Fallible.check_bind_eq_ok.mpr ⟨ensure_eq_ok.mpr hrange, rfl⟩

/-- The geometry of a point within the globe is accepted by the validator. -/
theorem validate_pointGeometry {x y : ℚ} (hx : -180 ≤ x ∧ x ≤ 180) (hy : -90 ≤ y ∧ y ≤ 90) :
    validateGeojsonGeometry (pointGeometry x y) ["Point"] false = .ok () := by
  refine validate_eq_ok.mpr ⟨"Point", List.mem_singleton_self _, rfl, rfl, ?_⟩
  unfold validateCoordinates
  rw [if_pos rfl, position_pointGeometry hx hy]
  rfl

end Geojson

/-- A point that agrees with its coordinates completes nothing. -/
theorem Pydantic.completePoint_eq {r : SpatialProposalV2} {x y : ℚ} (hlongitude : r.longitude = some x)
    (hlatitude : r.latitude = some y) (hx : -180 ≤ x ∧ x ≤ 180) (hy : -90 ≤ y ∧ y ≤ 90) :
    completePoint r (Geojson.pointGeometry x y) = .ok r := by
  have htype : Geojson.geometryType? (Geojson.pointGeometry x y) = some "Point" := rfl
  unfold completePoint
  rw [if_pos htype]
  refine Fallible.bind_eq_ok.mpr ⟨[x, y], Geojson.position_pointGeometry hx hy, ?_⟩
  refine Fallible.check_bind_eq_ok.mpr ⟨?_, Fallible.check_bind_eq_ok.mpr ⟨?_, ?_⟩⟩
  · rw [hlongitude]
    exact Geojson.ensure_eq_ok.mpr (decide_eq_true rfl)
  · rw [hlatitude]
    exact Geojson.ensure_eq_ok.mpr (decide_eq_true rfl)
  · rw [← hlongitude, ← hlatitude]
    rfl

namespace V2Runner

variable {host : Host} {batch : WorkerInputV2} {item : WorkerBatchItemV2}

/-! ## Abstentions and hotspots are always built -/

/-- An item that is abstained from has one proposal, with its one code. -/
theorem itemAbstention_eq {reason code : String} (hcode : isSafeIdentifier code = true) :
    itemAbstention host item reason code
      = .ok [.abstention (stableId host.sha256 "SP" [item.inputId, reason]) none none [code]] := by
  have hid : isSafeIdentifier (stableId host.sha256 "SP" [item.inputId, reason]) = true :=
    stableId_safe host.sha256 _ (by decide) (by decide)
  have hcodes : [code].length ≤ 12 ∧ Pydantic.identifiers [code] = true :=
    ⟨by simp, by simpa [Pydantic.identifiers] using hcode⟩
  have hbuild := @SpatialProposalV2.build_abstention _ none none _ hid rfl rfl hcodes
    (List.cons_ne_nil code [])
  exact Fallible.bind_eq_ok.mpr ⟨_, hbuild, rfl⟩

/-- The hotspot proposal of a feature, as it is described. -/
def hotspotRecord (host : Host) (item : WorkerBatchItemV2) (hotspot : HotspotMetadataV2)
    (reference : SpatialReferenceBundleV2) (index : Nat) (position : ℚ × ℚ) : SpatialProposalV2 where
  proposalId := stableId host.sha256 "SP" [item.inputId, "hotspot", toString index]
  status := .projectedGeometry
  proposalKind := some .activeFirePoint
  observedAt := some hotspot.acquiredAt
  geometryOrigin := some .explicitSourceGeometry
  longitude := some position.1
  latitude := some position.2
  geometryGeojson := some (Geojson.pointGeometry position.1 position.2)
  horizontalAccuracyM := some hotspot.resolutionM
  referenceBundleSha256 := some reference.manifestSha256

/-- The position lies in the extent. -/
def Inside (bbox : BBoxWgs84) (position : ℚ × ℚ) : Prop :=
  bbox.minLon ≤ position.1 ∧ position.1 ≤ bbox.maxLon ∧ bbox.minLat ≤ position.2 ∧ position.2 ≤ bbox.maxLat

instance (bbox : BBoxWgs84) (position : ℚ × ℚ) : Decidable (Inside bbox position) :=
  inferInstanceAs (Decidable (_ ∧ _))

/-- **A hotspot in the declared extent is a valid proposal**, just as it is described. -/
theorem hotspotProposal_eq {hotspot : HotspotMetadataV2} {reference : SpatialReferenceBundleV2} {index : Nat}
    {position : ℚ × ℚ} (h : Inside hotspot.bboxWgs84 position) :
    hotspotProposal host item hotspot reference index position
      = .ok (hotspotRecord host item hotspot reference index position) := by
  obtain ⟨⟨hlowLon, -, hhighLon⟩, hlowLat, -, hhighLat⟩ := hotspot.bbox_ordered
  obtain ⟨h₁, h₂, h₃, h₄⟩ := h
  have hx : -180 ≤ position.1 ∧ position.1 ≤ 180 := ⟨hlowLon.trans h₁, h₂.trans hhighLon⟩
  have hy : -90 ≤ position.2 ∧ position.2 ≤ 90 := ⟨hlowLat.trans h₃, h₄.trans hhighLat⟩
  have hid : isSafeIdentifier (stableId host.sha256 "SP" [item.inputId, "hotspot", toString index]) = true :=
    stableId_safe host.sha256 _ (by decide) (by decide)
  refine Fallible.check_bind_eq_ok.mpr ⟨Pydantic.validate_eq_ok.mpr ?_, asValidation_eq_ok.mpr ?_⟩
  · simp only [List.forall_mem_cons]
    exact ⟨hid, rfl, decide_eq_true hx, decide_eq_true hy, decide_eq_true hotspot.resolution_bounds,
      reference.manifest_is_sha256, rfl, fun _ hnil => absurd hnil List.not_mem_nil⟩
  · refine Fallible.check_bind_eq_ok.mpr ⟨Geojson.ensure_eq_ok.mpr hotspot.acquired_aware, ?_⟩
    refine Fallible.check_bind_eq_ok.mpr ⟨rfl, Fallible.check_bind_eq_ok.mpr ⟨rfl, ?_⟩⟩
    exact Fallible.check_bind_eq_ok.mpr
      ⟨Geojson.validate_pointGeometry hx hy, Pydantic.completePoint_eq rfl rfl hx hy⟩

/-! ## What is read of a feature -/

/-- The exact value of a number, if it is finite; a boolean is the number it converts to. -/
def numberValue : JsonValue → Option ℚ
  | .int n => some n
  | .bool b => some (if b then 1 else 0)
  | .float v => v.finite?
  | _ => none

/-- Where a feature that counts is. -/
def hotspotPosition (bbox : BBoxWgs84) (feature : JsonValue) : Option (ℚ × ℚ) := do
  let (first, second) ← featureCoordinates feature
  let longitude ← numberValue first
  let latitude ← numberValue second
  if Inside bbox (longitude, latitude) then some (longitude, latitude) else none

/-- No integer among the two coordinates is too large for a float. -/
def Convertible (feature : JsonValue) : Prop :=
  ∀ first second, featureCoordinates feature = some (first, second) →
    ∀ n : Int, first = .int n ∨ second = .int n → n.natAbs < floatOverflow

/-- A number that fits is converted to its exact value, or to no finite one. -/
theorem toFloat_eq {value : JsonValue} (hnumber : value.isNumber = true)
    (hsmall : ∀ n, value = .int n → n.natAbs < floatOverflow) :
    ∃ v, value.toFloat = .ok v ∧ v.finite? = numberValue value := by
  cases value with
  | int n =>
    refine ⟨.finite n, ?_, rfl⟩
    rw [JsonValue.toFloat, if_pos (hsmall n rfl)]
  | float v => exact ⟨v, rfl, rfl⟩
  | bool b => exact ⟨.finite (if b then 1 else 0), rfl, rfl⟩
  | null | str _ | arr _ | obj _ => cases hnumber

/-- An integer of this size has no float, and Python says so by an exception. -/
theorem toFloat_raises {n : Int} (h : ¬ n.natAbs < floatOverflow) :
    ∃ e, (JsonValue.int n).toFloat = .error e := by
  refine ⟨.raised "OverflowError" "int too large to convert to float", ?_⟩
  rw [JsonValue.toFloat, if_neg h]

/-- The code has looked at both coordinates before it converts them. -/
theorem featureCoordinates_isNumber {feature first second : JsonValue}
    (h : featureCoordinates feature = some (first, second)) : first.isNumber = true ∧ second.isNumber = true := by
  unfold featureCoordinates at h
  simp only [Option.bind_eq_bind, Option.bind_eq_some_iff] at h
  obtain ⟨properties, -, geometry, -, h⟩ := h
  split at h
  · split at h
    · split at h
      · rename_i hnumbers
        obtain ⟨rfl, rfl⟩ := Prod.mk.inj (Option.some.inj h)
        exact Bool.and_eq_true_iff.mp hnumbers
      · cases h
    · cases h
  · cases h

/-- **On a feature that converts, the code reads what counts.** -/
theorem featurePosition_eq {bbox : BBoxWgs84} {feature : JsonValue} (h : Convertible feature) :
    featurePosition bbox feature = .ok (hotspotPosition bbox feature) := by
  unfold featurePosition hotspotPosition
  cases hcoordinates : featureCoordinates feature with
  | none => rfl
  | some coordinates =>
    obtain ⟨first, second⟩ := coordinates
    obtain ⟨hfirst, hsecond⟩ := featureCoordinates_isNumber hcoordinates
    obtain ⟨x, hx, hxvalue⟩ := toFloat_eq hfirst fun n hn => h _ _ hcoordinates n (Or.inl hn)
    obtain ⟨y, hy, hyvalue⟩ := toFloat_eq hsecond fun n hn => h _ _ hcoordinates n (Or.inr hn)
    simp only [hx, hy, Fallible.ok_bind, hxvalue, hyvalue, Option.bind_eq_bind, Option.bind_some]
    cases numberValue first with
    | none => rfl
    | some longitude =>
      cases numberValue second with
      | none => rfl
      | some latitude =>
        show (if Inside bbox (longitude, latitude) then _ else _) = Except.ok (if Inside bbox (longitude, latitude)
          then some (longitude, latitude) else none)
        split <;> rfl

/-- **On any other it raises.** -/
theorem featurePosition_raises (bbox : BBoxWgs84) {feature : JsonValue} (h : ¬ Convertible feature) :
    ∃ e, featurePosition bbox feature = .error e := by
  unfold Convertible at h
  push Not at h
  obtain ⟨first, second, hcoordinates, n, hn, hlarge⟩ := h
  obtain ⟨hfirst, hsecond⟩ := featureCoordinates_isNumber hcoordinates
  unfold featurePosition
  rw [hcoordinates]
  cases hx : first.toFloat with
  | error e => exact ⟨e, by simp only [hx]; rfl⟩
  | ok x =>
    rcases hn with rfl | rfl
    · obtain ⟨e, he⟩ := toFloat_raises (not_lt.mpr hlarge)
      rw [he] at hx
      cases hx
    · obtain ⟨e, he⟩ := toFloat_raises (not_lt.mpr hlarge)
      exact ⟨e, by simp only [hx, he, Fallible.ok_bind]; rfl⟩

/-- A position that counts is in the extent. -/
theorem inside_of_hotspotPosition {bbox : BBoxWgs84} {feature : JsonValue} {position : ℚ × ℚ}
    (h : hotspotPosition bbox feature = some position) : Inside bbox position := by
  simp only [hotspotPosition, Option.bind_eq_bind, Option.bind_eq_some_iff] at h
  obtain ⟨coordinates, -, longitude, -, latitude, -, h⟩ := h
  split at h
  · rename_i hinside
    rw [← Option.some.inj h]
    exact hinside
  · cases h

section Loop

variable {hotspot : HotspotMetadataV2} {reference : SpatialReferenceBundleV2}

/-- On a feature that converts the code does what `hotspotPosition` says: a proposal where it counts,
    nothing where it does not. -/
theorem hotspotOfFeature_eq {entry : JsonValue × Nat} (h : Convertible entry.1) :
    hotspotOfFeature host item hotspot reference entry
      = .ok ((hotspotPosition hotspot.bboxWgs84 entry.1).map (hotspotRecord host item hotspot reference entry.2)) := by
  unfold hotspotOfFeature
  rw [featurePosition_eq h, Fallible.ok_bind]
  cases hposition : hotspotPosition hotspot.bboxWgs84 entry.1 with
  | none => rfl
  | some position =>
    have hinside := inside_of_hotspotPosition hposition
    exact Fallible.bind_eq_ok.mpr ⟨_, hotspotProposal_eq hinside, rfl⟩

/-- On any other feature it raises. -/
theorem convertible_of_hotspotOfFeature {entry : JsonValue × Nat} {outcome : Option SpatialProposalV2}
    (h : hotspotOfFeature host item hotspot reference entry = .ok outcome) : Convertible entry.1 := by
  by_contra hnot
  obtain ⟨e, he⟩ := featurePosition_raises hotspot.bboxWgs84 hnot
  obtain ⟨position, hposition, -⟩ := Fallible.bind_eq_ok.mp h
  rw [he] at hposition
  cases hposition

/-- The features that count, with their numbers. -/
def numberedPositions (bbox : BBoxWgs84) (features : List JsonValue) : List (Nat × (ℚ × ℚ)) :=
  (features.zipIdx 1).filterMap fun entry => (hotspotPosition bbox entry.1).map fun position => (entry.2, position)

/-- **The loop over the features**, where all of them convert: one proposal for each that counts. -/
theorem hotspotLoop_eq (host : Host) (item : WorkerBatchItemV2) (hotspot : HotspotMetadataV2)
    (reference : SpatialReferenceBundleV2) {features : List JsonValue} (h : ∀ f ∈ features, Convertible f) :
    ∃ outcomes, (features.zipIdx 1).mapM (hotspotOfFeature host item hotspot reference) = .ok outcomes ∧
      outcomes.reduceOption = (numberedPositions hotspot.bboxWgs84 features).map
        fun entry => hotspotRecord host item hotspot reference entry.1 entry.2 := by
  refine ⟨(features.zipIdx 1).map fun entry => (hotspotPosition hotspot.bboxWgs84 entry.1).map
    (hotspotRecord host item hotspot reference entry.2), ?_, ?_⟩
  · rw [Fallible.mapM_eq_ok, List.forall₂_map_right_iff, List.forall₂_same]
    intro entry hentry
    have hmem : entry.1 ∈ features := List.fst_mem_of_mem_zipIdx hentry
    exact hotspotOfFeature_eq (h _ hmem)
  · unfold numberedPositions List.reduceOption
    rw [List.filterMap_map, List.map_filterMap]
    congr 1
    funext entry
    simp only [Function.comp, id, Option.map_map]
    rfl

/-- One feature that raises ends the loop, so a loop that ended well has met none. -/
theorem convertible_of_hotspotLoop {features : List JsonValue} {outcomes : List (Option SpatialProposalV2)}
    (h : (features.zipIdx 1).mapM (hotspotOfFeature host item hotspot reference) = .ok outcomes) :
    ∀ f ∈ features, Convertible f := by
  intro f hf
  obtain ⟨i, hi, rfl⟩ := List.getElem_of_mem hf
  have hmem : (features[i], 1 + i) ∈ features.zipIdx 1 :=
    List.mk_add_mem_zipIdx_iff_getElem?.mpr (List.getElem?_eq_getElem hi)
  obtain ⟨outcome, -, houtcome⟩ := Fallible.exists_of_mem_input h hmem
  exact convertible_of_hotspotOfFeature houtcome

end Loop

/-! ## What is read of an item -/

/-- The text that is read, with the metadata it is read under. -/
def readText (batch : WorkerInputV2) (item : WorkerBatchItemV2) :
    Option (HotspotMetadataV2 × SpatialReferenceBundleV2 × String) :=
  match item.hotspot, item.articleText, batch.referenceBundle with
  | some hotspot, some text, some reference => some (hotspot, reference, text)
  | _, _, _ => none

/-- The features of a text that is a collection of at most 5000. -/
def textFeatures (host : Host) (text : String) : Option (List JsonValue) :=
  match host.jsonLoads text with
  | .ok payload => (featureCollection payload).bind collectionFeatures
  | .error _ => none

/-- The features of the item that count. -/
def itemPositions (host : Host) (batch : WorkerInputV2) (item : WorkerBatchItemV2) : List (Nat × (ℚ × ℚ)) :=
  match readText batch item with
  | some (hotspot, _, text) => ((textFeatures host text).map (numberedPositions hotspot.bboxWgs84)).getD []
  | none => []

/-- Nothing is read of an item without a text, or without what is needed to place it. -/
theorem itemPositions_of_unread (h : readText batch item = none) : itemPositions host batch item = [] := by
  unfold itemPositions
  rw [h]

theorem itemPositions_of_read {hotspot : HotspotMetadataV2} {reference : SpatialReferenceBundleV2}
    {text : String} (h : readText batch item = some (hotspot, reference, text)) : itemPositions host batch item
      = ((textFeatures host text).map (numberedPositions hotspot.bboxWgs84)).getD [] := by
  unfold itemPositions
  rw [h]

/-- **The item's text can be read**: it is JSON or not JSON, and no coordinate of it overflows. -/
def Readable (host : Host) (batch : WorkerInputV2) (item : WorkerBatchItemV2) : Prop :=
  ∀ read ∈ readText batch item,
    (∀ e, host.jsonLoads read.2.2 = .error e → ∃ message, e = .raised "JSONDecodeError" message) ∧
      ∀ features ∈ textFeatures host read.2.2, ∀ f ∈ features, Convertible f

/-- One abstention, and nothing else. -/
def Abstains (host : Host) (item : WorkerBatchItemV2) (proposals : List SpatialProposalV2) : Prop :=
  ∃ reason code,
    proposals = [.abstention (stableId host.sha256 "SP" [item.inputId, reason]) none none [code]]

theorem exists_abstention (host : Host) (item : WorkerBatchItemV2) (reason : String) {code : String}
    (hcode : isSafeIdentifier code = true) :
    ∃ proposals, itemAbstention host item reason code = .ok proposals ∧ Abstains host item proposals :=
  ⟨_, itemAbstention_eq hcode, reason, code, rfl⟩

theorem loadPayload_eq_ok {text : String} {payload : JsonValue} (h : host.jsonLoads text = .ok payload) :
    loadPayload host text = .ok payload := by
  unfold loadPayload
  rw [h]

/-- What is not JSON is read as `None`. -/
theorem loadPayload_of_decodeError {text message : String}
    (h : host.jsonLoads text = .error (.raised "JSONDecodeError" message)) :
    loadPayload host text = .ok .null := by
  unfold loadPayload
  rw [h]
  rfl

/-- Any other failure of the parser comes through. -/
theorem decodeError_of_loadPayload {text : String} {payload : JsonValue} {e : PyExc}
    (h : loadPayload host text = .ok payload) (he : host.jsonLoads text = .error e) :
    ∃ message, e = .raised "JSONDecodeError" message := by
  unfold loadPayload at h
  rw [he] at h
  cases e with
  | raised typeName message =>
    simp only at h
    split at h
    · rename_i htype
      exact ⟨message, by rw [htype]⟩
    · cases h
  | modelOutputError _ | outputValidationError _ | validationError _ _ | registryError _ | exit _ => cases h

/-- The payload of a readable text, and the features it has. -/
theorem exists_payload {text : String}
    (h : ∀ e, host.jsonLoads text = .error e → ∃ message, e = .raised "JSONDecodeError" message) :
    ∃ payload, loadPayload host text = .ok payload ∧
      textFeatures host text = (featureCollection payload).bind collectionFeatures := by
  unfold textFeatures
  cases hjson : host.jsonLoads text with
  | ok payload => exact ⟨payload, loadPayload_eq_ok hjson, rfl⟩
  | error e =>
    obtain ⟨message, rfl⟩ := h e hjson
    exact ⟨.null, loadPayload_of_decodeError hjson, rfl⟩

/-- The two ways into the text: there is none to read, or its payload decides. -/
theorem hotspotSpatialProposals_of_unread (host : Host) (h : readText batch item = none) :
    ∃ reason code, isSafeIdentifier code = true ∧
      hotspotSpatialProposals host batch item = itemAbstention host item reason code := by
  unfold readText at h
  unfold hotspotSpatialProposals
  cases hhotspot : item.hotspot with
  | none => exact ⟨_, _, by decide, rfl⟩
  | some hotspot =>
    cases htext : item.articleText with
    | none => exact ⟨_, _, by decide, rfl⟩
    | some text =>
      cases hreference : batch.referenceBundle with
      | none => exact ⟨_, _, by decide, rfl⟩
      | some reference => simp [hhotspot, htext, hreference] at h

/-- With a text, what is proposed is what the text has to say. -/
theorem hotspotSpatialProposals_of_read (host : Host) {hotspot : HotspotMetadataV2}
    {reference : SpatialReferenceBundleV2} {text : String} (h : readText batch item = some (hotspot, reference, text)) :
    item.hotspot = some hotspot ∧ batch.referenceBundle = some reference ∧
      hotspotSpatialProposals host batch item
        = (do let payload ← loadPayload host text; answerPayload host item hotspot reference payload) := by
  unfold readText at h
  split at h
  · rename_i hotspot' text' reference' hhotspot htext hreference
    obtain ⟨rfl, rfl, rfl⟩ := Option.some.inj h
    refine ⟨hhotspot, hreference, ?_⟩
    unfold hotspotSpatialProposals
    rw [hhotspot, htext, hreference]
  · cases h

/-- **A payload whose features convert is answered**: by one proposal for each feature that counts, or by
    an abstention if none does. -/
theorem exists_answerPayload (host : Host) (item : WorkerBatchItemV2) (hotspot : HotspotMetadataV2)
    (reference : SpatialReferenceBundleV2) {payload : JsonValue}
    (h : ∀ features ∈ (featureCollection payload).bind collectionFeatures, ∀ f ∈ features, Convertible f) :
    ∃ proposals, answerPayload host item hotspot reference payload = .ok proposals ∧
      ((((featureCollection payload).bind collectionFeatures).map (numberedPositions hotspot.bboxWgs84)).getD []
        = [] → Abstains host item proposals) ∧
      ((((featureCollection payload).bind collectionFeatures).map (numberedPositions hotspot.bboxWgs84)).getD []
        ≠ [] → proposals =
          ((((featureCollection payload).bind collectionFeatures).map
            (numberedPositions hotspot.bboxWgs84)).getD []).map
              fun entry => hotspotRecord host item hotspot reference entry.1 entry.2) := by
  have habstain : ∀ {reason code : String}, isSafeIdentifier code = true → ∃ proposals,
      itemAbstention host item reason code = .ok proposals ∧ (([] : List (Nat × (ℚ × ℚ))) = [] →
        Abstains host item proposals) ∧ (([] : List (Nat × (ℚ × ℚ))) ≠ [] → proposals =
          ([] : List (Nat × (ℚ × ℚ))).map fun entry => hotspotRecord host item hotspot reference entry.1 entry.2) := by
    intro reason code hcode
    obtain ⟨proposals, heq, habstains⟩ := exists_abstention host item reason hcode
    exact ⟨proposals, heq, fun _ => habstains, fun hne => absurd rfl hne⟩
  have hinvalid : isSafeIdentifier "hotspot_geojson_invalid" = true := by decide
  have hcount : isSafeIdentifier "hotspot_feature_count_invalid" = true := by decide
  have hempty : isSafeIdentifier "hotspot_observations_empty" = true := by decide
  unfold answerPayload
  cases hcollection : featureCollection payload with
  | none => exact habstain hinvalid
  | some collection =>
    cases hfeatures : collectionFeatures collection with
    | none =>
      simp only [Option.bind_some, hfeatures]
      exact habstain hcount
    | some features =>
      have hconvert : ∀ f ∈ features, Convertible f := by
        apply h features
        rw [hcollection, Option.bind_some, hfeatures]
        rfl
      obtain ⟨outcomes, houtcomes, hreduced⟩ :=
        hotspotLoop_eq host item hotspot reference hconvert
      simp only [Option.bind_some, hfeatures, Option.map_some, Option.getD_some, houtcomes, Fallible.ok_bind,
        hreduced]
      by_cases hnil : numberedPositions hotspot.bboxWgs84 features = []
      · rw [hnil]
        exact habstain hempty
      · have hnonempty : ((numberedPositions hotspot.bboxWgs84 features).map fun entry =>
            hotspotRecord host item hotspot reference entry.1 entry.2).isEmpty = false := by
          simpa using hnil
        rw [hnonempty]
        exact ⟨_, rfl, fun h => absurd h hnil, fun _ => rfl⟩

/-- A payload that was answered converts. -/
theorem convertible_of_answerPayload {hotspot : HotspotMetadataV2} {reference : SpatialReferenceBundleV2}
    {payload : JsonValue} {proposals : List SpatialProposalV2}
    (h : answerPayload host item hotspot reference payload = .ok proposals) :
    ∀ features ∈ (featureCollection payload).bind collectionFeatures, ∀ f ∈ features, Convertible f := by
  intro features hfeatures
  obtain ⟨collection, hcollection, hfeatures⟩ := Option.bind_eq_some_iff.mp hfeatures
  unfold answerPayload at h
  simp only [hcollection, hfeatures] at h
  obtain ⟨outcomes, houtcomes, -⟩ := Fallible.bind_eq_ok.mp h
  exact convertible_of_hotspotLoop houtcomes

/-- **A readable item is answered.** -/
theorem exists_answer_of_readable (h : Readable host batch item) :
    ∃ proposals, hotspotSpatialProposals host batch item = .ok proposals ∧
      (itemPositions host batch item = [] → Abstains host item proposals) ∧
      (itemPositions host batch item ≠ [] → ∃ hotspot reference,
        item.hotspot = some hotspot ∧ batch.referenceBundle = some reference ∧
        proposals = (itemPositions host batch item).map
          fun entry => hotspotRecord host item hotspot reference entry.1 entry.2) := by
  rcases hread : readText batch item with - | ⟨hotspot, reference, text⟩
  · rw [itemPositions_of_unread hread]
    obtain ⟨reason, code, hcode, heq⟩ := hotspotSpatialProposals_of_unread host hread
    obtain ⟨proposals, hproposals, habstains⟩ :=
      exists_abstention host item reason hcode
    exact ⟨proposals, heq.trans hproposals, fun _ => habstains, fun hne => absurd rfl hne⟩
  · obtain ⟨hloads, hconvert⟩ := h _ hread
    obtain ⟨hhotspot, hreference, heq⟩ := hotspotSpatialProposals_of_read host hread
    obtain ⟨payload, hpayload, hfeatures⟩ := exists_payload hloads
    rw [hfeatures] at hconvert
    obtain ⟨proposals, hproposals, hnone, hsome⟩ := exists_answerPayload host item hotspot reference hconvert
    rw [itemPositions_of_read hread, hfeatures]
    refine ⟨proposals, ?_, hnone, fun hne => ⟨hotspot, reference, hhotspot, hreference, hsome hne⟩⟩
    rw [heq, hpayload]
    exact hproposals

/-- An item that is answered was readable. -/
theorem readable_of_answer {proposals : List SpatialProposalV2}
    (h : hotspotSpatialProposals host batch item = .ok proposals) : Readable host batch item := by
  rintro ⟨hotspot, reference, text⟩ hread
  obtain ⟨-, -, heq⟩ := hotspotSpatialProposals_of_read host hread
  rw [heq] at h
  obtain ⟨payload, hpayload, hanswer⟩ := Fallible.bind_eq_ok.mp h
  have hloads : ∀ e, host.jsonLoads text = .error e → ∃ message, e = .raised "JSONDecodeError" message :=
    fun e he => decodeError_of_loadPayload hpayload he
  obtain ⟨payload', hpayload', hfeatures⟩ := exists_payload hloads
  obtain rfl : payload' = payload := Except.ok.inj (hpayload'.symm.trans hpayload)
  refine ⟨hloads, ?_⟩
  show ∀ features ∈ textFeatures host text, _
  rw [hfeatures]
  exact convertible_of_answerPayload hanswer

/-- **When malformed hotspot data cannot abort a job**: exactly when the item is readable.  Then there is
    always a proposal, and an abstention with its reason where no feature counts. -/
theorem hotspots_answered_iff (host : Host) (batch : WorkerInputV2) (item : WorkerBatchItemV2) :
    (∃ proposals, hotspotSpatialProposals host batch item = .ok proposals ∧ proposals ≠ [] ∧
      (itemPositions host batch item = [] → Abstains host item proposals)) ↔ Readable host batch item := by
  constructor
  · rintro ⟨proposals, h, -⟩
    exact readable_of_answer h
  · intro h
    obtain ⟨proposals, heq, hnone, hsome⟩ := exists_answer_of_readable h
    refine ⟨proposals, heq, ?_, hnone⟩
    by_cases hpositions : itemPositions host batch item = []
    · obtain ⟨reason, code, rfl⟩ := hnone hpositions
      exact List.cons_ne_nil _ _
    · obtain ⟨hotspot, reference, -, -, rfl⟩ := hsome hpositions
      exact fun hnil => hpositions (List.map_eq_nil_iff.mp hnil)

/-! ## By the letter of GeoJSON -/

/-- The value of a finite JSON number.  A boolean is none. -/
def jsonNumber : JsonValue → Option ℚ
  | .int n => some n
  | .float v => v.finite?
  | _ => none

/-- The first two coordinates of an object with a point geometry. -/
def pointCoordinates (feature : JsonValue) : Option (JsonValue × JsonValue) := do
  let properties ← fields? feature
  let geometry ← fields? (getField "geometry" properties)
  if isText "Point" (getField "type" geometry) then
    match Geojson.items? (getField "coordinates" geometry) with
    | some (first :: second :: _) => some (first, second)
    | _ => none
  else none

/-- Where a feature is, if it is a point of numbers in the extent. -/
def sourcePosition (bbox : BBoxWgs84) (feature : JsonValue) : Option (ℚ × ℚ) := do
  let (first, second) ← pointCoordinates feature
  let longitude ← jsonNumber first
  let latitude ← jsonNumber second
  if Inside bbox (longitude, latitude) then some (longitude, latitude) else none

/-- A feature counts although one of its coordinates is a boolean. -/
def CountsBoolean (bbox : BBoxWgs84) (feature : JsonValue) : Prop :=
  ∃ first second, featureCoordinates feature = some (first, second) ∧
    (first.isBool || second.isBool) = true ∧ (hotspotPosition bbox feature).isSome = true

/-- The code's reading of a feature is the letter of GeoJSON, up to the type of the two numbers. -/
theorem featureCoordinates_eq (feature : JsonValue) : featureCoordinates feature
    = (pointCoordinates feature).filter fun pair => pair.1.isNumber && pair.2.isNumber := by
  unfold featureCoordinates pointCoordinates
  cases fields? feature with
  | none => rfl
  | some properties =>
    simp only [Option.bind_eq_bind, Option.bind_some]
    cases fields? (getField "geometry" properties) with
    | none => rfl
    | some geometry =>
      simp only [Option.bind_some]
      by_cases hpoint : isText "Point" (getField "type" geometry) = true
      · simp only [hpoint, if_true]
        rcases Geojson.items? (getField "coordinates" geometry) with - | (- | ⟨first, - | ⟨second, rest⟩⟩) <;> rfl
      · simp only [hpoint]
        rfl

/-- A JSON number is a number, with the same value. -/
theorem numberValue_of_jsonNumber {value : JsonValue} {q : ℚ} (h : jsonNumber value = some q) :
    numberValue value = some q ∧ value.isNumber = true ∧ value.isBool = false := by
  cases value with
  | int n => exact ⟨h, rfl, rfl⟩
  | float v => exact ⟨h, rfl, rfl⟩
  | null | bool _ | str _ | arr _ | obj _ => cases h

/-- Any other number is a boolean. -/
theorem jsonNumber_of_not_isBool {value : JsonValue} (h : value.isBool = false) :
    jsonNumber value = numberValue value := by
  cases value with
  | bool b => cases h
  | null | int _ | float _ | str _ | arr _ | obj _ => rfl

/-- What counts by the letter counts for the code, and it has no boolean. -/
theorem hotspotPosition_of_sourcePosition {bbox : BBoxWgs84} {feature : JsonValue} {position : ℚ × ℚ}
    (h : sourcePosition bbox feature = some position) :
    hotspotPosition bbox feature = some position ∧ ¬ CountsBoolean bbox feature := by
  simp only [sourcePosition, Option.bind_eq_bind, Option.bind_eq_some_iff] at h
  obtain ⟨⟨first, second⟩, hpair, longitude, hlongitude, latitude, hlatitude, h⟩ := h
  obtain ⟨hx, hfirst, hfirstBool⟩ := numberValue_of_jsonNumber hlongitude
  obtain ⟨hy, hsecond, hsecondBool⟩ := numberValue_of_jsonNumber hlatitude
  have hcoordinates : featureCoordinates feature = some (first, second) := by
    rw [featureCoordinates_eq, hpair, Option.filter_some, hfirst, hsecond]
    rfl
  constructor
  · unfold hotspotPosition
    simp only [hcoordinates, hx, hy, Option.bind_eq_bind, Option.bind_some]
    exact h
  · rintro ⟨first', second', hcoordinates', hbool, -⟩
    obtain ⟨rfl, rfl⟩ := Prod.mk.inj (Option.some.inj (hcoordinates.symm.trans hcoordinates'))
    rw [hfirstBool, hsecondBool] at hbool
    cases hbool

/-- **The two readings differ on booleans only.** -/
theorem sourcePosition_eq_iff {bbox : BBoxWgs84} {feature : JsonValue} :
    sourcePosition bbox feature = hotspotPosition bbox feature ↔ ¬ CountsBoolean bbox feature := by
  constructor
  · intro heq hcounts
    obtain ⟨first, second, hcoordinates, hbool, hsome⟩ := id hcounts
    obtain ⟨position, hposition⟩ := Option.isSome_iff_exists.mp hsome
    exact (hotspotPosition_of_sourcePosition (heq.trans hposition)).2 hcounts
  · intro hnot
    cases hposition : hotspotPosition bbox feature with
    | none =>
      cases hsource : sourcePosition bbox feature with
      | none => rfl
      | some position =>
        rw [(hotspotPosition_of_sourcePosition hsource).1] at hposition
        cases hposition
    | some position =>
      have hread := hposition
      simp only [hotspotPosition, Option.bind_eq_bind, Option.bind_eq_some_iff] at hread
      obtain ⟨⟨first, second⟩, hcoordinates, longitude, hlongitude, latitude, hlatitude, hread⟩ := hread
      have hbool : first.isBool = false ∧ second.isBool = false := by
        rw [← Bool.or_eq_false_iff, Bool.eq_false_iff]
        intro hbool
        exact hnot ⟨first, second, hcoordinates, hbool, by rw [hposition]; rfl⟩
      have hpair : pointCoordinates feature = some (first, second) := by
        rw [featureCoordinates_eq] at hcoordinates
        exact (Option.filter_eq_some_iff.mp hcoordinates).1
      unfold sourcePosition
      simp only [hpair, Option.bind_eq_bind, Option.bind_some, jsonNumber_of_not_isBool hbool.1,
        jsonNumber_of_not_isBool hbool.2, hlongitude, hlatitude]
      exact hread

/-! ### One proposal for each feature that counts -/

/-- What a proposal says about where. -/
def placeOf (proposal : SpatialProposalV2) : SpatialStatus × Option ℚ × Option ℚ × Option JsonFields :=
  (proposal.status, proposal.longitude, proposal.latitude, proposal.geometryGeojson)

/-- The place of a projected point. -/
def projectedAt (position : ℚ × ℚ) : SpatialStatus × Option ℚ × Option ℚ × Option JsonFields :=
  (.projectedGeometry, some position.1, some position.2,
    some (Geojson.pointGeometry position.1 position.2))

/-- **The extraction is exact**: one projected proposal for each point of numbers in the extent, in the
    order of the features and with its coordinates, or one abstention if there is none; and no two
    proposals have the same identifier. -/
def ExtractsExactly (host : Host) (batch : WorkerInputV2) (item : WorkerBatchItemV2) (bbox : BBoxWgs84)
    (features : List JsonValue) : Prop :=
  ∃ proposals, hotspotSpatialProposals host batch item = .ok proposals ∧
    (features.filterMap (sourcePosition bbox) ≠ [] →
      proposals.map placeOf = (features.filterMap (sourcePosition bbox)).map projectedAt) ∧
    (features.filterMap (sourcePosition bbox) = [] → Abstains host item proposals) ∧
    (proposals.map SpatialProposalV2.proposalId).Nodup

/-- Behind their numbers, the positions are those of the features. -/
theorem map_snd_numberedPositions (bbox : BBoxWgs84) (features : List JsonValue) :
    (numberedPositions bbox features).map Prod.snd = features.filterMap (hotspotPosition bbox) := by
  unfold numberedPositions
  rw [List.map_filterMap]
  have hfun : (fun entry : JsonValue × Nat => ((hotspotPosition bbox entry.1).map
      fun position => (entry.2, position)).map Prod.snd) = hotspotPosition bbox ∘ Prod.fst := by
    funext entry
    simp [Function.comp]
  rw [hfun, ← List.filterMap_map, List.zipIdx_map_fst]

/-- The numbers are all different. -/
theorem nodup_map_fst_numberedPositions (bbox : BBoxWgs84) (features : List JsonValue) :
    ((numberedPositions bbox features).map Prod.fst).Nodup := by
  have hsub : ((numberedPositions bbox features).map Prod.fst).Sublist ((features.zipIdx 1).map Prod.snd) := by
    unfold numberedPositions
    rw [List.map_filterMap]
    generalize features.zipIdx 1 = entries
    induction entries with
    | nil => exact List.Sublist.refl _
    | cons entry entries ih =>
      rw [List.filterMap_cons, List.map_cons]
      cases hotspotPosition bbox entry.1 with
      | none => exact ih.cons _
      | some position => exact ih.cons_cons entry.2
  refine hsub.nodup ?_
  rw [List.zipIdx_map_snd]
  exact List.nodup_range'

/-- The texts that are hashed for the features that count. -/
def hotspotTexts (item : WorkerBatchItemV2) (bbox : BBoxWgs84) (features : List JsonValue) : List String :=
  (numberedPositions bbox features).map fun entry => joinedParts [item.inputId, "hotspot", toString entry.1]

/-- Numbers have no separator in them. -/
theorem free_toString (n : Nat) : Separated.Free '\x1f' (toString n) := by
  intro hmem
  have hdigits : ∀ c ∈ (Nat.repr n).toList, c.isDigit = true := by
    intro c hc
    rw [Nat.toList_repr] at hc
    exact Nat.isDigit_of_mem_toDigits (by decide) (by decide) hc
  exact absurd (hdigits _ hmem) (by decide)

theorem toString_nat_injective {n m : Nat} (h : toString n = toString m) : n = m := by
  have hdigits : Nat.toDigits 10 n = Nat.toDigits 10 m := by
    rw [← Nat.toList_repr, ← Nat.toList_repr]
    exact congrArg String.toList h
  have hvalue := congrArg (fun digits => Nat.ofDigitChars 10 digits 0) hdigits
  simp only [Nat.ofDigitChars_toDigits (show 1 < 10 by decide) (show 10 ≤ 10 by decide)] at hvalue
  exact hvalue

/-- The texts that the identifiers are digests of differ in their number. -/
theorem hotspotTexts_nodup (item : WorkerBatchItemV2) (bbox : BBoxWgs84) (features : List JsonValue) :
    (hotspotTexts item bbox features).Nodup := by
  have hplain : ∀ n : Nat, PlainParts [item.inputId, "hotspot", toString n] := by
    intro n
    refine ⟨List.cons_ne_nil _ _, ?_⟩
    simp only [List.forall_mem_cons]
    exact ⟨free_of_isSafeIdentifier item.input_id_safe, by decide, free_toString n,
      fun _ h => absurd h List.not_mem_nil⟩
  have hmap : hotspotTexts item bbox features = ((numberedPositions bbox features).map Prod.fst).map
      fun n : Nat => joinedParts [item.inputId, "hotspot", toString n] := by
    rw [hotspotTexts, List.map_map]
    rfl
  rw [hmap]
  refine (nodup_map_fst_numberedPositions bbox features).map fun n n' heq => ?_
  have hparts := (joinedParts_inj (hplain n) (hplain n')).mp heq
  have htext : toString n = toString n' := by simpa using hparts
  exact toString_nat_injective htext

section Exact

variable {hotspot : HotspotMetadataV2} {reference : SpatialReferenceBundleV2} {text : String}
  {features : List JsonValue}

/-- The proposals of the features that count have different identifiers. -/
theorem hotspotRecords_nodup
    (hdist : host.sha256.Distinguishes (hotspotTexts item hotspot.bboxWgs84 features)) :
    (((numberedPositions hotspot.bboxWgs84 features).map fun entry =>
      hotspotRecord host item hotspot reference entry.1 entry.2).map SpatialProposalV2.proposalId).Nodup := by
  have hids : ((numberedPositions hotspot.bboxWgs84 features).map fun entry =>
      hotspotRecord host item hotspot reference entry.1 entry.2).map SpatialProposalV2.proposalId
      = ((numberedPositions hotspot.bboxWgs84 features).map fun entry =>
          [item.inputId, "hotspot", toString entry.1]).map (stableId host.sha256 "SP") := by
    rw [List.map_map, List.map_map]
    rfl
  have htexts : ((numberedPositions hotspot.bboxWgs84 features).map fun entry =>
      [item.inputId, "hotspot", toString entry.1]).map joinedParts
      = hotspotTexts item hotspot.bboxWgs84 features := by
    rw [hotspotTexts, List.map_map]
    rfl
  rw [hids]
  apply stableId_nodup
  · rw [htexts]
    exact hdist
  · rw [htexts]
    exact hotspotTexts_nodup item hotspot.bboxWgs84 features

/-- A list that is part of another one, element by element, is it if it is as long. -/
theorem filterMap_eq_of_length {α β : Type} {f g : α → Option β} {xs : List α}
    (hsub : ∀ x b, g x = some b → f x = some b) (hlength : (xs.filterMap g).length = (xs.filterMap f).length) :
    ∀ x ∈ xs, g x = f x := by
  have hle : ∀ xs : List α, (xs.filterMap g).length ≤ (xs.filterMap f).length := by
    intro xs
    induction xs with
    | nil => exact Nat.le_refl _
    | cons x xs ih =>
      rw [List.filterMap_cons, List.filterMap_cons]
      cases hg : g x with
      | none =>
        cases f x with
        | none => exact ih
        | some b => exact Nat.le_succ_of_le ih
      | some b =>
        rw [hsub x b hg]
        exact Nat.succ_le_succ ih
  induction xs with
  | nil => exact fun x hx => absurd hx List.not_mem_nil
  | cons x xs ih =>
    rw [List.filterMap_cons, List.filterMap_cons] at hlength
    have hrest := hle xs
    cases hg : g x with
    | none =>
      cases hf : f x with
      | none =>
        rw [hg, hf] at hlength
        exact List.forall_mem_cons.mpr ⟨hg.trans hf.symm, ih hlength⟩
      | some b =>
        simp only [hg, hf, List.length_cons] at hlength
        omega
    | some b =>
      rw [hg, hsub x b hg] at hlength
      exact List.forall_mem_cons.mpr ⟨hg.trans (hsub x b hg).symm, ih (Nat.succ.inj hlength)⟩

/-- **When the extraction is exact**: when no coordinate overflows and no boolean counts as one.  The
    digests are taken to tell the hashed texts apart. -/
theorem hotspots_exact_iff (hread : readText batch item = some (hotspot, reference, text))
    (hfeatures : textFeatures host text = some features)
    (hdist : host.sha256.Distinguishes (hotspotTexts item hotspot.bboxWgs84 features)) :
    ExtractsExactly host batch item hotspot.bboxWgs84 features ↔
      (∀ f ∈ features, Convertible f) ∧ ∀ f ∈ features, ¬ CountsBoolean hotspot.bboxWgs84 f := by
  have hpositions : itemPositions host batch item = numberedPositions hotspot.bboxWgs84 features := by
    rw [itemPositions_of_read hread, hfeatures]
    rfl
  have hhotspot : item.hotspot = some hotspot := (hotspotSpatialProposals_of_read host hread).1
  have hsub : ∀ f position, sourcePosition hotspot.bboxWgs84 f = some position →
      hotspotPosition hotspot.bboxWgs84 f = some position :=
    fun f position h => (hotspotPosition_of_sourcePosition h).1
  have hplaces : ∀ positions : List (Nat × (ℚ × ℚ)), ∀ reference' : SpatialReferenceBundleV2,
      (positions.map fun entry => hotspotRecord host item hotspot reference' entry.1 entry.2).map placeOf
        = (positions.map Prod.snd).map projectedAt := by
    intro positions reference'
    rw [List.map_map, List.map_map]
    rfl
  have hcount : numberedPositions hotspot.bboxWgs84 features = [] ↔
      features.filterMap (hotspotPosition hotspot.bboxWgs84) = [] := by
    rw [← map_snd_numberedPositions, List.map_eq_nil_iff]
  constructor
  · rintro ⟨proposals, h, hsome, hnone, -⟩
    have hreadable := readable_of_answer h
    refine ⟨(hreadable _ hread).2 features hfeatures, ?_⟩
    obtain ⟨proposals', h', habstains, hrecords⟩ := exists_answer_of_readable hreadable
    obtain rfl : proposals' = proposals := Except.ok.inj (h'.symm.trans h)
    rw [hpositions] at habstains hrecords
    -- as many features count by the letter as count for the code
    have hlength : (features.filterMap (sourcePosition hotspot.bboxWgs84)).length
        = (features.filterMap (hotspotPosition hotspot.bboxWgs84)).length := by
      by_cases hcounting : numberedPositions hotspot.bboxWgs84 features = []
      · have hempty := hcount.mp hcounting
        have hsource : features.filterMap (sourcePosition hotspot.bboxWgs84) = [] := by
          rw [List.filterMap_eq_nil_iff] at hempty ⊢
          intro f hf
          cases hposition : sourcePosition hotspot.bboxWgs84 f with
          | none => rfl
          | some position =>
            have hcounts := hempty f hf
            rw [hsub f position hposition] at hcounts
            cases hcounts
        rw [hempty, hsource]
      · obtain ⟨hotspot', reference', hhotspot', -, rfl⟩ := hrecords hcounting
        obtain rfl : hotspot = hotspot' := Option.some.inj (hhotspot.symm.trans hhotspot')
        by_cases hsource : features.filterMap (sourcePosition hotspot.bboxWgs84) = []
        · obtain ⟨reason, code, heq⟩ := hnone hsource
          have hplace := congrArg (List.map placeOf) heq
          rw [hplaces, map_snd_numberedPositions] at hplace
          cases hlist : features.filterMap (hotspotPosition hotspot.bboxWgs84) with
          | nil => exact absurd (hcount.mpr hlist) hcounting
          | cons position rest =>
            rw [hlist] at hplace
            cases (Prod.mk.inj (List.head_eq_of_cons_eq hplace)).1
        · have heq := congrArg List.length (hsome hsource)
          rw [hplaces, map_snd_numberedPositions, List.length_map, List.length_map] at heq
          exact heq.symm
    intro f hf
    exact sourcePosition_eq_iff.mp (filterMap_eq_of_length hsub hlength f hf)
  · rintro ⟨hconvert, hbool⟩
    have hsource : features.filterMap (sourcePosition hotspot.bboxWgs84)
        = features.filterMap (hotspotPosition hotspot.bboxWgs84) :=
      List.filterMap_congr fun f hf => sourcePosition_eq_iff.mpr (hbool f hf)
    have hreadable : Readable host batch item := by
      intro read hmem
      obtain rfl : read = (hotspot, reference, text) := Option.some.inj (hmem.symm.trans hread)
      refine ⟨fun e he => ?_, fun features' hfeatures' => ?_⟩
      · -- a text that has features was parsed
        rw [textFeatures, he] at hfeatures
        cases hfeatures
      · obtain rfl : features' = features := Option.some.inj (hfeatures'.symm.trans hfeatures)
        exact hconvert
    obtain ⟨proposals, h, habstains, hrecords⟩ := exists_answer_of_readable hreadable
    rw [hpositions] at habstains hrecords
    refine ⟨proposals, h, ?_, ?_, ?_⟩
    · intro hne
      rw [hsource] at hne ⊢
      obtain ⟨hotspot', reference', hhotspot', -, rfl⟩ := hrecords fun hnil => hne (hcount.mp hnil)
      obtain rfl : hotspot = hotspot' := Option.some.inj (hhotspot.symm.trans hhotspot')
      rw [hplaces, map_snd_numberedPositions]
    · intro hnil
      rw [hsource] at hnil
      exact habstains (hcount.mpr hnil)
    · by_cases hcounting : numberedPositions hotspot.bboxWgs84 features = []
      · obtain ⟨reason, code, rfl⟩ := habstains hcounting
        exact List.nodup_singleton _
      · obtain ⟨hotspot', reference', hhotspot', -, rfl⟩ := hrecords hcounting
        obtain rfl : hotspot = hotspot' := Option.some.inj (hhotspot.symm.trans hhotspot')
        exact hotspotRecords_nodup hdist

end Exact

/-! ## Two collections -/

namespace Sample

/-- A feature collection of points, and its payload. -/
def collectionText (points : List (String × String)) : String :=
  "\x7b\"type\": \"FeatureCollection\", \"features\": [" ++ ", ".intercalate (points.map fun point =>
    "\x7b\"geometry\": \x7b\"type\": \"Point\", \"coordinates\": [" ++ point.1 ++ ", " ++ point.2 ++ "]\x7d\x7d")
    ++ "]\x7d"

def pointFeature (first second : JsonValue) : JsonValue :=
  .obj [("geometry", .obj [("type", .str "Point"), ("coordinates", .arr [first, second])])]

def collectionPayload (features : List JsonValue) : JsonValue :=
  .obj [("type", .str "FeatureCollection"), ("features", .arr features)]

def hotspot : HotspotMetadataV2 where
  acquiredAt := noon
  resolutionM := 375
  bboxWgs84 := ⟨0, 43, 6, 44⟩

def hotspotItem (text : String) : WorkerBatchItemV2 where
  inputId := "satellite-data-1"
  mediaType := .satelliteData
  workingFileUrl := some "https://media/satellite-data-1"
  provenance := provenance
  hotspot := some hotspot
  articleText := some text
  processable := rfl
  data_has_text := fun _ => rfl

def hotspotBatch (text : String) : WorkerInputV2 where
  batchId := "batch-3"
  batchType := .satelliteMedia
  analysisWindow := window
  referenceBundle := some reference
  items := [hotspotItem text]
  items_bounded := by simp
  input_ids_unique := List.nodup_singleton _
  frames_bounded := by simp [hotspotItem]
  satellite_apart := by
    intro item hitem
    obtain rfl := List.mem_singleton.mp hitem
    rfl

def hotspotDigests : Sha256 := .ofDigests
  [("satellite-data-1\x1fhotspot\x1f1", "ca9029f34550a23cc5a169938913e6b7520f0334225c668b6a69dd83dda0db32"),
    ("satellite-data-1\x1fhotspot\x1f2", "ac0205ae3b3a4db9beea9ef877ee0c712c1652ebf1dc16d1547f26f6e2eff459")]
  "e3b0c44298fc1c149afbf4c8996fb92427ae41e4649b934ca495991b7852b855" (by decide +kernel)

/-- A host whose parser knows one text. -/
def parsingHost (text : String) (payload : JsonValue) : Host :=
  { Host.ofSha256 hotspotDigests "2026-07-01T12:00:00+00:00" with
    jsonLoads := fun text' => if text' = text then .ok payload
      else .error (.raised "JSONDecodeError" "Expecting value") }

/-- A point in the extent, and one whose longitude has 310 digits. -/
def hugeText : String := collectionText [("5", "43.5"), ("1" ++ String.ofList (List.replicate 309 '0'), "43.5")]

def hugePayload : JsonValue :=
  collectionPayload [pointFeature (.int 5) (.ofRat (87 / 2)), pointFeature (.int (10 ^ 309)) (.ofRat (87 / 2))]

/-- A point in the extent, and one whose longitude is `true`. -/
def booleanText : String := collectionText [("5", "43.5"), ("true", "43.5")]

def booleanPayload : JsonValue :=
  collectionPayload [pointFeature (.int 5) (.ofRat (87 / 2)), pointFeature (.bool true) (.ofRat (87 / 2))]

end Sample

theorem textFeatures_parsingHost (text : String) (payload : JsonValue) :
    textFeatures (Sample.parsingHost text payload) text = (featureCollection payload).bind collectionFeatures := by
  have hload : (Sample.parsingHost text payload).jsonLoads text = .ok payload := if_pos rfl
  unfold textFeatures
  rw [hload]

/-- **One number too large** throws away the point beside it, and the exception leaves the function. -/
theorem hotspot_overflow_escapes :
    hotspotSpatialProposals (Sample.parsingHost Sample.hugeText Sample.hugePayload)
      (Sample.hotspotBatch Sample.hugeText) (Sample.hotspotItem Sample.hugeText)
        = .error (.raised "OverflowError" "int too large to convert to float") :=
  eq_error_of_raised? (by decide +kernel)

/-- The extraction from a collection with a boolean is judged by whether the boolean counts. -/
theorem hotspots_exact_iff_boolean :
    ExtractsExactly (Sample.parsingHost Sample.booleanText Sample.booleanPayload)
      (Sample.hotspotBatch Sample.booleanText) (Sample.hotspotItem Sample.booleanText) ⟨0, 43, 6, 44⟩
        [Sample.pointFeature (.int 5) (.ofRat (87 / 2)), Sample.pointFeature (.bool true) (.ofRat (87 / 2))] ↔
      (∀ f ∈ [Sample.pointFeature (.int 5) (.ofRat (87 / 2)), Sample.pointFeature (.bool true) (.ofRat (87 / 2))],
        Convertible f) ∧
      ∀ f ∈ [Sample.pointFeature (.int 5) (.ofRat (87 / 2)), Sample.pointFeature (.bool true) (.ofRat (87 / 2))],
        ¬ CountsBoolean ⟨0, 43, 6, 44⟩ f :=
  @hotspots_exact_iff _ _ _ Sample.hotspot Sample.reference _ _ rfl
    ((textFeatures_parsingHost _ _).trans rfl) (by decide +kernel)

/-- **`true` is read as one degree east**: two proposals where one feature is a point of numbers. -/
theorem hotspot_boolean_counted :
    ¬ ExtractsExactly (Sample.parsingHost Sample.booleanText Sample.booleanPayload)
      (Sample.hotspotBatch Sample.booleanText) (Sample.hotspotItem Sample.booleanText) ⟨0, 43, 6, 44⟩
        [Sample.pointFeature (.int 5) (.ofRat (87 / 2)), Sample.pointFeature (.bool true) (.ofRat (87 / 2))] := by
  have hsource : [Sample.pointFeature (.int 5) (.ofRat (87 / 2)),
      Sample.pointFeature (.bool true) (.ofRat (87 / 2))].filterMap (sourcePosition ⟨0, 43, 6, 44⟩)
        = [(5, 87 / 2)] := by decide +kernel
  have hcount : returns (hotspotSpatialProposals (Sample.parsingHost Sample.booleanText Sample.booleanPayload)
      (Sample.hotspotBatch Sample.booleanText) (Sample.hotspotItem Sample.booleanText))
        (fun proposals => proposals.length == 2) = true := by decide +kernel
  rintro ⟨proposals, h, hsome, -, -⟩
  rw [hsource] at hsome
  obtain ⟨proposals', h', hlength⟩ := exists_returned hcount
  obtain rfl : proposals' = proposals := Except.ok.inj (h'.symm.trans h)
  have hone := congrArg List.length (hsome (List.cons_ne_nil _ _))
  rw [List.length_map, eq_of_beq hlength] at hone
  cases hone

end V2Runner

end FireviewerOrchestrator
