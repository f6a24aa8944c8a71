/-
  `YoloCpuVisionProvider.detect`, from what the model returns to the detection result.

  The model is a neural network, and nothing is known of what it returns: boxes outside of the image, any
  number of labels, `NaN`.  What the provider makes of it is a result of the contract all the same
  (`detectionResult_wellFormed`), and the order in which the model lists its boxes makes no difference to it
  (`detectionResult_perm`).
-/
import FireviewerOrchestrator.Vision.EventVision
import Mathlib.Data.Prod.Lex

set_option linter.unusedVariables false

namespace FireviewerOrchestrator

namespace Yolo

open EventVision Fallible Ranking

/-! ## What the model returns -/

abbrev Box (α : Type) : Type := α × α × α × α

/-- One of the `results` of `predict`: the names of the labels, and three lists side by side. -/
structure YoloResult where
  names : Int → Option String
  boxes : List (Box FloatValue)
  scores : List FloatValue
  labels : List FloatValue

structure Row where
  box : Box FloatValue
  score : FloatValue
  label : FloatValue
  deriving DecidableEq

/-- `zip(boxes, scores, labels)`. -/
def YoloResult.rows (result : YoloResult) : List Row :=
  (result.boxes.zip (result.scores.zip result.labels)).map fun row => ⟨row.1, row.2.1, row.2.2⟩

/-- What `strict=True` says at the end of lists of these lengths. -/
def zipStrict (boxes scores labels : Nat) : Except PyExc Unit :=
  if scores < boxes ∧ scores ≤ labels then .error (.valueError "zip() argument 2 is shorter than argument 1")
  else if labels < boxes then .error (.valueError "zip() argument 3 is shorter than arguments 1-2")
  else if boxes < scores then .error (.valueError "zip() argument 2 is longer than argument 1")
  else if boxes < labels then .error (.valueError "zip() argument 3 is longer than arguments 1-2")
  else .ok ()

/-- The functions of the host's language: its tables, its digests, and its division of floats. -/
structure VisionHost extends TextTables where
  sha256 : Sha256
  /-- `str.casefold`. -/
  casefold : String → String
  divide : FloatValue → Nat → FloatValue

def modelId : String := "mfranzon/fire-smoke-yolov8"
def modelRevision : String := "f1c6426b069c1849cbf13b1ef5d2a260289286db"

/-! ## One box -/

/-- `int(value)`: towards zero. -/
def intOf : FloatValue → Except PyExc Int
  | .finite q => .ok (if 0 ≤ q then ⌊q⌋ else ⌈q⌉)
  | .nan => .error (.valueError "cannot convert float NaN to integer")
  | .posInf | .negInf => .error (.raised "OverflowError" "cannot convert float infinity to integer")

/-- `max(0.0, min(1.0, value))`.  A `NaN` is not below `1.0`, so `min` leaves `1.0` there. -/
def clamp : FloatValue → ℚ
  | .finite q => max 0 (min 1 q)
  | .posInf | .nan => 1
  | .negInf => 0

/-- Six digits behind the point: `f"{value:.6f}"`. -/
def sixDigits (q : ℚ) : String :=
  let n := (roundHalfEven (q * 1000000)).toNat
  toString (n / 1000000) ++ "." ++ String.ofList
    ([n / 100000, n / 10000, n / 1000, n / 100, n / 10, n].map fun part => Nat.digitChar (part % 10))

section Host

variable (host : VisionHost)

/-- `_mapped_class`. -/
def mappedClass (label : String) : Option DetectionClass :=
  let normalized := (host.casefold label).toList
  if "smoke".toList <:+: normalized then some .smoke
  else if "fire".toList <:+: normalized ∨ "flame".toList <:+: normalized then some .fire
  else none

/-- `float(value) / size`. -/
def ratio (value : FloatValue) (size : Nat) : Except PyExc FloatValue :=
  if size = 0 then .error (.raised "ZeroDivisionError" "float division by zero") else .ok (host.divide value size)

/-- The box in fractions of the image. -/
def unitBox (width height : Nat) (box : Box FloatValue) : Except PyExc (Box ℚ) := do
  let left ← ratio host box.1 width
  let top ← ratio host box.2.1 height
  let right ← ratio host box.2.2.1 width
  let bottom ← ratio host box.2.2.2 height
  pure (clamp left, clamp top, clamp right, clamp bottom)

def className : DetectionClass → String
  | .fire => "fire"
  | .smoke => "smoke"

def identityOf (mediaId : String) (detectionClass : DetectionClass) (box : Box ℚ) (score : ℚ) : String :=
  ":".intercalate
    [mediaId, className detectionClass, sixDigits box.1, sixDigits box.2.1, sixDigits box.2.2.1,
      sixDigits box.2.2.2, sixDigits score, modelRevision]

/-- The checks of `Detection`. -/
def detectionChecks (d : Detection) : List (Bool × String) :=
  [(isSafeIdentifier d.detectionId, "detection_id"), (0 ≤ d.score ∧ d.score ≤ 1, "score"),
    (1 ≤ d.prompt.length ∧ d.prompt.length ≤ 500, "prompt"),
    ((0 ≤ d.bbox.1 ∧ d.bbox.1 < d.bbox.2.2.1 ∧ d.bbox.2.2.1 ≤ 1) ∧
      0 ≤ d.bbox.2.1 ∧ d.bbox.2.1 < d.bbox.2.2.2 ∧ d.bbox.2.2.2 ≤ 1,
      "detection bbox must be an ordered normalized box")]

/-- `Detection(…)`. -/
def makeDetection (d : Detection) : Except PyExc Detection := do
  Pydantic.validate "Detection" (detectionChecks d)
  pure d

/-- `names[index]`. -/
def labelOf (names : Int → Option String) (index : Int) : Except PyExc String :=
  match names index with
  | some label => .ok label
  | none => .error (.keyError (toString index))

/-- One round of the loop.  `none` is a malformed box, or a label that is neither fire nor smoke. -/
def detectionOfRow (mediaId : String) (names : Int → Option String) (width height : Nat) (row : Row) :
    Except PyExc (Option Detection) := do
  let index ← intOf row.label
  let rawLabel ← labelOf names index
  match mappedClass host rawLabel with
  | none => pure none
  | some detectionClass =>
      let box ← unitBox host width height row.box
      if box.2.2.1 ≤ box.1 ∨ box.2.2.2 ≤ box.2.1 then pure none
      else do
        let d ← makeDetection
          { detectionId := "DET-" ++ host.sha256.shortDigest
              (identityOf mediaId detectionClass box (clamp row.score))
            detectionClass := detectionClass
            bbox := box
            score := clamp row.score
            prompt := rawLabel }
        pure (some d)

/-- `(-item.score, item.detection_id)`. -/
def rank (d : Detection) : ℚ ×ₗ String := toLex (-d.score, d.detectionId)

def statusOf (detections : List Detection) (malformed : Bool) : DetectionStatus :=
  match detections.any fun d => d.detectionClass = .fire, detections.any fun d => d.detectionClass = .smoke with
  | true, true => .fireAndSmoke
  | true, false => .fire
  | false, true => .smoke
  | false, false => if malformed then .uncertain else .none

/-- The status promises these classes. -/
def matchesClasses (status : DetectionStatus) (detections : List Detection) : Bool :=
  let fire := detections.any fun d => d.detectionClass = .fire
  let smoke := detections.any fun d => d.detectionClass = .smoke
  match status with
  | .fire => fire && !smoke
  | .smoke => smoke && !fire
  | .fireAndSmoke => fire && smoke
  | .none => !fire && !smoke
  | .uncertain => true

/-- The checks of `DetectionResultV1`. -/
def resultChecks (r : DetectionResult) : List (Bool × String) :=
  [(r.detections.length ≤ 512, "detections"),
    ((r.detections.map Detection.detectionId).Nodup, "detection identifiers must be unique"),
    (matchesClasses r.status r.detections, "detection status must match the returned detection classes"),
    (r.status = .uncertain → r.needsHumanReview = true, "uncertain detections require human review")]

/-- The result of what was found in each row. -/
def resultOf (mediaId : String) (found : List (Option Detection)) : DetectionResult where
  mediaId := mediaId
  detections := sortedBy rank (found.filterMap id)
  status := statusOf (sortedBy rank (found.filterMap id)) (found.any Option.isNone)
  needsHumanReview := true

/-- **What `detect` makes of the results** of `predict` for an image of this size. -/
def detectionResult (mediaId : String) (width height : Nat) (results : List YoloResult) :
    Except PyExc DetectionResult :=
  match results with
  | [result] => do
      let found ← result.rows.mapM (detectionOfRow host mediaId result.names width height)
      zipStrict result.boxes.length result.scores.length result.labels.length
      Pydantic.validate "DetectionResultV1" (resultChecks (resultOf mediaId found))
      pure (resultOf mediaId found)
  | _ => .error (.runtimeError "YOLO must return exactly one result per media item")

end Host

/-! ## The result is one of the contract -/

/-- A detection of the contract. -/
structure OrderedBox (d : Detection) : Prop where
  horizontal : 0 ≤ d.bbox.1 ∧ d.bbox.1 < d.bbox.2.2.1 ∧ d.bbox.2.2.1 ≤ 1
  vertical : 0 ≤ d.bbox.2.1 ∧ d.bbox.2.1 < d.bbox.2.2.2 ∧ d.bbox.2.2.2 ≤ 1
  score : 0 ≤ d.score ∧ d.score ≤ 1

/-- A result of the contract, with its detections in their order. -/
structure WellFormed (r : DetectionResult) : Prop where
  detections : ∀ d ∈ r.detections, OrderedBox d
  /-- The surest first; of two that are as sure, the one with the smaller identifier. -/
  ranked : r.detections.Pairwise fun d d' =>
    d'.score < d.score ∨ (d.score = d'.score ∧ d.detectionId < d'.detectionId)
  fire : (r.status = .fire ∨ r.status = .fireAndSmoke) ↔ ∃ d ∈ r.detections, d.detectionClass = .fire
  smoke : (r.status = .smoke ∨ r.status = .fireAndSmoke) ↔ ∃ d ∈ r.detections, d.detectionClass = .smoke
  reviewed : r.needsHumanReview = true

variable {host : VisionHost} {mediaId : String} {width height : Nat} {result : YoloResult} {out : DetectionResult}

theorem detectionResult_eq_ok : detectionResult host mediaId width height [result] = .ok out ↔
    ∃ found, result.rows.mapM (detectionOfRow host mediaId result.names width height) = .ok found ∧
      zipStrict result.boxes.length result.scores.length result.labels.length = .ok () ∧
      Pydantic.validate "DetectionResultV1" (resultChecks (resultOf mediaId found)) = .ok () ∧
      out = resultOf mediaId found := by
  show ((result.rows.mapM (detectionOfRow host mediaId result.names width height)) >>= _) = .ok out ↔ _
  rw [bind_eq_ok]
  refine exists_congr fun found => and_congr_right fun _ => ?_
  rw [check_bind_eq_ok, check_bind_eq_ok, pure_eq_ok]
  exact and_congr_right fun _ => and_congr_right fun _ => eq_comm

/-- What a row gives is a detection of the contract. -/
theorem detectionOfRow_ordered {names : Int → Option String} {row : Row} {d : Detection}
    (h : detectionOfRow host mediaId names width height row = .ok (some d)) : OrderedBox d := by
  unfold detectionOfRow at h
  obtain ⟨index, -, h⟩ := bind_eq_ok.mp h
  obtain ⟨rawLabel, -, h⟩ := bind_eq_ok.mp h
  split at h
  · cases h
  · obtain ⟨box, -, h⟩ := bind_eq_ok.mp h
    split at h
    · cases h
    · obtain ⟨d', hmake, h⟩ := bind_eq_ok.mp h
      obtain rfl := Option.some.inj (Except.ok.inj h)
      obtain ⟨hchecks, hd⟩ := check_bind_eq_ok.mp hmake
      obtain rfl := Except.ok.inj hd
      have hall := Pydantic.validate_eq_ok.mp hchecks
      have hbox := of_decide_eq_true (hall _ (List.mem_cons_of_mem _ (List.mem_cons_of_mem _
        (List.mem_cons_of_mem _ List.mem_cons_self))))
      have hscore := of_decide_eq_true (hall _ (List.mem_cons_of_mem _ List.mem_cons_self))
      exact ⟨hbox.1, hbox.2, hscore⟩

theorem statusOf_spec (detections : List Detection) (malformed : Bool) :
    ((statusOf detections malformed = .fire ∨ statusOf detections malformed = .fireAndSmoke) ↔
        ∃ d ∈ detections, d.detectionClass = .fire) ∧
      ((statusOf detections malformed = .smoke ∨ statusOf detections malformed = .fireAndSmoke) ↔
        ∃ d ∈ detections, d.detectionClass = .smoke) := by
  have hfire : (∃ d ∈ detections, d.detectionClass = .fire) ↔
      (detections.any fun d => d.detectionClass = .fire) = true := by simp
  have hsmoke : (∃ d ∈ detections, d.detectionClass = .smoke) ↔
      (detections.any fun d => d.detectionClass = .smoke) = true := by simp
  rw [hfire, hsmoke]
  unfold statusOf
  cases detections.any fun d => d.detectionClass = .fire <;>
    cases detections.any fun d => d.detectionClass = .smoke <;> cases malformed <;> decide

/-- **Whatever the model returns**, the provider raises or returns a well-formed result: boxes inside the
    image, scores between zero and one, the surest first, and the status says which classes are there. -/
theorem detectionResult_wellFormed {results : List YoloResult}
    (h : detectionResult host mediaId width height results = .ok out) : WellFormed out ∧ out.mediaId = mediaId := by
  unfold detectionResult at h
  split at h
  · rename_i result
    obtain ⟨found, hfound, -, hchecks, rfl⟩ := detectionResult_eq_ok.mp h
    refine ⟨⟨?_, ?_, ?_, ?_, rfl⟩, rfl⟩
    · intro d hd
      obtain ⟨entry, hentry, hsome⟩ := List.mem_filterMap.mp (mem_sortedBy.mp hd)
      obtain rfl : entry = some d := hsome
      obtain ⟨row, -, hrow⟩ := exists_of_mem_output hfound hentry
      exact detectionOfRow_ordered hrow
    · have hall := Pydantic.validate_eq_ok.mp hchecks
      have hnodup : ((sortedBy rank (found.filterMap id)).map Detection.detectionId).Nodup :=
        of_decide_eq_true (hall _ (List.mem_cons_of_mem _ List.mem_cons_self))
      have hsorted : (sortedBy rank (found.filterMap id)).Pairwise fun d d' => rank d ≤ rank d' :=
        pairwise_le_sortedBy
      have hdistinct := (List.pairwise_map.mp hnodup).and hsorted
      refine hdistinct.imp fun {d d'} hpair => ?_
      obtain ⟨hne, hle⟩ := hpair
      rcases Prod.Lex.toLex_le_toLex.mp hle with hlt | ⟨heq, hid⟩
      · exact Or.inl (neg_lt_neg_iff.mp hlt)
      · exact Or.inr ⟨neg_inj.mp heq, lt_of_le_of_ne hid hne⟩
    · exact (statusOf_spec _ _).1
    · exact (statusOf_spec _ _).2
  · cases h

/-! ## The order of the boxes -/

theorem zipStrict_eq_ok {boxes scores labels : Nat} :
    zipStrict boxes scores labels = .ok () ↔ boxes = scores ∧ boxes = labels := by
  unfold zipStrict
  constructor
  · intro h
    split at h
    · cases h
    · split at h
      · cases h
      · split at h
        · cases h
        · split at h
          · cases h
          · omega
  · rintro ⟨rfl, rfl⟩
    rw [if_neg (by omega), if_neg (by omega), if_neg (by omega), if_neg (by omega)]

theorem validate_resultChecks {r : DetectionResult} :
    Pydantic.validate "DetectionResultV1" (resultChecks r) = .ok () ↔
      r.detections.length ≤ 512 ∧ (r.detections.map Detection.detectionId).Nodup ∧
        matchesClasses r.status r.detections = true ∧ (r.status = .uncertain → r.needsHumanReview = true) := by
  rw [Pydantic.validate_eq_ok]
  simp only [resultChecks, List.forall_mem_cons, List.not_mem_nil, IsEmpty.forall_iff, implies_true,
    decide_eq_true_eq, and_true]

/-- **The order in which the model lists its boxes makes no difference.** -/
theorem detectionResult_perm {result' : YoloResult} (hnames : result'.names = result.names)
    (hrows : result'.rows.Perm result.rows) (hboxes : result'.boxes.length = result'.scores.length)
    (hlabels : result'.boxes.length = result'.labels.length)
    (h : detectionResult host mediaId width height [result] = .ok out) :
    detectionResult host mediaId width height [result'] = .ok out := by
  obtain ⟨found, hfound, -, hchecks, rfl⟩ := detectionResult_eq_ok.mp h
  obtain ⟨found', hfound', hperm⟩ : ∃ found',
      List.Forall₂ (fun row entry => detectionOfRow host mediaId result.names width height row = .ok entry)
        result'.rows found' ∧ found'.Perm found := List.perm_comp_forall₂ hrows (mapM_eq_ok.mp hfound)
  obtain ⟨-, hnodup, -, -⟩ := validate_resultChecks.mp hchecks
  -- the ranks differ, because the identifiers do
  have hranks : ((found.filterMap id).map rank).Nodup := by
    have hids : ((found.filterMap id).map Detection.detectionId).Nodup :=
      (sortedBy_perm.map Detection.detectionId).nodup_iff.mp hnodup
    exact List.Nodup.of_map (fun key : ℚ ×ₗ String => (ofLex key).2) (by rw [List.map_map]; exact hids)
  have hsame : resultOf mediaId found' = resultOf mediaId found := by
    have hsorted : sortedBy rank (found'.filterMap id) = sortedBy rank (found.filterMap id) :=
      (sortedBy_eq_of_perm hranks (hperm.symm.filterMap id)).symm
    have hany : found'.any Option.isNone = found.any Option.isNone := hperm.any_eq
    unfold resultOf
    rw [hsorted, hany]
  refine detectionResult_eq_ok.mpr ⟨found', ?_, zipStrict_eq_ok.mpr ⟨hboxes, hlabels⟩, ?_, hsame.symm⟩
  · rw [hnames]
    exact mapM_eq_ok.mpr hfound'
  · rw [hsame]
    exact hchecks

/-! ## A cloud with a fire under it

  The first score is `NaN`, the second box sticks out of the image, and the third label is neither. -/

section Sample

def visionDigests : Sha256 := .ofDigests
  [("photo-1:smoke:0.250000:0.000000:0.750000:0.500000:1.000000:f1c6426b069c1849cbf13b1ef5d2a260289286db",
      "462c6a381d8e223a1ccc286afef27e043779cca4e1540992a612c12ae092acaa"),
    ("photo-1:fire:0.000000:0.500000:1.000000:1.000000:0.500000:f1c6426b069c1849cbf13b1ef5d2a260289286db",
      "9985679bd31457e4337b6e4f8e20c93c7d4014d77fb4a61895e524f334e328de")]
  "e3b0c44298fc1c149afbf4c8996fb92427ae41e4649b934ca495991b7852b855" (by decide +kernel)

/-- A host that knows the ASCII characters and divides exactly. -/
def asciiVision : VisionHost where
  toTextTables := .ascii
  sha256 := visionDigests
  casefold text := String.ofList (text.toList.map Char.toLower)
  divide
    | .finite q, n => .finite (q / n)
    | value, _ => value

def cloudResult : YoloResult where
  names index := ["Smoke", "Open flame", "bird"][index.toNat]?
  boxes := [(.finite 2, .finite 0, .finite 6, .finite 3), (.finite (-5), .finite 3, .finite 11, .posInf),
    (.finite 0, .finite 0, .finite 1, .finite 1)]
  scores := [.nan, .finite (1 / 2), .finite (9 / 10)]
  labels := [.finite 0, .finite 1, .finite 2]

/-- The same, the other way round. -/
def turnedResult : YoloResult where
  names := cloudResult.names
  boxes := cloudResult.boxes.reverse
  scores := cloudResult.scores.reverse
  labels := cloudResult.labels.reverse

theorem exists_cloud : ∃ out, detectionResult asciiVision "photo-1" 8 6 [cloudResult] = .ok out ∧
    out.detections.map (·.score) = [1, 1 / 2] ∧ out.status = .fireAndSmoke := by
  have hshown : (detectionResult asciiVision "photo-1" 8 6 [cloudResult]).toOption.map
      (fun out => (out.detections.map (·.score), out.status)) = some ([1, 1 / 2], .fireAndSmoke) := by
    decide +kernel
  cases h : detectionResult asciiVision "photo-1" 8 6 [cloudResult] with
  | error e =>
    rw [h] at hshown
    cases hshown
  | ok out =>
    rw [h] at hshown
    obtain ⟨hscores, hstatus⟩ := Prod.mk.inj (Option.some.inj hshown)
    exact ⟨out, rfl, hscores, hstatus⟩

theorem detectionResult_wellFormed_cloud :
    ∃ out, detectionResult asciiVision "photo-1" 8 6 [cloudResult] = .ok out ∧ WellFormed out := by
  obtain ⟨out, hout, -, -⟩ := exists_cloud
  exact ⟨out, hout, (detectionResult_wellFormed hout).1⟩

theorem detectionResult_perm_cloud :
    ∃ out, detectionResult asciiVision "photo-1" 8 6 [cloudResult] = .ok out ∧
      detectionResult asciiVision "photo-1" 8 6 [turnedResult] = .ok out := by
  obtain ⟨out, hout, -, -⟩ := exists_cloud
  have hnames : turnedResult.names = cloudResult.names := rfl
  have hrows : turnedResult.rows.Perm cloudResult.rows := by decide +kernel
  exact ⟨out, hout, detectionResult_perm hnames hrows rfl rfl hout⟩

end Sample

end Yolo

end FireviewerOrchestrator
