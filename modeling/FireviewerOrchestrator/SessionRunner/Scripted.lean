/-
  Scripted worlds: environments in which every model's behaviour is written down beforehand.

  A `Script` says, by model id, what each call answers; time advances by one `tick` at every reading
  of the timer.  The memory manager never raises, the consensus functions are the ones the session
  runs.  `Script.contained` says when such an environment is one that fault isolation is stated for.
-/
import FireviewerOrchestrator.SessionRunner.Program

set_option linter.unusedVariables false

namespace FireviewerOrchestrator

open SessionRunner

/-- An exception, if there is one; else the value. -/
def reply {α : Type} (failure : Option PyExc) (value : α) : Except PyExc α :=
  match failure with
  | some e => .error e
  | none => .ok value

/-- The models' answers, by model id.  `infer` and `adjudicate` are also told whether they are asked
    for a correction. -/
structure Script where
  create : String → Option PyExc := fun _ => none
  createJudge : Option (String → Option PyExc) := some fun _ => none
  load : String → Option PyExc := fun _ => none
  infer : String → Bool → Except PyExc (Dict String ItemPatch) := fun _ _ => .ok .empty
  adjudicate : String → Bool → Except PyExc ConsensusJudgeVerdict :=
    fun _ _ => .error (.modelOutputError "no verdict")
  tick : ℚ := 0
  similarity : ℚ := 1

/-- The environment of a script; its world is the time, its adapters are model ids. -/
def Script.environment (script : Script) (models : ContractModels) (digest : JsonFields → String) :
    Environment ℚ String where
  factory :=
    { create := fun spec t => (reply (script.create spec.modelId) spec.modelId, t)
      createConsensusJudge := script.createJudge.map fun create spec t =>
        (reply (create spec.modelId) spec.modelId, t) }
  adapter :=
    { load := fun a t => (reply (script.load a) (), t)
      infer := fun a _ _ correction t => (script.infer a correction, t)
      adjudicate := fun a _ _ _ _ correction t => (script.adjudicate a correction, t) }
  memory :=
    { resetPeak := fun t => (.ok (), t)
      peakVramBytes := fun t => (.ok none, t)
      release := fun _ t => (.ok (), t)
      finalizeJob := fun t => (.ok (), t) }
  synchronizeCuda := fun t => (.ok (), t)
  utcNow := fun t => (⌊t * 1000000⌋, t)
  perfCounter := fun t => (t, t + script.tick)
  consensus := consensusFunctions fun _ _ _ => script.similarity
  models := models
  validateItemResult := fun _ _ => .ok ()
  jsonDigest := digest

/-- The validators of records that refuse nothing. -/
def acceptingModels : ContractModels where
  modelRun _ := .ok ()
  stageAttempt _ := .ok ()
  stageGate _ := .ok ()
  stageTrace _ := .ok ()
  candidateRun _ := .ok ()
  consensusResult _ := .ok ()
  workerOutput _ := .ok ()
  dumpTranscript t := .ok (Pydantic.dumpTranscript t)
  dumpRegion r := .ok (Pydantic.dumpRegion r)
  dumpSelection s := .ok (Pydantic.dumpSelection s)
  dumpObservation o := .ok (Pydantic.dumpObservation o)
  dumpLiteral l := .ok (Pydantic.dumpLiteral l)

theorem acceptingModels_accepting : acceptingModels.Accepting where
  modelRun _ := rfl
  stageAttempt _ := rfl
  stageGate _ := rfl
  stageTrace _ := rfl
  candidateRun _ := rfl
  consensusResult _ := rfl
  workerOutput _ := rfl
  dumpTranscript _ := ⟨_, rfl⟩
  dumpRegion _ := ⟨_, rfl⟩
  dumpSelection _ := ⟨_, rfl⟩
  dumpObservation _ := ⟨_, rfl⟩
  dumpLiteral _ := ⟨_, rfl⟩

/-- The exception, if it ended in one. -/
def raised? {ε α : Type} : Except ε α → Option ε
  | .ok _ => none
  | .error e => some e

theorem eq_error_of_raised? {ε α : Type} {r : Except ε α} {e : ε} (h : raised? r = some e) : r = .error e := by
  cases r with
  | ok a => cases h
  | error e' =>
    cases h
    rfl

theorem exists_ok {ε α : Type} {r : Except ε α} (h : r.isOk = true) : ∃ a, r = .ok a := by
  cases r with
  | ok a => exact ⟨a, rfl⟩
  | error e => cases h

/-- It ended in a value that passes the test. -/
def returns {ε α : Type} (r : Except ε α) (test : α → Bool) : Bool :=
  match r with
  | .ok a => test a
  | .error _ => false

theorem exists_returned {ε α : Type} {r : Except ε α} {test : α → Bool} (h : returns r test = true) :
    ∃ a, r = .ok a ∧ test a = true := by
  cases r with
  | ok a => exact ⟨a, rfl, h⟩
  | error e => cases h

namespace Script

variable {script : Script} {models : ContractModels} {digest : JsonFields → String}

/-- The script raises `Exception`s only. -/
structure RaisesExceptions (script : Script) : Prop where
  create : ∀ a e, script.create a = some e → e.isException = true
  createJudge : ∀ create ∈ script.createJudge, ∀ a e, create a = some e → e.isException = true
  load : ∀ a e, script.load a = some e → e.isException = true
  infer : ∀ a correction e, script.infer a correction = .error e → e.isException = true
  adjudicate : ∀ a correction e, script.adjudicate a correction = .error e → e.isException = true

theorem reply_eq_error {α : Type} {failure : Option PyExc} {value : α} {e : PyExc}
    (h : reply failure value = .error e) : failure = some e := by
  cases failure with
  | none => cases h
  | some e' =>
    cases h
    rfl

theorem reliable : (script.environment models digest).memory.Reliable where
  resetPeak e := by
    rintro ⟨t, h⟩
    cases h
  peakVramBytes e := by
    rintro ⟨t, h⟩
    cases h
  release a e := by
    rintro ⟨t, h⟩
    cases h
  finalizeJob e := by
    rintro ⟨t, h⟩
    cases h

/-- **A script of exceptions** is contained, with validators that refuse nothing. -/
theorem contained (h : script.RaisesExceptions) (hmodels : models.Accepting) :
    (script.environment models digest).Contained where
  memory := reliable
  consensus := consensusFunctions_total _
  models := hmodels
  create := by
    rintro spec e ⟨t, he⟩
    exact h.create _ e (reply_eq_error he)
  createJudge := by
    intro create hcreate spec e
    obtain ⟨create', hcreate', rfl⟩ := Option.map_eq_some_iff.mp hcreate
    rintro ⟨t, he⟩
    exact h.createJudge create' hcreate' _ e (reply_eq_error he)
  load := by
    rintro a e ⟨t, he⟩
    exact h.load _ e (reply_eq_error he)
  infer := by
    rintro a items accumulated correction e ⟨t, he⟩
    exact h.infer a correction e he
  adjudicate := by
    rintro a batch role candidates payload correction e ⟨t, he⟩
    exact h.adjudicate a correction e he
  synchronizeCuda := by
    rintro e ⟨t, he⟩
    cases he
  validateItemResult := by
    intro item result e he
    cases he

end Script

/-! ## A small session

  One video with sound and one frame; the speech recognizer, the fire detector and the extractor are
  configured, each as a single model, the visual grounder is not. -/

namespace Sample

def video : BatchItem where
  inputId := "video-1"
  mediaType := .video
  metadata := .unknown
  audioUrl := some "https://media/audio"
  frames := [{ frameId := "frame-1", timestampS := 0, workingFileUrl := "https://media/frame-1" }]

def batch : WorkerInput where
  batchId := "batch-1"
  items := [video]

/-- A digest of the right shape. -/
def digest (payload : JsonFields) : String :=
  "0000000000000000000000000000000000000000000000000000000000000000"

def model (role : ModelRole) : ModelSpec where
  role := role
  modelId := role.value
  revision := "0123456789abcdef0123456789abcdef01234567"

def registry : Dict ModelRole RegistryValue :=
  .ofPairs [(.asr, .spec (model .asr)), (.fireDetection, .spec (model .fireDetection)),
    (.multimodalExtraction, .spec (model .multimodalExtraction))]

/-- The constructor accepts this registry and the packaged contracts. -/
def runner : SessionRunner :=
  (SessionRunner.init registry 12 (loadStageContractRegistry "contracts")).toOption.get (by decide +kernel)

def smokeRegion : PixelRegion where
  regionId := "frame-1:det:0001"
  evidenceId := "frame-1"
  label := "smoke_visible"
  bboxNormalized := ⟨1 / 10, 1 / 10, 1 / 2, 1 / 2⟩
  task := .fireDetection
  modelScore := some (4 / 5)

def segment : TranscriptSegment where
  segmentId := "video-1:audio:0001"
  startS := 0
  endS := 1
  text := "fumée visible"

def observation : FactualObservation where
  type := "smoke_visible"
  evidenceKind := .frame
  evidenceId := "frame-1"
  regionId := some "frame-1:det:0001"
  description := "Une fumée est directement visible."
  certainty := .directlyVisible

/-- What a model says of the video when nothing goes wrong. -/
def patches (modelId : String) : Dict String ItemPatch :=
  if modelId = "asr" then .ofPairs [("video-1", { transcript := some { language := some "fr", segments := [segment] } })]
  else if modelId = "fire_detection" then .ofPairs [("video-1", { pixelRegions := some [smokeRegion] })]
  else if modelId = "multimodal_extraction" then
    .ofPairs [("video-1", { factualObservations := some [observation] })]
  else .empty

/-- Every model answers. -/
def allAnswer : Script where
  infer modelId _ := .ok (patches modelId)

/-- The speech recognizer raises; the others answer. -/
def asrFails : Script where
  infer modelId _ := if modelId = "asr" then .error (.runtimeError "planned failure") else .ok (patches modelId)

/-- The fire detector's adapter cannot be created; the others answer. -/
def detectorNotCreated : Script where
  create modelId := if modelId = "fire_detection" then some (.runtimeError "CUDA out of memory") else none
  infer modelId _ := .ok (patches modelId)

/-- Every model answers, but a thousand seconds pass between two readings of the timer. -/
def slow : Script where
  infer modelId _ := .ok (patches modelId)
  tick := 1000

/-- No model can be loaded. -/
def nothingLoads : Script where
  load _ := some (.runtimeError "planned failure")

/-- All four models. -/
def fullRegistry : Dict ModelRole RegistryValue :=
  .ofPairs [(.asr, .spec (model .asr)), (.fireDetection, .spec (model .fireDetection)),
    (.visualGrounding, .spec (model .visualGrounding)),
    (.multimodalExtraction, .spec (model .multimodalExtraction))]

/-- Contracts under which every stage can start from the inputs alone. -/
def inputContracts : StageContractRegistry where
  contracts := [.asrV1, .fireDetectionV1,
    { StageContract.visualGroundingV1 with
      requiredAll := [.visualInput]
      required_all_nodup := StageContract.fireDetectionV1.required_all_nodup },
    { StageContract.multimodalExtractionV1 with
      requiredAny := [.audioInput, .visualInput], required_any_nodup := by decide }]
  digest := "input-contracts"

def fullRunner : SessionRunner :=
  (SessionRunner.init fullRegistry 12 inputContracts).toOption.get (by decide +kernel)

theorem asrFails_contained : (asrFails.environment acceptingModels digest).Contained := by
  refine Script.contained ⟨?_, ?_, ?_, ?_, ?_⟩ acceptingModels_accepting
  · intro a e h
    cases h
  · rintro create hcreate a e h
    obtain rfl := Option.some.inj hcreate
    cases h
  · intro a e h
    cases h
  · intro a correction e h
    simp only [asrFails] at h
    split at h
    · cases h
      rfl
    · cases h
  · intro a correction e h
    cases h
    rfl

theorem detectorNotCreated_contained : (detectorNotCreated.environment acceptingModels digest).Contained := by
  refine Script.contained ⟨?_, ?_, ?_, ?_, ?_⟩ acceptingModels_accepting
  · intro a e h
    simp only [detectorNotCreated] at h
    split at h
    · cases h
      rfl
    · cases h
  · rintro create hcreate a e h
    obtain rfl := Option.some.inj hcreate
    cases h
  · intro a e h
    cases h
  · intro a correction e h
    cases h
  · intro a correction e h
    cases h
    rfl

end Sample

end FireviewerOrchestrator
