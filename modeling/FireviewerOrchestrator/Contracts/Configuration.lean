/-
  What the environment of a worker configures: its settings, and the models that are pinned.

  Both are read again for every job.  The settings carry their bounds; a number that cannot be read at
  all is no `ConfigurationError` (`fromEnvironment_raises_iff`).  The models are refused with a
  `RegistryError` and nothing else, and the groups made of accepted ones always validate.
-/
import FireviewerOrchestrator.Contracts.Numerals
import FireviewerOrchestrator.Contracts.Registry
import FireviewerOrchestrator.Contracts.Url
import FireviewerOrchestrator.Library.Dict
import FireviewerOrchestrator.Library.Fallible

set_option linter.unusedVariables false

namespace FireviewerOrchestrator

/-! ## The exceptions of a job -/

/-- An exception as the job handler tells them apart: two classes of its own, and the others. -/
inductive JobExc where
  | configurationError (message : String)
  | researchServiceError (code detail : String)
  | py (e : PyExc)
  deriving DecidableEq, Repr

namespace PyExc

/-- `type(exc).__name__`. -/
def typeName : PyExc → String
  | modelOutputError _ => "ModelOutputError"
  | outputValidationError _ => "OutputValidationError"
  | validationError _ _ => "ValidationError"
  | registryError _ => "RegistryError"
  | raised typeName _ | exit typeName => typeName

/-- `str(exc)`. -/
def text : PyExc → String
  | modelOutputError message | outputValidationError message | validationError _ message
  | registryError message | raised _ message => message
  | exit _ => ""

end PyExc

namespace JobExc

def typeName : JobExc → String
  | configurationError _ => "ConfigurationError"
  | researchServiceError _ _ => "ResearchServiceError"
  | py e => e.typeName

def text : JobExc → String
  | configurationError message => message
  | researchServiceError _ detail => detail
  | py e => e.text

/-- `except Exception`. -/
def isException : JobExc → Bool
  | py e => e.isException
  | _ => true

def IsValidation (e : JobExc) : Prop := ∃ model message, e = .py (.validationError model message)

end JobExc

/-! ## Variables -/

/-- The tables of the host's text functions. -/
structure TextTables extends Urllib, NumeralTables

def TextTables.ascii : TextTables where
  toUrllib := .ascii
  toNumeralTables := .ascii

/-- The variables of the environment, and the tables their texts are read with. -/
structure Variables extends TextTables where
  getenv : String → Option String

namespace Variables

variable (vars : Variables)

/-- `str.isspace` of one character. -/
def isSpaceChar (c : Char) : Bool :=
  if c.toNat < 128 then Numerals.isAsciiSpace c || (28 ≤ c.toNat && c.toNat ≤ 31) else vars.isSpace c

/-- `str.strip`. -/
def strip (text : List Char) : List Char :=
  ((text.dropWhile vars.isSpaceChar).reverse.dropWhile vars.isSpaceChar).reverse

/-- `os.getenv(name, default)`. -/
def getenvOr (name default : String) : String := (vars.getenv name).getD default

/-- The number a variable can be read as: `int(os.getenv(name, str(default)))`. -/
def integer? (name : String) (default : Int) : Option Int :=
  match vars.getenv name with
  | none => some default
  | some text => Numerals.int? vars.toNumeralTables text

def integer (name : String) (default : Int) : Except JobExc Int :=
  match vars.integer? name default with
  | some n => .ok n
  | none => .error (.py (.valueError "invalid literal for int() with base 10"))

end Variables

/-! ## Settings -/

structure WorkerSettings where
  allowedMediaHosts : List (List Char)
  hfCacheRoot : String
  maxDownloadBytes : Int
  maxMediaCacheBytes : Int
  hosts_nonempty : allowedMediaHosts ≠ []
  download_bounds : 1048576 ≤ maxDownloadBytes ∧ maxDownloadBytes ≤ 2147483648
  cache_bounds : maxDownloadBytes ≤ maxMediaCacheBytes ∧ maxMediaCacheBytes ≤ 8589934592

namespace WorkerSettings

def defaultDownloadBytes : Int := 512 * 1024 * 1024
def defaultCacheBytes : Int := 4 * 1024 ^ 3

section

variable (vars : Variables)

/-- The hosts of `FW_ALLOWED_MEDIA_HOSTS`. -/
def hosts : List (List Char) :=
  (((vars.getenvOr "FW_ALLOWED_MEDIA_HOSTS" "").toList.splitOn ',').filter fun host =>
    !(vars.strip host).isEmpty).map fun host => vars.lower (vars.strip host)

def downloadBytes? : Option Int := vars.integer? "FW_MAX_DOWNLOAD_BYTES" defaultDownloadBytes

def cacheBytes? : Option Int := vars.integer? "FW_MAX_MEDIA_CACHE_BYTES" defaultCacheBytes

/-- `WorkerSettings.from_environment`. -/
def fromEnvironment : Except JobExc WorkerSettings :=
  if hhosts : hosts vars = [] then .error (.configurationError "FW_ALLOWED_MEDIA_HOSTS is required")
  else match vars.integer "FW_MAX_DOWNLOAD_BYTES" defaultDownloadBytes with
    | .error e => .error e
    | .ok maxBytes =>
        if hdownload : 1048576 ≤ maxBytes ∧ maxBytes ≤ 2147483648 then
          match vars.integer "FW_MAX_MEDIA_CACHE_BYTES" defaultCacheBytes with
          | .error e => .error e
          | .ok maxCacheBytes =>
              if hcache : maxBytes ≤ maxCacheBytes ∧ maxCacheBytes ≤ 8589934592 then
                .ok
                  { allowedMediaHosts := hosts vars
                    hfCacheRoot := vars.getenvOr "FW_HF_CACHE_ROOT" "/runpod-volume/huggingface-cache/hub"
                    maxDownloadBytes := maxBytes
                    maxMediaCacheBytes := maxCacheBytes
                    hosts_nonempty := hhosts
                    download_bounds := hdownload
                    cache_bounds := hcache }
              else .error (.configurationError
                "FW_MAX_MEDIA_CACHE_BYTES must be at least FW_MAX_DOWNLOAD_BYTES and at most 8 GiB")
        else .error (.configurationError "FW_MAX_DOWNLOAD_BYTES must be between 1 MiB and 2 GiB")

/-- The numbers that are looked at can be read. -/
def Readable : Prop :=
  hosts vars = [] ∨ ∃ maxBytes, downloadBytes? vars = some maxBytes ∧
    (1048576 ≤ maxBytes ∧ maxBytes ≤ 2147483648 → (cacheBytes? vars).isSome = true)

end

variable {vars : Variables}

/-- A variable is read as a number, or raises a `ValueError`. -/
theorem integer_cases (vars : Variables) (name : String) (default : Int) :
    (vars.integer? name default = none ∧
      vars.integer name default = .error (.py (.valueError "invalid literal for int() with base 10"))) ∨
    ∃ n, vars.integer? name default = some n ∧ vars.integer name default = .ok n := by
  unfold Variables.integer
  cases vars.integer? name default with
  | none => exact Or.inl ⟨rfl, rfl⟩
  | some n => exact Or.inr ⟨n, rfl, rfl⟩

/-- **Unreadable numbers are not configuration errors.**  The settings are refused with a
    `ConfigurationError`, unless a number cannot be read. -/
theorem fromEnvironment_raises_iff :
    (∀ e, fromEnvironment vars = .error e → ∃ message, e = .configurationError message) ↔ Readable vars := by
  unfold fromEnvironment Readable downloadBytes? cacheBytes?
  by_cases hhosts : hosts vars = []
  · rw [dif_pos hhosts]
    simp [hhosts]
  · rw [dif_neg hhosts]
    simp only [hhosts, false_or]
    rcases integer_cases vars "FW_MAX_DOWNLOAD_BYTES" defaultDownloadBytes with
      ⟨hnone, herror⟩ | ⟨maxBytes, hsome, hok⟩
    · rw [hnone, herror]
      simp
    · rw [hsome, hok]
      by_cases hdownload : 1048576 ≤ maxBytes ∧ maxBytes ≤ 2147483648
      · rcases integer_cases vars "FW_MAX_MEDIA_CACHE_BYTES" defaultCacheBytes with
          ⟨hnone, herror⟩ | ⟨maxCacheBytes, hsome, hok⟩
        · simp [hnone, herror, hdownload]
        · simp only [hsome, hok, dif_pos hdownload]
          split <;> simp
      · -- the cache's number is not looked at
        simp only [dif_neg hdownload]
        constructor
        · exact fun _ => ⟨maxBytes, rfl, fun h => absurd h hdownload⟩
        · rintro - e ⟨⟩
          exact ⟨_, rfl⟩

end WorkerSettings

/-! ## The pinned models -/

/-- What the registry asks of the files of a checkpoint. -/
structure FileSystem where
  /-- `str(Path(text))`. -/
  pathText : String → String
  pathExists : String → Bool
  isDir : String → Bool
  isFile : String → Bool
  /-- The SHA-256 digest of a file, in hexadecimal. -/
  digest : String → String

namespace Models

def sourceResearch : ModelSpec where
  role := .sourceResearch
  modelId := "Qwen/Qwen3-14B"
  revision := "40c069824f4251a91eefaf281ebe4c544efd3e18"

def asr : ModelSpec where
  role := .asr
  modelId := "openai/whisper-large-v3-turbo"
  revision := "41f01f3fe87f28c78e2fbf8b568835947dd65ed9"

def visualGrounding : ModelSpec where
  role := .visualGrounding
  modelId := "florence-community/Florence-2-large-ft"
  revision := "26b734a54fdfbf9c398351eedfabb7f27fc470b7"

def multimodalExtraction : ModelSpec where
  role := .multimodalExtraction
  modelId := "Qwen/Qwen3.5-9B"
  revision := "c202236235762e1c871ad0ccb60c8ee5ba337b9a"

def burnedArea : ModelSpec where
  role := .burnedArea
  modelId := "ibm-nasa-geospatial/Prithvi-EO-2.0-300M-BurnScars"
  revision := "a3f2c410e45b8ac7417976614528a872f024d831"

/-- `DFINE_FIREVIEWER`. -/
def dfine : ModelSpec where
  role := .fireDetection
  modelId := "ustc-community/dfine-xlarge-coco"
  revision := "ea4f6be7350bbe3c199ec6febc74168346cb5a68"

/-- `RTDETR_FIREVIEWER`. -/
def rtdetr : ModelSpec where
  role := .fireDetection
  modelId := "fireviewer/rtdetr-v2-r50-fire-smoke"
  revision := "27ca0bcdebdb1b9b860932fc4935513a5dfc7652"

def consensusJudge : ModelSpec where
  role := .consensusJudge
  modelId := "prism-ml/Ternary-Bonsai-2-27B-gguf"
  revision := "6ed5e12bf84b7a63069882c91dd9e9218647d17b"

section

variable (vars : Variables)

/-- `value.strip().lower() in {"1", "true", "yes", "on"}`. -/
def isOn (value : String) : Bool :=
  ["1".toList, "true".toList, "yes".toList, "on".toList].contains (vars.lower (vars.strip value.toList))

/-- `detector_ensemble_enabled`. -/
def detectorEnsembleEnabled : Bool :=
  isOn vars ((vars.getenv "FW_ENABLE_FIRE_DETECTOR_ENSEMBLE").getD
    (vars.getenvOr "FW_ENABLE_RTDETR_BASELINE" "false"))

/-- `consensus_judge_enabled`. -/
def consensusJudgeEnabled : Bool := isOn vars (vars.getenvOr "FW_ENABLE_CONSENSUS_JUDGE" "false")

/-- `enabled_public_models`. -/
def enabledPublicModels : List ModelSpec :=
  [sourceResearch, asr] ++ (if detectorEnsembleEnabled vars then [dfine, rtdetr] else [])
    ++ [visualGrounding, multimodalExtraction, burnedArea]
    ++ if consensusJudgeEnabled vars then [consensusJudge] else []

abbrev Registry := Dict ModelRole ModelSpec

/-- `registry.setdefault(spec.role, spec)`. -/
def setDefault (registry : Registry) (spec : ModelSpec) : Registry :=
  if registry.contains spec.role then registry else registry.set spec.role spec

/-- The models that are pinned by their revision. -/
def publicRegistry : Registry := (enabledPublicModels vars).foldl setDefault Dict.empty

variable (files : FileSystem)

/-- `digest.removeprefix("sha256:")`. -/
def digestValue (digest : String) : String :=
  if digest.toList.take 7 = "sha256:".toList then String.ofList (digest.toList.drop 7) else digest

/-- The model of a local checkpoint. -/
def localModel (path digest : String) : Except PyExc ModelSpec := do
  refuseIf (!files.pathExists path) ("RT-DETR checkpoint does not exist: " ++ path)
  let weights := if files.isDir path then path ++ "/model.safetensors" else path
  refuseIf (!files.isFile weights) "RT-DETR directory must contain model.safetensors"
  refuseIf (files.digest weights ≠ digestValue digest) "RT-DETR checkpoint SHA-256 does not match configuration"
  let spec : ModelSpec :=
    { role := .fireDetection, modelId := path, revision := "sha256:" ++ digestValue digest, source := .localModel }
  spec.validate
  pure spec

/-- The registry with the local checkpoint, where one is configured. -/
def withCheckpoint (registry : Registry) : Except PyExc Registry :=
  match vars.getenvOr "FW_RTDETR_CHECKPOINT_PATH" "", vars.getenvOr "FW_RTDETR_CHECKPOINT_SHA256" "" with
  | "", "" => pure registry
  | checkpoint, digest => do
      refuseIf (checkpoint = "" || digest = "") "RT-DETR path and SHA-256 digest must be configured together"
      let spec ← localModel files (files.pathText checkpoint) digest
      pure (registry.set spec.role spec)

/-- `build_registry`. -/
def buildRegistry : Except PyExc Registry := do
  let registry ← withCheckpoint vars files (publicRegistry vars)
  registry.values.forM ModelSpec.validate
  pure registry

/-! ### Groups -/

/-- The group of both detectors, and the judge between them. -/
def detectorGroup (spec : ModelSpec) : ModelGroupSpec where
  role := .fireDetection
  candidates := [
    { candidateId := "fire_detection.dfine.primary", spec := dfine, rank := 1 },
    { candidateId := "fire_detection.rtdetr.challenger"
      spec := if spec.source = .localModel then spec else rtdetr
      rank := 2 }]
  strategy := .quorum
  minimumSuccessful := 2
  minimumAgreeing := 2
  agreementThreshold := 2 / 5
  disagreementDecision := .humanReview
  adjudicator := some
    { candidateId := "fire_detection.bonsai2_27b_ptq1.judge", spec := consensusJudge, rank := 3 }
  adjudicationConfidenceThreshold := 13 / 20

/-- The group of one model. -/
def singleGroup (role : ModelRole) (spec : ModelSpec) : ModelGroupSpec where
  role := role
  candidates := [{ candidateId := role.value ++ ".primary", spec := spec, rank := 1 }]

/-- The group of an entry of the registry.  Burned areas are no part of a session. -/
def groupOf (role : ModelRole) (spec : ModelSpec) : Option ModelGroupSpec :=
  if role = .burnedArea then none
  else if role = .fireDetection ∧ detectorEnsembleEnabled vars then some (detectorGroup spec)
  else some (singleGroup role spec)

/-- One round of the loop over the registry. -/
def addGroup (groups : Dict ModelRole ModelGroupSpec) (entry : ModelRole × ModelSpec) :
    Except PyExc (Dict ModelRole ModelGroupSpec) :=
  match groupOf vars entry.1 entry.2 with
  | none => pure groups
  | some group => do
      group.validate
      pure (groups.set entry.1 group)

/-- `build_model_group_registry`. -/
def buildModelGroupRegistry : Except PyExc (Dict ModelRole ModelGroupSpec) := do
  let registry ← buildRegistry vars files
  registry.entries.foldlM (addGroup vars) Dict.empty

end

/-! ### What they hold -/

section Registries

open Fallible

variable {vars : Variables} {files : FileSystem} {registry : Registry}

def IsRegistryError (e : PyExc) : Prop := ∃ message, e = .registryError message

theorem raisesOnly_refuseIf (condition : Bool) (message : String) :
    RaisesOnly IsRegistryError (refuseIf condition message) := by
  unfold refuseIf
  split
  · exact raisesOnly_error.mpr ⟨message, rfl⟩
  · exact raisesOnly_ok _

theorem raisesOnly_validate (spec : ModelSpec) : RaisesOnly IsRegistryError spec.validate :=
  (raisesOnly_refuseIf _ _).bind fun _ _ => raisesOnly_refuseIf _ _

theorem raisesOnly_localModel (path digest : String) :
    RaisesOnly IsRegistryError (localModel files path digest) := by
  refine (raisesOnly_refuseIf _ _).bind fun _ _ => (raisesOnly_refuseIf _ _).bind fun _ _ =>
    (raisesOnly_refuseIf _ _).bind fun _ _ => ?_
  exact (raisesOnly_validate _).bind fun _ _ => raisesOnly_ok _

/-- A local checkpoint takes the place of the fire detector. -/
theorem withCheckpoint_cases (vars : Variables) (files : FileSystem) (registry : Registry) :
    RaisesOnly IsRegistryError (withCheckpoint vars files registry) ∧
      ∀ found, withCheckpoint vars files registry = .ok found →
        found = registry ∨ ∃ spec, found = registry.set .fireDetection spec := by
  unfold withCheckpoint
  split
  · exact ⟨raisesOnly_ok _, fun found h => Or.inl (pure_eq_ok.mp h).symm⟩
  · constructor
    · exact (raisesOnly_refuseIf _ _).bind fun _ _ =>
        (raisesOnly_localModel _ _).bind fun _ _ => raisesOnly_ok _
    · intro found h
      obtain ⟨-, h⟩ := check_bind_eq_ok.mp h
      obtain ⟨spec, hspec, h⟩ := bind_eq_ok.mp h
      obtain ⟨-, hspec⟩ := check_bind_eq_ok.mp hspec
      obtain ⟨-, hspec⟩ := check_bind_eq_ok.mp hspec
      obtain ⟨-, hspec⟩ := check_bind_eq_ok.mp hspec
      obtain ⟨-, hspec⟩ := check_bind_eq_ok.mp hspec
      obtain rfl := pure_eq_ok.mp hspec
      exact Or.inr ⟨_, (pure_eq_ok.mp h).symm⟩

theorem raisesOnly_buildRegistry (vars : Variables) (files : FileSystem) :
    RaisesOnly IsRegistryError (buildRegistry vars files) :=
  (withCheckpoint_cases vars files _).1.bind fun _ _ =>
    (raisesOnly_forM fun spec _ => raisesOnly_validate spec).bind fun _ _ => raisesOnly_ok _

/-- Which models are pinned where, whatever is enabled. -/
theorem publicRegistry_get? (vars : Variables) : (publicRegistry vars).get? .firePointing = none ∧
    (publicRegistry vars).get? .sourceResearch = some sourceResearch ∧
    (publicRegistry vars).get? .burnedArea = some burnedArea := by
  unfold publicRegistry enabledPublicModels
  cases detectorEnsembleEnabled vars <;> cases consensusJudgeEnabled vars <;> decide

/-- **No fire-pointing model is ever pinned**, and the other two that the handler looks up always are. -/
theorem buildRegistry_get? (h : buildRegistry vars files = .ok registry) :
    registry.get? .firePointing = none ∧ registry.get? .sourceResearch = some sourceResearch ∧
      registry.get? .burnedArea = some burnedArea := by
  obtain ⟨found, hfound, h⟩ := bind_eq_ok.mp h
  obtain ⟨-, h⟩ := check_bind_eq_ok.mp h
  obtain rfl := pure_eq_ok.mp h
  obtain ⟨hpointing, hresearch, hburned⟩ := publicRegistry_get? vars
  rcases (withCheckpoint_cases vars files _).2 _ hfound with rfl | ⟨spec, rfl⟩
  · exact ⟨hpointing, hresearch, hburned⟩
  · simp only [Dict.get?_set]
    exact ⟨hpointing, hresearch, hburned⟩

/-- A group under its own role's key, which validates. -/
def GroupsValid (groups : Dict ModelRole ModelGroupSpec) : Prop :=
  ∀ entry ∈ groups.entries, entry.2.role = entry.1 ∧ entry.2.validate = .ok ()

theorem groupOf_role {role : ModelRole} {spec : ModelSpec} {group : ModelGroupSpec}
    (h : groupOf vars role spec = some group) : group.role = role := by
  unfold groupOf at h
  split at h
  · cases h
  · split at h
    · rename_i hdetector
      obtain rfl := Option.some.inj h
      exact hdetector.1.symm
    · obtain rfl := Option.some.inj h
      rfl

theorem raisesOnly_candidate (candidate : ModelCandidateSpec) :
    RaisesOnly IsRegistryError candidate.validate :=
  (raisesOnly_refuseIf _ _).bind fun _ _ => (raisesOnly_refuseIf _ _).bind fun _ _ => raisesOnly_validate _

theorem raisesOnly_validateAll : ∀ candidates : List ModelCandidateSpec,
    RaisesOnly IsRegistryError (validateAll candidates)
  | [] => raisesOnly_ok _
  | candidate :: rest => (raisesOnly_candidate candidate).bind fun _ _ => raisesOnly_validateAll rest

theorem raisesOnly_group (group : ModelGroupSpec) : RaisesOnly IsRegistryError group.validate := by
  have hadjudicator : RaisesOnly IsRegistryError group.validateAdjudicator := by
    unfold ModelGroupSpec.validateAdjudicator
    split
    · exact raisesOnly_ok _
    · exact (raisesOnly_refuseIf _ _).bind fun _ _ => (raisesOnly_refuseIf _ _).bind fun _ _ =>
        (raisesOnly_refuseIf _ _).bind fun _ _ => raisesOnly_candidate _
  unfold ModelGroupSpec.validate
  iterate 13 refine (raisesOnly_refuseIf _ _).bind fun _ _ => ?_
  exact hadjudicator.bind fun _ _ => raisesOnly_validateAll _

theorem addGroup_spec {groups : Dict ModelRole ModelGroupSpec} (hgroups : GroupsValid groups)
    (entry : ModelRole × ModelSpec) : RaisesOnly IsRegistryError (addGroup vars groups entry) ∧
      ∀ groups', addGroup vars groups entry = .ok groups' → GroupsValid groups' := by
  unfold addGroup
  split
  · refine ⟨raisesOnly_ok _, ?_⟩
    rintro groups' ⟨rfl⟩
    exact hgroups
  · rename_i group hgroup
    refine ⟨(raisesOnly_group group).bind fun _ _ => raisesOnly_ok _, ?_⟩
    intro groups' h
    obtain ⟨hvalid, h⟩ := check_bind_eq_ok.mp h
    obtain rfl := pure_eq_ok.mp h
    rintro ⟨role, other⟩ hmem
    have hget := Dict.get?_eq_some.mpr hmem
    rw [Dict.get?_set] at hget
    split at hget
    · rename_i hrole
      obtain rfl := Option.some.inj hget
      exact ⟨(groupOf_role hgroup).trans hrole.symm, hvalid⟩
    · exact hgroups _ (Dict.get?_eq_some.mp hget)

/-- **The groups of accepted models validate**, so a session can be made of them. -/
theorem buildModelGroupRegistry_spec (vars : Variables) (files : FileSystem) :
    RaisesOnly IsRegistryError (buildModelGroupRegistry vars files) ∧
      ∀ groups, buildModelGroupRegistry vars files = .ok groups → GroupsValid groups := by
  have hempty : GroupsValid Dict.empty := by
    intro entry hentry
    cases hentry
  have hloop : ∀ entries : List (ModelRole × ModelSpec),
      RaisesOnly IsRegistryError (entries.foldlM (addGroup vars) Dict.empty) ∧
        ∀ groups, entries.foldlM (addGroup vars) Dict.empty = .ok groups → GroupsValid groups := fun entries =>
    raisesOnly_foldlM (fun groups hgroups entry _ => addGroup_spec hgroups entry) hempty
  constructor
  · exact (raisesOnly_buildRegistry vars files).bind fun registry _ => (hloop registry.entries).1
  · intro groups h
    obtain ⟨registry, -, h⟩ := bind_eq_ok.mp h
    exact (hloop registry.entries).2 groups h

end Registries

end Models

end FireviewerOrchestrator
