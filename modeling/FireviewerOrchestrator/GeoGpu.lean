/-
  The service of the geographic models (`sagemaker_service.py`).

  For the burned-area model the payloads of a request become files, and the adapter gets at them by the
  URLs of the batch.  Two keys are at work.  A file's name is made of the input's identifier and of a
  part of the URL's suffix: names of different inputs differ, whatever the URLs are, since what is kept
  of a suffix has one dot, its first character (`fileName_inj`).  A path is looked up by the whole URL,
  and of inputs with one URL the last one's path is kept.  So every input is analysed on its own payload
  exactly when no URL is repeated (`on_own_payload_iff`).
-/
import FireviewerOrchestrator.Contracts.GeoGpu
import FireviewerOrchestrator.Contracts.Identifiers
import FireviewerOrchestrator.Contracts.Url
import FireviewerOrchestrator.Library.Dict
import FireviewerOrchestrator.Library.Fallible
import FireviewerOrchestrator.Library.Separated

set_option linter.unusedVariables false

namespace FireviewerOrchestrator

namespace GeoGpu

/-! ## The names of files -/

/-- `PurePosixPath(path).name`: the last part that is neither empty nor a dot. -/
def nameOf (path : List Char) : List Char :=
  ((path.splitOn '/').filter fun part => part ≠ [] ∧ part ≠ ['.']).getLast?.getD []

/-- `PurePosixPath(path).suffix`: the name from its last dot on, unless that is its first or its last
    character. -/
def suffixOf (path : List Char) : List Char :=
  match Url.rpartition '.' (nameOf path) with
  | (some (_ :: _), c :: cs) => '.' :: c :: cs
  | _ => []

/-- `suffix or ".tif"`. -/
def suffixOrTif (path : List Char) : List Char :=
  if suffixOf path = [] then ['.', 't', 'i', 'f'] else suffixOf path

/-- `f"{item.input_id}{suffix[:16]}"`. -/
def fileName (inputId : String) (path : List Char) : String :=
  String.ofList (inputId.toList ++ (suffixOrTif path).take 16)

/-- A part of a path has no separator. -/
theorem not_mem_of_mem_splitOn {c : Char} {text : List Char} : ∀ {part : List Char},
    part ∈ text.splitOn c → c ∉ part := by
  induction text with
  | nil =>
    intro part hpart
    rw [List.splitOn_nil, List.mem_singleton] at hpart
    rw [hpart]
    exact List.not_mem_nil
  | cons d ds ih =>
    intro part hpart
    rw [List.splitOn_cons_eq_if_modifyHead] at hpart
    split_ifs at hpart with hd
    · rcases List.mem_cons.mp hpart with rfl | hpart
      · exact List.not_mem_nil
      · exact ih hpart
    · cases hparts : ds.splitOn c with
      | nil => exact absurd hparts (List.splitOn_ne_nil c ds)
      | cons first rest =>
        rw [hparts, List.modifyHead_cons] at hpart
        rw [hparts] at ih
        rcases List.mem_cons.mp hpart with rfl | hpart
        · rw [List.mem_cons, not_or]
          refine ⟨fun heq => hd ?_, ih List.mem_cons_self⟩
          rw [heq, beq_self_eq_true]
        · exact ih (List.mem_cons_of_mem first hpart)

theorem slash_not_mem_nameOf (path : List Char) : '/' ∉ nameOf path := by
  unfold nameOf
  cases hlast : ((path.splitOn '/').filter fun part => part ≠ [] ∧ part ≠ ['.']).getLast? with
  | none => exact List.not_mem_nil
  | some part => exact not_mem_of_mem_splitOn (List.mem_of_mem_filter (List.mem_of_getLast? hlast))

/-- A suffix begins with its only dot. -/
theorem suffixOf_cases (path : List Char) :
    suffixOf path = [] ∨ ∃ cs, suffixOf path = '.' :: cs ∧ '.' ∉ cs ∧ '/' ∉ cs := by
  unfold suffixOf
  split
  · next before c cs hcut =>
    obtain ⟨hname, hfree⟩ := Url.rpartition_spec hcut
    have hslash := slash_not_mem_nameOf path
    rw [hname] at hslash
    exact Or.inr ⟨c :: cs, rfl, hfree, fun hmem => hslash (by simp [hmem])⟩
  · exact Or.inl rfl

/-- So does what is kept of it, or of what stands for it. -/
theorem keptSuffix (path : List Char) :
    ∃ cs, (suffixOrTif path).take 16 = '.' :: cs ∧ '.' ∉ cs ∧ '/' ∉ cs := by
  unfold suffixOrTif
  rcases suffixOf_cases path with hempty | ⟨cs, hsuffix, hdot, hslash⟩
  · rw [if_pos hempty]
    exact ⟨['t', 'i', 'f'], rfl, by decide, by decide⟩
  · rw [hsuffix, if_neg (List.cons_ne_nil _ _)]
    refine ⟨cs.take 15, rfl, ?_, ?_⟩
    · exact fun hmem => hdot (List.mem_of_mem_take hmem)
    · exact fun hmem => hslash (List.mem_of_mem_take hmem)

/-- A file stands in the directory itself: its name is one part. -/
theorem slash_not_mem_fileName {inputId : String} (hid : isSafeIdentifier inputId = true)
    (path : List Char) : '/' ∉ (fileName inputId path).toList := by
  obtain ⟨cs, hkept, -, hslash⟩ := keptSuffix path
  rw [fileName, String.toList_ofList, hkept, List.mem_append, List.mem_cons, not_or, not_or]
  refine ⟨fun hmem => ?_, by decide, hslash⟩
  have hkey := isKeyChar_of_isSafeIdentifier hid _ hmem
  exact absurd hkey (by decide)

/-- **Files of different inputs have different names**, whatever their URLs are. -/
theorem fileName_inj {inputId inputId' : String} {path path' : List Char}
    (h : fileName inputId path = fileName inputId' path') : inputId = inputId' := by
  obtain ⟨cs, hkept, hdot, -⟩ := keptSuffix path
  obtain ⟨cs', hkept', hdot', -⟩ := keptSuffix path'
  have hlist := congrArg String.toList h
  rw [fileName, fileName, String.toList_ofList, String.toList_ofList, hkept, hkept'] at hlist
  exact String.toList_inj.mp (Separated.append_cons_inj_last hdot hdot' hlist).1

/-! ## The workspace -/

/-- What the adapter finds while it runs: the local path of each URL, and the bytes of each file. -/
structure Workspace where
  pathsByUrl : Dict String String
  files : Dict String (List UInt8)

def Workspace.empty : Workspace := ⟨.empty, .empty⟩

/-- `_LocalPayloadFetcher.download`: the path that a URL stands for. -/
def Workspace.download (workspace : Workspace) (url : String) : Except PyExc String :=
  match workspace.pathsByUrl.get? url with
  | none => .error (.valueError "Prithvi requested an undeclared local payload")
  | some path =>
      if workspace.files.contains path then .ok path
      else .error (.valueError "Prithvi requested an undeclared local payload")

/-! ## The runtime -/

/-- What the adapter says of the inputs: lists of dumped records by input. -/
abbrev Findings := Dict String (List JsonValue)

structure PrithviAdapter where
  load : Except PyExc Unit
  infer : WorkerInputV2 → Except PyExc (Findings × Findings)
  unload : Except PyExc Unit

/-- `load`, `infer` and, whatever became of them, `unload`. -/
def PrithviAdapter.run (adapter : PrithviAdapter) (workerInput : WorkerInputV2) :
    Except PyExc (Findings × Findings) :=
  let inferred := do
    adapter.load
    adapter.infer workerInput
  match adapter.unload with
  | .error e => .error e
  | .ok () => inferred

structure GeoGpuRuntime where
  maxPayloadBytes : Nat := 256 * 1024 * 1024
  /-- The artifact of the models is in order, or `validate_model_artifact` raises. -/
  health : Except PyExc Unit
  /-- `base64.b64decode(text, validate=True)`, or nothing where it raises. -/
  b64decode : String → Option (List UInt8)
  sha256Hex : List UInt8 → String
  urllib : Urllib
  /-- The temporary directory of a request. -/
  directory : String
  newPrithvi : Workspace → Except PyExc PrithviAdapter
  invokeMegaloc : GeoGpuRequest → Dict String (List UInt8) → Except PyExc GeoGpuResponse

namespace GeoGpuRuntime

variable (runtime : GeoGpuRuntime)

/-- `_decode_payload(payload, max_bytes=max_payload_bytes)`. -/
def decodePayload (payload : EncodedPayload) : Except PyExc (List UInt8) :=
  match runtime.b64decode payload.contentBase64 with
  | none => .error (.valueError ("payload " ++ payload.inputId ++ " is not canonical base64"))
  | some decoded =>
      if decoded = [] ∨ runtime.maxPayloadBytes < decoded.length then
        .error (.valueError ("payload " ++ payload.inputId ++ " is outside the byte budget"))
      else if runtime.sha256Hex decoded ≠ payload.contentSha256 then
        .error (.valueError ("payload " ++ payload.inputId ++ " failed SHA-256 verification"))
      else .ok decoded

/-- The bytes of every payload, by the identifier of its input. -/
def decodePayloads (request : GeoGpuRequest) : Except PyExc (Dict String (List UInt8)) := do
  let decoded ← request.payloads.mapM fun payload => do
    let bytes ← runtime.decodePayload payload
    pure (payload.inputId, bytes)
  pure (.ofPairs decoded)

/-- `root / f"{item.input_id}{suffix[:16]}"`. -/
def filePath (inputId : String) (path : List Char) : String :=
  runtime.directory ++ ("/" ++ fileName inputId path)

/-- A file, and the URL it is written for. -/
structure StagedFile where
  url : String
  path : String
  bytes : List UInt8

/-- What is written for an item. -/
def stagedFile (decoded : Dict String (List UInt8)) (item : WorkerBatchItemV2) :
    Except PyExc StagedFile :=
  match item.workingFileUrl with
  | none => .error (.valueError "Prithvi worker item has no working_file_url")
  | some url => do
      let parsed ← Url.urlsplit runtime.urllib url.toList
      match decoded.get? item.inputId with
      | none => .error (.keyError item.inputId)
      | some bytes => pure ⟨url, runtime.filePath item.inputId parsed.path, bytes⟩

/-- `path.write_bytes(…)`, then `paths_by_url[…] = path`. -/
def write (workspace : Workspace) (file : StagedFile) : Workspace where
  pathsByUrl := workspace.pathsByUrl.set file.url file.path
  files := workspace.files.set file.path file.bytes

/-- The loop over the items. -/
def stage (decoded : Dict String (List UInt8)) (items : List WorkerBatchItemV2) :
    Except PyExc Workspace :=
  items.foldlM (fun workspace item => do
    let file ← runtime.stagedFile decoded item
    pure (write workspace file)) .empty

/-- `_invoke_prithvi`'s answer to what the adapter found. -/
def prithviResponse (request : GeoGpuRequest) (annotations proposals : Findings) : GeoGpuResponse :=
  let dumped (findings : Findings) : JsonValue :=
    .obj (findings.entries.map fun entry => (entry.1, .arr entry.2))
  let hasResult := annotations.values.any (!·.isEmpty) || proposals.values.any (!·.isEmpty)
  { requestId := request.requestId
    operation := request.operation
    status := if hasResult then .completed else .abstained
    modelId := "ibm-nasa-geospatial/Prithvi-EO-2.0-300M-BurnScars"
    modelRevision := prithviRevision
    result := [("annotations", dumped annotations), ("spatial_proposals", dumped proposals)]
    reasonCodes := if hasResult then [] else ["no_burned_area_proposal"] }

/-- The adapter is made, run on the batch and unloaded, while the workspace is there. -/
def analyse (request : GeoGpuRequest) (workspace : Workspace) (workerInput : WorkerInputV2) :
    Except PyExc GeoGpuResponse := do
  let adapter ← runtime.newPrithvi workspace
  let (annotations, proposals) ← adapter.run workerInput
  pure (prithviResponse request annotations proposals)

/-- `_invoke_prithvi`. -/
def invokePrithvi (request : GeoGpuRequest) (decoded : Dict String (List UInt8)) :
    Except PyExc GeoGpuResponse :=
  match request.workerInput with
  | none => .error (.valueError "Prithvi request lost its worker_input")
  | some workerInput => do
      let workspace ← runtime.stage decoded workerInput.items
      runtime.analyse request workspace workerInput

/-- `invoke`. -/
def invoke (request : GeoGpuRequest) : Except PyExc GeoGpuResponse := do
  runtime.health
  let decoded ← runtime.decodePayloads request
  if runtime.maxPayloadBytes < (decoded.values.map List.length).sum then
    .error (.valueError "request payloads exceed the aggregate byte budget")
  else match request.operation with
    | .megalocEncode => runtime.invokeMegaloc request decoded
    | .prithviBurnedArea => runtime.invokePrithvi request decoded

end GeoGpuRuntime

/-! ## The claim, and the condition -/

section OwnPayload

variable {runtime : GeoGpuRuntime} {request : GeoGpuRequest} {workspace : Workspace}

/-- `invoke` gets as far as the adapter, which is given this workspace. -/
structure Hands (runtime : GeoGpuRuntime) (request : GeoGpuRequest) (workspace : Workspace) : Prop where
  healthy : runtime.health = .ok ()
  prithvi : request.operation = .prithviBurnedArea
  staged : ∃ decoded input, runtime.decodePayloads request = .ok decoded ∧
    (decoded.values.map List.length).sum ≤ runtime.maxPayloadBytes ∧ request.workerInput = some input ∧
    runtime.stage decoded input.items = .ok workspace

/-- The bytes are those of the payload, and have the digest declared for it. -/
def Verified (runtime : GeoGpuRuntime) (payload : EncodedPayload) (bytes : List UInt8) : Prop :=
  runtime.b64decode payload.contentBase64 = some bytes ∧
    runtime.sha256Hex bytes = payload.contentSha256

/-- A download for the item ends at this path. -/
def Downloads (workspace : Workspace) (item : WorkerBatchItemV2) (path : String) : Prop :=
  ∃ url, item.workingFileUrl = some url ∧ workspace.download url = .ok path

/-- Every item's download is a file of the item's own verified payload, and no two items share a file. -/
structure OnOwnPayload (runtime : GeoGpuRuntime) (request : GeoGpuRequest) (workspace : Workspace) :
    Prop where
  own : ∀ input ∈ request.workerInput, ∀ item ∈ input.items, ∃ payload ∈ request.payloads,
    payload.inputId = item.inputId ∧ ∃ path bytes, Downloads workspace item path ∧
      workspace.files.get? path = some bytes ∧ Verified runtime payload bytes
  apart : ∀ input ∈ request.workerInput, input.items.Pairwise fun item item' =>
    ∀ path, Downloads workspace item path → ¬Downloads workspace item' path

/-- **The condition**: no two items have the same URL. -/
def DistinctUrls (request : GeoGpuRequest) : Prop :=
  ∀ input ∈ request.workerInput, (input.items.map WorkerBatchItemV2.workingFileUrl).Nodup

/-- What becomes of the request then is up to the adapter that is made with the workspace. -/
theorem invoke_of_hands (h : Hands runtime request workspace) :
    ∃ input, request.workerInput = some input ∧
      runtime.invoke request = runtime.analyse request workspace input := by
  obtain ⟨decoded, input, hdecoded, hbudget, hinput, hstage⟩ := h.staged
  refine ⟨input, hinput, ?_⟩
  rw [GeoGpuRuntime.invoke, h.healthy, Fallible.ok_bind, hdecoded, Fallible.ok_bind,
    if_neg (not_lt.mpr hbudget), h.prithvi]
  show runtime.invokePrithvi request decoded = _
  rw [GeoGpuRuntime.invokePrithvi, hinput]
  show (runtime.stage decoded input.items >>= _) = _
  rw [hstage, Fallible.ok_bind]

/-! ### Payloads -/

theorem decodePayload_eq_ok {payload : EncodedPayload} {bytes : List UInt8}
    (h : runtime.decodePayload payload = .ok bytes) : Verified runtime payload bytes := by
  unfold GeoGpuRuntime.decodePayload at h
  split at h
  · cases h
  · next decoded hdecoded =>
    split_ifs at h with hsize hdigest
    obtain rfl := Except.ok.inj h
    exact ⟨hdecoded, not_not.mp hdigest⟩

/-- The decoded bytes of a payload stand under its own input. -/
theorem get?_decodePayloads {decoded : Dict String (List UInt8)}
    (h : runtime.decodePayloads request = .ok decoded) {payload : EncodedPayload}
    (hpayload : payload ∈ request.payloads) :
    ∃ bytes, decoded.get? payload.inputId = some bytes ∧ Verified runtime payload bytes := by
  obtain ⟨pairs, hpairs, h⟩ := Fallible.bind_eq_ok.mp h
  obtain rfl := Fallible.pure_eq_ok.mp h
  have hrelated := Fallible.mapM_eq_ok.mp hpairs
  have hkeys : pairs.map Prod.fst = request.payloads.map EncodedPayload.inputId := by
    refine Fallible.map_eq_of_forall₂ hrelated fun payload pair hpair => ?_
    obtain ⟨bytes, -, hpair⟩ := Fallible.bind_eq_ok.mp hpair
    rw [← Fallible.pure_eq_ok.mp hpair]
  obtain ⟨pair, hmem, hpair⟩ := Fallible.exists_of_forall₂_left hrelated hpayload
  obtain ⟨bytes, hbytes, hpair⟩ := Fallible.bind_eq_ok.mp hpair
  obtain rfl := Fallible.pure_eq_ok.mp hpair
  refine ⟨bytes, ?_, decodePayload_eq_ok hbytes⟩
  have hnodup : (pairs.map Prod.fst).Nodup := hkeys ▸ request.payload_ids_unique
  rwa [Dict.get?_eq_some, Dict.entries_ofPairs hnodup]

/-- **The contract has a payload for every item**, and its bytes stand under the item's input. -/
theorem exists_payload {decoded : Dict String (List UInt8)} {input : WorkerInputV2} {item : WorkerBatchItemV2}
    (hdecoded : runtime.decodePayloads request = .ok decoded)
    (hprithvi : request.operation = .prithviBurnedArea) (hinput : request.workerInput = some input)
    (hitem : item ∈ input.items) : ∃ payload ∈ request.payloads, payload.inputId = item.inputId ∧
      ∃ bytes, decoded.get? item.inputId = some bytes ∧ Verified runtime payload bytes := by
  obtain ⟨input', hinput', hmatched, -⟩ := request.prithvi_matched hprithvi
  obtain rfl := Option.some.inj (hinput'.symm.trans hinput)
  have hid : item.inputId ∈ request.payloads.map EncodedPayload.inputId :=
    (hmatched item.inputId).mpr (List.mem_map_of_mem hitem)
  obtain ⟨payload, hpayload, hid⟩ := List.mem_map.mp hid
  obtain ⟨bytes, hbytes, hverified⟩ := get?_decodePayloads hdecoded hpayload
  exact ⟨payload, hpayload, hid, bytes, hid ▸ hbytes, hverified⟩

/-! ### Files -/

section Files

variable {decoded : Dict String (List UInt8)} {items : List WorkerBatchItemV2}

/-- What is written for an item: the bytes of its own input, to a path of its own. -/
structure Stages (runtime : GeoGpuRuntime) (decoded : Dict String (List UInt8)) (item : WorkerBatchItemV2)
    (file : GeoGpuRuntime.StagedFile) : Prop where
  url : item.workingFileUrl = some file.url
  path : ∃ path, file.path = runtime.filePath item.inputId path
  bytes : decoded.get? item.inputId = some file.bytes

theorem stagedFile_eq_ok {item : WorkerBatchItemV2} {file : GeoGpuRuntime.StagedFile}
    (h : runtime.stagedFile decoded item = .ok file) : Stages runtime decoded item file := by
  unfold GeoGpuRuntime.stagedFile at h
  split at h
  · cases h
  · next url hurl =>
    obtain ⟨parsed, -, h⟩ := Fallible.bind_eq_ok.mp h
    split at h
    · cases h
    · next bytes hbytes =>
      obtain rfl := Fallible.pure_eq_ok.mp h
      exact ⟨hurl, ⟨parsed.path, rfl⟩, hbytes⟩

theorem foldl_write (files : List GeoGpuRuntime.StagedFile) : ∀ workspace : Workspace,
    files.foldl GeoGpuRuntime.write workspace =
      { pathsByUrl := (files.map fun file => (file.url, file.path)).foldl (fun d e => d.set e.1 e.2)
          workspace.pathsByUrl
        files := (files.map fun file => (file.path, file.bytes)).foldl (fun d e => d.set e.1 e.2)
          workspace.files } := by
  induction files with
  | nil => exact fun workspace => rfl
  | cons file files ih =>
    intro workspace
    rw [List.foldl_cons, ih]
    rfl

/-- **The loop writes every item's file**, and keeps the paths by URL. -/
theorem exists_files (h : runtime.stage decoded items = .ok workspace) : ∃ files,
    List.Forall₂ (Stages runtime decoded) items files ∧
      workspace.pathsByUrl = .ofPairs (files.map fun file => (file.url, file.path)) ∧
      workspace.files = .ofPairs (files.map fun file => (file.path, file.bytes)) := by
  obtain ⟨files, hfiles, rfl⟩ := Fallible.foldlM_eq_ok.mp h
  refine ⟨files, (Fallible.mapM_eq_ok.mp hfiles).imp fun item file => stagedFile_eq_ok, ?_, ?_⟩
  · rw [foldl_write]
    rfl
  · rw [foldl_write]
    rfl

theorem filePath_inj {inputId inputId' : String} {path path' : List Char}
    (h : runtime.filePath inputId path = runtime.filePath inputId' path') : inputId = inputId' := by
  have hname : "/" ++ fileName inputId path = "/" ++ fileName inputId' path' := (String.append_right_inj _).mp h
  exact fileName_inj ((String.append_right_inj _).mp hname)

/-- **What a download for an item ends at**, where no URL is repeated: the path of the item's own file. -/
theorem downloads_iff (h : runtime.stage decoded items = .ok workspace)
    (hids : (items.map WorkerBatchItemV2.inputId).Nodup)
    (hurls : (items.map WorkerBatchItemV2.workingFileUrl).Nodup) {item : WorkerBatchItemV2}
    (hitem : item ∈ items) : ∃ path bytes,
      (∀ path', Downloads workspace item path' ↔ path' = runtime.filePath item.inputId path) ∧
      workspace.files.get? (runtime.filePath item.inputId path) = some bytes ∧
      decoded.get? item.inputId = some bytes := by
  obtain ⟨files, hstaged, hpaths, hwritten⟩ := exists_files h
  obtain ⟨file, hfile, hstages⟩ := Fallible.exists_of_forall₂_left hstaged hitem
  obtain ⟨path, hpath⟩ := hstages.path
  -- No path is written twice, and no URL is kept twice.
  have hpathsNodup : ((files.map fun file => (file.path, file.bytes)).map Prod.fst).Nodup := by
    rw [List.map_map]
    refine List.pairwise_map.mpr (Fallible.pairwise_of_forall₂ hstaged (List.pairwise_map.mp hids) ?_)
    intro x x' file file' hne hx hx' heq
    obtain ⟨path, hpath⟩ := hx.path
    obtain ⟨path', hpath'⟩ := hx'.path
    have hsame : runtime.filePath x.inputId path = runtime.filePath x'.inputId path' := by
      rw [← hpath, ← hpath']
      exact heq
    exact hne (filePath_inj hsame)
  have hurlsNodup : ((files.map fun file => (file.url, file.path)).map Prod.fst).Nodup := by
    rw [List.map_map]
    refine List.pairwise_map.mpr (Fallible.pairwise_of_forall₂ hstaged (List.pairwise_map.mp hurls) ?_)
    intro x x' file file' hne hx hx' heq
    rw [hx.url, hx'.url] at hne
    exact hne (congrArg some heq)
  have hlookup : workspace.pathsByUrl.get? file.url = some file.path := by
    rw [hpaths, Dict.get?_eq_some, Dict.entries_ofPairs hurlsNodup]
    exact List.mem_map_of_mem hfile
  have hread : workspace.files.get? file.path = some file.bytes := by
    rw [hwritten, Dict.get?_eq_some, Dict.entries_ofPairs hpathsNodup]
    exact List.mem_map_of_mem hfile
  have hdownload : workspace.download file.url = .ok file.path := by
    rw [Workspace.download, hlookup]
    exact if_pos (by rw [Dict.contains, hread, Option.isSome_some])
  refine ⟨path, file.bytes, fun path' => ?_, hpath ▸ hread, hstages.bytes⟩
  rw [← hpath]
  constructor
  · rintro ⟨url, hurl, hpath'⟩
    obtain rfl := Option.some.inj (hstages.url.symm.trans hurl)
    exact (Except.ok.inj (hdownload.symm.trans hpath')).symm
  · rintro rfl
    exact ⟨file.url, hstages.url, hdownload⟩

/-- An item is written as soon as its URL can be split and its input has a payload. -/
theorem exists_stagedFile_iff {item : WorkerBatchItemV2}
    (hdecoded : ∃ bytes, decoded.get? item.inputId = some bytes) :
    (∃ file, runtime.stagedFile decoded item = .ok file) ↔
      ∃ url parsed, item.workingFileUrl = some url ∧ Url.urlsplit runtime.urllib url.toList = .ok parsed := by
  obtain ⟨bytes, hbytes⟩ := hdecoded
  unfold GeoGpuRuntime.stagedFile
  cases item.workingFileUrl with
  | none =>
    constructor
    · rintro ⟨file, h⟩
      cases h
    · rintro ⟨url, parsed, h, -⟩
      cases h
  | some url =>
    constructor
    · rintro ⟨file, h⟩
      obtain ⟨parsed, hparsed, -⟩ := Fallible.bind_eq_ok.mp h
      exact ⟨url, parsed, rfl, hparsed⟩
    · rintro ⟨url', parsed, ⟨rfl⟩, hparsed⟩
      refine ⟨⟨url, runtime.filePath item.inputId parsed.path, bytes⟩, ?_⟩
      show (Url.urlsplit runtime.urllib url.toList >>= _) = _
      rw [hparsed, Fallible.ok_bind, hbytes]
      rfl

end Files

/-- **The adapter is reached** by every request of its kind whose payloads are verified and fit, and
    whose items all have a URL: what the contract says of the identifiers leaves no item without its
    bytes. -/
theorem exists_hands_iff : (∃ workspace, Hands runtime request workspace) ↔
    runtime.health = .ok () ∧ request.operation = .prithviBurnedArea ∧
      (∃ decoded, runtime.decodePayloads request = .ok decoded ∧
        (decoded.values.map List.length).sum ≤ runtime.maxPayloadBytes) ∧
      ∀ input ∈ request.workerInput, ∀ item ∈ input.items, ∃ url parsed,
        item.workingFileUrl = some url ∧ Url.urlsplit runtime.urllib url.toList = .ok parsed := by
  have hread : ∀ {decoded}, runtime.decodePayloads request = .ok decoded →
      request.operation = .prithviBurnedArea → ∀ input ∈ request.workerInput, ∀ item ∈ input.items,
        ∃ bytes, decoded.get? item.inputId = some bytes := by
    intro decoded hdecoded hprithvi input hinput item hitem
    obtain ⟨payload, -, -, bytes, hbytes, -⟩ := exists_payload hdecoded hprithvi hinput hitem
    exact ⟨bytes, hbytes⟩
  constructor
  · rintro ⟨workspace, h⟩
    obtain ⟨decoded, input, hdecoded, hbudget, hinput, hstage⟩ := h.staged
    refine ⟨h.healthy, h.prithvi, ⟨decoded, hdecoded, hbudget⟩, fun input' hinput' item hitem => ?_⟩
    obtain rfl := Option.some.inj (hinput.symm.trans hinput')
    obtain ⟨files, hfiles, -⟩ := Fallible.foldlM_eq_ok.mp hstage
    obtain ⟨file, -, hfile⟩ := Fallible.exists_of_mem_input hfiles hitem
    exact (exists_stagedFile_iff (hread hdecoded h.prithvi input hinput item hitem)).mp ⟨file, hfile⟩
  · rintro ⟨hhealthy, hprithvi, ⟨decoded, hdecoded, hbudget⟩, hurls⟩
    obtain ⟨input, hinput, -⟩ := request.prithvi_matched hprithvi
    have hfiles : ∃ files, input.items.mapM (runtime.stagedFile decoded) = .ok files := by
      refine Fallible.exists_mapM_iff.mpr fun item hitem => ?_
      exact (exists_stagedFile_iff (hread hdecoded hprithvi input hinput item hitem)).mpr
        (hurls input hinput item hitem)
    obtain ⟨files, hfiles⟩ := hfiles
    exact ⟨files.foldl GeoGpuRuntime.write .empty, hhealthy, hprithvi, decoded, input, hdecoded, hbudget,
      hinput, Fallible.foldlM_eq_ok.mpr ⟨files, hfiles, rfl⟩⟩

/-! ### The two directions -/

theorem on_own_payload_of_distinct (h : Hands runtime request workspace) (hdistinct : DistinctUrls request) :
    OnOwnPayload runtime request workspace := by
  obtain ⟨decoded, input, hdecoded, -, hinput, hstage⟩ := h.staged
  have hurls := hdistinct input hinput
  constructor
  · intro input' hinput' item hitem
    obtain rfl := Option.some.inj (hinput.symm.trans hinput')
    obtain ⟨path, bytes, hdownloads, hread, hbytes⟩ := downloads_iff hstage input.input_ids_unique hurls hitem
    obtain ⟨payload, hpayload, hid, bytes', hbytes', hverified⟩ :=
      exists_payload hdecoded h.prithvi hinput hitem
    obtain rfl := Option.some.inj (hbytes'.symm.trans hbytes)
    exact ⟨payload, hpayload, hid, _, bytes', (hdownloads _).mpr rfl, hread, hverified⟩
  · intro input' hinput'
    obtain rfl := Option.some.inj (hinput.symm.trans hinput')
    refine (List.pairwise_map.mp input.input_ids_unique).imp_of_mem ?_
    intro item item' hitem hitem' hne path hdownload hdownload'
    obtain ⟨own, -, hdownloads, -⟩ := downloads_iff hstage input.input_ids_unique hurls hitem
    obtain ⟨own', -, hdownloads', -⟩ := downloads_iff hstage input.input_ids_unique hurls hitem'
    rw [hdownloads] at hdownload
    rw [hdownloads', hdownload] at hdownload'
    exact hne (filePath_inj hdownload')

/-- Items of one URL share the file that it stands for. -/
theorem distinct_of_on_own_payload (h : OnOwnPayload runtime request workspace) : DistinctUrls request := by
  intro input hinput
  refine List.pairwise_map.mpr ((h.apart input hinput).imp_of_mem ?_)
  intro item item' hitem hitem' hapart heq
  obtain ⟨payload, -, -, path, bytes, hdownload, -⟩ := h.own input hinput item hitem
  obtain ⟨url, hurl, hpath⟩ := hdownload
  exact hapart path ⟨url, hurl, hpath⟩ ⟨url, heq ▸ hurl, hpath⟩

/-- **Every item is analysed on its own payload exactly when no two items have one URL**: while the
    adapter runs, downloads end at files of their own, with the bytes that were verified for the item. -/
theorem on_own_payload_iff (h : Hands runtime request workspace) :
    OnOwnPayload runtime request workspace ↔ DistinctUrls request :=
  ⟨distinct_of_on_own_payload, on_own_payload_of_distinct h⟩

end OwnPayload

/-! ## Two scenes -/

namespace Scenes

def noon : DateTime := { micros := 1782907200000000, aware := true }

def window : AnalysisWindowV2 where
  analysisId := "analysis-scenes"
  windowStartAt := { micros := 1782820800000000, aware := true }
  windowEndAt := noon
  localDate := { year := 2026, month := 7, day := 1 }

def satellite : SatelliteMetadataV2 where
  acquiredAt := noon
  crs := "EPSG:4326"
  rasterWidthPx := 1024
  rasterHeightPx := 1024
  geotransform := ⟨5, 1 / 1000, 0, 44, 0, -1 / 1000⟩
  resolutionM := 20

def scene (inputId url : String) (hid : isSafeIdentifier inputId = true) : WorkerBatchItemV2 :=
  .ofSatelliteImage inputId url (.ofKey "SENTINEL-2" .institutional (by decide)) satellite hid

/-- Two scenes, each with its URL. -/
def batch (url url' : String) : WorkerInputV2 where
  batchId := "batch-scenes"
  batchType := .satelliteMedia
  analysisWindow := window
  items := [scene "east" url (by decide), scene "west" url' (by decide)]
  items_bounded := by
    show 2 ≤ 32
    decide
  input_ids_unique := by
    show ["east", "west"].Nodup
    decide
  frames_bounded := by
    show 0 ≤ 256
    decide
  satellite_apart := by
    intro item hitem
    rcases List.mem_pair.mp hitem with rfl | rfl
    · rfl
    · rfl

def eastBytes : List UInt8 := [102, 105, 114, 115, 116]
def westBytes : List UInt8 := [115, 101, 99, 111, 110, 100]
def eastData : String := "Zmlyc3Q="
def westData : String := "c2Vjb25k"
def eastDigest : String := "a7937b64b8caa58f03721bb6bacf5c78cb235febe0e70b1b84cd99541461a08e"
def westDigest : String := "16367aacb67a4a017c8da8ab95682ccb390863780f7114dda0a0e0c55644c7c4"

def payloads : List EncodedPayload :=
  [{ inputId := "east", contentType := "image/tiff", contentSha256 := eastDigest, contentBase64 := eastData },
    { inputId := "west", contentType := "image/tiff", contentSha256 := westDigest, contentBase64 := westData }]

def request (url url' : String) : GeoGpuRequest where
  requestId := "request-1"
  operation := .prithviBurnedArea
  payloads := payloads
  workerInput := some (batch url url')
  prithvi_matched _ := ⟨batch url url', rfl, fun inputId => Iff.rfl, rfl⟩
  prithvi_geotiff _ := by decide

def silent : PrithviAdapter where
  load := .ok ()
  infer _ := .ok (.empty, .empty)
  unload := .ok ()

/-- A runtime that knows the two payloads. -/
def runtime : GeoGpuRuntime where
  health := .ok ()
  b64decode text := if text = eastData then some eastBytes else if text = westData then some westBytes else none
  sha256Hex bytes := if bytes = eastBytes then eastDigest else westDigest
  urllib := .ascii
  directory := "/tmp/fireviewer-prithvi-0"
  newPrithvi _ := .ok silent
  invokeMegaloc request decoded := .error (.runtimeError "")

def decoded : Dict String (List UInt8) := .ofPairs [("east", eastBytes), ("west", westBytes)]

def eastUrl : String := "https://media.internal/east.tif"
def westUrl : String := "https://media.internal/west.tif"

def staged (url url' : String) : Workspace :=
  GeoGpuRuntime.write (GeoGpuRuntime.write .empty ⟨url, "/tmp/fireviewer-prithvi-0/east.tif", eastBytes⟩)
    ⟨url', "/tmp/fireviewer-prithvi-0/west.tif", westBytes⟩

theorem decodePayloads_request (url url' : String) :
    runtime.decodePayloads (request url url') = .ok decoded := rfl

theorem stage_distinct : runtime.stage decoded (batch eastUrl westUrl).items = .ok (staged eastUrl westUrl) := rfl

theorem stage_shared : runtime.stage decoded (batch eastUrl eastUrl).items = .ok (staged eastUrl eastUrl) := rfl

theorem hands_request {url url' : String}
    (hstage : runtime.stage decoded (batch url url').items = .ok (staged url url')) :
    Hands runtime (request url url') (staged url url') where
  healthy := rfl
  prithvi := rfl
  staged := ⟨decoded, batch url url', decodePayloads_request url url', by decide, rfl, hstage⟩

end Scenes

/-- Two scenes with URLs of their own. -/
theorem on_own_payload_iff_distinct :
    OnOwnPayload Scenes.runtime (Scenes.request Scenes.eastUrl Scenes.westUrl)
      (Scenes.staged Scenes.eastUrl Scenes.westUrl) := by
  apply (on_own_payload_iff (Scenes.hands_request Scenes.stage_distinct)).mpr
  rintro input ⟨rfl⟩
  show [some Scenes.eastUrl, some Scenes.westUrl].Nodup
  decide

/-- **One URL for two scenes**: the eastern scene's download ends at the western scene's file. -/
theorem shared_url_mixes : Hands Scenes.runtime (Scenes.request Scenes.eastUrl Scenes.eastUrl)
      (Scenes.staged Scenes.eastUrl Scenes.eastUrl) ∧
    (∃ path, (Scenes.staged Scenes.eastUrl Scenes.eastUrl).download Scenes.eastUrl = .ok path ∧
      (Scenes.staged Scenes.eastUrl Scenes.eastUrl).files.get? path = some Scenes.westBytes) ∧
    ¬OnOwnPayload Scenes.runtime (Scenes.request Scenes.eastUrl Scenes.eastUrl)
      (Scenes.staged Scenes.eastUrl Scenes.eastUrl) := by
  refine ⟨Scenes.hands_request Scenes.stage_shared, ⟨"/tmp/fireviewer-prithvi-0/west.tif", rfl, rfl⟩, ?_⟩
  intro hown
  have hdistinct := distinct_of_on_own_payload hown (Scenes.batch Scenes.eastUrl Scenes.eastUrl) rfl
  have hnodup : ¬[some Scenes.eastUrl, some Scenes.eastUrl].Nodup := by decide
  exact hnodup hdistinct

end GeoGpu

end FireviewerOrchestrator
