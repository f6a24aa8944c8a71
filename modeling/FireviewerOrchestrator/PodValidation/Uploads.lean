/-
  What the validation server makes of one request and of its own environment, before any of it meets
  the state the threads share.

  `decodeAssetBundle` reads a bundle; `earlyReply`, `decodeUpload` and `getReply` are the parts of the
  request handlers between two looks at the shared state; `boot` is `main` up to the server.
-/
import FireviewerOrchestrator.Contracts.Numerals
import FireviewerOrchestrator.PodValidation.Assets

set_option linter.unusedVariables false

namespace FireviewerOrchestrator

namespace PodValidation

open Url

/-- Bytes by name. -/
abbrev Assets := Dict String (List UInt8)

def maxEncodedPayloadBytes : Nat := 1024 * 1024
def maxDecompressedPayloadBytes : Nat := 2 * 1024 * 1024
def maxEncodedAssetBundleBytes : Nat := 2 * 1024 * 1024
def maxDecompressedAssetBundleBytes : Nat := 24 * 1024 * 1024
def maxAssetBundleRawBytes : Nat := 16 * 1024 * 1024
def maxAssetBundleCount : Nat := 20

/-- The codecs of the host language, and the contract a payload is validated against. -/
structure Codecs extends HostText, NumeralTables where
  /-- `base64.b64decode(text, validate=True)`, or nothing where it raises. -/
  b64decode : String → Option (List UInt8)
  /-- The first bytes, at most so many, of a gzip archive, or nothing where reading it raises. -/
  gunzip : List UInt8 → Nat → Option (List UInt8)
  /-- `json.loads(raw)`; what is not JSON raises `JSONDecodeError`, what is not text something else. -/
  jsonLoads : List UInt8 → Except PyExc JsonValue
  sha256Hex : List UInt8 → String
  /-- `WorkerInput.model_validate(payload).model_dump(mode="json")`. -/
  validateWorkerInput : JsonFields → Except PyExc JsonFields

/-! ## Bundles -/

section Bundle

variable (codecs : Codecs)

/-- `_decode_gzip_base64`. -/
def decodeGzipBase64 (encoded label : String) (maxEncodedBytes maxDecompressedBytes : Nat) :
    Except PyExc (List UInt8) :=
  if encoded = "" then .error (podValidationError (label ++ " is absent"))
  else if !isAsciiText encoded then .error (podValidationError (label ++ " is not ASCII base64"))
  else if maxEncodedBytes < encoded.length then
    .error (podValidationError (label ++ " exceeds the encoded size cap"))
  else match (codecs.b64decode encoded).bind fun compressed =>
      codecs.gunzip compressed (maxDecompressedBytes + 1) with
    | none => .error (podValidationError (label ++ " is not valid gzip base64"))
    | some raw =>
        if maxDecompressedBytes < raw.length then
          .error (podValidationError (label ++ " exceeds the decompressed size cap"))
        else .ok raw

/-- `json.loads` of a labelled text. -/
def loadLabelled (label : String) (raw : List UInt8) : Except PyExc JsonValue :=
  match codecs.jsonLoads raw with
  | .error (.raised "JSONDecodeError" _) => .error (podValidationError (label ++ " is not valid JSON"))
  | result => result

/-- `decode_payload`. -/
def decodePayload (encoded : String) : Except PyExc JsonFields := do
  let raw ← decodeGzipBase64 codecs encoded "validation payload" maxEncodedPayloadBytes
    maxDecompressedPayloadBytes
  match ← loadLabelled codecs "validation payload" raw with
  | .obj payload => codecs.validateWorkerInput payload
  | _ => .error (podValidationError "validation payload must be a JSON object")

/-- `value == 1`. -/
def isOne : JsonValue → Bool
  | .bool value => value
  | .int value => value = 1
  | .float (.finite value) => value = 1
  | _ => false

/-- One round of the loop over the assets: the ones before, and the bytes they have together. -/
def addAsset (acc : Assets × Nat) (asset : String × JsonValue) : Except PyExc (Assets × Nat) := do
  let (name, descriptor) := asset
  if !isSafeAssetName name.toList then
    .error (podValidationError "validation asset bundle contains an unsafe asset name")
  else match descriptor with
    | .obj fields => match fields.lookup "sha256", fields.lookup "data_b64" with
      | some (.str digest), some (.str encodedValue) =>
          match codecs.b64decode encodedValue with
          | none => .error (podValidationError ("validation asset is not valid base64: " ++ name))
          | some value =>
              if maxAssetBundleRawBytes < acc.2 + value.length then
                .error (podValidationError "validation asset bundle exceeds the raw byte cap")
              else do
                let same ← compareDigest (codecs.sha256Hex value) digest
                if same then pure (acc.1.set name value, acc.2 + value.length)
                else .error (podValidationError ("validation asset digest mismatch: " ++ name))
      | _, _ => .error (podValidationError ("validation asset descriptor is incomplete: " ++ name))
    | _ => .error (podValidationError ("validation asset descriptor is invalid: " ++ name))

/-- `decode_asset_bundle`. -/
def decodeAssetBundle (encoded : String) : Except PyExc Assets := do
  let raw ← decodeGzipBase64 codecs encoded "validation asset bundle" maxEncodedAssetBundleBytes
    maxDecompressedAssetBundleBytes
  match ← loadLabelled codecs "validation asset bundle" raw with
  | .obj bundle =>
      if !(bundle.lookup "schema_version").any isOne then
        .error (podValidationError "validation asset bundle schema is unsupported")
      else match bundle.lookup "assets" with
        | some (.obj rawAssets) =>
            if 1 ≤ rawAssets.length ∧ rawAssets.length ≤ maxAssetBundleCount then do
              let (assets, _) ← rawAssets.foldlM (addAsset codecs) (Dict.empty, 0)
              pure assets
            else .error (podValidationError "validation asset bundle count is outside the allowed range")
        | _ => .error (podValidationError "validation asset bundle count is outside the allowed range")
  | _ => .error (podValidationError "validation asset bundle schema is unsupported")

end Bundle

/-! ## The server -/

/-- A server `main` started: its payload with the names it asks for, and the assets of its own
    environment, which are none or exactly those. -/
structure Booted where
  token : String
  payload : JsonFields
  assets : Assets
  required : Finset String
  assets_match : assets.keys = [] ∨ assets.keys.toFinset = required

/-- The texts of the environment that `main` reads. -/
structure BootTexts where
  token : String
  payload : String
  assets : String
  port : String

section Boot

variable (codecs : Codecs)

/-- `SystemExit(message)`. -/
def systemExit : PyExc := .exit "SystemExit"

/-- The assets at boot: none, or those of the bundle. -/
def bootAssets (encoded : String) : Except PyExc Assets :=
  if encoded = "" then pure Dict.empty else decodeAssetBundle codecs encoded

/-- `if assets and set(assets) != required_asset_names: raise …`. -/
def matchAssets (token : String) (payload : JsonFields) (assets : Assets) (required : Finset String) :
    Except PyExc Booted :=
  if h : assets.keys = [] ∨ assets.keys.toFinset = required then
    pure { token := token, payload := payload, assets := assets, required := required, assets_match := h }
  else .error (podValidationError "validation asset names do not match the payload")

/-- `if not …: raise SystemExit(…)`. -/
def orExit (condition : Bool) : Except PyExc Unit := if condition then .ok () else .error systemExit

/-- `main`, up to the server.  What it raises ends the process, whatever it is. -/
def boot (texts : BootTexts) : Except PyExc Booted := do
  orExit (32 ≤ texts.token.length)
  let payload ← decodePayload codecs texts.payload
  let assets ← bootAssets codecs texts.assets
  let required ← validationAssetNames codecs.toHostText payload
  let booted ← matchAssets texts.token payload assets required
  orExit ((Numerals.int? codecs.toNumeralTables texts.port).any fun port => 1024 ≤ port ∧ port ≤ 65535)
  pure booted

end Boot

/-! ## Replies -/

inductive HttpStatus where
  | ok | accepted | badRequest | unauthorized | notFound | conflict | lengthRequired
  | requestEntityTooLarge | internalServerError
  deriving DecidableEq, Repr

structure Reply where
  status : HttpStatus
  body : JsonFields

def Reply.error (status : HttpStatus) (message : String) : Reply where
  status := status
  body := [("error", .str message)]

/-- A request as its handler reads it.  The body is what the connection still delivers. -/
structure Request where
  authorization : String := ""
  path : String
  contentLength : String := ""
  body : List UInt8 := []

section Requests

variable (codecs : Codecs) (server : Booted)

/-- `_authorized`. -/
def authorized (r : Request) : Except PyExc Bool :=
  compareDigest r.authorization ("Bearer " ++ server.token)

/-- `urlsplit(self.path).path`. -/
def requestPath (r : Request) : Except PyExc (List Char) := do
  let parsed ← urlsplit codecs.toUrllib r.path.toList
  pure parsed.path

/-- What a `POST` is answered before anything is looked up. -/
def earlyReply (r : Request) : Except PyExc (Option Reply) := do
  if ← authorized server r then
    let path ← requestPath codecs r
    if path = "/assets".toList then pure none else pure (some (.error .notFound "not_found"))
  else pure (some (.error .unauthorized "unauthorized"))

/-- `asset_upload_not_available`. -/
def notAvailable : Reply := .error .conflict "asset_upload_not_available"

/-- `str.strip` on ASCII text. -/
def isStripped (c : Char) : Bool := Numerals.isAsciiSpace c || (28 ≤ c.toNat && c.toNat ≤ 31)

/-- The message of the `UnicodeDecodeError` of a body. -/
def undecodable (body : List UInt8) : String :=
  let ascii := body.takeWhile (· < 128)
  let byte := ((body.drop ascii.length).head?.map UInt8.toNat).getD 0
  "'ascii' codec can't decode byte 0x" ++ String.ofList (Nat.toDigits 16 byte) ++ " in position "
    ++ toString ascii.length ++ ": ordinal not in range(128)"

/-- `body.decode("ascii").strip()`. -/
def decodeBody (body : List UInt8) : Except PyExc String :=
  if body.all (· < 128) then
    let text := body.map fun byte => Char.ofNat byte.toNat
    pure (String.ofList ((text.dropWhile isStripped).reverse.dropWhile isStripped).reverse)
  else .error (.raised "UnicodeDecodeError" (undecodable body))

/-- The assets of a body, which are exactly those asked for. -/
def uploadedAssets (body : List UInt8) : Except PyExc Assets := do
  let encoded ← decodeBody body
  let assets ← decodeAssetBundle codecs encoded
  let expectedNames ← validationAssetNames codecs.toHostText server.payload
  if assets.keys.toFinset = expectedNames then pure assets
  else .error (podValidationError "validation asset names do not match the payload")

/-- What an upload is answered, or the assets it brings: the part of `do_POST` between its two looks at
    the shared state. -/
def decodeUpload (r : Request) : Except PyExc (Reply ⊕ Assets) :=
  match Numerals.int? codecs.toNumeralTables r.contentLength with
  | none => pure (.inl (.error .lengthRequired "content_length_required"))
  | some contentLength =>
      if 1 ≤ contentLength ∧ contentLength ≤ maxEncodedAssetBundleBytes + 2 then
        let body := r.body.take contentLength.toNat
        if (body.length : Int) = contentLength then
          match uploadedAssets codecs server body with
          | .ok assets => pure (.inr assets)
          | .error (.raised typeName message) =>
              if typeName = "PodValidationError" ∨ typeName = "UnicodeDecodeError" then
                pure (.inl (.error .badRequest message))
              else .error (.raised typeName message)
          | .error e => .error e
        else pure (.inl (.error .badRequest "incomplete_asset_upload"))
      else pure (.inl (.error .requestEntityTooLarge "asset_upload_too_large"))

/-- The last answer of `do_POST`. -/
def startReply (assets : Assets) (started : Bool) : Reply :=
  if started then
    { status := .accepted
      body := [("status", .str "accepted"), ("asset_count", .int assets.keys.length)] }
  else .error .conflict "asset_upload_already_consumed"

/-! ## What they say -/

/-- Only a start is answered `202`. -/
theorem earlyReply_ne_accepted {r : Request} {reply : Reply}
    (h : earlyReply codecs server r = .ok (some reply)) : reply.status ≠ .accepted := by
  obtain ⟨allowed, -, h⟩ := Fallible.bind_eq_ok.mp h
  split at h
  · obtain ⟨path, -, h⟩ := Fallible.bind_eq_ok.mp h
    split at h
    · cases Fallible.pure_eq_ok.mp h
    · obtain rfl := Option.some.inj (Fallible.pure_eq_ok.mp h)
      decide
  · obtain rfl := Option.some.inj (Fallible.pure_eq_ok.mp h)
    decide

theorem decodeUpload_ne_accepted {r : Request} {reply : Reply}
    (h : decodeUpload codecs server r = .ok (.inl reply)) : reply.status ≠ .accepted := by
  unfold decodeUpload at h
  split at h
  · obtain rfl := Sum.inl.inj (Fallible.pure_eq_ok.mp h)
    decide
  · split at h
    · dsimp only at h
      split at h
      · split at h
        · cases Fallible.pure_eq_ok.mp h
        · split at h
          · obtain rfl := Sum.inl.inj (Fallible.pure_eq_ok.mp h)
            intro hstatus
            cases hstatus
          · cases h
        · cases h
      · obtain rfl := Sum.inl.inj (Fallible.pure_eq_ok.mp h)
        decide
    · obtain rfl := Sum.inl.inj (Fallible.pure_eq_ok.mp h)
      decide

/-- What an upload brings is what the payload asks for. -/
theorem decodeUpload_exact {r : Request} {assets : Assets} {required : Finset String}
    (h : decodeUpload codecs server r = .ok (.inr assets))
    (hrequired : validationAssetNames codecs.toHostText server.payload = .ok required) :
    assets.keys.toFinset = required := by
  have huploaded : ∃ body, uploadedAssets codecs server body = .ok assets := by
    unfold decodeUpload at h
    split at h
    · cases Fallible.pure_eq_ok.mp h
    · split at h
      · dsimp only at h
        split at h
        · split at h
          · rename_i found hfound
            obtain rfl := Sum.inr.inj (Fallible.pure_eq_ok.mp h)
            exact ⟨_, hfound⟩
          · split at h
            · cases Fallible.pure_eq_ok.mp h
            · cases h
          · cases h
        · cases Fallible.pure_eq_ok.mp h
      · cases Fallible.pure_eq_ok.mp h
  obtain ⟨body, huploaded⟩ := huploaded
  obtain ⟨encoded, -, huploaded⟩ := Fallible.bind_eq_ok.mp huploaded
  obtain ⟨found, -, huploaded⟩ := Fallible.bind_eq_ok.mp huploaded
  obtain ⟨names, hnames, huploaded⟩ := Fallible.bind_eq_ok.mp huploaded
  rw [hrequired] at hnames
  obtain rfl := Except.ok.inj hnames
  obtain ⟨hsame, hassets⟩ := Fallible.ite_eq_ok.mp huploaded
  obtain rfl := Fallible.pure_eq_ok.mp hassets
  exact hsame

/-- A server that booted knows the names its payload asks for. -/
theorem boot_ok {texts : BootTexts} (h : boot codecs texts = .ok server) :
    validationAssetNames codecs.toHostText server.payload = .ok server.required := by
  obtain ⟨-, h⟩ := Fallible.check_bind_eq_ok.mp h
  obtain ⟨payload, -, h⟩ := Fallible.bind_eq_ok.mp h
  obtain ⟨assets, -, h⟩ := Fallible.bind_eq_ok.mp h
  obtain ⟨required, hrequired, h⟩ := Fallible.bind_eq_ok.mp h
  obtain ⟨booted, hbooted, h⟩ := Fallible.bind_eq_ok.mp h
  obtain ⟨-, h⟩ := Fallible.check_bind_eq_ok.mp h
  obtain rfl := Fallible.pure_eq_ok.mp h
  unfold matchAssets at hbooted
  split at hbooted
  · obtain rfl := Fallible.pure_eq_ok.mp hbooted
    exact hrequired
  · cases hbooted

end Requests

end PodValidation

end FireviewerOrchestrator
