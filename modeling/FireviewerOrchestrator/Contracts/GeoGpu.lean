/-
  The contract of the geographic models: what the service is asked, and what it answers.

  A request carries its payloads encoded, each under the identifier of an input.  Identifiers are not
  repeated; the burned-area model also gets the batch that the payloads are for, input by input.  Of the
  URLs of that batch the contract says nothing.
-/
import FireviewerOrchestrator.Contracts.InputV2

set_option linter.unusedVariables false

namespace FireviewerOrchestrator

def prithviRevision : String := "a3f2c410e45b8ac7417976614528a872f024d831"

structure EncodedPayload where
  inputId : String
  contentType : String
  contentSha256 : String
  contentBase64 : String
  input_id_safe : isSafeIdentifier inputId = true := by decide
  content_type_bounds : 3 ≤ contentType.length ∧ contentType.length ≤ 128 := by decide
  digest_is_sha256 : Pydantic.isSha256 contentSha256 = true := by decide
  base64_bounds : 4 ≤ contentBase64.length ∧ contentBase64.length ≤ 360000000 := by decide

inductive GeoOperation where
  | megalocEncode | prithviBurnedArea
  deriving DecidableEq, Repr

/-- `payload.content_type.startswith("image/")`. -/
def EncodedPayload.isImage (payload : EncodedPayload) : Bool :=
  "image/".toList.isPrefixOf payload.contentType.toList

structure GeoGpuRequest where
  requestId : String
  operation : GeoOperation
  payloads : List EncodedPayload
  workerInput : Option WorkerInputV2 := none
  request_id_safe : isSafeIdentifier requestId = true := by decide
  payloads_bounded : 1 ≤ payloads.length ∧ payloads.length ≤ 16 := by decide
  payload_ids_unique : (payloads.map EncodedPayload.inputId).Nodup := by decide
  megaloc_alone : operation = .megalocEncode → workerInput.isNone = true := by simp
  megaloc_images : operation = .megalocEncode → ∀ payload ∈ payloads, payload.isImage = true := by simp
  /-- The payloads are those of the batch's inputs. -/
  prithvi_matched : operation = .prithviBurnedArea → ∃ input, workerInput = some input ∧
    (∀ inputId, inputId ∈ payloads.map EncodedPayload.inputId ↔
      inputId ∈ input.items.map WorkerBatchItemV2.inputId) ∧
    payloads.length = input.items.length := by simp
  prithvi_geotiff : operation = .prithviBurnedArea → ∀ payload ∈ payloads,
    payload.contentType = "image/tiff" ∨ payload.contentType = "image/geotiff" := by simp

inductive GeoGpuStatus where
  | completed | abstained
  deriving DecidableEq, Repr

structure GeoGpuResponse where
  requestId : String
  operation : GeoOperation
  status : GeoGpuStatus
  modelId : String
  modelRevision : String
  result : JsonFields
  reasonCodes : List String := []

end FireviewerOrchestrator
