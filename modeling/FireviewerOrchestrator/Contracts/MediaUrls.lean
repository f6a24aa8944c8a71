/-
  Which URLs of a batch a worker fetches from.

  Every URL has to use HTTPS, without user information, at an allowed host.  Refused URLs are reported
  as `OutputValidationError`s, but a URL that cannot be split at all raises what `urlsplit` raises.
-/
import FireviewerOrchestrator.Contracts.InputV2
import FireviewerOrchestrator.Contracts.Url

set_option linter.unusedVariables false

namespace FireviewerOrchestrator

/-- The URLs `validate_internal_urls` looks at, of an item of either contract. -/
def BatchItem.urls (item : BatchItem) : List String :=
  item.workingFileUrl.toList ++ item.audioUrl.toList ++ item.frames.map FrameInput.workingFileUrl

def WorkerBatchItemV2.urls (item : WorkerBatchItemV2) : List String :=
  item.workingFileUrl.toList ++ item.audioUrl.toList ++ item.frames.map FrameInput.workingFileUrl

namespace MediaUrls

variable (lib : Urllib) (allowedHosts : List (List Char))

/-- Truth of an optional part of a URL: present and not empty. -/
def given (part : Option (List Char)) : Bool := part.any (!·.isEmpty)

/-- The checks of one URL; `subject` is what the errors call it. -/
def checkUrl (subject : String) (url : String) : Except PyExc Unit := do
  let parsed ← Url.urlsplit lib url.toList
  if parsed.scheme ≠ "https".toList then
    .error (.outputValidationError (subject ++ " URLs must use HTTPS"))
  else if given parsed.username || given parsed.password then
    .error (.outputValidationError (subject ++ " URLs must not contain user information"))
  else if parsed.hostname lib ∉ allowedHosts.map some then
    .error (.outputValidationError
      (subject ++ " URL host is not allowed: " ++ ((parsed.hostname lib).map String.ofList).getD "None"))
  else pure ()

/-- `validate_internal_urls`, on the URLs of each item. -/
def validateInternalUrls (items : List (List String)) : Except PyExc Unit :=
  if allowedHosts = [] then
    .error (.outputValidationError "FW_ALLOWED_MEDIA_HOSTS must contain at least one hostname")
  else items.forM fun urls => urls.forM (checkUrl lib allowedHosts "media")

/-- `validate_v2_internal_urls`. -/
def validateV2InternalUrls (batch : WorkerInputV2) : Except PyExc Unit := do
  validateInternalUrls lib allowedHosts (batch.items.map WorkerBatchItemV2.urls)
  match batch.referenceBundle with
  | none => pure ()
  | some bundle => bundle.assetUrls.forM (checkUrl lib allowedHosts "reference")

end MediaUrls

end FireviewerOrchestrator
