/-
  The private assets of a validation: which of them a payload asks for, and which of them the fetcher
  of the validation serves.

  Two functions read the same URLs.  `validationAssetNames` looks at the host and the path of each
  item's own URL; `BundleMediaFetcher.download` also looks at the scheme, the port, the user
  information, the query and the fragment, and is asked for the frames' URLs too.
  `namesServed_iff` says for which payloads the two agree.
-/
import FireviewerOrchestrator.Contracts.Records
import FireviewerOrchestrator.Contracts.Url
import FireviewerOrchestrator.Library.Dict
import FireviewerOrchestrator.Library.Fallible
import Mathlib.Data.Finset.Basic
import Mathlib.Data.List.ReduceOption

set_option linter.unusedVariables false

namespace FireviewerOrchestrator

namespace PodValidation

open Url

/-- `PodValidationError(message)`. -/
def podValidationError (message : String) : PyExc := .raised "PodValidationError" message

/-- `VALIDATION_ASSET_HOST`. -/
def validationAssetHost : String := "validation-assets.internal"

def isLowerAlnum (c : Char) : Bool := c.isLower || c.isDigit

/-- `SAFE_ASSET_NAME.fullmatch`: `[a-z0-9][a-z0-9._-]{0,127}`. -/
def isSafeAssetName : List Char → Bool
  | [] => false
  | c :: cs =>
      isLowerAlnum c && cs.length ≤ 127 &&
        cs.all fun d => isLowerAlnum d || d == '.' || d == '_' || d == '-'

/-- What the host language makes of JSON values and of URLs. -/
structure HostText extends Urllib where
  /-- `str(value)`. -/
  str : JsonValue → String
  str_text : ∀ text, str (.str text) = text

/-! ## The names a payload asks for -/

section Names

variable (lib : HostText)

/-- `parsed.path.removeprefix("/")`. -/
def assetNameOf (parsed : SplitResult) : List Char := withoutSlash parsed.path

/-- The URL is at the host of the private assets. -/
def atAssetHost (parsed : SplitResult) : Bool :=
  parsed.hostname lib.toUrllib = some validationAssetHost.toList

/-- The name an item's own URL asks for, if it is at that host. -/
def urlAssetName (url : String) : Except PyExc (Option String) := do
  let parsed ← urlsplit lib.toUrllib url.toList
  if atAssetHost lib parsed then
    if isSafeAssetName (assetNameOf parsed) then pure (some (String.ofList (assetNameOf parsed)))
    else .error (podValidationError "validation payload contains an unsafe asset URL")
  else pure none

/-- `str(item["working_file_url"])` of an item that has one. -/
def itemUrl : JsonValue → Option String
  | .obj fields => match fields.lookup "working_file_url" with
    | none | some .null => none
    | some value => some (lib.str value)
  | _ => none

/-- The items of a payload. -/
def payloadItems (payload : JsonFields) : List JsonValue :=
  match payload.lookup "items" with
  | some (.arr items) => items
  | _ => []

/-- `validation_asset_names`. -/
def validationAssetNames (payload : JsonFields) : Except PyExc (Finset String) := do
  let names ← ((payloadItems payload).filterMap (itemUrl lib)).mapM (urlAssetName lib)
  pure names.reduceOption.toFinset

end Names

/-! ## The fetcher -/

/-- `BundleMediaFetcher(assets, max_bytes)`.  A budget below one byte is refused. -/
structure BundleMediaFetcher where
  assets : Dict String (List UInt8)
  maxBytes : Nat
  maxBytes_pos : 1 ≤ maxBytes

/-- The temporary file of a download. -/
structure Download where
  suffix : List Char
  content : List UInt8
  deriving DecidableEq

/-- `Path(name).suffix` of a name without slashes: from the last dot, unless that is the first or the
    last character. -/
def pathSuffix (name : List Char) : List Char :=
  match rpartition '.' name with
  | (some (_ :: _), c :: cs) => '.' :: c :: cs
  | _ => []

def mediaFetchError (message : String) : PyExc := .raised "MediaFetchError" message

section Download

variable (lib : HostText)

/-- The URL is one the fetcher serves: the tests of `download`, of which that of the port can raise. -/
def insideBoundary (parsed : SplitResult) : Except PyExc Bool :=
  if parsed.scheme = "https".toList ∧ atAssetHost lib parsed then do
    let port ← parsed.port lib.toUrllib
    pure (SplitResult.isDefaultPort port && parsed.username.isNone && parsed.password.isNone
      && parsed.query.isEmpty && parsed.fragment.isEmpty && isSafeAssetName (assetNameOf parsed))
  else pure false

/-- `BundleMediaFetcher.download(url)`. -/
def BundleMediaFetcher.download (fetcher : BundleMediaFetcher) (url : String) : Except PyExc Download := do
  let parsed ← urlsplit lib.toUrllib url.toList
  let inside ← insideBoundary lib parsed
  if inside then
    match fetcher.assets.get? (String.ofList (assetNameOf parsed)) with
    | none => .error (mediaFetchError "validation media URL has no matching bundled asset")
    | some value =>
        if fetcher.maxBytes < value.length then
          .error (mediaFetchError "bundled validation media exceeds the download budget")
        else pure { suffix := pathSuffix (assetNameOf parsed), content := value }
  else .error (mediaFetchError "validation media URL is outside the bundled HTTPS boundary")

end Download

/-! ## What the two agree about -/

section Agreement

variable (lib : HostText)

/-- A `working_file_url` that is a text. -/
def ownUrl : JsonValue → Option String
  | .obj fields => match fields.lookup "working_file_url" with
    | some (.str url) => some url
    | _ => none
  | _ => none

/-- The frames of an item. -/
def itemFrames : JsonValue → List JsonValue
  | .obj fields => match fields.lookup "frames" with
    | some (.arr frames) => frames
    | _ => []
  | _ => []

/-- The media URLs of a payload: those of its items and of their frames. -/
def mediaUrls (payload : JsonFields) : List String :=
  (payloadItems payload).flatMap fun item => (ownUrl item).toList ++ (itemFrames item).filterMap ownUrl

/-- The URL splits, and is at the host of the private assets. -/
def PointsAtHost (url : String) (parsed : SplitResult) : Prop :=
  urlsplit lib.toUrllib url.toList = .ok parsed ∧ atAssetHost lib parsed = true

/-- The fetcher serves the URL: exactly the bytes stored under its asset name. -/
def Served (fetcher : BundleMediaFetcher) (url : String) (parsed : SplitResult) : Prop :=
  ∃ value, fetcher.assets.get? (String.ofList (assetNameOf parsed)) = some value ∧
    fetcher.download lib url = .ok { suffix := pathSuffix (assetNameOf parsed), content := value }

/-- **What is wanted of a payload and a fetcher**: each of the media URLs at the host is served. -/
def NamesServed (payload : JsonFields) (fetcher : BundleMediaFetcher) : Prop :=
  ∀ url ∈ mediaUrls payload, ∀ parsed, PointsAtHost lib url parsed → Served lib fetcher url parsed

/-- Nothing is said in a URL but its host and its path. -/
structure PlainHttps (parsed : SplitResult) : Prop where
  scheme_https : parsed.scheme = "https".toList
  default_port : ∃ port, parsed.port lib.toUrllib = .ok port ∧ SplitResult.isDefaultPort port = true
  no_userinfo : parsed.userinfo = none
  no_query : parsed.query = []
  no_fragment : parsed.fragment = []

/-- Some item's own URL asks for the same asset. -/
def AskedByItem (payload : JsonFields) (parsed : SplitResult) : Prop :=
  ∃ url ∈ (payloadItems payload).filterMap (itemUrl lib), ∃ own, PointsAtHost lib url own ∧
    assetNameOf own = assetNameOf parsed

variable {lib} {payload : JsonFields} {fetcher : BundleMediaFetcher} {names : Finset String}

theorem urlAssetName_eq_some {url name : String} : urlAssetName lib url = .ok (some name) ↔
    ∃ parsed, PointsAtHost lib url parsed ∧ isSafeAssetName (assetNameOf parsed) = true ∧
      name = String.ofList (assetNameOf parsed) := by
  unfold urlAssetName
  rw [Fallible.bind_eq_ok]
  constructor
  · rintro ⟨parsed, hparsed, h⟩
    split at h
    · rename_i hhost
      obtain ⟨hsafe, hname⟩ := Fallible.ite_eq_ok.mp h
      exact ⟨parsed, ⟨hparsed, hhost⟩, hsafe, (Option.some.inj (Fallible.pure_eq_ok.mp hname)).symm⟩
    · cases Fallible.pure_eq_ok.mp h
  · rintro ⟨parsed, ⟨hparsed, hhost⟩, hsafe, rfl⟩
    exact ⟨parsed, hparsed, by rw [if_pos hhost, if_pos hsafe]; rfl⟩

/-- The names are those of the items' own URLs at the host. -/
theorem mem_validationAssetNames (h : validationAssetNames lib payload = .ok names) {name : String} :
    name ∈ names ↔ ∃ url ∈ (payloadItems payload).filterMap (itemUrl lib),
      urlAssetName lib url = .ok (some name) := by
  obtain ⟨found, hfound, h⟩ := Fallible.bind_eq_ok.mp h
  obtain rfl := Fallible.pure_eq_ok.mp h
  have hforall := Fallible.mapM_eq_ok.mp hfound
  rw [List.mem_toFinset, List.reduceOption_mem_iff]
  constructor
  · intro hmem
    exact Fallible.exists_of_forall₂_right hforall hmem
  · rintro ⟨url, hurl, hname⟩
    obtain ⟨result, hresult, heq⟩ := Fallible.exists_of_forall₂_left hforall hurl
    rw [hname] at heq
    obtain rfl := Except.ok.inj heq
    exact hresult

/-- Where there are names, an item's own URL at the host has a safe one. -/
theorem safe_of_askedByItem (h : validationAssetNames lib payload = .ok names) {parsed : SplitResult}
    (hasked : AskedByItem lib payload parsed) :
    isSafeAssetName (assetNameOf parsed) = true ∧ String.ofList (assetNameOf parsed) ∈ names := by
  obtain ⟨url, hurl, own, hown, hsame⟩ := hasked
  obtain ⟨found, hfound, -⟩ := Fallible.bind_eq_ok.mp h
  obtain ⟨result, -, hresult⟩ := Fallible.exists_of_forall₂_left (Fallible.mapM_eq_ok.mp hfound) hurl
  have hsafe : isSafeAssetName (assetNameOf own) = true := by
    unfold urlAssetName at hresult
    rw [hown.1, Fallible.ok_bind, if_pos hown.2] at hresult
    exact (Fallible.ite_eq_ok.mp hresult).1
  rw [← hsame]
  refine ⟨hsafe, (mem_validationAssetNames h).mpr ⟨url, hurl, ?_⟩⟩
  exact urlAssetName_eq_some.mpr ⟨own, hown, hsafe, rfl⟩

theorem askedByItem_of_mem (h : validationAssetNames lib payload = .ok names) {parsed : SplitResult}
    (hmem : String.ofList (assetNameOf parsed) ∈ names) : AskedByItem lib payload parsed := by
  obtain ⟨url, hurl, hname⟩ := (mem_validationAssetNames h).mp hmem
  obtain ⟨own, hown, -, heq⟩ := urlAssetName_eq_some.mp hname
  exact ⟨url, hurl, own, hown, (String.ofList_inj.mp heq).symm⟩

theorem insideBoundary_eq_true {parsed : SplitResult} : insideBoundary lib parsed = .ok true ↔
    atAssetHost lib parsed = true ∧ PlainHttps lib parsed ∧ isSafeAssetName (assetNameOf parsed) = true := by
  unfold insideBoundary
  constructor
  · intro h
    split at h
    · rename_i hhost
      obtain ⟨port, hport, h⟩ := Fallible.bind_eq_ok.mp h
      have htests := Fallible.pure_eq_ok.mp h
      simp only [Bool.and_eq_true, List.isEmpty_iff, Option.isNone_iff_eq_none] at htests
      obtain ⟨⟨⟨⟨⟨hdefault, husername⟩, -⟩, hquery⟩, hfragment⟩, hsafe⟩ := htests
      have huserinfo : parsed.userinfo = none := Option.map_eq_none_iff.mp husername
      exact ⟨hhost.2, ⟨hhost.1, ⟨port, hport, hdefault⟩, huserinfo, hquery, hfragment⟩, hsafe⟩
    · cases Fallible.pure_eq_ok.mp h
  · rintro ⟨hhost, ⟨hscheme, ⟨port, hport, hdefault⟩, huserinfo, hquery, hfragment⟩, hsafe⟩
    rw [if_pos ⟨hscheme, hhost⟩, hport, Fallible.ok_bind, hdefault, hquery, hfragment, hsafe,
      SplitResult.username, SplitResult.password, huserinfo]
    rfl

/-- **When a URL is served**: it is plain, its name is safe, and something is stored under it. -/
theorem served_iff {url : String} {parsed : SplitResult} (hpoints : PointsAtHost lib url parsed)
    (hbudget : ∀ name value, fetcher.assets.get? name = some value → value.length ≤ fetcher.maxBytes) :
    Served lib fetcher url parsed ↔ PlainHttps lib parsed ∧ isSafeAssetName (assetNameOf parsed) = true ∧
      String.ofList (assetNameOf parsed) ∈ fetcher.assets.keys := by
  constructor
  · rintro ⟨value, hvalue, hdownload⟩
    unfold BundleMediaFetcher.download at hdownload
    rw [hpoints.1, Fallible.ok_bind] at hdownload
    obtain ⟨inside, hinside, hrest⟩ := Fallible.bind_eq_ok.mp hdownload
    cases inside with
    | false => cases hrest
    | true =>
      obtain ⟨-, hplain, hsafe⟩ := insideBoundary_eq_true.mp hinside
      exact ⟨hplain, hsafe, Dict.mem_keys_of_mem (Dict.get?_eq_some.mp hvalue)⟩
  · rintro ⟨hplain, hsafe, hkey⟩
    have hsome : fetcher.assets.get? (String.ofList (assetNameOf parsed)) ≠ none :=
      fun hnone => Dict.get?_eq_none.mp hnone hkey
    obtain ⟨value, hvalue⟩ := Option.ne_none_iff_exists'.mp hsome
    have hinside := insideBoundary_eq_true.mpr ⟨hpoints.2, hplain, hsafe⟩
    have hfits : ¬ fetcher.maxBytes < value.length := Nat.not_lt.mpr (hbudget _ _ hvalue)
    refine ⟨value, hvalue, ?_⟩
    unfold BundleMediaFetcher.download
    rw [hpoints.1, Fallible.ok_bind, hinside, Fallible.ok_bind]
    simp only [if_true, hvalue, if_neg hfits]
    rfl

/-- **When the extractor and the fetcher agree.**  With exactly the assets a payload asks for, each
    within the budget, every media URL at the host is served if and only if each of them is a plain
    HTTPS URL whose asset some item's own URL asks for. -/
theorem namesServed_iff (hnames : validationAssetNames lib payload = .ok names)
    (hkeys : fetcher.assets.keys.toFinset = names)
    (hbudget : ∀ name value, fetcher.assets.get? name = some value → value.length ≤ fetcher.maxBytes) :
    NamesServed lib payload fetcher ↔ ∀ url ∈ mediaUrls payload, ∀ parsed, PointsAtHost lib url parsed →
      PlainHttps lib parsed ∧ AskedByItem lib payload parsed := by
  refine forall₂_congr fun url hurl => forall₂_congr fun parsed hpoints => ?_
  rw [served_iff hpoints hbudget, ← List.mem_toFinset, hkeys]
  refine and_congr_right fun hplain => ?_
  constructor
  · exact fun h => askedByItem_of_mem hnames h.2
  · exact fun h => safe_of_askedByItem hnames h

end Agreement

/-! ## A photo and a video -/

namespace Sample

/-- A host that knows the ASCII letters; only texts have a text of interest. -/
def lib : HostText where
  toUrllib := .ascii
  str
    | .str text => text
    | _ => "None"
  str_text _ := rfl

/-- A batch with one item. -/
def payloadOf (item : JsonFields) : JsonFields :=
  [("schema_version", .str "1.0"), ("batch_id", .str "validation-1"), ("items", .arr [.obj item])]

def photo (url : String) : JsonFields :=
  [("input_id", .str "photo-1"), ("media_type", .str "image"), ("working_file_url", .str url),
    ("frames", .arr [])]

/-- A video of which only a frame is stored. -/
def video : JsonFields :=
  [("input_id", .str "video-1"), ("media_type", .str "video"), ("working_file_url", .null),
    ("frames", .arr [.obj [("frame_id", .str "frame-1"), ("timestamp_s", .int 0),
      ("working_file_url", .str "https://validation-assets.internal/frame.jpg")]])]

def fetcher (assets : Dict String (List UInt8)) : BundleMediaFetcher where
  assets := assets
  maxBytes := 1048576
  maxBytes_pos := by decide

/-- One stored photo. -/
def stored : Dict String (List UInt8) := Dict.empty.set "photo.jpg" [255, 216, 255]

end Sample

/-- A photo at a plain URL, and its bytes. -/
theorem namesServed_iff_photo :
    NamesServed Sample.lib (Sample.payloadOf (Sample.photo "https://validation-assets.internal/photo.jpg"))
      (Sample.fetcher Sample.stored) ↔
    ∀ url ∈ mediaUrls (Sample.payloadOf (Sample.photo "https://validation-assets.internal/photo.jpg")),
      ∀ parsed, PointsAtHost Sample.lib url parsed → PlainHttps Sample.lib parsed ∧ AskedByItem Sample.lib
        (Sample.payloadOf (Sample.photo "https://validation-assets.internal/photo.jpg")) parsed := by
  have hnames : validationAssetNames Sample.lib (Sample.payloadOf
      (Sample.photo "https://validation-assets.internal/photo.jpg")) = .ok {"photo.jpg"} := by decide
  refine namesServed_iff hnames (by decide) ?_
  intro name value hvalue
  have hentry := Dict.get?_eq_some.mp hvalue
  obtain ⟨-, rfl⟩ := Prod.mk.inj (List.mem_singleton.mp hentry)
  decide

/-- A fetcher with exactly the assets a payload asks for does not serve one of its URLs. -/
def Disagrees (payload : JsonFields) (fetcher : BundleMediaFetcher) : Prop :=
  validationAssetNames Sample.lib payload = .ok fetcher.assets.keys.toFinset ∧
    (∀ name value, fetcher.assets.get? name = some value → value.length ≤ fetcher.maxBytes) ∧
    ¬ NamesServed Sample.lib payload fetcher

/-- **Two disagreements.**  A photo whose URL is not an HTTPS one is asked for and not served; a frame
    at the host is not asked for, and so not served either. -/
theorem disagrees_http_frame :
    Disagrees (Sample.payloadOf (Sample.photo "http://validation-assets.internal/photo.jpg"))
        (Sample.fetcher Sample.stored) ∧
      Disagrees (Sample.payloadOf Sample.video) (Sample.fetcher .empty) := by
  have hbudget : ∀ name value, (Sample.fetcher Sample.stored).assets.get? name = some value →
      value.length ≤ (Sample.fetcher Sample.stored).maxBytes := by
    intro name value hvalue
    have hentry := Dict.get?_eq_some.mp hvalue
    obtain ⟨-, rfl⟩ := Prod.mk.inj (List.mem_singleton.mp hentry)
    decide
  refine ⟨⟨by decide, hbudget, ?_⟩, ⟨by decide, ?_, ?_⟩⟩
  · intro hserved
    have hpoints : PointsAtHost Sample.lib "http://validation-assets.internal/photo.jpg"
        { scheme := "http".toList, netloc := "validation-assets.internal".toList,
          path := "/photo.jpg".toList, query := [], fragment := [] } :=
      ⟨by decide, by decide⟩
    have hplain := ((served_iff hpoints hbudget).mp (hserved _ (by decide) _ hpoints)).1
    exact absurd hplain.scheme_https (by decide)
  · intro name value hvalue
    rw [show (Sample.fetcher .empty).assets = Dict.empty from rfl, Dict.get?_empty] at hvalue
    cases hvalue
  · intro hserved
    obtain ⟨value, hvalue, -⟩ := hserved "https://validation-assets.internal/frame.jpg" (by decide)
      { scheme := "https".toList, netloc := "validation-assets.internal".toList, path := "/frame.jpg".toList,
        query := [], fragment := [] } ⟨by decide, by decide⟩
    rw [show (Sample.fetcher .empty).assets = Dict.empty from rfl, Dict.get?_empty] at hvalue
    cases hvalue

end PodValidation

end FireviewerOrchestrator
