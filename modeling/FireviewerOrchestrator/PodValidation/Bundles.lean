/-
  Asset bundles: what is accepted, what an encoder makes, and what is raised.

  Everything is said against two relations on the input.  `Carries` is the outer layer: a text is
  unpacked to bytes within its caps.  `Describes` is the inner one: a descriptor names its digest and
  its data.  The loop over the descriptors accepts exactly those that describe data of the digest they
  name, as long as there is room (`foldlM_addAsset_eq_ok`); read in the one direction this is soundness,
  in the other the round trip.  What leaves the loop in another way is a `PodValidationError`, unless a
  digest that is not ASCII is reached: the comparison raises there, and nobody catches it.  Nor does anybody
  catch what `json.loads` raises of the bytes beside `JSONDecodeError`.
-/
import FireviewerOrchestrator.PodValidation.Server
import Mathlib.Algebra.Order.BigOperators.Group.List
import Mathlib.Data.List.Perm.Subperm

set_option linter.unusedVariables false

namespace FireviewerOrchestrator

namespace PodValidation

section Bundles

variable (codecs : Codecs)

/-! ## What a text carries -/

/-- A text unpacks to these bytes, and both are within the caps of a bundle. -/
structure Carries (encoded : String) (raw : List UInt8) : Prop where
  present : encoded ≠ ""
  ascii : isAsciiText encoded = true
  encoded_fits : encoded.length ≤ maxEncodedAssetBundleBytes
  unpacked : ((codecs.b64decode encoded).bind fun compressed =>
    codecs.gunzip compressed (maxDecompressedAssetBundleBytes + 1)) = some raw
  raw_fits : raw.length ≤ maxDecompressedAssetBundleBytes

/-- The bytes are a bundle of these descriptors, not too many of them. -/
def Declares (raw : List UInt8) (rawAssets : JsonFields) : Prop :=
  ∃ bundle : JsonFields, codecs.jsonLoads raw = .ok (.obj bundle) ∧
    (bundle.lookup "schema_version").any isOne = true ∧ bundle.lookup "assets" = some (.obj rawAssets) ∧
    1 ≤ rawAssets.length ∧ rawAssets.length ≤ maxAssetBundleCount

/-- A safe name, with a descriptor of a digest and of data. -/
structure Describes (asset : String × JsonValue) (digest : String) (value : List UInt8) : Prop where
  name_safe : isSafeAssetName asset.1.toList = true
  described : ∃ fields text, asset.2 = .obj fields ∧ fields.lookup "sha256" = some (.str digest) ∧
    fields.lookup "data_b64" = some (.str text) ∧ codecs.b64decode text = some value

/-- The data have the digest declared beside them. -/
def Accepts (asset : String × JsonValue) (value : List UInt8) : Prop :=
  Describes codecs asset (codecs.sha256Hex value) value ∧ isAsciiText (codecs.sha256Hex value) = true

/-- `PodValidationError`. -/
def IsPodValidationError (e : PyExc) : Prop := ∃ message, e = podValidationError message

variable {codecs}

theorem Describes.unique {asset : String × JsonValue} {digest digest' : String} {value value' : List UInt8}
    (h : Describes codecs asset digest value) (h' : Describes codecs asset digest' value') :
    digest = digest' ∧ value = value' := by
  obtain ⟨fields, text, hfields, hdigest, htext, hvalue⟩ := h.described
  obtain ⟨fields', text', hfields', hdigest', htext', hvalue'⟩ := h'.described
  obtain rfl : fields = fields' := by simpa [hfields] using hfields'
  have hsame : digest = digest' := by simpa [hdigest] using hdigest'
  obtain rfl : text = text' := by simpa [htext] using htext'
  rw [hvalue] at hvalue'
  exact ⟨hsame, Option.some.inj hvalue'⟩

/-- The text is unpacked exactly where it carries what comes out. -/
theorem decodeGzipBase64_eq_ok {encoded label : String} {raw : List UInt8} :
    decodeGzipBase64 codecs encoded label maxEncodedAssetBundleBytes maxDecompressedAssetBundleBytes = .ok raw ↔
      Carries codecs encoded raw := by
  unfold decodeGzipBase64
  constructor
  · intro h
    split_ifs at h with hempty hascii hlong
    split at h
    · cases h
    · rename_i found hfound
      split_ifs at h with hbig
      obtain rfl := Except.ok.inj h
      exact ⟨hempty, by simpa using hascii, not_lt.mp hlong, hfound, not_lt.mp hbig⟩
  · rintro ⟨hempty, hascii, hshort, hunpacked, hfits⟩
    rw [if_neg hempty, hascii, if_neg (by decide), if_neg (not_lt.mpr hshort), hunpacked]
    exact if_neg (not_lt.mpr hfits)

/-- Every refusal up to here is a `PodValidationError`: of a text that is missing, foreign or too long, and
    of what is no archive. -/
theorem decodeGzipBase64_raises (encoded label : String) (maxEncoded maxDecompressed : Nat) :
    Fallible.RaisesOnly IsPodValidationError
      (decodeGzipBase64 codecs encoded label maxEncoded maxDecompressed) := by
  intro e he
  unfold decodeGzipBase64 at he
  split_ifs at he with hempty hascii hlong
  · exact ⟨_, (Except.error.inj he).symm⟩
  · exact ⟨_, (Except.error.inj he).symm⟩
  · exact ⟨_, (Except.error.inj he).symm⟩
  · split at he
    · exact ⟨_, (Except.error.inj he).symm⟩
    · split_ifs at he
      exact ⟨_, (Except.error.inj he).symm⟩

/-! ## One descriptor -/

variable (codecs) in
/-- The rounds of the loop: a described asset that there is room for is compared with its digest, and
    every other one is refused. -/
theorem addAsset_cases (acc : Assets × Nat) (asset : String × JsonValue) :
    (∃ digest value, Describes codecs asset digest value ∧ acc.2 + value.length ≤ maxAssetBundleRawBytes ∧
      addAsset codecs acc asset = do
        let same ← compareDigest (codecs.sha256Hex value) digest
        if same then pure (acc.1.set asset.1 value, acc.2 + value.length)
        else .error (podValidationError ("validation asset digest mismatch: " ++ asset.1))) ∨
    ((∀ digest value, Describes codecs asset digest value → maxAssetBundleRawBytes < acc.2 + value.length) ∧
      ∃ message, addAsset codecs acc asset = .error (podValidationError message)) := by
  obtain ⟨name, descriptor⟩ := asset
  unfold addAsset
  dsimp only
  by_cases hname : isSafeAssetName name.toList = true
  swap
  · refine Or.inr ⟨fun digest value h => absurd h.name_safe hname, _, if_pos (by simpa using hname)⟩
  rw [if_neg (by simp [hname])]
  -- A descriptor of another shape describes nothing.
  have hshape : ∀ {digest value}, Describes codecs (name, descriptor) digest value → ∃ fields text,
      descriptor = .obj fields ∧ fields.lookup "sha256" = some (.str digest) ∧
        fields.lookup "data_b64" = some (.str text) ∧ codecs.b64decode text = some value := fun h => h.described
  split
  · rename_i fields
    split
    · rename_i digest text hdigest htext
      cases hvalue : codecs.b64decode text with
      | none =>
        refine Or.inr ⟨fun digest' value h => ?_, _, rfl⟩
        obtain ⟨fields', text', hfields, -, htext', hvalue'⟩ := hshape h
        obtain rfl := JsonValue.obj.inj hfields
        obtain rfl : text = text' := by simpa [htext] using htext'
        rw [hvalue] at hvalue'
        cases hvalue'
      | some value =>
        have hdescribes : Describes codecs (name, .obj fields) digest value :=
          ⟨hname, fields, text, rfl, hdigest, htext, hvalue⟩
        dsimp only
        split_ifs with hroom
        · refine Or.inr ⟨fun digest' value' h => ?_, _, rfl⟩
          rw [← (hdescribes.unique h).2]
          exact hroom
        · exact Or.inl ⟨digest, value, hdescribes, not_lt.mp hroom, rfl⟩
    · rename_i hincomplete
      refine Or.inr ⟨fun digest value h => ?_, _, rfl⟩
      obtain ⟨fields', text, hfields, hdigest, htext, -⟩ := hshape h
      obtain rfl := JsonValue.obj.inj hfields
      exact absurd htext (hincomplete digest text hdigest)
  · rename_i hobject
    refine Or.inr ⟨fun digest value h => ?_, _, rfl⟩
    obtain ⟨fields, -, hfields, -⟩ := hshape h
    exact absurd hfields (hobject fields)

/-- A round adds the data of an accepted asset, and nothing else. -/
theorem addAsset_eq_ok {acc acc' : Assets × Nat} {asset : String × JsonValue} :
    addAsset codecs acc asset = .ok acc' ↔ ∃ value, Accepts codecs asset value ∧
      acc.2 + value.length ≤ maxAssetBundleRawBytes ∧
        acc' = (acc.1.set asset.1 value, acc.2 + value.length) := by
  rcases addAsset_cases codecs acc asset with
    ⟨digest, value, hdescribes, hroom, hround⟩ | ⟨hfull, message, hround⟩
  · rw [hround, Fallible.bind_eq_ok]
    constructor
    · rintro ⟨same, hsame, h⟩
      obtain ⟨hsha, -, rfl⟩ := compareDigest_eq_ok.mp hsame
      obtain ⟨hdigest, hadded⟩ := Fallible.ite_eq_ok.mp h
      obtain rfl : codecs.sha256Hex value = digest := of_decide_eq_true hdigest
      exact ⟨value, ⟨hdescribes, hsha⟩, hroom, (Fallible.pure_eq_ok.mp hadded).symm⟩
    · rintro ⟨value', ⟨hdescribes', hsha⟩, -, rfl⟩
      obtain ⟨rfl, rfl⟩ := hdescribes.unique hdescribes'
      exact ⟨true, compareDigest_eq_ok.mpr ⟨hsha, hsha, by simp⟩, if_pos rfl⟩
  · rw [hround]
    constructor
    · rintro ⟨⟩
    · rintro ⟨value, haccepts, hroom, -⟩
      exact absurd hroom (not_le.mpr (hfull _ value haccepts.1))

/-! ## The loop -/

/-- The bytes together. -/
def totalBytes (values : List (List UInt8)) : Nat := (values.map List.length).sum

/-- The assets under their names; the last one of a name stays. -/
def namedAssets (d : Assets) (rawAssets : JsonFields) (values : List (List UInt8)) : Assets :=
  ((rawAssets.map Prod.fst).zip values).foldl (fun d e => d.set e.1 e.2) d

/-- **The loop accepts descriptors that declare their data**, up to the cap on the bytes together.  The
    count never comes down, so the cap is kept in every round exactly when it is kept at the end. -/
theorem foldlM_addAsset_eq_ok {rawAssets : JsonFields} : ∀ {acc acc' : Assets × Nat},
    acc.2 ≤ maxAssetBundleRawBytes → (rawAssets.foldlM (addAsset codecs) acc = .ok acc' ↔
      ∃ values, List.Forall₂ (Accepts codecs) rawAssets values ∧
        acc.2 + totalBytes values ≤ maxAssetBundleRawBytes ∧
          acc' = (namedAssets acc.1 rawAssets values, acc.2 + totalBytes values)) := by
  induction rawAssets with
  | nil =>
    intro acc acc' hacc
    rw [List.foldlM_nil, Fallible.pure_eq_ok]
    constructor
    · rintro rfl
      exact ⟨[], .nil, hacc, rfl⟩
    · rintro ⟨values, hvalues, -, rfl⟩
      cases hvalues
      rfl
  | cons asset rawAssets ih =>
    intro acc acc' hacc
    rw [List.foldlM_cons, Fallible.bind_eq_ok]
    constructor
    · rintro ⟨next, hnext, hrest⟩
      obtain ⟨value, haccepts, hroom, rfl⟩ := addAsset_eq_ok.mp hnext
      obtain ⟨values, hvalues, htotal, rfl⟩ := (ih hroom).mp hrest
      refine ⟨value :: values, .cons haccepts hvalues, ?_, ?_⟩
      · simp only [totalBytes, List.map_cons, List.sum_cons] at htotal ⊢
        omega
      · simp only [namedAssets, totalBytes, List.map_cons, List.sum_cons, List.zip_cons_cons, List.foldl_cons,
          Nat.add_assoc]
    · rintro ⟨_, hvalues, htotal, rfl⟩
      cases hvalues with
      | cons haccepts hvalues =>
        rename_i value values
        simp only [totalBytes, List.map_cons, List.sum_cons] at htotal
        have hroom : acc.2 + value.length ≤ maxAssetBundleRawBytes := by omega
        refine ⟨_, addAsset_eq_ok.mpr ⟨value, haccepts, hroom, rfl⟩,
          (ih hroom).mpr ⟨values, hvalues, ?_, ?_⟩⟩
        · simp only [totalBytes]
          omega
        · simp only [namedAssets, totalBytes, List.map_cons, List.sum_cons, List.zip_cons_cons,
            List.foldl_cons, Nat.add_assoc]

/-! ## The whole decoder -/

variable (codecs) in
/-- The loop over the descriptors, from nothing. -/
def loopAssets (rawAssets : JsonFields) : Except PyExc Assets := do
  let (assets, _) ← rawAssets.foldlM (addAsset codecs) (Dict.empty, 0)
  pure assets

/-- What a failure to load is raised as. -/
def loadFailure : PyExc → PyExc
  | .raised "JSONDecodeError" _ => podValidationError "validation asset bundle is not valid JSON"
  | e => e

theorem loadLabelled_error {raw : List UInt8} {e : PyExc} (h : codecs.jsonLoads raw = .error e) :
    loadLabelled codecs "validation asset bundle" raw = .error (loadFailure e) := by
  rw [loadLabelled, h]
  unfold loadFailure
  split
  · rename_i he
    obtain rfl := Except.error.inj he
    rfl
  · rename_i he
    split
    · exact absurd rfl (he _)
    · rfl

variable (codecs) in
/-- The ways through the decoder: nothing is unpacked, what is unpacked is not loaded, what is loaded is
    no bundle, or the loop decides. -/
theorem decodeAssetBundle_cases (encoded : String) :
    ((∀ raw, ¬Carries codecs encoded raw) ∧
      ∃ message, decodeAssetBundle codecs encoded = .error (podValidationError message)) ∨
    (∃ raw e, Carries codecs encoded raw ∧ codecs.jsonLoads raw = .error e ∧
      decodeAssetBundle codecs encoded = .error (loadFailure e)) ∨
    (∃ raw loaded message, Carries codecs encoded raw ∧ codecs.jsonLoads raw = .ok loaded ∧
      (∀ rawAssets, ¬Declares codecs raw rawAssets) ∧
        decodeAssetBundle codecs encoded = .error (podValidationError message)) ∨
    (∃ raw rawAssets, Carries codecs encoded raw ∧ Declares codecs raw rawAssets ∧
      decodeAssetBundle codecs encoded = loopAssets codecs rawAssets) := by
  cases hunpacked : decodeGzipBase64 codecs encoded "validation asset bundle" maxEncodedAssetBundleBytes
      maxDecompressedAssetBundleBytes with
  | error e =>
    obtain ⟨message, rfl⟩ := decodeGzipBase64_raises encoded _ _ _ e hunpacked
    refine Or.inl ⟨fun raw hraw => ?_, message, ?_⟩
    · rw [decodeGzipBase64_eq_ok.mpr hraw] at hunpacked
      cases hunpacked
    · rw [decodeAssetBundle, hunpacked]
      rfl
  | ok raw =>
    have hcarries : Carries codecs encoded raw := decodeGzipBase64_eq_ok.mp hunpacked
    refine Or.inr ?_
    unfold decodeAssetBundle
    rw [hunpacked, Fallible.ok_bind]
    cases hloads : codecs.jsonLoads raw with
    | error e =>
      refine Or.inl ⟨raw, e, hcarries, hloads, ?_⟩
      rw [loadLabelled_error hloads]
      rfl
    | ok loaded =>
      refine Or.inr ?_
      have hlabelled : loadLabelled codecs "validation asset bundle" raw = .ok loaded := by
        rw [loadLabelled, hloads]
      rw [hlabelled, Fallible.ok_bind]
      cases loaded with
      | obj bundle =>
        -- A bundle that declares assets is this object, of this schema, with these assets.
        have hdeclares : ∀ {rawAssets}, Declares codecs raw rawAssets →
            (bundle.lookup "schema_version").any isOne = true ∧ bundle.lookup "assets" = some (.obj rawAssets) ∧
              1 ≤ rawAssets.length ∧ rawAssets.length ≤ maxAssetBundleCount := by
          rintro rawAssets ⟨bundle', hloads', hrest⟩
          rw [hloads] at hloads'
          obtain rfl := JsonValue.obj.inj (Except.ok.inj hloads')
          exact hrest
        dsimp only
        split_ifs with hschema
        · refine Or.inl ⟨raw, .obj bundle, _, hcarries, hloads, fun rawAssets h => ?_, rfl⟩
          rw [(hdeclares h).1] at hschema
          cases hschema
        · split
          · rename_i rawAssets hassets
            split_ifs with hcount
            · exact Or.inr ⟨raw, rawAssets, hcarries,
                ⟨bundle, hloads, by simpa using hschema, hassets, hcount.1, hcount.2⟩, rfl⟩
            · refine Or.inl ⟨raw, .obj bundle, _, hcarries, hloads, fun rawAssets' h => ?_, rfl⟩
              obtain ⟨-, hassets', hcount'⟩ := hdeclares h
              rw [hassets] at hassets'
              obtain rfl := JsonValue.obj.inj (Option.some.inj hassets')
              exact absurd hcount' hcount
          · rename_i hassets
            exact Or.inl ⟨raw, .obj bundle, _, hcarries, hloads,
              fun rawAssets h => absurd (hdeclares h).2.1 (hassets rawAssets), rfl⟩
      | _ =>
        refine Or.inl ⟨raw, _, _, hcarries, hloads, ?_, rfl⟩
        rintro rawAssets ⟨bundle, hloads', -⟩
        rw [hloads] at hloads'
        cases hloads'

/-- A text carries one content at most. -/
theorem Carries.unique {encoded : String} {raw raw' : List UInt8} (h : Carries codecs encoded raw)
    (h' : Carries codecs encoded raw') : raw = raw' := by
  have hunpacked := h.unpacked
  rw [h'.unpacked] at hunpacked
  exact (Option.some.inj hunpacked).symm

/-- A content declares one family of assets at most. -/
theorem Declares.unique {raw : List UInt8} {rawAssets rawAssets' : JsonFields}
    (h : Declares codecs raw rawAssets) (h' : Declares codecs raw rawAssets') : rawAssets = rawAssets' := by
  obtain ⟨bundle, hloads, -, hassets, -⟩ := h
  obtain ⟨bundle', hloads', -, hassets', -⟩ := h'
  rw [hloads] at hloads'
  obtain rfl := JsonValue.obj.inj (Except.ok.inj hloads')
  rw [hassets] at hassets'
  exact JsonValue.obj.inj (Option.some.inj hassets')

/-- What `json.loads` raises is passed on as it is, apart from a `JSONDecodeError`. -/
theorem decode_of_unloaded {encoded : String} {raw : List UInt8} {e : PyExc} (hcarries : Carries codecs encoded raw)
    (hloads : codecs.jsonLoads raw = .error e) : decodeAssetBundle codecs encoded = .error (loadFailure e) := by
  rw [decodeAssetBundle, decodeGzipBase64_eq_ok.mpr hcarries, Fallible.ok_bind, loadLabelled_error hloads]
  rfl

/-- Behind the declaration only the loop over the assets is left. -/
theorem decode_of_declared {encoded : String} {raw : List UInt8} {rawAssets : JsonFields}
    (hcarries : Carries codecs encoded raw) (hdeclares : Declares codecs raw rawAssets) :
    decodeAssetBundle codecs encoded = loopAssets codecs rawAssets := by
  rcases decodeAssetBundle_cases codecs encoded with ⟨hnone, -⟩ |
    ⟨raw', e, hcarries', hloads, -⟩ | ⟨raw', loaded, message, hcarries', -, hnone, -⟩ |
    ⟨raw', rawAssets', hcarries', hdeclares', hdecode⟩
  · exact absurd hcarries (hnone raw)
  · obtain ⟨bundle, hloads', -⟩ := hdeclares
    rw [← hcarries.unique hcarries', hloads'] at hloads
    cases hloads
  · rw [← hcarries.unique hcarries'] at hnone
    exact absurd hdeclares (hnone rawAssets)
  · rw [← hcarries.unique hcarries'] at hdeclares'
    rw [hdecode, hdeclares.unique hdeclares']

/-- What is accepted: bytes within the caps, descriptors that declare their data, and room for them. -/
theorem decodeAssetBundle_eq_ok {encoded : String} {assets : Assets} :
    decodeAssetBundle codecs encoded = .ok assets ↔ ∃ raw rawAssets values, Carries codecs encoded raw ∧
      Declares codecs raw rawAssets ∧ List.Forall₂ (Accepts codecs) rawAssets values ∧
        totalBytes values ≤ maxAssetBundleRawBytes ∧ assets = namedAssets Dict.empty rawAssets values := by
  have hloop : ∀ rawAssets, loopAssets codecs rawAssets = .ok assets ↔
      ∃ values, List.Forall₂ (Accepts codecs) rawAssets values ∧
        totalBytes values ≤ maxAssetBundleRawBytes ∧ assets = namedAssets Dict.empty rawAssets values := by
    intro rawAssets
    rw [loopAssets, Fallible.bind_eq_ok]
    constructor
    · rintro ⟨⟨found, total⟩, hfold, hfound⟩
      obtain rfl := Fallible.pure_eq_ok.mp hfound
      obtain ⟨values, hvalues, htotal, hfound⟩ := (foldlM_addAsset_eq_ok (Nat.zero_le _)).mp hfold
      rw [Nat.zero_add] at htotal
      exact ⟨values, hvalues, htotal, congrArg Prod.fst hfound⟩
    · rintro ⟨values, hvalues, htotal, rfl⟩
      refine ⟨(namedAssets Dict.empty rawAssets values, 0 + totalBytes values), ?_, rfl⟩
      exact (foldlM_addAsset_eq_ok (Nat.zero_le _)).mpr ⟨values, hvalues, by simpa using htotal, rfl⟩
  rcases decodeAssetBundle_cases codecs encoded with ⟨hnone, message, hdecode⟩ |
    ⟨raw, e, hcarries, hloads, hdecode⟩ | ⟨raw, loaded, message, hcarries, hloads, hnone, hdecode⟩ |
    ⟨raw, rawAssets, hcarries, hdeclares, hdecode⟩ <;> rw [hdecode]
  · constructor
    · rintro ⟨⟩
    · rintro ⟨raw, -, -, hcarries, -⟩
      exact absurd hcarries (hnone raw)
  · constructor
    · rintro ⟨⟩
    · rintro ⟨raw', rawAssets, values, hcarries', ⟨bundle, hloads', -⟩, -⟩
      rw [hcarries.unique hcarries', hloads'] at hloads
      cases hloads
  · constructor
    · rintro ⟨⟩
    · rintro ⟨raw', rawAssets, values, hcarries', hdeclares, -⟩
      rw [← hcarries.unique hcarries'] at hdeclares
      exact absurd hdeclares (hnone rawAssets)
  · rw [hloop]
    constructor
    · rintro ⟨values, hvalues, htotal, hassets⟩
      exact ⟨raw, rawAssets, values, hcarries, hdeclares, hvalues, htotal, hassets⟩
    · rintro ⟨raw', rawAssets', values, hcarries', hdeclares', hvalues, htotal, hassets⟩
      obtain rfl := hcarries.unique hcarries'
      obtain rfl := hdeclares.unique hdeclares'
      exact ⟨values, hvalues, htotal, hassets⟩

/-! ## Soundness -/

variable (codecs) in
/-- What an accepted bundle is known to be. -/
structure SoundBundle (encoded : String) (assets : Assets) : Prop where
  count : 1 ≤ assets.entries.length ∧ assets.entries.length ≤ 20
  names_safe : ∀ name ∈ assets.keys, isSafeAssetName name.toList = true
  bytes : totalBytes assets.values ≤ 16 * 1024 * 1024
  /-- The text carries a descriptor of each entry, with the data and with their digest. -/
  digests : ∃ raw rawAssets, Carries codecs encoded raw ∧ Declares codecs raw rawAssets ∧
    ∀ entry ∈ assets.entries, ∃ asset ∈ rawAssets, asset.1 = entry.1 ∧
      Describes codecs asset (codecs.sha256Hex entry.2) entry.2

theorem namedAssets_empty (rawAssets : JsonFields) (values : List (List UInt8)) :
    namedAssets Dict.empty rawAssets values = Dict.ofPairs ((rawAssets.map Prod.fst).zip values) := rfl

theorem totalBytes_le_of_sublist {values values' : List (List UInt8)} (h : values.Sublist values') :
    totalBytes values ≤ totalBytes values' := (h.map List.length).sum_le_sum fun _ _ => Nat.zero_le _

/-- A dictionary made of pairs is made of some of them. -/
theorem entries_ofPairs_subperm (pairs : List (String × List UInt8)) :
    (Dict.ofPairs pairs).entries.Subperm pairs := by
  refine List.Nodup.subperm (Dict.ofPairs pairs).nodup.of_map ?_
  rintro ⟨name, value⟩ hentry
  obtain ⟨before, after, hpairs, -⟩ := Dict.get?_ofPairs_eq_some.mp (Dict.get?_eq_some.mpr hentry)
  rw [hpairs]
  exact List.mem_append_right _ List.mem_cons_self

/-- A dictionary made of some pairs has an entry. -/
theorem entries_ofPairs_ne_nil {pairs : List (String × List UInt8)} (h : pairs ≠ []) :
    (Dict.ofPairs pairs).entries ≠ [] := by
  obtain rfl | ⟨before, last, rfl⟩ := List.eq_nil_or_concat' pairs
  · exact absurd rfl h
  · have hlast : Dict.LastOf (before ++ [last]) last.1 last.2 := Dict.lastOf_concat.mpr (Or.inl ⟨rfl, rfl⟩)
    have hentry := Dict.get?_eq_some.mp (Dict.get?_ofPairs_eq_some.mpr hlast)
    exact List.ne_nil_of_mem hentry

/-- Every pair of a name and of data comes from a descriptor. -/
theorem exists_of_mem_zip {rawAssets : JsonFields} {values : List (List UInt8)}
    (hvalues : List.Forall₂ (Accepts codecs) rawAssets values) {entry : String × List UInt8}
    (hentry : entry ∈ (rawAssets.map Prod.fst).zip values) :
    ∃ asset ∈ rawAssets, asset.1 = entry.1 ∧ Accepts codecs asset entry.2 := by
  induction hvalues with
  | nil => exact absurd hentry List.not_mem_nil
  | @cons asset value rawAssets values haccepts _ ih =>
    rcases List.mem_cons.mp hentry with rfl | hentry
    · exact ⟨asset, List.mem_cons_self, rfl, haccepts⟩
    · obtain ⟨other, hother, hrest⟩ := ih hentry
      exact ⟨other, List.mem_cons_of_mem _ hother, hrest⟩

/-- What is returned was declared and verified, and fits. -/
theorem soundBundle_of_decoded {encoded : String} {assets : Assets}
    (h : decodeAssetBundle codecs encoded = .ok assets) : SoundBundle codecs encoded assets := by
  obtain ⟨raw, rawAssets, values, hcarries, hdeclares, hvalues, htotal, rfl⟩ := decodeAssetBundle_eq_ok.mp h
  obtain ⟨_, -, -, -, hfirst, hlast⟩ := id hdeclares
  rw [namedAssets_empty]
  have hlength : (rawAssets.map Prod.fst).length = values.length := by
    rw [List.length_map]
    exact hvalues.length_eq
  have hpairs : ((rawAssets.map Prod.fst).zip values).length = rawAssets.length := by
    rw [List.length_zip, ← hlength, Nat.min_self, List.length_map]
  have hsub := entries_ofPairs_subperm ((rawAssets.map Prod.fst).zip values)
  have hentries : ∀ entry ∈ (Dict.ofPairs ((rawAssets.map Prod.fst).zip values)).entries,
      ∃ asset ∈ rawAssets, asset.1 = entry.1 ∧ Accepts codecs asset entry.2 :=
    fun entry hentry => exists_of_mem_zip hvalues (hsub.subset hentry)
  refine ⟨⟨?_, ?_⟩, ?_, ?_, raw, rawAssets, hcarries, hdeclares, ?_⟩
  · apply List.length_pos_iff.mpr
    apply entries_ofPairs_ne_nil
    apply List.ne_nil_of_length_pos
    omega
  · have hle := hsub.length_le
    rw [hpairs] at hle
    exact hle.trans hlast
  · intro name hname
    obtain ⟨entry, hentry, rfl⟩ := List.mem_map.mp hname
    obtain ⟨asset, -, hkey, haccepts⟩ := hentries entry hentry
    rw [← hkey]
    exact haccepts.1.name_safe
  · obtain ⟨picked, hperm, hpicked⟩ := hsub
    have hall : ((rawAssets.map Prod.fst).zip values).map Prod.snd = values := List.map_snd_zip hlength.ge
    calc totalBytes (Dict.ofPairs ((rawAssets.map Prod.fst).zip values)).values
        = totalBytes (picked.map Prod.snd) := (((hperm.map Prod.snd).map List.length).sum_eq).symm
      _ ≤ totalBytes (((rawAssets.map Prod.fst).zip values).map Prod.snd) :=
          totalBytes_le_of_sublist (hpicked.map Prod.snd)
      _ ≤ 16 * 1024 * 1024 := by
          rw [hall]
          exact htotal
  · intro entry hentry
    obtain ⟨asset, hasset, hkey, haccepts⟩ := hentries entry hentry
    exact ⟨asset, hasset, hkey, haccepts.1⟩

/-! ## The encoder -/

/-- The encoders of the host language. -/
structure Encoders where
  b64encode : List UInt8 → String
  /-- `gzip.compress`. -/
  compress : List UInt8 → List UInt8
  /-- `json.dumps(value).encode()`. -/
  dumps : JsonValue → List UInt8

variable (codecs) (encoders : Encoders) (assets : Assets)

/-- The descriptor of an asset. -/
def descriptorOf (value : List UInt8) : JsonValue :=
  .obj [("sha256", .str (codecs.sha256Hex value)), ("data_b64", .str (encoders.b64encode value))]

def bundleOf : JsonValue :=
  .obj [("schema_version", .int 1),
    ("assets", .obj (assets.entries.map fun entry => (entry.1, descriptorOf codecs encoders entry.2)))]

/-- `b64encode(gzip.compress(json.dumps(bundle).encode())).decode()`. -/
def encodeAssetBundle : String :=
  encoders.b64encode (encoders.compress (encoders.dumps (bundleOf codecs encoders assets)))

/-- The decoders undo the encoders on what this bundle makes of them.  An encoded text is ASCII and not
    empty, and a digest is ASCII. -/
structure Undone : Prop where
  values : ∀ value ∈ assets.values, codecs.b64decode (encoders.b64encode value) = some value
  json : codecs.jsonLoads (encoders.dumps (bundleOf codecs encoders assets)) = .ok (bundleOf codecs encoders assets)
  gzip : ∀ size, codecs.gunzip (encoders.compress (encoders.dumps (bundleOf codecs encoders assets))) size =
    some ((encoders.dumps (bundleOf codecs encoders assets)).take size)
  text : codecs.b64decode (encodeAssetBundle codecs encoders assets) =
    some (encoders.compress (encoders.dumps (bundleOf codecs encoders assets)))
  text_ascii : isAsciiText (encodeAssetBundle codecs encoders assets) = true
  text_present : encodeAssetBundle codecs encoders assets ≠ ""
  digests_ascii : ∀ value ∈ assets.values, isAsciiText (codecs.sha256Hex value) = true

/-- A mapping of the size and of the names of a bundle, whose encoding is within the caps. -/
structure Fits : Prop where
  count : 1 ≤ assets.entries.length ∧ assets.entries.length ≤ 20
  names_safe : ∀ name ∈ assets.keys, isSafeAssetName name.toList = true
  bytes : totalBytes assets.values ≤ 16 * 1024 * 1024
  encoded : (encodeAssetBundle codecs encoders assets).length ≤ 2 * 1024 * 1024
  decompressed : (encoders.dumps (bundleOf codecs encoders assets)).length ≤ 24 * 1024 * 1024

variable {codecs encoders assets}

/-- An encoded bundle that fits carries its own JSON. -/
theorem carries_encoded (hundone : Undone codecs encoders assets) (hfits : Fits codecs encoders assets) :
    Carries codecs (encodeAssetBundle codecs encoders assets)
      (encoders.dumps (bundleOf codecs encoders assets)) where
  present := hundone.text_present
  ascii := hundone.text_ascii
  encoded_fits := hfits.encoded
  unpacked := by
    have hall : (encoders.dumps (bundleOf codecs encoders assets)).take (maxDecompressedAssetBundleBytes + 1) =
        encoders.dumps (bundleOf codecs encoders assets) :=
      List.take_of_length_le (hfits.decompressed.trans (Nat.le_succ _))
    rw [hundone.text, Option.bind_some, hundone.gzip, hall]
  raw_fits := hfits.decompressed

/-- An encoded bundle is read back. -/
theorem decoded_of_encoded (hundone : Undone codecs encoders assets) (hfits : Fits codecs encoders assets) :
    decodeAssetBundle codecs (encodeAssetBundle codecs encoders assets) = .ok assets := by
  refine decodeAssetBundle_eq_ok.mpr ⟨_, _, assets.values, carries_encoded hundone hfits,
    ⟨_, hundone.json, rfl, rfl, ?_, ?_⟩, ?_, hfits.bytes, ?_⟩
  · rw [List.length_map]
    exact hfits.count.1
  · rw [List.length_map]
    exact hfits.count.2
  · show List.Forall₂ _ _ (assets.entries.map Prod.snd)
    rw [List.forall₂_map_left_iff, List.forall₂_map_right_iff, List.forall₂_same]
    intro entry hentry
    have hvalue : entry.2 ∈ assets.values := List.mem_map_of_mem hentry
    refine ⟨⟨hfits.names_safe _ (List.mem_map_of_mem hentry), _, _, rfl, rfl, rfl, ?_⟩, ?_⟩
    · exact hundone.values _ hvalue
    · exact hundone.digests_ascii _ hvalue
  · have hnames : (assets.entries.map fun entry => (entry.1, descriptorOf codecs encoders entry.2)).map Prod.fst =
        assets.keys := by
      rw [List.map_map]
      rfl
    have hpairs : assets.keys.zip assets.values = assets.entries := (List.zip_of_prod rfl rfl).symm
    apply Dict.ext
    rw [namedAssets, hnames, hpairs, Dict.foldl_set_of_nodup assets.entries Dict.empty (by simpa using assets.nodup)]
    rfl

/-- **The decoder is sound, and a left inverse of the encoder.**  What it accepts is a bundle of the size
    and of the names it should have, each of whose data has the digest declared beside it; and what an
    encoder makes of a mapping, up to the very limits, is decoded to that mapping. -/
theorem asset_bundle_sound_and_exact (codecs : Codecs) :
    (∀ encoded assets, decodeAssetBundle codecs encoded = .ok assets → SoundBundle codecs encoded assets) ∧
    ∀ encoders assets, Undone codecs encoders assets → Fits codecs encoders assets →
      decodeAssetBundle codecs (encodeAssetBundle codecs encoders assets) = .ok assets :=
  ⟨fun _ _ => soundBundle_of_decoded, fun _ _ => decoded_of_encoded⟩

/-! ## What is raised -/

variable (codecs) in
/-- The loop, with so many bytes taken, meets a digest that is not ASCII: the assets before it are accepted,
    and there is room for its own data. -/
inductive MeetsForeignDigest : Nat → JsonFields → Prop
  | here {taken : Nat} {asset : String × JsonValue} {rest : JsonFields} {digest : String} {value : List UInt8} :
      Describes codecs asset digest value → taken + value.length ≤ maxAssetBundleRawBytes →
        isAsciiText digest = false → MeetsForeignDigest taken (asset :: rest)
  | later {taken : Nat} {asset : String × JsonValue} {rest : JsonFields} {value : List UInt8} :
      Accepts codecs asset value → taken + value.length ≤ maxAssetBundleRawBytes →
        MeetsForeignDigest (taken + value.length) rest → MeetsForeignDigest taken (asset :: rest)

variable (codecs) in
/-- The exceptions of the host language: `json.loads` raises `UnicodeDecodeError` for what is not text, and
    never this module's own exception; a digest is ASCII.  What else `json.loads` raises for text is left
    open. -/
structure Raises (isText : List UInt8 → Bool) : Prop where
  undecodable : ∀ raw, isText raw = false →
    ∃ message, codecs.jsonLoads raw = .error (.raised "UnicodeDecodeError" message)
  foreign : ∀ raw message, codecs.jsonLoads raw ≠ .error (podValidationError message)
  digests_ascii : ∀ value, isAsciiText (codecs.sha256Hex value) = true

variable (codecs) in
/-- **The condition**: the bytes that a text carries are text, which `json.loads` reads or calls malformed,
    and the digests that are met are ASCII.  A long integer or a deep nesting is neither read nor malformed. -/
structure Comparable (isText : List UInt8 → Bool) (encoded : String) : Prop where
  text : ∀ raw, Carries codecs encoded raw → isText raw = true
  readable : ∀ raw e, Carries codecs encoded raw → codecs.jsonLoads raw = .error e →
    ∃ message, e = .raised "JSONDecodeError" message
  digests : ∀ raw rawAssets, Carries codecs encoded raw → Declares codecs raw rawAssets →
    ¬MeetsForeignDigest codecs 0 rawAssets

/-- Only text can be loaded. -/
theorem Raises.text_of_loaded {isText : List UInt8 → Bool} (h : Raises codecs isText) {raw : List UInt8}
    {loaded : JsonValue} (hloads : codecs.jsonLoads raw = .ok loaded) : isText raw = true := by
  cases htext : isText raw with
  | true => rfl
  | false =>
    obtain ⟨message, hraises⟩ := h.undecodable raw htext
    rw [hloads] at hraises
    cases hraises

/-- One failure to load is translated, and no other. -/
theorem Raises.contained_iff {isText : List UInt8 → Bool} (h : Raises codecs isText) {raw : List UInt8} {e : PyExc}
    (hloads : codecs.jsonLoads raw = .error e) :
    IsPodValidationError (loadFailure e) ↔ ∃ message, e = .raised "JSONDecodeError" message := by
  unfold loadFailure
  split
  · rename_i message
    exact ⟨fun _ => ⟨message, rfl⟩, fun _ => ⟨_, rfl⟩⟩
  · rename_i hother
    constructor
    · rintro ⟨message, rfl⟩
      exact absurd hloads (h.foreign raw message)
    · rintro ⟨message, rfl⟩
      exact absurd rfl (hother message)

/-- What is called malformed is text. -/
theorem Raises.text_of_malformed {isText : List UInt8 → Bool} (h : Raises codecs isText) {raw : List UInt8}
    {message : String} (hloads : codecs.jsonLoads raw = .error (.raised "JSONDecodeError" message)) :
    isText raw = true := by
  cases htext : isText raw with
  | true => rfl
  | false =>
    obtain ⟨message', hraises⟩ := h.undecodable raw htext
    rw [hloads] at hraises
    exact absurd (PyExc.raised.inj (Except.error.inj hraises)).1 (by decide)

theorem not_isPodValidationError_raised {typeName message : String} (h : typeName ≠ "PodValidationError") :
    ¬IsPodValidationError (.raised typeName message) := by
  rintro ⟨message', he⟩
  exact h (PyExc.raised.inj he).1

/-- **The loop lets a digest that is not ASCII through to the comparison**, and raises nothing else that
    is not its own. -/
theorem loop_raisesOnly_iff (hsha : ∀ value, isAsciiText (codecs.sha256Hex value) = true)
    {rawAssets : JsonFields} : ∀ {acc : Assets × Nat},
      Fallible.RaisesOnly IsPodValidationError (rawAssets.foldlM (addAsset codecs) acc) ↔
        ¬MeetsForeignDigest codecs acc.2 rawAssets := by
  induction rawAssets with
  | nil =>
    intro acc
    refine ⟨fun _ => ?_, fun _ => Fallible.raisesOnly_ok _⟩
    rintro ⟨⟩
  | cons asset rawAssets ih =>
    intro acc
    rw [List.foldlM_cons]
    rcases addAsset_cases codecs acc asset with
      ⟨digest, value, hdescribes, hroom, hround⟩ | ⟨hfull, message, hround⟩
    · cases hforeign : isAsciiText digest with
      | false =>
        -- The comparison raises, and the loop with it.
        obtain ⟨message, hcompare⟩ := compareDigest_foreign (a := codecs.sha256Hex value) hforeign
        rw [hround, hcompare]
        constructor
        · intro h
          have hpod : IsPodValidationError (.raised "TypeError" message) := h _ rfl
          exact absurd hpod (not_isPodValidationError_raised (by decide))
        · exact fun h => absurd (MeetsForeignDigest.here hdescribes hroom hforeign) h
      | true =>
        have hcompare := compareDigest_eq_ok.mpr ⟨hsha value, hforeign, rfl⟩
        rw [hround, hcompare, Fallible.ok_bind]
        by_cases hsame : codecs.sha256Hex value = digest
        · -- The asset is accepted, and the rest of the loop decides.
          rw [if_pos (decide_eq_true hsame)]
          show Fallible.RaisesOnly _ (rawAssets.foldlM (addAsset codecs) (acc.1.set asset.1 value,
            acc.2 + value.length)) ↔ _
          rw [ih]
          subst hsame
          constructor
          · rintro h (⟨hother, -, hascii⟩ | ⟨haccepts, -, hlater⟩)
            · obtain ⟨rfl, rfl⟩ := hdescribes.unique hother
              rw [hforeign] at hascii
              cases hascii
            · obtain ⟨-, rfl⟩ := hdescribes.unique haccepts.1
              exact h hlater
          · exact fun h hlater => h (.later ⟨hdescribes, hsha value⟩ hroom hlater)
        · rw [if_neg (by simpa using hsame)]
          refine ⟨fun _ => ?_, fun _ => Fallible.raisesOnly_error.mpr ⟨_, rfl⟩⟩
          rintro (⟨hother, -, hascii⟩ | ⟨haccepts, -, -⟩)
          · obtain ⟨rfl, rfl⟩ := hdescribes.unique hother
            rw [hforeign] at hascii
            cases hascii
          · obtain ⟨hdigest, rfl⟩ := hdescribes.unique haccepts.1
            exact hsame hdigest.symm
    · rw [hround]
      refine ⟨fun _ => ?_, fun _ => Fallible.raisesOnly_error.mpr ⟨_, rfl⟩⟩
      rintro (⟨hother, hroom, -⟩ | ⟨haccepts, hroom, -⟩)
      · exact absurd hroom (not_le.mpr (hfull _ _ hother))
      · exact absurd hroom (not_le.mpr (hfull _ _ haccepts.1))

/-- The loop raises something else exactly where it meets a foreign digest: nothing but the comparison is
    left uncaught. -/
theorem loopAssets_raisesOnly_iff (hsha : ∀ value, isAsciiText (codecs.sha256Hex value) = true)
    {rawAssets : JsonFields} : Fallible.RaisesOnly IsPodValidationError (loopAssets codecs rawAssets) ↔
      ¬MeetsForeignDigest codecs 0 rawAssets := by
  have hloop := @loop_raisesOnly_iff codecs hsha rawAssets (Dict.empty, 0)
  rw [← hloop, loopAssets]
  cases rawAssets.foldlM (addAsset codecs) (Dict.empty, 0) with
  | ok found => exact ⟨fun _ => Fallible.raisesOnly_ok _, fun _ => Fallible.raisesOnly_ok _⟩
  | error e => exact Fallible.raisesOnly_error.trans Fallible.raisesOnly_error.symm

theorem returns_or_raises_iff {α : Type} {r : Except PyExc α} :
    ((∃ a, r = .ok a) ∨ ∃ message, r = .error (podValidationError message)) ↔
      Fallible.RaisesOnly IsPodValidationError r := by
  constructor
  · rintro (⟨a, rfl⟩ | ⟨message, rfl⟩)
    · exact Fallible.raisesOnly_ok a
    · exact Fallible.raisesOnly_error.mpr ⟨message, rfl⟩
  · intro h
    cases r with
    | ok a => exact Or.inl ⟨a, rfl⟩
    | error e =>
      obtain ⟨message, rfl⟩ := h e rfl
      exact Or.inr ⟨message, rfl⟩

/-- **A rejection is contained exactly when the bytes are text that `json.loads` reads or calls malformed, and
    the digests that are met are ASCII.**  Whatever else is raised passes, since nobody translates it:
    `json.loads` raises `UnicodeDecodeError`, `ValueError` and `RecursionError` beside its own exception, and
    `hmac.compare_digest` raises `TypeError`. -/
theorem rejection_contained_iff {isText : List UInt8 → Bool} (h : Raises codecs isText) (encoded : String) :
    ((∃ assets, decodeAssetBundle codecs encoded = .ok assets) ∨
      ∃ message, decodeAssetBundle codecs encoded = .error (podValidationError message)) ↔
        Comparable codecs isText encoded := by
  rw [returns_or_raises_iff]
  rcases decodeAssetBundle_cases codecs encoded with ⟨hnone, message, hdecode⟩ |
    ⟨raw, e, hcarries, hloads, hdecode⟩ | ⟨raw, loaded, message, hcarries, hloads, hnone, hdecode⟩ |
    ⟨raw, rawAssets, hcarries, hdeclares, hdecode⟩ <;> rw [hdecode]
  · refine ⟨fun _ => ?_, fun _ => Fallible.raisesOnly_error.mpr ⟨message, rfl⟩⟩
    exact ⟨fun raw hraw => absurd hraw (hnone raw), fun raw _ hraw => absurd hraw (hnone raw),
      fun raw _ hraw => absurd hraw (hnone raw)⟩
  · -- what is not loaded declares nothing, and the failure decides
    rw [Fallible.raisesOnly_error, h.contained_iff hloads]
    constructor
    · rintro ⟨message, rfl⟩
      refine ⟨fun raw' hraw' => ?_, fun raw' e' hraw' hloads' => ?_, fun raw' rawAssets hraw' hdeclares => ?_⟩
      · rw [← hcarries.unique hraw']
        exact h.text_of_malformed hloads
      · rw [← hcarries.unique hraw', hloads] at hloads'
        exact ⟨message, (Except.error.inj hloads').symm⟩
      · obtain ⟨bundle, hloads', -⟩ := hdeclares
        rw [← hcarries.unique hraw', hloads] at hloads'
        cases hloads'
    · exact fun hcomparable => hcomparable.readable raw e hcarries hloads
  · refine ⟨fun _ => ?_, fun _ => Fallible.raisesOnly_error.mpr ⟨message, rfl⟩⟩
    refine ⟨fun raw' hraw' => ?_, fun raw' e' hraw' hloads' => ?_, fun raw' rawAssets hraw' hdeclares => ?_⟩
    · rw [← hcarries.unique hraw']
      exact h.text_of_loaded hloads
    · rw [← hcarries.unique hraw', hloads] at hloads'
      cases hloads'
    · rw [← hcarries.unique hraw'] at hdeclares
      exact absurd hdeclares (hnone rawAssets)
  · rw [loopAssets_raisesOnly_iff h.digests_ascii]
    obtain ⟨bundle, hloads, -⟩ := id hdeclares
    constructor
    · intro hmeets
      refine ⟨fun raw' hraw' => ?_, fun raw' e' hraw' hloads' => ?_, fun raw' rawAssets' hraw' hdeclares' => ?_⟩
      · rw [← hcarries.unique hraw']
        exact h.text_of_loaded hloads
      · rw [← hcarries.unique hraw', hloads] at hloads'
        cases hloads'
      · obtain rfl := hcarries.unique hraw'
        obtain rfl := hdeclares.unique hdeclares'
        exact hmeets
    · exact fun hcomparable => hcomparable.digests raw rawAssets hcarries hdeclares

end Bundles

/-! ## Three uploads -/

namespace Upload

open Sample (Short lib)

def photo : List UInt8 := [112, 114, 105, 118, 97, 116, 101, 45, 112, 104, 111, 116, 111]

def photoData : String := "cHJpdmF0ZS1waG90bw=="

def photoDigest : String := "359b028b85caaf6b43f4bf959fc2d626b4d0b59a523333bbb7695460f88b24ad"

/-- The bundle of the photo, with a digest declared beside it. -/
def bundleWith (digest : String) : JsonFields :=
  [("schema_version", .int 1),
    ("assets", .obj [("photo.jpg", .obj [("sha256", .str digest), ("data_b64", .str photoData)])])]

/-- The bytes of its JSON. -/
def honestRaw : List UInt8 :=
    [123, 34, 115, 99, 104, 101, 109, 97, 95, 118, 101, 114, 115, 105, 111, 110, 34, 58, 32, 49, 44, 32,
      34, 97, 115, 115, 101, 116, 115, 34, 58, 32, 123, 34, 112, 104, 111, 116, 111, 46, 106, 112, 103,
      34, 58, 32, 123, 34, 115, 104, 97, 50, 53, 54, 34, 58, 32, 34, 51, 53, 57, 98, 48, 50, 56, 98, 56,
      53, 99, 97, 97, 102, 54, 98, 52, 51, 102, 52, 98, 102, 57, 53, 57, 102, 99, 50, 100, 54, 50, 54,
      98, 52, 100, 48, 98, 53, 57, 97, 53, 50, 51, 51, 51, 51, 98, 98, 98, 55, 54, 57, 53, 52, 54, 48,
      102, 56, 56, 98, 50, 52, 97, 100, 34, 44, 32, 34, 100, 97, 116, 97, 95, 98, 54, 52, 34, 58, 32, 34,
      99, 72, 74, 112, 100, 109, 70, 48, 90, 83, 49, 119, 97, 71, 57, 48, 98, 119, 61, 61, 34, 125, 125,
      125]

def honestArchive : List UInt8 :=
    [31, 139, 8, 0, 0, 0, 0, 0, 2, 3, 29, 141, 193, 14, 130, 48, 16, 68, 127, 133, 236, 217, 152, 82,
      186, 181, 53, 225, 170, 198, 171, 55, 47, 100, 183, 165, 130, 9, 150, 88, 34, 7, 210, 127, 183, 58,
      167, 121, 239, 48, 179, 65, 114, 67, 63, 81, 247, 233, 223, 105, 140, 47, 56, 86, 245, 174, 2, 74,
      169, 95, 82, 129, 13, 230, 33, 46, 113, 255, 156, 31, 127, 74, 3, 73, 212, 165, 66, 131, 150, 133,
      52, 108, 208, 17, 5, 205, 170, 9, 138, 131, 69, 27, 156, 244, 90, 22, 225, 5, 163, 37, 148, 77, 9,
      51, 31, 180, 69, 165, 69, 48, 134, 165, 34, 15, 229, 198, 211, 66, 29, 107, 245, 219, 115, 151,
      235, 236, 167, 147, 184, 223, 234, 149, 206, 86, 240, 218, 182, 144, 115, 254, 2, 130, 21, 38, 59,
      162, 0, 0, 0]

def honestText : String :=
  "H4sIAAAAAAACAx2NwQ6CMBBEf4Xs2ZhSurU14arGqzcvZLelggmWWCIH0n+3Oqd57zCzQXJDP1H36d9pjC84VvWuAkqpX1KBDeYhLnH/nB9/SgNJ1KVCg5aFNGzQEQXNqgmKg0UbnPRaFuEFoyWUTQkzH7RFpUUwhqUiD+XG00Ida/Xbc5fr7KeTuN/qlc5W8Nq2kHP+AoIVJjuiAAAA"

/-- The bytes of a bundle whose digest is an accented letter. -/
def foreignRaw : List UInt8 :=
    [123, 34, 115, 99, 104, 101, 109, 97, 95, 118, 101, 114, 115, 105, 111, 110, 34, 58, 32, 49, 44, 32,
      34, 97, 115, 115, 101, 116, 115, 34, 58, 32, 123, 34, 112, 104, 111, 116, 111, 46, 106, 112, 103,
      34, 58, 32, 123, 34, 115, 104, 97, 50, 53, 54, 34, 58, 32, 34, 92, 117, 48, 48, 101, 57, 34, 44,
      32, 34, 100, 97, 116, 97, 95, 98, 54, 52, 34, 58, 32, 34, 99, 72, 74, 112, 100, 109, 70, 48, 90,
      83, 49, 119, 97, 71, 57, 48, 98, 119, 61, 61, 34, 125, 125, 125]

def foreignArchive : List UInt8 :=
    [31, 139, 8, 0, 0, 0, 0, 0, 2, 3, 171, 86, 42, 78, 206, 72, 205, 77, 140, 47, 75, 45, 42, 206, 204,
      207, 83, 178, 82, 48, 212, 81, 80, 74, 44, 46, 78, 45, 41, 6, 114, 170, 149, 10, 50, 242, 75, 242,
      245, 178, 10, 210, 193, 188, 226, 140, 68, 35, 83, 51, 32, 83, 41, 166, 212, 192, 32, 213, 82, 9,
      168, 56, 37, 177, 36, 49, 62, 201, 204, 4, 36, 154, 236, 225, 85, 144, 146, 235, 102, 16, 21, 108,
      88, 158, 232, 110, 105, 144, 84, 110, 107, 171, 84, 91, 91, 11, 0, 13, 16, 114, 85, 104, 0, 0, 0]

def foreignText : String :=
  "H4sIAAAAAAACA6tWKk7OSM1NjC9LLSrOzM9TslIw1FFQSiwuTi0pBnKqlQoy8kvy9bIK0sG84oxEI1MzIFMpptTAINVSCag4JbEkMT7JzAQkmuzhVZCS62YQFWxYnuhuaZBUbmurVFtbCwANEHJVaAAAAA=="

/-- One byte that begins no character. -/
def strayRaw : List UInt8 := [255]

def strayArchive : List UInt8 := [31, 139, 8, 0, 0, 0, 0, 0, 2, 3, 251, 15, 0, 0, 0, 0, 255, 1, 0, 0, 0]

def strayText : String := "H4sIAAAAAAACA/sPAAAAAP8BAAAA"

def b64decode (text : String) : Option (List UInt8) :=
  if text = honestText then some honestArchive
  else if text = foreignText then some foreignArchive
  else if text = strayText then some strayArchive
  else if text = photoData then some photo
  else none

def gunzip (archive : List UInt8) (size : Nat) : Option (List UInt8) :=
  if archive = honestArchive then some (honestRaw.take size)
  else if archive = foreignArchive then some (foreignRaw.take size)
  else if archive = strayArchive then some (strayRaw.take size)
  else none

def jsonLoads (raw : List UInt8) : Except PyExc JsonValue :=
  if raw = strayRaw then
    .error (.raised "UnicodeDecodeError" "'utf-8' codec can't decode byte 0xff in position 0: invalid start byte")
  else if raw = honestRaw then .ok (.obj (bundleWith photoDigest))
  else if raw = foreignRaw then .ok (.obj (bundleWith "é"))
  else .error (.raised "JSONDecodeError" "Expecting value")

/-- Codecs that know the three uploads. -/
def codecs : Codecs where
  toHostText := lib
  toNumeralTables := .ascii
  b64decode := b64decode
  gunzip := gunzip
  jsonLoads := jsonLoads
  sha256Hex _ := photoDigest
  validateWorkerInput _ := .error (.raised "ValidationError" "")

def isText (raw : List UInt8) : Bool := raw ≠ strayRaw

/-- Encoders that know the photo and its bundle. -/
def encoders : Encoders where
  b64encode bytes := if bytes = photo then photoData else if bytes = honestArchive then honestText else ""
  compress _ := honestArchive
  dumps _ := honestRaw

def assets : Assets := Dict.ofPairs [("photo.jpg", photo)]

theorem raises : Raises codecs isText where
  undecodable raw h := by
    have hraw : raw = strayRaw := by simpa [isText] using h
    exact ⟨_, if_pos hraw⟩
  foreign raw message hloads := by
    change jsonLoads raw = .error (podValidationError message) at hloads
    unfold jsonLoads at hloads
    split_ifs at hloads
    · exact absurd (PyExc.raised.inj (Except.error.inj hloads)).1 (by decide)
    · exact absurd (PyExc.raised.inj (Except.error.inj hloads)).1 (by decide)
  digests_ascii value := by
    have hdigest : isAsciiText photoDigest = true := by decide
    exact hdigest

theorem codecs_b64decode (text : String) : codecs.b64decode text = b64decode text := by
  simp only [codecs]

theorem codecs_gunzip (archive : List UInt8) (size : Nat) :
    codecs.gunzip archive size = gunzip archive size := by
  simp only [codecs]

theorem codecs_jsonLoads (raw : List UInt8) : codecs.jsonLoads raw = jsonLoads raw := by
  simp only [codecs]

/-- The type of what is raised. -/
def raisedType? {α : Type} : Except PyExc α → Option String
  | .error (.raised typeName _) => some typeName
  | _ => none

theorem exists_raised {α : Type} {r : Except PyExc α} {typeName : String}
    (h : raisedType? r = some typeName) : ∃ message, r = .error (.raised typeName message) := by
  unfold raisedType? at h
  split at h
  · obtain rfl := Option.some.inj h
    exact ⟨_, rfl⟩
  · cases h

/-! The texts are opened once each, as lists of characters. -/

set_option maxRecDepth 8000

theorem honestText_chars : ∃ cs, honestText = String.ofList cs ∧ Short cs := by
  unfold honestText
  exact ⟨_, rfl, List.cons_ne_nil _ _, by decide, by decide⟩

theorem foreignText_chars : ∃ cs, foreignText = String.ofList cs ∧ Short cs := by
  unfold foreignText
  exact ⟨_, rfl, List.cons_ne_nil _ _, by decide, by decide⟩

theorem strayText_chars : ∃ cs, strayText = String.ofList cs ∧ Short cs := by
  unfold strayText
  exact ⟨_, rfl, List.cons_ne_nil _ _, by decide, by decide⟩

theorem short_text {text : String} (h : ∃ cs, text = String.ofList cs ∧ Short cs) :
    text ≠ "" ∧ isAsciiText text = true ∧ text.length ≤ 300 := by
  obtain ⟨cs, rfl, hnonempty, hlength, hascii⟩ := h
  refine ⟨?_, ?_, ?_⟩
  · intro hempty
    have hlist := congrArg String.toList hempty
    rw [String.toList_ofList] at hlist
    exact hnonempty hlist
  · rw [isAsciiText, String.toList_ofList, hascii]
  · rw [String.length_ofList]
    exact hlength

theorem carries_short {text : String} {archive raw : List UInt8}
    (htext : ∃ cs, text = String.ofList cs ∧ Short cs) (hb64 : b64decode text = some archive)
    (hgunzip : ∀ size, gunzip archive size = some (raw.take size)) (hraw : raw.length ≤ 300) :
    Carries codecs text raw := by
  obtain ⟨hpresent, hascii, hlength⟩ := short_text htext
  refine ⟨hpresent, hascii, hlength.trans (by decide), ?_, hraw.trans (by decide)⟩
  have htake : raw.take (maxDecompressedAssetBundleBytes + 1) = raw :=
    List.take_of_length_le (hraw.trans (by decide))
  rw [codecs_b64decode, hb64, Option.bind_some, codecs_gunzip, hgunzip, htake]

/-! What becomes of them. -/

theorem foreign_raises :
    ∃ message, decodeAssetBundle codecs foreignText = .error (.raised "TypeError" message) := by
  have htext : foreignText ≠ honestText := by decide
  have harchive : foreignArchive ≠ honestArchive := by decide
  have hstray : foreignRaw ≠ strayRaw := by decide
  have hhonest : foreignRaw ≠ honestRaw := by decide
  have hcarries : Carries codecs foreignText foreignRaw :=
    carries_short foreignText_chars (by rw [b64decode, if_neg htext, if_pos rfl])
      (fun size => by rw [gunzip, if_neg harchive, if_pos rfl]) (by decide)
  have hloads : codecs.jsonLoads foreignRaw = .ok (.obj (bundleWith "é")) := by
    rw [codecs_jsonLoads, jsonLoads, if_neg hstray, if_neg hhonest, if_pos rfl]
  have hdeclares : Declares codecs foreignRaw
      [("photo.jpg", .obj [("sha256", .str "é"), ("data_b64", .str photoData)])] :=
    ⟨bundleWith "é", hloads, rfl, rfl, by decide, by decide⟩
  rw [decode_of_declared hcarries hdeclares]
  exact exists_raised (by decide)

theorem stray_raises :
    ∃ message, decodeAssetBundle codecs strayText = .error (.raised "UnicodeDecodeError" message) := by
  have hb64 : b64decode strayText = some strayArchive := by
    have hhonest : strayText ≠ honestText := by decide
    have hforeign : strayText ≠ foreignText := by decide
    rw [b64decode, if_neg hhonest, if_neg hforeign, if_pos rfl]
  have hgunzip : ∀ size, gunzip strayArchive size = some (strayRaw.take size) := by
    have hhonest : strayArchive ≠ honestArchive := by decide
    have hforeign : strayArchive ≠ foreignArchive := by decide
    intro size
    rw [gunzip, if_neg hhonest, if_neg hforeign, if_pos rfl]
  have hcarries : Carries codecs strayText strayRaw :=
    carries_short strayText_chars hb64 hgunzip (by decide)
  have hloads : ∃ message, codecs.jsonLoads strayRaw = .error (.raised "UnicodeDecodeError" message) := by
    rw [codecs_jsonLoads, jsonLoads, if_pos rfl]
    exact ⟨_, rfl⟩
  obtain ⟨message, hloads⟩ := hloads
  exact ⟨message, decode_of_unloaded hcarries hloads⟩

theorem bundleOf_assets : bundleOf codecs encoders assets = .obj (bundleWith photoDigest) := by
  have hentries : assets.entries = [("photo.jpg", photo)] := by decide
  have hdata : encoders.b64encode photo = photoData := by
    simp only [encoders, if_pos]
  rw [bundleOf, hentries, List.map_singleton, descriptorOf, hdata]
  rfl

theorem encoded_assets : encodeAssetBundle codecs encoders assets = honestText := by
  have harchive : honestArchive ≠ photo := by decide
  simp only [encodeAssetBundle, encoders, if_neg harchive, if_pos]

theorem undone : Undone codecs encoders assets where
  values := by decide
  json := by
    have hraw : honestRaw ≠ strayRaw := by decide
    rw [bundleOf_assets]
    show jsonLoads honestRaw = _
    rw [jsonLoads, if_neg hraw, if_pos rfl]
  gzip size := by
    show gunzip honestArchive size = some (honestRaw.take size)
    rw [gunzip, if_pos rfl]
  text := by
    rw [encoded_assets, codecs_b64decode, b64decode, if_pos rfl]
    rfl
  text_ascii := by
    rw [encoded_assets]
    exact (short_text honestText_chars).2.1
  text_present := by
    rw [encoded_assets]
    exact (short_text honestText_chars).1
  digests_ascii := by decide

theorem fits : Fits codecs encoders assets where
  count := by decide
  names_safe := by decide
  bytes := by decide
  encoded := by
    rw [encoded_assets]
    exact (short_text honestText_chars).2.2.trans (by decide)
  decompressed := by decide

end Upload

/-- The bundle of a photo comes back. -/
theorem asset_bundle_sound_and_exact_photo :
    decodeAssetBundle Upload.codecs (encodeAssetBundle Upload.codecs Upload.encoders Upload.assets) =
        .ok Upload.assets ∧
      SoundBundle Upload.codecs (encodeAssetBundle Upload.codecs Upload.encoders Upload.assets) Upload.assets := by
  have hdecoded := (asset_bundle_sound_and_exact Upload.codecs).2 Upload.encoders Upload.assets
    Upload.undone Upload.fits
  exact ⟨hdecoded, (asset_bundle_sound_and_exact Upload.codecs).1 _ _ hdecoded⟩

/-- A digest that is an accented letter, and a byte that is no text: neither rejection is contained. -/
theorem rejection_escapes : Raises Upload.codecs Upload.isText ∧
    (∃ message, decodeAssetBundle Upload.codecs Upload.foreignText = .error (.raised "TypeError" message)) ∧
    (∃ message, decodeAssetBundle Upload.codecs Upload.strayText =
      .error (.raised "UnicodeDecodeError" message)) ∧
    ¬∀ encoded, (∃ assets, decodeAssetBundle Upload.codecs encoded = .ok assets) ∨
      ∃ message, decodeAssetBundle Upload.codecs encoded = .error (podValidationError message) := by
  refine ⟨Upload.raises, Upload.foreign_raises, Upload.stray_raises, ?_⟩
  intro hall
  obtain ⟨message, hraises⟩ := Upload.foreign_raises
  rcases hall Upload.foreignText with ⟨assets, hdecoded⟩ | ⟨message', hdecoded⟩
  · rw [hraises] at hdecoded
    cases hdecoded
  · rw [hraises] at hdecoded
    exact absurd (PyExc.raised.inj (Except.error.inj hdecoded)).1 (by decide)

/-- The condition fails of the accented digest. -/
theorem rejection_contained_iff_foreign : ¬Comparable Upload.codecs Upload.isText Upload.foreignText := by
  intro hcomparable
  obtain ⟨message, hraises⟩ := Upload.foreign_raises
  rcases (rejection_contained_iff Upload.raises Upload.foreignText).mpr hcomparable with
    ⟨assets, hdecoded⟩ | ⟨message', hdecoded⟩
  · rw [hraises] at hdecoded
    cases hdecoded
  · rw [hraises] at hdecoded
    exact absurd (PyExc.raised.inj (Except.error.inj hdecoded)).1 (by decide)

end PodValidation

end FireviewerOrchestrator
