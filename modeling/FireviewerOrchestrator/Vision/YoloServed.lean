/-
  What the procedures of the YOLO service keep, of the terms and of the notes.

  Inside of the lock nothing moves but the thread itself, so there a procedure is followed with one memory
  in hand (`complies_within`).  The runner's loop keeps its visits as a ghost: at its end they are those of
  some detector, and the run is one of `EventVision.run` (`complies_visionRun`).

  What is carried from the head of a request to its end is a chain of notes: whatever the thread was told
  later, its request is still admitted, what was seen is still seen (`Notes.Seen`), and the evidence of the
  backend is still the one it gave.  Each step adds one link: the payload has the digest that was asked for
  (`complies_load`), the image was decoded from it (`complies_decodeImage`), the model has said something
  of this image (`complies_detect`), the run was made of that (`complies_lockedRun`), and this is what is
  published and answered (`complies_analyzeBackend`).

  The lock is opened in `complies_withLock` only, and what has to hold there is that the memory is settled:
  nothing was loaded that is not assigned.  All ways out of a locked block have to show it, the failed ones
  included.
-/
import FireviewerOrchestrator.Vision.YoloTerms

set_option linter.unusedVariables false

namespace FireviewerOrchestrator

namespace Yolo

open EventEvidence EventVision Guarded Proc

variable {host : YoloHost} {service : YoloEventService} {u : Stage} {g g' : Notes} {w : Memory} {s : Option Runtime}

/-! ## Rules of the service's procedures -/

section Rules

variable {α β : Type} {R T : Post Notes Memory (Option Runtime) PyExc α} {U : Post Notes Memory (Option Runtime) PyExc β}

/-- A question inside of the lock that leaves the memory alone. -/
theorem complies_within {q : Question} {result : Answer q → Except PyExc α}
    (heffect : ∀ {w a w'}, effect q w a w' → w' = w) (hdue : due host service .inside g q w)
    (h : ∀ a, w.Sound → T .inside (g.note q a) w (result a) s) :
    Complies (terms host service) T .inside g w (call q result) s := by
  refine (Complies.ask (fun w₁ hrely _ => ?_) heffect id).mono ?_
  · obtain rfl : w = w₁ := hrely
    exact hdue
  · rintro v g' w' r s' ⟨rfl, rfl, hrely, halways, a, -, rfl, rfl⟩
    obtain rfl : w = w' := hrely
    exact h a halways

/-- The same, and what follows. -/
theorem complies_within_bind {q : Question} {result : Answer q → Except PyExc α} {f : α → Serving β}
    (heffect : ∀ {w a w'}, effect q w a w' → w' = w) (hdue : due host service .inside g q w)
    (hok : ∀ a b, result a = .ok b → Complies (terms host service) U .inside (g.note q a) w (f b) s)
    (herror : ∀ a e, result a = .error e → U .inside (g.note q a) w (.error e) s) :
    Complies (terms host service) U .inside g w (call q result >>= f) s := by
  refine Complies.bind (complies_within heffect hdue fun a _ => ⟨rfl, rfl, rfl, a, rfl, rfl⟩)
    (R := fun v g' w' r s' => v = .inside ∧ w' = w ∧ s' = s ∧ ∃ a, g' = g.note q a ∧ result a = r) ?_ ?_
  · rintro v g' w' b s' ⟨rfl, rfl, rfl, a, rfl, ha⟩
    exact hok a b ha
  · rintro v g' w' e s' ⟨rfl, rfl, rfl, a, rfl, ha⟩
    exact herror a e ha

/-- Inside of the lock, what is read is what is there. -/
theorem complies_readRuntime_bind {f : Option Runtime → Serving β}
    (h : w.Sound → Complies (terms host service) U .inside (g.note .readRuntime w.runtime) w (f w.runtime) s) :
    Complies (terms host service) U .inside g w ((call .readRuntime .ok : Serving (Option Runtime)) >>= f) s := by
  refine Complies.bind
    (R := fun v g' w' r s' => v = .inside ∧ g' = g.note .readRuntime w.runtime ∧ w' = w ∧ s' = s ∧
      r = .ok w.runtime ∧ w.Sound)
    (Complies.call (fun _ _ _ => trivial) (fun hkills => hkills.elim) ?_) ?_ ?_
  · rintro w₁ a w₂ hrely halways ⟨rfl, rfl⟩
    obtain rfl : w = w₂ := hrely
    exact ⟨Memory.Grows.refl _, halways, rfl, rfl, rfl, rfl, rfl, halways⟩
  · rintro v g' w' a s' ⟨rfl, rfl, rfl, rfl, ha, hsound⟩
    obtain rfl := Except.ok.inj ha
    exact h hsound
  · rintro v g' w' e s' ⟨-, -, -, -, ha, -⟩
    cases ha

/-- **Under the lock**: what a procedure keeps that settles the memory. -/
theorem complies_withLock {p : Serving α} {Q : Except PyExc α → Notes → Memory → Prop}
    (h : ∀ w₁, w₁.Sound → w₁.Settled → Complies (terms host service)
      (fun v g' w' r _ => v = .inside ∧ w'.Sound ∧ w'.Settled ∧ Q r g' w') .inside g w₁ p s) :
    Complies (terms host service) (fun v g' w' r _ => v = .finished ∧ w'.Sound ∧ Q r g' w') .fresh g w
      (withLock p) s := by
  refine Complies.bind (R := fun v g' w' r s' => r = .ok () ∧ v = .inside ∧ g' = g ∧ s' = s ∧ w'.Sound ∧ w'.Settled)
    (Complies.acquireLock rfl fun w₁ _ hsound hsettled => ⟨rfl, rfl, rfl, rfl, hsound, hsettled⟩) ?_ ?_
  · rintro v g' w' a s' ⟨-, rfl, rfl, rfl, hsound, hsettled⟩
    refine Complies.finallyDo (h w' hsound hsettled) ?_
    rintro v g'' w'' r s'' ⟨rfl, hsound₁, hsettled₁, hr⟩
    refine Complies.releaseLock rfl fun w₁ hrely hsound₂ => ?_
    obtain rfl : w'' = w₁ := hrely
    exact ⟨hsettled₁, rfl, hsound₁, hr⟩
  · rintro v g' w' e s' ⟨hr, -⟩
    cases hr

end Rules

/-! ## The runtime -/

/-- **The model is loaded once**: whoever finds none loads it and assigns it, and gives the lock back with
    what was loaded assigned, even if the load raises. -/
theorem complies_ensureRuntime (hsettled : w.Settled) (hworking : Working host service g) :
    Complies (terms host service)
      (.either (fun _ v g' w' s' => v = .inside ∧ g.Seen g' ∧ s' = s ∧ w'.Sound ∧ ∃ runtime, w'.Holds runtime)
        fun _ v g' w' s' => v = .inside ∧ g.Seen g' ∧ s' = s ∧ w'.Sound ∧ w'.Settled)
      .inside g w ensureRuntime s := by
  refine complies_readRuntime_bind fun hsound => ?_
  have hseen := seen_readRuntime g w.runtime
  have hworking' := hworking.serves hseen.serves
  revert hseen hworking'
  generalize g.note .readRuntime w.runtime = g₀
  intro hseen hworking'
  cases hruntime : w.runtime with
  | some runtime => exact ⟨rfl, hseen, rfl, hsound, runtime, hsound.holds hruntime⟩
  | none =>
    -- the memory was settled, and nothing is assigned: so nothing was loaded
    have hnone : w.loaded = [] := by
      have hloaded : w.loaded = w.runtime.toList := hsettled
      rw [hloaded, hruntime]
      rfl
    refine Complies.bind
      (R := fun v g' w' r s' => v = .inside ∧ g' = g₀ ∧ s' = s ∧ w'.Sound ∧
        (∀ runtime, r = .ok runtime → w'.runtime = none ∧ w'.loaded = [runtime]) ∧
        ∀ e, r = .error e → w'.Settled)
      (Complies.call ?_ (fun hkills => hkills.elim) ?_) ?_ ?_
    · intro w₁ hrely _
      obtain rfl : w = w₁ := hrely
      exact ⟨rfl, hruntime, hnone, hworking'⟩
    · rintro w₁ a w₂ hrely halways ⟨hloaded, hfailed⟩
      obtain rfl : w = w₁ := hrely
      cases a with
      | ok runtime =>
        obtain rfl := hloaded runtime rfl
        refine ⟨Memory.grows_load w runtime, Memory.sound_load hnone halways runtime, rfl, rfl, rfl,
          Memory.sound_load hnone halways runtime, ?_, ?_⟩
        · intro runtime' heq
          obtain rfl : runtime = runtime' := Except.ok.inj heq
          exact ⟨hruntime, by rw [hnone]; rfl⟩
        · intro e heq
          cases heq
      | error e =>
        obtain rfl := hfailed e rfl
        refine ⟨Memory.Grows.refl _, halways, rfl, rfl, rfl, halways, ?_, fun _ _ => hsettled⟩
        intro runtime' heq
        cases heq
    · rintro v g' w' runtime s' ⟨rfl, rfl, rfl, hsound', hloaded, -⟩
      -- between the load and the assignment nobody else has the lock
      obtain ⟨hunassigned, hsingle⟩ := hloaded runtime rfl
      refine Complies.call ?_ (fun hkills => hkills.elim) ?_
      · intro w₁ hrely _
        obtain rfl : w' = w₁ := hrely
        exact ⟨rfl, hunassigned, hsingle⟩
      · rintro w₁ a w₂ hrely halways (rfl : w₂ = _)
        obtain rfl : w' = w₁ := hrely
        exact ⟨Memory.grows_write hunassigned runtime, Memory.sound_write hsingle, rfl, hseen, rfl,
          Memory.sound_write hsingle, runtime, rfl, hsingle⟩
    · rintro v g' w' e s' ⟨rfl, rfl, rfl, hsound', -, hfailed⟩
      -- a load that raised has loaded nothing, and the lock may be given back
      exact ⟨rfl, hseen, rfl, hsound', hfailed e rfl⟩

/-! ## Images -/

/-- Each chunk that is taken is weighed with all before it, so that the sum is within the limit after every
    chunk; before the first it was not looked at.  The induction is on the chunks that are left. -/
theorem takeChunks_bound {limit : Int} {chunks : List Bytes} : ∀ {payload out : Bytes},
    takeChunks limit chunks payload = .ok out → (chunks = [] ∧ out = payload) ∨ (out.length : Int) ≤ limit := by
  induction chunks with
  | nil =>
    intro payload out h
    exact Or.inl ⟨rfl, (Except.ok.inj h).symm⟩
  | cons chunk chunks ih =>
    intro payload out h
    unfold takeChunks at h
    split at h
    · cases h
    · rename_i hwithin
      rcases ih h with ⟨rfl, rfl⟩ | hbound
      · exact Or.inr (not_lt.mp hwithin)
      · exact Or.inr hbound

/-- A payload is within the limit, or there is none. -/
theorem payloadOf_bound {limit : Int} {response : HttpResponse} {payload : Bytes}
    (h : payloadOf host limit response = .ok payload) : payload = [] ∨ (payload.length : Int) ≤ limit := by
  unfold payloadOf at h
  obtain ⟨-, h⟩ := Fallible.check_bind_eq_ok.mp h
  obtain ⟨-, h⟩ := Fallible.check_bind_eq_ok.mp h
  obtain ⟨taken, htaken, h⟩ := Fallible.bind_eq_ok.mp h
  have hpayload : taken = payload := by
    split at h
    · cases h
    · exact Except.ok.inj h
  obtain rfl := hpayload
  rcases takeChunks_bound htaken with ⟨-, hnil⟩ | hbound
  · exact Or.inl hnil
  · exact Or.inr hbound

/-- Only what was raised changes. -/
theorem asDownloadError_eq_ok {α : Type} {r : Except PyExc α} {a : α} : asDownloadError r = .ok a ↔ r = .ok a := by
  cases r with
  | ok b => exact Iff.rfl
  | error e =>
    constructor
    · intro h
      cases h
    · intro h
      cases h

/-- An image that may be looked at for a medium. -/
structure Depicts (host : YoloHost) (service : YoloEventService) (digest : String) (g : Notes) (image : Image) :
    Prop where
  pictured : Pictured host service g image
  shows : Shows host g digest image

/-- It still may be, whatever else was seen. -/
theorem Depicts.seen {digest : String} {image : Image} (h : Depicts host service digest g image) (hg : g.Seen g') :
    Depicts host service digest g' image := ⟨h.pictured.seen hg, h.shows.recalled hg.recalls⟩

/-- A conversion to other colours shows the same medium. -/
theorem Depicts.convert {digest : String} {image image' : Image} (h : Depicts host service digest g image) :
    Depicts host service digest (g.note (.convert image) (.ok image')) image' :=
  ⟨h.pictured.convert, h.shows.convert⟩

/-- How a decoding ends. -/
def DecodedPost (host : YoloHost) (service : YoloEventService) (digest : String) (u : Stage) (g : Notes) (w : Memory)
    (s : Option Runtime) : Post Notes Memory (Option Runtime) PyExc Image :=
  .either
    (fun image v g' w' s' => v = u ∧ s' = s ∧ (terms host service).rely u w w' ∧ w'.Sound ∧ g.Seen g' ∧
      Depicts host service digest g' image)
    (fun _ v g' w' s' => v = u ∧ s' = s ∧ (terms host service).rely u w w' ∧ w'.Sound ∧ g.Seen g')

/-- A payload with the right digest gives a picture. -/
theorem complies_decodeImage {payload : Bytes} {digest : String} {notAnImage : PyExc}
    (hadmitted : Admitted host service g) (hdue : PictureDue host service g payload)
    (hdigest : host.sha256Hex payload = digest) :
    Complies (terms host service) (DecodedPost host service digest u g w s) u g w (decodeImage payload notAnImage) s := by
  have hask : Complies (terms host service) (DecodedPost host service digest u g w s) u g w
      (call (.decode payload) id) s := by
    refine Complies.mono (Complies.ask (fun _ _ _ => ⟨hadmitted, hdue⟩) id id) ?_
    rintro v g' w' r s' ⟨rfl, rfl, hrely, hsound, a, -, rfl, rfl⟩
    have hseen := seen_decode g payload a
    cases a with
    | ok image =>
      exact ⟨rfl, rfl, hrely, hsound, hseen, ⟨payload, mem_pictures_decode, hdue.seen hseen⟩,
        payload, mem_pictures_decode, hdigest⟩
    | error e => exact ⟨rfl, rfl, hrely, hsound, hseen⟩
  refine Complies.exceptIf hask ?_ ?_ ?_
  · exact fun _ _ _ _ _ h => h
  · exact fun _ _ _ _ _ h _ => h
  · exact fun _ _ _ _ _ h _ => h

/-- Under the lock: more was seen, and the provider may have its model. -/
structure Within (g : Notes) (w : Memory) (v : Stage) (g' : Notes) (w' : Memory) (s' : Option Runtime) : Prop where
  stage : v = .inside
  memory : w' = w
  notes : g.Seen g'
  locals : s' = none ∨ s' = w.runtime

/-- One procedure after another, under the same lock. -/
theorem Within.trans {v v' : Stage} {g' g'' : Notes} {w' w'' : Memory} {s' s'' : Option Runtime}
    (h : Within g w v g' w' s') (h' : Within g' w' v' g'' w'' s'') : Within g w v' g'' w'' s'' := by
  obtain ⟨-, rfl, hnotes, -⟩ := h
  obtain ⟨hstage, rfl, hnotes', hlocals⟩ := h'
  exact ⟨hstage, rfl, hnotes.trans hnotes', hlocals⟩

/-- How a procedure ends that looks at an image under the lock. -/
def WithinPost {α : Type} (g : Notes) (w : Memory) (P : Notes → α → Prop) :
    Post Notes Memory (Option Runtime) PyExc α :=
  .either (fun a v g' w' s' => Within g w v g' w' s' ∧ P g' a) fun _ v g' w' s' => Within g w v g' w' s'

/-- The loader as the service makes it. -/
theorem loaderOf_eq_ok {request : YoloEventRequest} {loader : HttpEvidenceImageLoader}
    (h : service.loaderOf host request = .ok loader) :
    loader.locations = .ofPairs (request.assets.map fun item => (item.mediaId, item.workingFileUrl)) ∧
      loader.allowedHosts = service.settings.allowedHosts ∧
      loader.bearerTokensByOrigin = .ofPairs ((YoloEventService.bearerTokens service.settings).map fun entry =>
        (host.casefold (withoutSlashes entry.1), entry.2)) ∧
      loader.maxDownloadBytes = service.settings.maxDownloadBytes := by
  unfold YoloEventService.loaderOf HttpEvidenceImageLoader.make at h
  split at h
  · cases h
  · obtain rfl := Except.ok.inj h
    exact ⟨rfl, rfl, rfl, rfl⟩

/-- What is fetched was asked for, and is fetched from where it may be. -/
theorem complies_load {request : YoloEventRequest} {loader : HttpEvidenceImageLoader} {media : EvidenceMedia}
    (hadmitted : Admitted host service g) (hwanted : Wanted host g request)
    (hloader : service.loaderOf host request = .ok loader) (hmedia : media ∈ selected {} request.evidence.graph)
    (hlocals : s = none ∨ s = w.runtime) :
    Complies (terms host service) (WithinPost g w (Depicts host service media.sha256)) .inside g w
      (loader.load host media) s := by
  have hwithin : Within g w .inside g w s := ⟨rfl, rfl, .refl g, hlocals⟩
  obtain ⟨hlocations, hhosts, htokens, hlimit⟩ := loaderOf_eq_ok hloader
  unfold HttpEvidenceImageLoader.load
  rw [hlocations, hhosts, htokens, hlimit]
  split
  · exact hwithin
  · rename_i rawUrl hurl
    -- what the table of places gives was in the request
    have hasset : ⟨media.mediaId, rawUrl⟩ ∈ request.assets := by
      obtain ⟨before, after, hpairs, -⟩ := Dict.get?_ofPairs_eq_some.mp hurl
      have hmem : (media.mediaId, rawUrl) ∈ request.assets.map fun item => (item.mediaId, item.workingFileUrl) := by
        rw [hpairs]
        exact List.mem_append_right _ List.mem_cons_self
      obtain ⟨item, hitem, heq⟩ := List.mem_map.mp hmem
      obtain ⟨hid, hfile⟩ := Prod.mk.inj heq
      rw [← hid, ← hfile]
      exact hitem
    refine Complies.bind (R := fun v g' w' r s' => v = .inside ∧ g' = g ∧ w' = w ∧ s' = s ∧
        r = Url.urlsplit host.toUrllib rawUrl.toList) (complies_ofExcept.mpr ⟨rfl, rfl, rfl, rfl, rfl⟩) ?_ ?_
    · rintro v g' w' parsed s' ⟨rfl, rfl, rfl, rfl, hparsed⟩
      split
      · exact hwithin
      · rename_i houtside
        -- the address was split and compared before the stream is opened
        have hfetch : FetchDue host service g' rawUrl (requestHeaders (tokenFor host service parsed)) :=
          ⟨⟨request, hwanted, media, hmedia, hasset⟩, parsed, hparsed.symm, by simpa using houtside, rfl⟩
        refine complies_within_bind id ⟨rfl, hadmitted, hfetch⟩ ?_ fun _ _ _ => hwithin
        intro a response _
        refine Complies.bind (R := fun v g'' w'' r s'' => v = .inside ∧ g'' = g' ∧ w'' = w' ∧ s'' = s' ∧
            r = asDownloadError (payloadOf host service.settings.maxDownloadBytes response))
          (complies_ofExcept.mpr ⟨rfl, rfl, rfl, rfl, rfl⟩) ?_ ?_
        · rintro v g'' w'' payload s'' ⟨rfl, rfl, rfl, rfl, hpayload⟩
          split
          · exact hwithin
          · rename_i hdigest
            have hdue : PictureDue host service g'' payload := Or.inl
              ⟨request, hwanted, media, hmedia, not_not.mp hdigest,
                -- its digest was compared, and its length bounded while it was read
                payloadOf_bound (asDownloadError_eq_ok.mp hpayload.symm)⟩
            refine (complies_decodeImage hadmitted hdue (not_not.mp hdigest)).mono ?_
            rintro v g₁ w₁ (e | image) s₁ hdecoded
            · obtain ⟨rfl, rfl, hrely, -, hseen⟩ := hdecoded
              obtain rfl : w'' = w₁ := hrely
              exact ⟨rfl, rfl, hseen, hlocals⟩
            · obtain ⟨rfl, rfl, hrely, -, hseen, hdepicts⟩ := hdecoded
              obtain rfl : w'' = w₁ := hrely
              exact ⟨⟨rfl, rfl, hseen, hlocals⟩, hdepicts⟩
        · rintro v g'' w'' e s'' ⟨rfl, rfl, rfl, rfl, -⟩
          exact hwithin
    · rintro v g' w' e s' ⟨rfl, rfl, rfl, rfl, -⟩
      exact hwithin

/-- The provider comes to the model that is there: it has it, or reads it twice. -/
theorem complies_providerRuntime {runtime : Runtime} (hholds : w.Holds runtime) (hlocals : s = none ∨ s = w.runtime) :
    Complies (terms host service)
      (fun v g' w' r s' => v = .inside ∧ g.Seen g' ∧ w' = w ∧ s' = w.runtime ∧ r = .ok (some runtime))
      .inside g w providerRuntime s := by
  refine complies_get_bind.mpr ?_
  rcases hlocals with rfl | hread
  · refine Complies.bind
      (R := fun v g' w' r _ => v = .inside ∧ g.Seen g' ∧ w' = w ∧ r = .ok (some runtime)) ?_ ?_ ?_
    · refine complies_readRuntime_bind fun _ => ?_
      rw [hholds.1]
      -- the second read ends the procedure, so it is followed by a `pure` of what it read
      refine Complies.mono (Complies.call (R := fun v g' w' r _ => v = .inside ∧
        g' = (g.note .readRuntime (some runtime)).note .readRuntime w.runtime ∧ w' = w ∧ r = .ok w.runtime)
        (fun _ _ _ => trivial) (fun hkills => hkills.elim) ?_) ?_
      · rintro w₁ a w₂ hrely halways ⟨rfl, rfl⟩
        obtain rfl : w = w₂ := hrely
        exact ⟨Memory.Grows.refl _, halways, rfl, rfl, rfl, rfl⟩
      · rintro v g' w' r s' ⟨rfl, rfl, rfl, rfl⟩
        rw [hholds.1]
        exact ⟨rfl, (seen_readRuntime g _).trans (seen_readRuntime _ _), rfl, rfl⟩
    · rintro v g' w' model s' ⟨rfl, hseen, rfl, hmodel⟩
      obtain rfl := Except.ok.inj hmodel
      exact complies_modify_bind.mpr ⟨rfl, hseen, rfl, hholds.1.symm, rfl⟩
    · rintro v g' w' e s' ⟨-, -, -, hmodel⟩
      cases hmodel
  · have hsome : s = some runtime := hread.trans hholds.1
    rw [hsome]
    exact ⟨rfl, .refl g, rfl, hholds.1.symm, rfl⟩

/-- **An inference** is one on the model that was loaded, of a picture, and what it says was detected. -/
theorem complies_detect {loader : ImageLoader} {media : EvidenceMedia} {runtime : Runtime}
    (hadmitted : Admitted host service g) (hholds : w.Holds runtime)
    (hload : Complies (terms host service) (WithinPost g w (Depicts host service media.sha256)) .inside g w
      (loader.load host media) s) :
    Complies (terms host service) (WithinPost g w fun g' result => Detected host g' media result) .inside g w
      (detect host loader media) s := by
  show Complies _ _ _ _ _ (loader.load host media >>= _) s
  refine Complies.bind hload ?_ fun _ _ _ _ _ hwithin => hwithin
  rintro v g₁ w₁ loaded s₁ ⟨⟨rfl, rfl, hseen₁, hlocals₁⟩, hdepicts⟩
  have hadmitted₁ := hadmitted.serves hseen₁.serves
  refine complies_within_bind id ⟨hadmitted₁, hdepicts.pictured⟩ ?_ ?_
  · intro a image himage
    obtain rfl : a = .ok image := himage
    have hseen₂ := hseen₁.trans (seen_convert g₁ loaded (.ok image))
    refine Complies.bind (complies_providerRuntime hholds hlocals₁) ?_ ?_
    · rintro v g₃ w₃ model s₃ ⟨rfl, hseen, rfl, rfl, hmodel⟩
      obtain rfl := Except.ok.inj hmodel
      have hseen₃ := hseen₂.trans hseen
      have hadmitted₃ := hadmitted.serves hseen₃.serves
      have hdepicts₃ : Depicts host service media.sha256 g₃ image := hdepicts.convert.seen hseen
      refine complies_within_bind id ⟨rfl, hholds, hadmitted₃, hdepicts₃.pictured⟩ ?_ fun a _ _ =>
        ⟨rfl, rfl, hseen₃.trans (seen_predict g₃ runtime image a), Or.inr rfl⟩
      intro a results hresults
      obtain rfl : a = .ok results := hresults
      have hseen₄ := hseen₃.trans (seen_predict g₃ runtime image (.ok results))
      refine complies_ofExcept.mpr ?_
      cases hresult : detectionResult host.toVisionHost media.mediaId image.width image.height results with
      | error e => exact ⟨rfl, rfl, hseen₄, Or.inr rfl⟩
      | ok result => exact ⟨⟨rfl, rfl, hseen₄, Or.inr rfl⟩, detected_predict hdepicts₃.shows hresult⟩
    · rintro v g' w' e s' ⟨-, -, -, -, hmodel⟩
      cases hmodel
  · exact fun a e _ => ⟨rfl, rfl, hseen₁.trans (seen_convert g₁ loaded a), hlocals₁⟩

/-! ## The run of the detector -/

/-- What a procedure comes to that was tried. -/
theorem complies_attempt {α : Type} {P : Notes → α → Prop} {p : Serving α}
    (h : Complies (terms host service) (WithinPost g w P) .inside g w p s) :
    Complies (terms host service)
      (WithinPost g w fun g' outcome => (∀ a, outcome = .ok a → P g' a) ∧
        ∀ e, outcome = .error e → e.isException = true)
      .inside g w (attempt p) s := by
  refine Complies.exceptIf (R := WithinPost g w fun g' outcome => ∃ a, outcome = .ok a ∧ P g' a)
    (Complies.bind h ?_ fun _ _ _ _ _ hwithin => hwithin) ?_ ?_ ?_
  · rintro v g' w' a s' ⟨hwithin, ha⟩
    exact ⟨hwithin, a, rfl, ha⟩
  · rintro v g' w' outcome s' ⟨hwithin, a, rfl, ha⟩
    refine ⟨hwithin, ?_, ?_⟩
    · rintro a' ⟨rfl⟩
      exact ha
    · rintro e ⟨⟩
  · intro v g' w' e s' hwithin hcaught
    refine ⟨hwithin, ?_, ?_⟩
    · rintro a ⟨⟩
    · rintro e' ⟨rfl⟩
      exact hcaught
  · exact fun _ _ _ _ _ hwithin _ => hwithin

/-- The loop has made these visits. -/
structure Visited (host : YoloHost) (descriptor : ProviderDescriptor) (evidence : EventEvidenceV1) (g : Notes)
    (rest : List EvidenceMedia) (acc : Accumulators) (vs : List Visit) : Prop where
  media : vs.map Prod.fst ++ rest = selected {} evidence.graph
  acc_eq : acc = vs.foldl (visit host.sha256 descriptor evidence.graph) (start host.sha256 {} evidence.graph)
  results : ∀ v ∈ vs, ∀ result, v.2 = .ok result → Detected host g v.1 result
  caught : ∀ v ∈ vs, ∀ e, v.2 = .error e → e.isException = true

/-- One visit more.  What the earlier ones have found is still what the model has said. -/
theorem Visited.snoc {descriptor : ProviderDescriptor} {evidence : EventEvidenceV1} {media : EvidenceMedia}
    {rest : List EvidenceMedia} {acc : Accumulators} {vs : List Visit} {outcome : Except PyExc DetectionResult}
    (h : Visited host descriptor evidence g (media :: rest) acc vs) (hg : g.Seen g')
    (hresult : ∀ result, outcome = .ok result → Detected host g' media result)
    (hcaught : ∀ e, outcome = .error e → e.isException = true) :
    Visited host descriptor evidence g' rest (visit host.sha256 descriptor evidence.graph acc (media, outcome))
      (vs ++ [(media, outcome)]) := by
  refine ⟨?_, ?_, ?_, ?_⟩
  · rw [List.map_append, List.append_assoc]
    exact h.media
  · rw [List.foldl_append, ← h.acc_eq]
    rfl
  · intro v hv
    rcases List.mem_append.mp hv with hv | hv
    · exact fun result hv' => (h.results v hv result hv').recalled hg.recalls
    · obtain rfl := List.mem_singleton.mp hv
      exact hresult
  · intro v hv
    rcases List.mem_append.mp hv with hv | hv
    · exact h.caught v hv
    · obtain rfl := List.mem_singleton.mp hv
      exact hcaught

/-- **The runner's loop is a run of some detector**, of which every result is well formed. -/
theorem complies_visionRun {descriptor : ProviderDescriptor} {detectMedium : EvidenceMedia → Serving DetectionResult}
    {evidence : EventEvidenceV1} (hlocals : s = none ∨ s = w.runtime)
    (hdetect : ∀ media ∈ selected {} evidence.graph, ∀ g₁ s₁, g.Seen g₁ → (s₁ = none ∨ s₁ = w.runtime) →
      Complies (terms host service)
        (WithinPost g₁ w fun g' result => Detected host g' media result) .inside g₁ w (detectMedium media) s₁) :
    Complies (terms host service) (WithinPost g w fun g' out => RanAs host descriptor g' evidence out) .inside g w
      (visionRun host descriptor detectMedium evidence) s := by
  refine Complies.bind (Complies.foldLoop
    -- the invariant: what is left, what was accumulated, and the visits it was accumulated from
    (fun rest acc v g' w' s' => Within g w v g' w' s' ∧ ∃ vs, Visited host descriptor evidence g' rest acc vs)
    (fun _ v g' w' s' => Within g w v g' w' s') ?_
    ⟨⟨rfl, rfl, .refl g, hlocals⟩, [], rfl, rfl, (by simp), (by simp)⟩) ?_ ?_
  · rintro media rest acc v g₁ w₁ s₁ hmedia ⟨hwithin, vs, hvisited⟩
    obtain ⟨rfl, rfl, hseen, hlocals₁⟩ := id hwithin
    refine Complies.bind (complies_attempt (hdetect media hmedia g₁ s₁ hseen hlocals₁)) ?_ ?_
    · rintro v₂ g₂ w₂ outcome s₂ ⟨hwithin₂, hresult, hcaught⟩
      exact ⟨hwithin.trans hwithin₂, _, hvisited.snoc hwithin₂.notes hresult hcaught⟩
    · exact fun v₂ g₂ w₂ e s₂ hwithin₂ => hwithin.trans hwithin₂
  · rintro v g₁ w₁ acc s₁ ⟨hwithin, vs, hvisited⟩
    refine complies_ofExcept.mpr ?_
    cases hfinish : finish evidence.graph acc with
    | error e => exact hwithin
    | ok out =>
      rw [hvisited.acc_eq] at hfinish
      have hmedia : vs.map Prod.fst = selected {} evidence.graph := (List.append_nil _).symm.trans hvisited.media
      -- the detector is the record of the visits: asked for a medium, it answers what came of it
      refine ⟨hwithin, recorded vs, fun media result hrecorded => ?_, run_of_visits hmedia hvisited.caught hfinish⟩
      exact hvisited.results _ (recorded_eq_ok hrecorded) result rfl
  · exact fun v g₁ w₁ e s₁ hwithin => hwithin

/-! ## The service -/

/-- The request that is made of the backend's evidence is about it. -/
theorem requestOf_evidence {durable : DurableEventEvidence} {request : YoloEventRequest}
    (h : YoloEventService.requestOf host durable = .ok request) : request.evidence = durable.event := by
  unfold YoloEventService.requestOf at h
  obtain ⟨assets, -, h⟩ := Fallible.bind_eq_ok.mp h
  unfold YoloEventRequest.modelValidate at h
  split at h
  · split at h
    · split at h
      · split at h
        · obtain rfl := Except.ok.inj h
          rfl
        · cases h
      · cases h
    · cases h
  · cases h

/-- The check of a setting asks nothing: it raises or it does not. -/
theorem complies_checkTorchThreads_bind {α : Type} {T : Post Notes Memory (Option Runtime) PyExc α}
    {threads : Int} {f : Unit → Serving α} (hok : Complies (terms host service) T u g w (f ()) s)
    (herror : ∀ e, T u g w (.error e) s) :
    Complies (terms host service) T u g w (ofExcept (checkTorchThreads threads) >>= f) s := by
  unfold checkTorchThreads
  split
  · exact hok
  · exact herror _

/-- What the lock protects, of a run. -/
theorem complies_lockedRun {request : YoloEventRequest} {loader : HttpEvidenceImageLoader}
    (hsettled : w.Settled) (hadmitted : Admitted host service g) {parsed : Parsed} (hgiven : Given host g parsed)
    (hwanted : Wanted host g request) (hloader : service.loaderOf host request = .ok loader) (hlocals : s = none) :
    Complies (terms host service)
      (fun v g' w' r _ => v = .inside ∧ w'.Sound ∧ w'.Settled ∧ g.Seen g' ∧
        ∀ out, r = .ok out → Ran host service g' request.evidence out)
      .inside g w (service.lockedRun host loader request) s := by
  refine Complies.bind (complies_ensureRuntime hsettled (.admitted hadmitted hgiven)) ?_ ?_
  · rintro v g₁ w₁ a s₁ ⟨rfl, hseen₁, rfl, hsound₁, runtime, hholds⟩
    refine complies_checkTorchThreads_bind ?_ fun e => ?_
    · refine (complies_visionRun (Or.inl hlocals) fun media hmedia g₂ s₂ hseen hlocals₂ => ?_).mono ?_
      · have hseen₂ := hseen₁.trans hseen
        have hadmitted₂ := hadmitted.serves hseen₂.serves
        -- each medium of the evidence is loaded, and looked at by the model
        exact complies_detect hadmitted₂ hholds
          (complies_load hadmitted₂ (hwanted.seen hseen₂) hloader hmedia hlocals₂)
      · rintro v g₂ w₂ (e | out) s₂ hout
        · obtain ⟨rfl, rfl, hseen, -⟩ := hout
          exact ⟨rfl, hsound₁, hholds.settled, hseen₁.trans hseen, by rintro out ⟨⟩⟩
        · obtain ⟨⟨rfl, rfl, hseen, -⟩, hran⟩ := hout
          refine ⟨rfl, hsound₁, hholds.settled, hseen₁.trans hseen, ?_⟩
          rintro out' ⟨rfl⟩
          exact hran
    · exact ⟨rfl, hsound₁, hholds.settled, hseen₁, by rintro out ⟨⟩⟩
  · rintro v g₁ w₁ e s₁ ⟨rfl, hseen₁, rfl, hsound₁, hsettled₁⟩
    exact ⟨rfl, hsound₁, hsettled₁, hseen₁, by rintro out ⟨⟩⟩

/-- **A run**: its result is that of some detector over the evidence, and the lock is given back. -/
theorem complies_run {request : YoloEventRequest} (hsound : w.Sound) (hadmitted : Admitted host service g)
    {parsed : Parsed} (hgiven : Given host g parsed) (hwanted : Wanted host g request) (hlocals : s = none) :
    Complies (terms host service)
      (fun v g' w' r _ => v ≠ .inside ∧ w'.Sound ∧ g.Seen g' ∧
        ∀ out, r = .ok out → Ran host service g' request.evidence out)
      .fresh g w (service.run host request) s := by
  refine Complies.bind (R := fun v g' w' r s' => v = .fresh ∧ g' = g ∧ w' = w ∧ s' = s ∧
      r = service.loaderOf host request) (complies_ofExcept.mpr ⟨rfl, rfl, rfl, rfl, rfl⟩) ?_ ?_
  · rintro v g₁ w₁ loader s₁ ⟨rfl, rfl, rfl, rfl, hloader⟩
    refine (complies_withLock (Q := fun r g' _ => g₁.Seen g' ∧
      ∀ out, r = .ok out → Ran host service g' request.evidence out) fun w₂ _ hsettled =>
        complies_lockedRun hsettled hadmitted hgiven hwanted hloader.symm hlocals).mono ?_
    rintro v g₂ w₂ r s₂ ⟨rfl, hsound₂, hseen, hran⟩
    exact ⟨by decide, hsound₂, hseen, hran⟩
  · rintro v g₁ w₁ e s₁ ⟨rfl, rfl, rfl, rfl, -⟩
    exact ⟨by decide, hsound, .refl _, by rintro out ⟨⟩⟩

/-- How an analysis ends: its body is due as an answer. -/
def ServedPost (host : YoloHost) (service : YoloEventService) (g : Notes) :
    Post Notes Memory (Option Runtime) PyExc Body :=
  fun v g' w' r _ => v ≠ .inside ∧ w'.Sound ∧ g.Serves g' ∧
    ∀ body, r = .ok body → ∀ w₁, AnswerDue host service g' w₁ 200 body

/-- **A result is what a run has found** over the evidence in the body. -/
theorem complies_analyze {request : YoloEventRequest} (hsound : w.Sound) (hadmitted : Admitted host service g)
    (hgiven : Given host g (.event request)) (hlocals : s = none) :
    Complies (terms host service) (ServedPost host service g) .fresh g w (service.analyze host request) s := by
  refine Complies.bind (complies_run hsound hadmitted hgiven (Or.inl hgiven) hlocals) ?_ ?_
  · rintro v g' w' out s' ⟨hout, hsound', hseen, hran⟩
    refine ⟨hout, hsound', hseen.serves, ?_⟩
    rintro body ⟨rfl⟩ w₁
    exact ⟨hadmitted.serves hseen.serves, request, hgiven.serves hseen.serves, hran out rfl⟩
  · rintro v g' w' e s' ⟨hout, hsound', hseen, -⟩
    exact ⟨hout, hsound', hseen.serves, by rintro body ⟨⟩⟩

/-- **What is published was found** in a run over the backend's evidence, and is published once. -/
theorem complies_analyzeBackend {candidateId : String} (hsound : w.Sound) (hadmitted : Admitted host service g)
    (hasks : Asks g .post backendDetectPath) (hgiven : Given host g (.backend candidateId))
    (hunpublished : g.published = false) (hlocals : s = none) :
    Complies (terms host service) (ServedPost host service g) .fresh g w (service.analyzeBackend host candidateId) s := by
  have hfailed : ∀ {v : Stage} {g' : Notes} {w' : Memory} {e : PyExc}, v ≠ .inside → w'.Sound →
      g.Serves g' → ∀ s', ServedPost host service g v g' w' (.error e) s' :=
    fun hv hw hg _ => ⟨hv, hw, hg, by rintro body ⟨⟩⟩
  unfold YoloEventService.analyzeBackend
  split
  · exact hfailed (by decide) hsound (.refl g) s
  · refine Complies.bind (Complies.ask (fun _ _ _ => ⟨hadmitted, hasks, hgiven⟩) id id) ?_ ?_
    · rintro v g₁ w₁ durable s₁ ⟨rfl, rfl, -, hsound₁, a, -, rfl, ha⟩
      obtain rfl : a = .ok durable := ha
      have hserves₁ := serves_readBackend g candidateId (.ok durable)
      refine Complies.bind (R := fun v g' w' r s' => v = .fresh ∧ g' = g.note (.readBackend candidateId) (.ok durable) ∧
          w' = w₁ ∧ s' = s₁ ∧ r = YoloEventService.requestOf host durable)
        (complies_ofExcept.mpr ⟨rfl, rfl, rfl, rfl, rfl⟩) ?_ ?_
      · rintro v g₂ w₂ request s₂ ⟨rfl, rfl, rfl, rfl, hrequest⟩
        have hgiven₁ := hgiven.serves hserves₁
        -- from here on the evidence is the one the backend has given for this candidate
        have hwanted : Wanted host (g.note (.readBackend candidateId) (.ok durable)) request :=
          Or.inr ⟨candidateId, durable, hgiven₁, rfl, hrequest.symm⟩
        have hevidence : request.evidence = durable.event := requestOf_evidence hrequest.symm
        refine Complies.bind (complies_run hsound₁ (hadmitted.serves hserves₁) hgiven₁ hwanted hlocals) ?_ ?_
        · rintro v g₃ w₃ out s₃ ⟨hv, hsound₃, hseen, hran⟩
          have hserves₃ := hserves₁.trans hseen.serves
          have hran₃ : Ran host service g₃ durable.event out := hevidence ▸ hran out rfl
          have hdurable₃ : g₃.durable = some (candidateId, durable) := hseen.durable
          have hunpublished₃ : g₃.published = false := hseen.published.trans hunpublished
          split
          · exact hfailed hv hsound₃ hserves₃ s₃
          · rename_i hsame
            have hcandidates := not_not.mp hsame
            -- the candidates were compared with those of the evidence before
            have hpublish : PublishDue host service g₃ (YoloEventService.publicationOf candidateId durable out) :=
              ⟨hasks.serves hserves₃, candidateId, durable, out, hgiven.serves hserves₃, hdurable₃, hran₃,
                hcandidates, rfl⟩
            refine Complies.bind
              (Complies.ask (fun _ _ _ => ⟨hunpublished₃, hadmitted.serves hserves₃, hpublish⟩) id id) ?_ ?_
            · rintro v g₄ w₄ receipt s₄ ⟨rfl, rfl, -, hsound₄, a, -, rfl, ha⟩
              obtain rfl : a = .ok receipt := ha
              have hserves₄ := hserves₃.trans
                (serves_publish g₃ (YoloEventService.publicationOf candidateId durable out) (.ok receipt))
              refine ⟨hv, hsound₄, hserves₄, ?_⟩
              rintro body ⟨rfl⟩ w₅
              have hran₄ := hran₃.recalled
                (recalls_publish g₃ (YoloEventService.publicationOf candidateId durable out) (.ok receipt))
              exact ⟨hadmitted.serves hserves₄, hasks.serves hserves₄, hgiven.serves hserves₄, durable, hdurable₃,
                hran₄, rfl, rfl, congrArg List.length hcandidates⟩
            -- a publication that raised leaves no receipt, and no answer with a result
            · rintro v g₄ w₄ e s₄ ⟨rfl, rfl, -, hsound₄, a, -, rfl, -⟩
              exact hfailed hv hsound₄ (hserves₃.trans (serves_publish g₃ _ a)) s₄
        · rintro v g₃ w₃ e s₃ ⟨hv, hsound₃, hseen, -⟩
          exact hfailed hv hsound₃ (hserves₁.trans hseen.serves) s₃
      · rintro v g₂ w₂ e s₂ ⟨rfl, rfl, rfl, rfl, -⟩
        exact hfailed (by decide) hsound₁ hserves₁ s₂
    · rintro v g₁ w₁ e s₁ ⟨rfl, rfl, -, hsound₁, a, -, rfl, -⟩
      exact hfailed (by decide) hsound₁ (serves_readBackend g candidateId a) s₁

end Yolo

end FireviewerOrchestrator
