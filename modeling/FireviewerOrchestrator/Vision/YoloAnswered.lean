/-
  How the requests of the YOLO service are answered.

  A request is followed from its head to its answer (`complies_doGet`, `complies_doPost`): whatever goes
  wrong on the way is answered too, but for what the handler does not expect (`Unanswered`).  With that
  every thread keeps the terms (`complies_perform`).

  The handler has two `try` blocks, around the reading and around the serving, and each turns what it
  catches into an answer of its own.  `complies_orAnswer` is the rule for both: what was caught has to be
  due as that answer, and what was not has to be one of the reasons for having none.  The checks before
  them only compare, so that their answers are due by the branch that gives them.

  That a request is answered once follows from the notes alone: an answer is due while none was begun,
  and every way through the handler ends with the first.
-/
import FireviewerOrchestrator.Vision.YoloServed

set_option linter.unusedVariables false

namespace FireviewerOrchestrator

namespace Yolo

open EventEvidence EventVision Guarded Proc

variable {host : YoloHost} {service : YoloEventService} {u : Stage} {g : Notes} {w : Memory} {s : Option Runtime}

/-! ## Transient images -/

/-- The image of a request that was accepted is a picture. -/
theorem complies_transientImage {request : YoloTransientImageRequest} (hsound : w.Sound)
    (hadmitted : Admitted host service g) (hgiven : Given host g (.transient request)) :
    Complies (terms host service) (DecodedPost host service request.contentSha256 u g w s) u g w
      (YoloEventService.transientImage host request) s := by
  have hfailed : ∀ e : PyExc, DecodedPost host service request.contentSha256 u g w s u g w (.error e) s :=
    fun e => ⟨rfl, rfl, Contract.rely_refl u w, hsound, .refl g⟩
  unfold YoloEventService.transientImage
  split
  · exact complies_raise.mpr (hfailed _)
  · rename_i content hcontent
    split
    · exact complies_raise.mpr (hfailed _)
    · rename_i hsized
      split
      · exact complies_raise.mpr (hfailed _)
      · rename_i hdigest
        have hbound : content.length ≤ 5 * 1024 * 1024 := by
          -- the size was compared before the digest
          have hwithin := (not_or.mp hsized).2
          omega
        have hsame := not_not.mp hdigest
        exact complies_decodeImage hadmitted (Or.inr ⟨request, hgiven, hcontent, hsame, hbound⟩) hsame

/-- What the lock protects, of a transient image. -/
theorem complies_lockedDetect {request : YoloTransientImageRequest} {image : Image} (hsettled : w.Settled)
    (hadmitted : Admitted host service g) (hgiven : Given host g (.transient request))
    (hdepicts : Depicts host service request.contentSha256 g image) (hlocals : s = none) :
    Complies (terms host service)
      (fun v g' w' r _ => v = .inside ∧ w'.Sound ∧ w'.Settled ∧ g.Seen g' ∧
        ∀ result, r = .ok result → Detected host g' (YoloEventService.transientMedia request) result)
      .inside g w (service.lockedDetect host request image) s := by
  refine Complies.bind (complies_ensureRuntime hsettled (.admitted hadmitted hgiven)) ?_ ?_
  · rintro v g₁ w₁ a s₁ ⟨rfl, hseen₁, rfl, hsound₁, runtime, hholds⟩
    refine complies_checkTorchThreads_bind ?_ fun e => ?_
    · have hload : Complies (terms host service)
          (WithinPost g₁ w₁ (Depicts host service (YoloEventService.transientMedia request).sha256)) .inside g₁ w₁
          (ImageLoader.load host (.static request.mediaId image) (YoloEventService.transientMedia request)) s₁ := by
        -- the medium is made of the request, so the identity never differs
        show Complies _ _ _ _ _ (if request.mediaId ≠ request.mediaId then _ else _) _
        rw [if_neg (not_not.mpr rfl)]
        exact ⟨⟨rfl, rfl, .refl g₁, Or.inl hlocals⟩, hdepicts.seen hseen₁⟩
      refine (complies_detect (hadmitted.serves hseen₁.serves) hholds hload).mono ?_
      rintro v g₂ w₂ (e | result) s₂ hresult
      · obtain ⟨rfl, rfl, hseen, -⟩ := hresult
        exact ⟨rfl, hsound₁, hholds.settled, hseen₁.trans hseen, by rintro result ⟨⟩⟩
      · obtain ⟨⟨rfl, rfl, hseen, -⟩, hdetected⟩ := hresult
        refine ⟨rfl, hsound₁, hholds.settled, hseen₁.trans hseen, ?_⟩
        rintro result' ⟨rfl⟩
        exact hdetected
    · exact ⟨rfl, hsound₁, hholds.settled, hseen₁, by rintro result ⟨⟩⟩
  · rintro v g₁ w₁ e s₁ ⟨rfl, hseen₁, rfl, hsound₁, hsettled₁⟩
    exact ⟨rfl, hsound₁, hsettled₁, hseen₁, by rintro result ⟨⟩⟩

/-- **A transient image is decoded before the lock is taken**, and looked at under it. -/
theorem complies_analyzeTransient {request : YoloTransientImageRequest} (hsound : w.Sound)
    (hadmitted : Admitted host service g) (hgiven : Given host g (.transient request)) (hlocals : s = none) :
    Complies (terms host service) (ServedPost host service g) .fresh g w (service.analyzeTransient host request) s := by
  refine Complies.bind (complies_transientImage hsound hadmitted hgiven) ?_ ?_
  · rintro v g₁ w₁ image s₁ ⟨rfl, rfl, -, hsound₁, hseen₁, hdepicts⟩
    have hadmitted₁ := hadmitted.serves hseen₁.serves
    have hgiven₁ := hgiven.serves hseen₁.serves
    refine Complies.bind (complies_withLock (Q := fun r g' _ => g₁.Seen g' ∧ ∀ result, r = .ok result →
      Detected host g' (YoloEventService.transientMedia request) result) fun w₂ _ hsettled =>
        complies_lockedDetect hsettled hadmitted₁ hgiven₁ hdepicts hlocals) ?_ ?_
    · rintro v g₂ w₂ result s₂ ⟨rfl, hsound₂, hseen₂, hdetected⟩
      have hserves := (hseen₁.trans hseen₂).serves
      refine ⟨by decide, hsound₂, hserves, ?_⟩
      rintro body ⟨rfl⟩ w₃
      exact ⟨hadmitted.serves hserves, request, hgiven.serves hserves, hdetected result rfl⟩
    · rintro v g₂ w₂ e s₂ ⟨rfl, hsound₂, hseen₂, -⟩
      exact ⟨by decide, hsound₂, (hseen₁.trans hseen₂).serves, by rintro body ⟨⟩⟩
  · rintro v g₁ w₁ e s₁ ⟨rfl, rfl, -, hsound₁, hseen₁⟩
    exact ⟨by decide, hsound₁, hseen₁.serves, by rintro body ⟨⟩⟩

/-! ## Locations and bundles -/

/-- A payload that was asked for a candidate is due as its answer. -/
theorem complies_payload {candidateId : String} {q : Question} {result : Answer q → Except PyExc JsonValue}
    (hadmitted : Admitted host service g) (hgiven : Given host g (.backend candidateId))
    (hdue : ∀ w₁, due host service .fresh g q w₁) (heffect : ∀ {w a w'}, effect q w a w' → w' = w)
    (hserves : ∀ a, g.Serves (g.note q a))
    (htold : ∀ a value, result a = .ok value → PayloadOf (g.note q a) candidateId value) :
    Complies (terms host service) (ServedPost host service g) .fresh g w
      ((call q result : Serving JsonValue) >>= fun value => pure (.payload value)) s := by
  refine Complies.bind (Complies.ask (fun w₁ _ _ => hdue w₁) heffect id) ?_ ?_
  · rintro v g₁ w₁ value s₁ ⟨rfl, rfl, -, hsound₁, a, -, rfl, ha⟩
    refine ⟨by decide, hsound₁, hserves a, ?_⟩
    rintro body ⟨rfl⟩ w₂
    exact ⟨hadmitted.serves (hserves a), candidateId, hgiven.serves (hserves a), htold a value ha⟩
  · rintro v g₁ w₁ e s₁ ⟨rfl, rfl, -, hsound₁, a, -, rfl, -⟩
    exact ⟨by decide, hsound₁, hserves a, by rintro body ⟨⟩⟩

/-- On its own path, the answer is what the adapter has located for the candidate. -/
theorem complies_locateBackend {candidateId : String} (hsound : w.Sound) (hadmitted : Admitted host service g)
    (hasks : Asks g .post hypothesesPath) (hgiven : Given host g (.backend candidateId)) :
    Complies (terms host service) (ServedPost host service g) .fresh g w (service.locateBackend candidateId) s := by
  unfold YoloEventService.locateBackend
  split
  · refine complies_payload hadmitted hgiven (fun _ => ⟨hadmitted, hasks, hgiven⟩) id
      (serves_locatePayload g candidateId) fun a value ha => Or.inl ?_
    obtain rfl : a = .ok value := ha
    exact ⟨hasks.serves (serves_locatePayload g candidateId (.ok value)), rfl⟩
  · exact ⟨by decide, hsound, .refl g, by rintro body ⟨⟩⟩

/-- On the other, what it has built for it. -/
theorem complies_buildPointBundles {candidateId : String} (hsound : w.Sound) (hadmitted : Admitted host service g)
    (hasks : Asks g .post bundlesPath) (hgiven : Given host g (.backend candidateId)) :
    Complies (terms host service) (ServedPost host service g) .fresh g w (service.buildPointBundles candidateId) s := by
  unfold YoloEventService.buildPointBundles
  split
  · refine complies_payload hadmitted hgiven (fun _ => ⟨hadmitted, hasks, hgiven⟩) id
      (serves_buildPayload g candidateId) fun a value ha => Or.inr ?_
    obtain rfl : a = .ok value := ha
    exact ⟨hasks.serves (serves_buildPayload g candidateId (.ok value)), rfl⟩
  · exact ⟨by decide, hsound, .refl g, by rintro body ⟨⟩⟩

/-- **What is served is due as an answer.** -/
theorem complies_serve {path : String} {parsed : Parsed} (hsound : w.Sound) (hadmitted : Admitted host service g)
    (hasks : Asks g .post path) (hgiven : Given host g parsed) (hunpublished : g.published = false)
    (hlocals : s = none) :
    Complies (terms host service) (ServedPost host service g) .fresh g w (serve host service path parsed) s := by
  cases parsed with
  | backend candidateId =>
    show Complies _ _ _ _ _ (if path = backendDetectPath then _ else _) _
    split
    · rename_i hdetect
      exact complies_analyzeBackend hsound hadmitted (hdetect ▸ hasks) hgiven hunpublished hlocals
    · rename_i hdetect
      split
      · rename_i hhypotheses
        exact complies_locateBackend hsound hadmitted (hhypotheses ▸ hasks) hgiven
      · rename_i hhypotheses
        -- no third path of the backend is left
        have hbundles : path = bundlesPath := by
          simpa [backendPaths, hdetect, hhypotheses] using hgiven.backend_path hasks
        exact complies_buildPointBundles hsound hadmitted (hbundles ▸ hasks) hgiven
  | transient request => exact complies_analyzeTransient hsound hadmitted hgiven hlocals
  | event request => exact complies_analyze hsound hadmitted hgiven hlocals

/-! ## Answers -/

/-- What leaves a request without an answer. -/
inductive Unanswered (host : YoloHost) (service : YoloEventService) (g : Notes) (e : PyExc) : Prop
  /-- The tokens could not be compared. -/
  | token (request : Request) (htask : g.task = .request request)
      (hraised : authorized service.settings.authToken request = .error e)
  /-- The declared length has too many digits. -/
  | length (request : Request) (rawLength : String) (htask : g.task = .request request)
      (hdeclared : request.contentLength = some rawLength) (hraised : intOfDecimal host rawLength = .error e)
  /-- The body could not be read, or parsed, and it is no `ValueError`. -/
  | reading (hraised : g.unread = some e) (hpassed : isValueError e = false)
  | parsing (request : Request) (raw : Bytes) (htask : g.task = .request request) (hraw : g.raw = some raw)
      (hraised : parseBody host request.path raw = .error e) (hpassed : isValueError e = false)
  /-- What was served was left by what is no `Exception`. -/
  | serving (hgiven : ∃ parsed, Given host g parsed) (hpassed : e.isException = false)

/-- **An answer is begun once**, and has to be due whenever it is begun: others may have assigned the model
    meanwhile. -/
theorem complies_writeJson {status : Nat} {body : Body} (hunanswered : g.answered = false)
    (hdue : ∀ w₁, (terms host service).rely u w w₁ → AnswerDue host service g w₁ status body) :
    Complies (terms host service) (fun v g' w' _ s' => v = u ∧ s' = s ∧ w'.Sound ∧ g' = { g with answered := true })
      u g w (writeJson status body) s := by
  refine Complies.mono (Complies.ask (fun w₁ hrely _ => ⟨hunanswered, hdue w₁ hrely⟩) id id) ?_
  rintro v g' w' r s' ⟨rfl, rfl, -, hsound, a, -, rfl, -⟩
  exact ⟨rfl, rfl, hsound, rfl⟩

/-- How a request ends: it was answered, even if the answer broke off, or it says why not. -/
def RequestPost (host : YoloHost) (service : YoloEventService) (request : Request) :
    Post Notes Memory (Option Runtime) PyExc Unit :=
  fun v g' _ r _ => v ≠ .inside ∧ g'.task = .request request ∧
    (g'.answered = true ∨ ∃ e, r = .error e ∧ Unanswered host service g' e)

/-- An answer that ends the handler. -/
theorem complies_reply {request : Request} {status : Nat} {body : Body} (hout : u ≠ .inside)
    (htask : g.task = .request request) (hunanswered : g.answered = false)
    (hdue : ∀ w₁, (terms host service).rely u w w₁ → AnswerDue host service g w₁ status body) :
    Complies (terms host service) (RequestPost host service request) u g w (writeJson status body) s := by
  refine (complies_writeJson hunanswered hdue).mono ?_
  rintro v g' w' r s' ⟨rfl, -, -, rfl⟩
  exact ⟨hout, htask, Or.inl rfl⟩

/-- How a block ends whose failures are answered. -/
def OrAnswered {α : Type} (host : YoloHost) (service : YoloEventService) (request : Request)
    (P : α → Stage → Notes → Memory → Option Runtime → Prop) : Post Notes Memory (Option Runtime) PyExc (Option α)
  | v, g', w', .ok (some a), s' => P a v g' w' s'
  | v, g', _, .ok none, _ => v ≠ .inside ∧ g'.task = .request request ∧ g'.answered = true
  | v, g', _, .error e, _ => v ≠ .inside ∧ g'.task = .request request ∧
      (g'.answered = true ∨ Unanswered host service g' e)

/-- **A block whose failures are answered.** -/
theorem complies_orAnswer {α : Type} {request : Request} {R : Post Notes Memory (Option Runtime) PyExc α}
    {P : α → Stage → Notes → Memory → Option Runtime → Prop} {p : Serving α} {catches : PyExc → Bool} {status : Nat}
    {text : String} (h : Complies (terms host service) R u g w p s)
    (hok : ∀ v g' w' a s', R v g' w' (.ok a) s' → P a v g' w' s')
    (hout : ∀ v g' w' e s', R v g' w' (.error e) s' → v ≠ .inside ∧ g'.task = .request request)
    (hdue : ∀ v g' w' e s', R v g' w' (.error e) s' → catches e = true →
      g'.answered = false ∧ ∀ w₁, AnswerDue host service g' w₁ status (.error text))
    (hpassed : ∀ v g' w' e s', R v g' w' (.error e) s' → catches e = false → Unanswered host service g' e) :
    Complies (terms host service) (OrAnswered host service request P) u g w (orAnswer p catches status text) s := by
  refine Complies.exceptIf (R := fun v g' w' r s' => (∀ o, r = .ok o → ∃ a, o = some a ∧ R v g' w' (.ok a) s') ∧
    ∀ e, r = .error e → R v g' w' (.error e) s') (Complies.bind h ?_ ?_) ?_ ?_ ?_
  · intro v g' w' a s' ha
    refine ⟨?_, by rintro e ⟨⟩⟩
    rintro o ⟨rfl⟩
    exact ⟨a, rfl, ha⟩
  · intro v g' w' e s' he
    refine ⟨by rintro o ⟨⟩, ?_⟩
    rintro e' ⟨rfl⟩
    exact he
  · rintro v g' w' o s' ⟨ho, -⟩
    obtain ⟨a, rfl, ha⟩ := ho o rfl
    exact hok v g' w' a s' ha
  · rintro v g' w' e s' ⟨-, he⟩ hcatches
    have hraised := he e rfl
    obtain ⟨hv, htask⟩ := hout v g' w' e s' hraised
    obtain ⟨hunanswered, hanswer⟩ := hdue v g' w' e s' hraised hcatches
    refine Complies.bind (complies_writeJson hunanswered fun w₁ _ => hanswer w₁) ?_ ?_
    · rintro v₁ g₁ w₁ a s₁ ⟨rfl, -, -, rfl⟩
      exact ⟨hv, htask, rfl⟩
    · rintro v₁ g₁ w₁ e₁ s₁ ⟨rfl, -, -, rfl⟩
      exact ⟨hv, htask, Or.inl rfl⟩
  · rintro v g' w' e s' ⟨-, he⟩ hcatches
    have hraised := he e rfl
    obtain ⟨hv, htask⟩ := hout v g' w' e s' hraised
    exact ⟨hv, htask, Or.inr (hpassed v g' w' e s' hraised hcatches)⟩

/-! ## The head of a request -/

/-- The notes of a thread that begins. -/
def Notes.start (task : Task) : Notes := { task := task }

/-- At any time, what is read is what is there. -/
theorem complies_readRuntime : Complies (terms host service)
    (fun v g' w' r s' => v = u ∧ g' = g.note .readRuntime w'.runtime ∧ s' = s ∧ (terms host service).rely u w w' ∧
      w'.Sound ∧ r = .ok w'.runtime)
    u g w (call .readRuntime .ok : Serving (Option Runtime)) s := by
  refine Complies.call (fun _ _ _ => trivial) (fun hkills => hkills.elim) ?_
  rintro w₁ a w₂ hrely halways ⟨rfl, rfl⟩
  exact ⟨Contract.own_of_anytime rfl, halways, rfl, rfl, rfl, hrely, halways, rfl⟩

/-- **Ready is ready**: what `/readyz` has seen does not go away before it has answered. -/
theorem complies_doGet {request : Request} (hget : request.method = .get) :
    Complies (terms host service) (RequestPost host service request) .fresh (.start (.request request)) w
      (doGet request) s := by
  -- reading the field raises nothing
  have hread : ∀ {v : Stage} {g g' : Notes} {w₁ w' : Memory} {e : PyExc} {s₁ s' : Option Runtime} {T : Prop},
      (v = .fresh ∧ g' = g.note .readRuntime w'.runtime ∧ s' = s₁ ∧ (terms host service).rely .fresh w₁ w' ∧ w'.Sound ∧
        (.error e : Except PyExc (Option Runtime)) = .ok w'.runtime) → T := by
    rintro v g g' w₁ w' e s₁ s' T ⟨-, -, -, -, -, h⟩
    cases h
  unfold doGet
  split
  · rename_i hhealth
    exact complies_reply (by decide) rfl rfl fun _ _ => ⟨request, rfl, hget, hhealth⟩
  · rename_i hhealth
    split
    · rename_i hready
      refine Complies.bind complies_readRuntime ?_ fun _ _ _ _ _ h => hread h
      rintro v g₁ w₁ first s₁ ⟨rfl, rfl, rfl, -, -, hfirst⟩
      obtain rfl := Except.ok.inj hfirst
      refine Complies.bind complies_readRuntime ?_ fun _ _ _ _ _ h => hread h
      rintro v g₂ w₂ second s₂ ⟨rfl, rfl, rfl, hrely, -, hsecond⟩
      obtain rfl := Except.ok.inj hsecond
      -- what is assigned stays, so a model that the first read has found the second finds as well
      have hgrows : w₁.Grows w₂ := hrely
      have hseen := (seen_readRuntime (.start (.request request)) w₁.runtime).trans (seen_readRuntime _ w₂.runtime)
      have hasks := Asks.serves ⟨request, rfl, hget, hready⟩ hseen.serves
      cases hruntime : w₁.runtime with
      | some runtime =>
        rw [hruntime] at hseen hasks
        have hassigned := hgrows.runtime runtime hruntime
        rw [hassigned] at hseen hasks ⊢
        refine complies_reply (by decide) hseen.task hseen.answered fun w₃ hrely₃ => ⟨hasks, rfl, runtime, ?_⟩
        have hgrows₃ : w₂.Grows w₃ := hrely₃
        exact hgrows₃.runtime runtime hassigned
      | none =>
        rw [hruntime] at hseen hasks
        -- the model may have been assigned between the two reads
        refine complies_reply (by decide) hseen.task hseen.answered fun w₃ _ => ⟨hasks, ?_, ?_⟩
        · cases w₂.runtime with
          | none => exact Or.inr rfl
          | some runtime => exact Or.inl rfl
        · cases w₂.runtime with
          | none => rfl
          | some runtime => rfl
    · rename_i hready
      exact complies_reply (by decide) rfl rfl fun _ _ => ⟨rfl, request, rfl, Or.inl ⟨hget, hhealth, hready⟩⟩

/-! ## The body of a request -/

/-- How the reading of a body ends. -/
structure Read (host : YoloHost) (request : Request) (g' : Notes) (r : Except PyExc Parsed) : Prop where
  task : g'.task = .request request
  unanswered : g'.answered = false
  unpublished : g'.published = false
  given : ∀ parsed, r = .ok parsed → Given host g' parsed
  /-- There is no body that says anything, and this is why. -/
  refused : ∀ e, r = .error e → (¬∃ parsed, Given host g' parsed) ∧
    (g'.unread = some e ∨ ∃ raw, g'.raw = some raw ∧ parseBody host request.path raw = .error e)

/-- What a body says is what its parser makes of it, on the path it came to; and where it says nothing the
    handler has been told why. -/
theorem complies_readRequest {request : Request} {length : Int} (hadmits : Admits host service request length) :
    Complies (terms host service) (fun v g' w' r s' => v = .fresh ∧ s' = s ∧ w'.Sound ∧ Read host request g' r)
      .fresh (.start (.request request)) w (readRequest host request.path length) s := by
  refine Complies.bind (Complies.ask (fun _ _ _ => ⟨request, rfl, hadmits⟩) id id) ?_ ?_
  · rintro v g' w' raw s' ⟨rfl, rfl, -, hsound, a, -, rfl, ha⟩
    obtain rfl : a = .ok raw := ha
    refine complies_ofExcept.mpr ⟨rfl, rfl, hsound, rfl, rfl, rfl, ?_, ?_⟩
    · intro parsed hparsed
      exact ⟨request, raw, rfl, rfl, hparsed⟩
    · intro e he
      refine ⟨?_, Or.inr ⟨raw, rfl, he⟩⟩
      rintro ⟨parsed, request', raw', htask, hraw, hparsed⟩
      obtain rfl : request = request' := Task.request.inj htask
      obtain rfl : raw = raw' := Option.some.inj hraw
      rw [he] at hparsed
      cases hparsed
  · rintro v g' w' e s' ⟨rfl, rfl, -, hsound, a, -, rfl, ha⟩
    obtain rfl : a = .error e := ha
    refine ⟨rfl, rfl, hsound, rfl, rfl, rfl, by rintro parsed ⟨⟩, ?_⟩
    rintro e' ⟨rfl⟩
    refine ⟨?_, Or.inl rfl⟩
    rintro ⟨parsed, request', raw', -, hraw, -⟩
    have hnone : (none : Option Bytes) = some raw' := hraw
    cases hnone

/-- **What follows the head is answered.** -/
theorem complies_answerBody {request : Request} {length : Int} (hadmits : Admits host service request length)
    (hlocals : s = none) :
    Complies (terms host service) (RequestPost host service request) .fresh (.start (.request request)) w
      (answerBody host service request.path length) s := by
  have hread : Complies (terms host service)
      (OrAnswered host service request fun parsed v g' w' s' =>
        v = .fresh ∧ s' = s ∧ w'.Sound ∧ Read host request g' (.ok parsed))
      .fresh (.start (.request request)) w
      (orAnswer (readRequest host request.path length) isValueError 400 "invalid_event_evidence_request") s := by
    refine complies_orAnswer (complies_readRequest hadmits) ?_ ?_ ?_ ?_
    · exact fun _ _ _ _ _ h => h
    · rintro v g' w' e s' ⟨rfl, -, -, hread⟩
      exact ⟨by decide, hread.task⟩
    · rintro v g' w' e s' ⟨rfl, -, -, hread⟩ hcaught
      obtain ⟨hnothing, hwhy⟩ := hread.refused e rfl
      refine ⟨hread.unanswered, fun w₁ => ⟨rfl, ⟨request, length, hread.task, hadmits⟩, ⟨e, hcaught, ?_⟩, hnothing⟩⟩
      exact hwhy.imp id fun ⟨raw, hraw, hraised⟩ => ⟨request, raw, hread.task, hraw, hraised⟩
    · rintro v g' w' e s' ⟨rfl, -, -, hread⟩ hpassed
      rcases (hread.refused e rfl).2 with hunread | ⟨raw, hraw, hraised⟩
      · exact .reading hunread hpassed
      · exact .parsing request raw hread.task hraw hraised hpassed
  refine Complies.bind hread ?_ ?_
  · rintro v g₁ w₁ (_ | parsed) s₁ hended
    · obtain ⟨hv, htask, hanswered⟩ := hended
      exact ⟨hv, htask, Or.inl hanswered⟩
    · obtain ⟨rfl, rfl, hsound₁, hread₁⟩ := hended
      have hadmitted : Admitted host service g₁ := ⟨request, length, hread₁.task, hadmits⟩
      have hgiven := hread₁.given parsed rfl
      have hserved : Complies (terms host service)
          (OrAnswered host service request fun body v g' w' s' =>
            v ≠ .inside ∧ g'.task = .request request ∧ g'.answered = false ∧
              ∀ w₂, AnswerDue host service g' w₂ 200 body)
          .fresh g₁ w₁
          (orAnswer (serve host service request.path parsed) PyExc.isException 500 (failureOfPath request.path)) s₁ := by
        have hasks : Asks g₁ .post request.path := ⟨request, hread₁.task, hadmits.post, rfl⟩
        refine complies_orAnswer (complies_serve hsound₁ hadmitted hasks hgiven hread₁.unpublished hlocals) ?_ ?_ ?_ ?_
        · rintro v g' w' body s' ⟨hv, -, hserves, hbody⟩
          exact ⟨hv, hserves.task.trans hread₁.task, hserves.answered.trans hread₁.unanswered, hbody body rfl⟩
        · rintro v g' w' e s' ⟨hv, -, hserves, -⟩
          exact ⟨hv, hserves.task.trans hread₁.task⟩
        · rintro v g' w' e s' ⟨hv, -, hserves, -⟩ -
          exact ⟨hserves.answered.trans hread₁.unanswered, fun w₂ => ⟨hadmitted.serves hserves,
            ⟨parsed, hgiven.serves hserves⟩, request, hserves.task.trans hread₁.task, rfl⟩⟩
        · rintro v g' w' e s' ⟨hv, -, hserves, -⟩ hpassed
          exact .serving ⟨parsed, hgiven.serves hserves⟩ hpassed
      refine Complies.bind hserved ?_ ?_
      · rintro v g₂ w₂ (_ | body) s₂ hended
        · obtain ⟨hv, htask, hanswered⟩ := hended
          exact ⟨hv, htask, Or.inl hanswered⟩
        · obtain ⟨hv, htask, hunanswered, hbody⟩ := hended
          exact complies_reply hv htask hunanswered fun w₃ _ => hbody w₃
      · rintro v g₂ w₂ e s₂ ⟨hv, htask, hended⟩
        exact ⟨hv, htask, hended.imp id fun hunanswered => ⟨e, rfl, hunanswered⟩⟩
  · rintro v g₁ w₁ e s₁ ⟨hv, htask, hended⟩
    exact ⟨hv, htask, hended.imp id fun hunanswered => ⟨e, rfl, hunanswered⟩⟩

/-- **What follows a known path and the right token**: a length that lets the body in, or an answer that
    says what is wrong with it. -/
theorem complies_answerAuthorized {request : Request} (haddressed : Addressed request)
    (htoken : authorized service.settings.authToken request = .ok true) (hlocals : s = none) :
    Complies (terms host service) (RequestPost host service request) .fresh (.start (.request request)) w
      (answerAuthorized host service request) s := by
  unfold answerAuthorized
  split
  · rename_i hmissing
    refine complies_reply (by decide) rfl rfl fun _ _ =>
      ⟨rfl, request, rfl, haddressed, htoken, fun rawLength hdeclared => ?_⟩
    rw [hmissing] at hdeclared
    cases hdeclared
  · rename_i rawLength hdeclared
    split
    · rename_i hdecimal
      refine Complies.bind (R := fun v g' w' r s' => v = .fresh ∧ g' = .start (.request request) ∧ s' = s ∧
        r = intOfDecimal host rawLength) (complies_ofExcept.mpr ⟨rfl, rfl, rfl, rfl⟩) ?_ ?_
      · rintro v g' w' length s' ⟨rfl, rfl, rfl, hlength⟩
        split
        · rename_i hbounds
          exact complies_reply (by decide) rfl rfl fun _ _ => ⟨rfl, request, rawLength, length, rfl, haddressed,
            htoken, hdeclared, hdecimal, hlength.symm, hbounds⟩
        · rename_i hbounds
          obtain ⟨hpositive, hwithin⟩ := not_or.mp hbounds
          have hadmits : Admits host service request length :=
            ⟨haddressed, htoken, ⟨rawLength, hdeclared, hdecimal, hlength.symm⟩, not_le.mp hpositive, not_lt.mp hwithin⟩
          exact complies_answerBody hadmits hlocals
      · rintro v g' w' e s' ⟨rfl, rfl, rfl, hraised⟩
        exact ⟨by decide, rfl, Or.inr ⟨e, rfl, .length request rawLength rfl hdeclared hraised.symm⟩⟩
    · rename_i hdecimal
      refine complies_reply (by decide) rfl rfl fun _ _ =>
        ⟨rfl, request, rfl, haddressed, htoken, fun rawLength' hdeclared' => ?_⟩
      obtain rfl := Option.some.inj (hdeclared.symm.trans hdeclared')
      exact Bool.eq_false_iff.mpr hdecimal

/-- **A `POST`**: the path is looked at first, then the token, then what follows. -/
theorem complies_doPost {request : Request} (hpost : request.method = .post) (hlocals : s = none) :
    Complies (terms host service) (RequestPost host service request) .fresh (.start (.request request)) w
      (doPost host service request) s := by
  unfold doPost
  split
  · rename_i hpath
    have haddressed : Addressed request := ⟨hpost, hpath⟩
    refine Complies.bind (R := fun v g' w' r s' => v = .fresh ∧ g' = .start (.request request) ∧ s' = s ∧
      r = authorized service.settings.authToken request) (complies_ofExcept.mpr ⟨rfl, rfl, rfl, rfl⟩) ?_ ?_
    · rintro v g' w' isAuthorized s' ⟨rfl, rfl, rfl, htoken⟩
      cases isAuthorized with
      | true => exact complies_answerAuthorized haddressed htoken.symm hlocals
      | false => exact complies_reply (by decide) rfl rfl fun _ _ => ⟨rfl, request, rfl, haddressed, htoken.symm⟩
    · rintro v g' w' e s' ⟨rfl, rfl, rfl, hraised⟩
      exact ⟨by decide, rfl, Or.inr ⟨e, rfl, .token request rfl hraised.symm⟩⟩
  · rename_i hpath
    exact complies_reply (by decide) rfl rfl fun _ _ => ⟨rfl, request, rfl, Or.inr ⟨hpost, hpath⟩⟩

/-! ## A thread -/

/-- **How a thread ends**: a warm-up leaves the model behind, a request is answered or says why not, and
    either gives the lock back. -/
structure Ended (host : YoloHost) (service : YoloEventService) (task : Task) (v : Stage) (g' : Notes) (w' : Memory)
    (r : Except PyExc Unit) : Prop where
  unlocked : v ≠ .inside
  warmed : task = .warmup → r = .ok () → ∃ runtime, w'.runtime = some runtime
  answered : ∀ request, task = .request request →
    g'.answered = true ∨ ∃ e, r = .error e ∧ Unanswered host service g' e

/-- The same, as the end of a thread. -/
def TaskPost (host : YoloHost) (service : YoloEventService) (task : Task) :
    Post Notes Memory (Option Runtime) PyExc Unit :=
  fun v g' w' r _ => Ended host service task v g' w' r

/-- A warm-up is the load alone. -/
theorem complies_warmup : Complies (terms host service) (TaskPost host service .warmup) .fresh (.start .warmup) w
    YoloEventService.warmup s := by
  refine (complies_withLock (Q := fun r _ w' => r = .ok () → ∃ runtime, w'.runtime = some runtime)
    fun w₁ _ hsettled => (complies_ensureRuntime hsettled (Or.inl rfl)).mono ?_).mono ?_
  · rintro v g' w' (e | a) s' hended
    · obtain ⟨hv, -, -, hsound, hsettled'⟩ := hended
      exact ⟨hv, hsound, hsettled', by rintro ⟨⟩⟩
    · obtain ⟨hv, -, -, hsound, runtime, hholds⟩ := hended
      exact ⟨hv, hsound, hholds.settled, fun _ => ⟨runtime, hholds.1⟩⟩
  · rintro v g' w' r s' ⟨rfl, -, hwarmed⟩
    exact ⟨by decide, fun _ => hwarmed, by rintro request ⟨⟩⟩

/-- **Every thread keeps the terms.** -/
theorem complies_perform (task : Task) : Complies (terms host service) (TaskPost host service task) .fresh
    (.start task) w (perform host service task) none := by
  cases task with
  | warmup => exact complies_warmup
  | request request =>
    have hended : ∀ v g' w' r s', RequestPost host service request v g' w' r s' →
        TaskPost host service (.request request) v g' w' r s' := by
      rintro v g' w' r s' ⟨hv, -, hanswered⟩
      refine ⟨hv, by rintro ⟨⟩, ?_⟩
      rintro request' ⟨rfl⟩
      exact hanswered
    cases hmethod : request.method with
    | get =>
      have hperform : perform host service (.request request) = doGet request := by simp only [perform, hmethod]
      rw [hperform]
      exact (complies_doGet hmethod).mono hended
    | post =>
      have hperform : perform host service (.request request) = doPost host service request := by simp only [perform, hmethod]
      rw [hperform]
      exact (complies_doPost hmethod rfl).mono hended

end Yolo

end FireviewerOrchestrator
