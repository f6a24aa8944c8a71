/-
  The usage protocol of a session's adapters.

  A session stands between two stages, in an open stage with nothing held, or holding one adapter
  that was used so far in a certain way (`Phase`), and each event moves it (`Step`).  `WellBracketed`
  says in terms of the event log alone what that means: what was acquired is released before anything
  else is acquired, only what is held is used, and so on.  `wellBracketed_of_run` proves that the
  protocol implies it.  That the session follows the protocol is proved in `Brackets`.
-/
import FireviewerOrchestrator.Library.Transition
import FireviewerOrchestrator.SessionRunner.Environment

set_option linter.unusedVariables false

namespace FireviewerOrchestrator

/-! ## What the log shows -/

namespace Event

variable {A : Type}

/-- The adapter a successful creation hands out. -/
def acquired : Event A → Option A
  | .create _ _ (.ok a) => some a
  | .createJudge _ _ (.ok a) => some a
  | _ => none

/-- The adapter a call is made on. -/
def used : Event A → Option A
  | .load a _ => some a
  | .infer a _ _ _ => some a
  | .attempt a _ _ => some a
  | .adjudicate a _ _ => some a
  | _ => none

/-- The stage an adapter is created for, whether or not the creation raises. -/
def creationRole : Event A → Option PipelineModelRole
  | .create role _ _ => some role
  | .createJudge role _ _ => some role
  | _ => none

/-- The candidate of a creation, whether or not it raises. -/
def candidateCreated : Event A → Option (PipelineModelRole × ModelCandidateSpec)
  | .create role candidate _ => some (role, candidate)
  | _ => none

def isGate : Event A → Bool
  | .gate _ => true
  | _ => false

/-- A question to a candidate, or the end of the attempt it began. -/
def isAsking : Event A → Bool
  | .infer _ _ _ _ => true
  | .attempt _ _ _ => true
  | _ => false

end Event

/-- The two ends of an adapter's life. -/
inductive Boundary (A : Type) where
  | acquired (a : A)
  | released (a : A)

def Event.boundary {A : Type} : Event A → Option (Boundary A)
  | .create _ _ (.ok a) => some (.acquired a)
  | .createJudge _ _ (.ok a) => some (.acquired a)
  | .release a => some (.released a)
  | _ => none

namespace SessionRunner

open Transition

/-- Each adapter acquired, then released. -/
def pairsOf {A : Type} (adapters : List A) : List (Boundary A) :=
  adapters.flatMap fun a => [.acquired a, .released a]

/-- The log ends with the acquisition of `a` followed by uses of `a` only. -/
def Held {A : Type} (a : A) (log : List (Event A)) : Prop :=
  ∃ before e since, log = before ++ e :: since ∧ e.acquired = some a ∧ ∀ x ∈ since, x.used = some a

/-- The record of a preflight that lets this stage start. -/
structure LetsStart (role : PipelineModelRole) (record : StageGateRecord) : Prop where
  role_eq : record.role = role.stageRole
  phase_eq : record.phase = .preflight
  proceeds : record.decision = .proceed
  downstream : record.downstreamPossible = true

/-- The last gate record of the log lets this stage start. -/
def StartedBy {A : Type} (role : PipelineModelRole) (log : List (Event A)) : Prop :=
  ∃ before record since, log = before ++ .gate record :: since ∧ LetsStart role record ∧
    ∀ x ∈ since, x.isGate = false

/-- How a candidate is asked: not at all; once; or a second time, with the correction, after the first
    attempt ended in a refusal and where the stage allows a repair. -/
inductive AskedProperly {A : Type} (repairs : Nat) (a : A) : List (Event A) → Prop
  | never : AskedProperly repairs a []
  | once (accumulated answer ended) :
      AskedProperly repairs a [.infer a false accumulated answer, .attempt a false ended]
  | twice (accumulated answer) {refusal : PyExc} (hrefused : refusal.isRefusedOutput = true)
      (hrepairs : 1 ≤ repairs) (accumulated' answer' ended) :
      AskedProperly repairs a [.infer a false accumulated answer, .attempt a false (.error refusal),
        .infer a true accumulated' answer', .attempt a true ended]

/-- What a session may do at most: its stages' candidates, and the repairs a stage allows. -/
structure Plan where
  candidates : PipelineModelRole → List ModelCandidateSpec
  repairs : PipelineModelRole → Nat

/-- The candidates of these stages, in order. -/
def Plan.creations (plan : Plan) (roles : List PipelineModelRole) :
    List (PipelineModelRole × ModelCandidateSpec) :=
  roles.flatMap fun role => (plan.candidates role).map fun candidate => (role, candidate)

/-- **A well-bracketed log.** -/
structure WellBracketed {A : Type} (plan : Plan) (log : List (Event A)) : Prop where
  /-- Acquisitions and releases alternate, adapter by adapter, and none is left unreleased. -/
  alternating : ∃ adapters, log.filterMap Event.boundary = pairsOf adapters
  /-- At every moment at most one adapter is acquired and not yet released. -/
  at_most_one : ∀ before after, log = before ++ after → ∃ adapters held : List A, held.length ≤ 1 ∧
    before.filterMap Event.boundary = pairsOf adapters ++ held.map Boundary.acquired
  /-- An acquired adapter is only used, until it is released. -/
  released_next : ∀ before e a after, log = before ++ e :: after → e.acquired = some a →
    ∃ uses rest, after = uses ++ .release a :: rest ∧ ∀ x ∈ uses, x.used = some a
  /-- What is used is held. -/
  used_held : ∀ before e a after, log = before ++ e :: after → e.used = some a → Held a before
  /-- Candidates are created in the order of the stages and of their groups, each at most once. -/
  created_once : (log.filterMap Event.candidateCreated).Sublist (plan.creations roleOrder)
  /-- A created candidate is asked at most twice, as `AskedProperly` says. -/
  asked : ∀ before role candidate a uses after,
    log = before ++ .create role candidate (.ok a) :: (uses ++ .release a :: after) →
    (∀ x ∈ uses, x.used = some a) → AskedProperly (plan.repairs role) a (uses.filter Event.isAsking)
  /-- Adapters are only created in a stage whose preflight record is PROCEED. -/
  created_open : ∀ before e role after, log = before ++ e :: after → e.creationRole = some role →
    StartedBy role before
  /-- The job is finalized once, at the end. -/
  finalized : ∃ body, log = body ++ [.finalizeJob] ∧ Event.finalizeJob ∉ body

/-! ## The protocol -/

inductive CandidateUse where
  | created | loaded | asked | refused | corrected | spent

/-- No attempt is under way. -/
def CandidateUse.atRest : CandidateUse → Bool
  | asked => false
  | corrected => false
  | _ => true

inductive JudgeUse where
  | created | loaded | refused | spent

/-- An open stage: its role, its candidates not created yet, and the stages behind it. -/
structure OpenStage where
  role : PipelineModelRole
  pending : List ModelCandidateSpec
  later : List PipelineModelRole

/-- Where a session stands. -/
inductive Phase (A : Type) where
  | between (later : List PipelineModelRole)
  | opened (stage : OpenStage)
  | holding (stage : OpenStage) (a : A) (use : CandidateUse)
  | judging (stage : OpenStage) (a : A) (use : JudgeUse)
  | finalized

namespace Phase

variable {A : Type}

/-- Nothing is held. -/
inductive Idle : Phase A → Prop
  | between (later : List PipelineModelRole) : Idle (.between later)
  | opened (stage : OpenStage) : Idle (.opened stage)

def held : Phase A → List A
  | holding _ a _ => [a]
  | judging _ a _ => [a]
  | _ => []

def stage? : Phase A → Option OpenStage
  | opened stage => some stage
  | holding stage _ _ => some stage
  | judging stage _ _ => some stage
  | _ => none

/-- The creations that can still come. -/
def remaining (plan : Plan) : Phase A → List (PipelineModelRole × ModelCandidateSpec)
  | between later => plan.creations later
  | finalized => []
  | opened stage | holding stage _ _ | judging stage _ _ =>
      stage.pending.map (fun candidate => (stage.role, candidate)) ++ plan.creations stage.later

end Phase

/-- One event, and where it leads. -/
inductive Step {A : Type} (plan : Plan) : Phase A → Event A → Phase A → Prop
  | skip {record : StageGateRecord} {role : PipelineModelRole} {later : List PipelineModelRole}
      (hphase : record.phase = .preflight) (h : record.decision ≠ .proceed) :
      Step plan (.between (role :: later)) (.gate record) (.between later)
  | start {record : StageGateRecord} {role : PipelineModelRole} {later : List PipelineModelRole}
      (h : LetsStart role record) :
      Step plan (.between (role :: later)) (.gate record) (.opened ⟨role, plan.candidates role, later⟩)
  | conclude {record : StageGateRecord} {stage : OpenStage} (hphase : record.phase = .postflight) :
      Step plan (.opened stage) (.gate record) (.between stage.later)
  | create {role : PipelineModelRole} {candidate : ModelCandidateSpec} {pending : List ModelCandidateSpec}
      {later : List PipelineModelRole} {a : A} :
      Step plan (.opened ⟨role, candidate :: pending, later⟩) (.create role candidate (.ok a))
        (.holding ⟨role, pending, later⟩ a .created)
  | createRaised {role : PipelineModelRole} {candidate : ModelCandidateSpec}
      {pending : List ModelCandidateSpec} {later : List PipelineModelRole} {e : PyExc} :
      Step plan (.opened ⟨role, candidate :: pending, later⟩) (.create role candidate (.error e))
        (.opened ⟨role, pending, later⟩)
  | load {stage : OpenStage} {a : A} :
      Step plan (.holding stage a .created) (.load a (.ok ())) (.holding stage a .loaded)
  | loadRaised {stage : OpenStage} {a : A} {e : PyExc} :
      Step plan (.holding stage a .created) (.load a (.error e)) (.holding stage a .spent)
  | ask {stage : OpenStage} {a : A} {accumulated : Dict String ItemPatch}
      {answer : Except PyExc (Dict String ItemPatch)} :
      Step plan (.holding stage a .loaded) (.infer a false accumulated answer) (.holding stage a .asked)
  | settle {stage : OpenStage} {a : A} {ended : Except PyExc Unit} :
      Step plan (.holding stage a .asked) (.attempt a false ended) (.holding stage a .spent)
  | refuse {stage : OpenStage} {a : A} {refusal : PyExc} (h : refusal.isRefusedOutput = true) :
      Step plan (.holding stage a .asked) (.attempt a false (.error refusal)) (.holding stage a .refused)
  | correct {stage : OpenStage} {a : A} {accumulated : Dict String ItemPatch}
      {answer : Except PyExc (Dict String ItemPatch)} (h : 1 ≤ plan.repairs stage.role) :
      Step plan (.holding stage a .refused) (.infer a true accumulated answer) (.holding stage a .corrected)
  | settleCorrection {stage : OpenStage} {a : A} {ended : Except PyExc Unit} :
      Step plan (.holding stage a .corrected) (.attempt a true ended) (.holding stage a .spent)
  | release {stage : OpenStage} {a : A} {use : CandidateUse} (h : use.atRest = true) :
      Step plan (.holding stage a use) (.release a) (.opened stage)
  | createJudge {stage : OpenStage} {adjudicator : ModelCandidateSpec} {a : A} :
      Step plan (.opened stage) (.createJudge stage.role adjudicator (.ok a)) (.judging stage a .created)
  | createJudgeRaised {stage : OpenStage} {adjudicator : ModelCandidateSpec} {e : PyExc} :
      Step plan (.opened stage) (.createJudge stage.role adjudicator (.error e)) (.opened stage)
  | loadJudge {stage : OpenStage} {a : A} :
      Step plan (.judging stage a .created) (.load a (.ok ())) (.judging stage a .loaded)
  | loadJudgeRaised {stage : OpenStage} {a : A} {e : PyExc} :
      Step plan (.judging stage a .created) (.load a (.error e)) (.judging stage a .spent)
  | adjudicate {stage : OpenStage} {a : A} {answer : Except PyExc ConsensusJudgeVerdict} :
      Step plan (.judging stage a .loaded) (.adjudicate a false answer) (.judging stage a .spent)
  | refuseVerdict {stage : OpenStage} {a : A} {refusal : PyExc} (h : refusal.isModelOutput = true) :
      Step plan (.judging stage a .loaded) (.adjudicate a false (.error refusal))
        (.judging stage a .refused)
  | adjudicateAgain {stage : OpenStage} {a : A} {answer : Except PyExc ConsensusJudgeVerdict} :
      Step plan (.judging stage a .refused) (.adjudicate a true answer) (.judging stage a .spent)
  | releaseJudge {stage : OpenStage} {a : A} {use : JudgeUse} :
      Step plan (.judging stage a use) (.release a) (.opened stage)
  | finalize {phase : Phase A} (h : phase.Idle) : Step plan phase .finalizeJob .finalized

section Protocol

variable {A : Type} {plan : Plan} {u v : Phase A} {log : List (Event A)} {e : Event A}

/-! ## The protocol implies the brackets

  Each part is a history invariant: a fact about the log so far, read off the phase it led to. -/

/-- The acquisitions and releases so far: pairs, and what is held. -/
def BoundariesOf (log : List (Event A)) (phase : Phase A) : Prop :=
  ∃ adapters, log.filterMap Event.boundary = pairsOf adapters ++ phase.held.map Boundary.acquired

theorem pairsOf_append (adapters : List A) (a : A) :
    pairsOf (adapters ++ [a]) = pairsOf adapters ++ [.acquired a, .released a] := by
  simp [pairsOf]

theorem boundaries_step (hstep : Step plan u e v) (h : BoundariesOf log u) :
    BoundariesOf (log ++ [e]) v := by
  obtain ⟨adapters, hlog⟩ := h
  rw [BoundariesOf, List.filterMap_append, hlog]
  -- only a creation and a release change what is held; the others leave no boundary
  cases hstep with
  | @release role a use _ =>
    exact ⟨adapters ++ [a], by simp [pairsOf_append, Phase.held, Event.boundary]⟩
  | @releaseJudge role a use =>
    exact ⟨adapters ++ [a], by simp [pairsOf_append, Phase.held, Event.boundary]⟩
  | finalize hidle =>
    refine ⟨adapters, ?_⟩
    cases hidle <;> simp [Phase.held, Event.boundary]
  | _ => exact ⟨adapters, by simp [Phase.held, Event.boundary]⟩

/-- What is held was acquired last, and only used since. -/
def HeldBy (log : List (Event A)) (phase : Phase A) : Prop := ∀ a ∈ phase.held, Held a log

theorem held_acquire {a : A} (h : e.acquired = some a) : Held a (log ++ [e]) :=
  ⟨log, e, [], rfl, h, by simp⟩

theorem held_use {a : A} (h : Held a log) (he : e.used = some a) : Held a (log ++ [e]) := by
  obtain ⟨before, x, since, rfl, hx, hsince⟩ := h
  refine ⟨before, x, since ++ [e], by simp, hx, ?_⟩
  intro y hy
  rcases List.mem_append.mp hy with hy | hy
  · exact hsince y hy
  · rw [List.mem_singleton.mp hy]
    exact he

theorem heldBy_step (hstep : Step plan u e v) (h : HeldBy log u) : HeldBy (log ++ [e]) v := by
  intro b hb
  cases hstep with
  | create =>
    obtain rfl := List.mem_singleton.mp hb
    exact held_acquire rfl
  | createJudge =>
    obtain rfl := List.mem_singleton.mp hb
    exact held_acquire rfl
  | skip => cases hb
  | start => cases hb
  | conclude => cases hb
  | createRaised => cases hb
  | createJudgeRaised => cases hb
  | release => cases hb
  | releaseJudge => cases hb
  | finalize => cases hb
  | _ =>
    obtain rfl := List.mem_singleton.mp hb
    exact held_use (h b (List.mem_singleton_self b)) rfl

/-- An open stage was started by its own record. -/
def OpenedBy (log : List (Event A)) (phase : Phase A) : Prop :=
  ∀ stage ∈ phase.stage?, StartedBy stage.role log

theorem startedBy_snoc {role : PipelineModelRole} (h : StartedBy role log) (he : e.isGate = false) :
    StartedBy role (log ++ [e]) := by
  obtain ⟨before, record, since, rfl, hstarts, hsince⟩ := h
  refine ⟨before, record, since ++ [e], by simp, hstarts, ?_⟩
  intro x hx
  rcases List.mem_append.mp hx with hx | hx
  · exact hsince x hx
  · rw [List.mem_singleton.mp hx]
    exact he

theorem openedBy_step (hstep : Step plan u e v) (h : OpenedBy log u) : OpenedBy (log ++ [e]) v := by
  intro stage hstage
  cases hstep with
  | @start record role later hstarts =>
    obtain rfl := Option.some.inj hstage
    exact ⟨log, record, [], rfl, hstarts, by simp⟩
  | @create role candidate pending later a =>
    obtain rfl := Option.some.inj hstage
    exact startedBy_snoc (h ⟨role, candidate :: pending, later⟩ rfl) rfl
  | @createRaised role candidate pending later e =>
    obtain rfl := Option.some.inj hstage
    exact startedBy_snoc (h ⟨role, candidate :: pending, later⟩ rfl) rfl
  | skip => cases hstage
  | conclude => cases hstage
  | finalize => cases hstage
  | _ => exact startedBy_snoc (h stage hstage) rfl

variable (plan) in
/-- What was created so far and what can still be created is in the plan, in its order. -/
def PlannedBy (log : List (Event A)) (phase : Phase A) : Prop :=
  (log.filterMap Event.candidateCreated ++ phase.remaining plan).Sublist (plan.creations roleOrder)

/-- A step that creates no candidate keeps to the plan if it does not add to what remains. -/
theorem plannedBy_snoc (h : PlannedBy plan log u) (he : e.candidateCreated = none)
    (hsub : (v.remaining plan).Sublist (u.remaining plan)) : PlannedBy plan (log ++ [e]) v := by
  rw [PlannedBy, List.filterMap_append]
  have hnil : [e].filterMap Event.candidateCreated = [] := by simp [he]
  rw [hnil, List.append_nil]
  exact (hsub.append_left _).trans h

theorem plannedBy_step (hstep : Step plan u e v) (h : PlannedBy plan log u) :
    PlannedBy plan (log ++ [e]) v := by
  cases hstep with
  | @create role candidate pending later a =>
    rw [PlannedBy, List.filterMap_append, List.append_assoc]
    exact h
  | @createRaised role candidate pending later e =>
    rw [PlannedBy, List.filterMap_append, List.append_assoc]
    exact h
  | skip => exact plannedBy_snoc h rfl (List.sublist_append_right _ _)
  | conclude => exact plannedBy_snoc h rfl (List.sublist_append_right _ _)
  | finalize => exact plannedBy_snoc h rfl (List.nil_sublist _)
  | _ => exact plannedBy_snoc h rfl (List.Sublist.refl _)

/-- The job is not finalized before the end. -/
def Unfinished (log : List (Event A)) (phase : Phase A) : Prop :=
  phase ≠ .finalized → Event.finalizeJob ∉ log

theorem unfinished_step (hstep : Step plan u e v) (h : Unfinished log u) : Unfinished (log ++ [e]) v := by
  intro hv hmem
  -- nothing leads out of the finalized phase
  have hu : u ≠ .finalized := by
    rintro rfl
    cases hstep with
    | finalize hidle => cases hidle
  rcases List.mem_append.mp hmem with hmem | hmem
  · exact h hu hmem
  · obtain rfl := List.mem_singleton.mp hmem
    cases hstep
    exact hv rfl

/-- The possible logs between the creation of a candidate and where its use stands. -/
inductive UsedFor (repairs : Nat) (a : A) : CandidateUse → List (Event A) → Prop
  | created : UsedFor repairs a .created []
  | loaded : UsedFor repairs a .loaded [.load a (.ok ())]
  | loadRaised (e : PyExc) : UsedFor repairs a .spent [.load a (.error e)]
  | asked (accumulated answer) :
      UsedFor repairs a .asked [.load a (.ok ()), .infer a false accumulated answer]
  | settled (accumulated answer ended) :
      UsedFor repairs a .spent
        [.load a (.ok ()), .infer a false accumulated answer, .attempt a false ended]
  | refused (accumulated answer) {refusal : PyExc} (h : refusal.isRefusedOutput = true) :
      UsedFor repairs a .refused
        [.load a (.ok ()), .infer a false accumulated answer, .attempt a false (.error refusal)]
  | corrected (accumulated answer) {refusal : PyExc} (h : refusal.isRefusedOutput = true)
      (hrepairs : 1 ≤ repairs) (accumulated' answer') :
      UsedFor repairs a .corrected
        [.load a (.ok ()), .infer a false accumulated answer, .attempt a false (.error refusal),
          .infer a true accumulated' answer']
  | settledCorrection (accumulated answer) {refusal : PyExc} (h : refusal.isRefusedOutput = true)
      (hrepairs : 1 ≤ repairs) (accumulated' answer' ended) :
      UsedFor repairs a .spent
        [.load a (.ok ()), .infer a false accumulated answer, .attempt a false (.error refusal),
          .infer a true accumulated' answer', .attempt a true ended]

theorem UsedFor.askedProperly {n : Nat} {a : A} {use : CandidateUse} {uses : List (Event A)}
    (h : UsedFor n a use uses) (hrest : use.atRest = true) :
    AskedProperly n a (uses.filter Event.isAsking) := by
  cases h with
  | created => exact .never
  | loaded => exact .never
  | loadRaised e => exact .never
  | asked => cases hrest
  | settled accumulated answer ended => exact .once accumulated answer ended
  | refused accumulated answer h => exact .once accumulated answer _
  | corrected => cases hrest
  | settledCorrection accumulated answer h hrepairs accumulated' answer' ended =>
    exact .twice accumulated answer h hrepairs accumulated' answer' ended

/-- As long as only the held candidate is used, its use is what the log shows. -/
theorem usedFor_of_run {stage : OpenStage} {a : A} {uses : List (Event A)}
    (h : Run (Step plan) (.holding stage a .created) uses v) (huses : ∀ x ∈ uses, x.used = some a) :
    ∃ use, v = .holding stage a use ∧ UsedFor (plan.repairs stage.role) a use uses := by
  refine h.history (I := fun (log : List (Event A)) (phase : Phase A) => (∀ x ∈ log, x.used = some a) →
    ∃ use, phase = .holding stage a use ∧ UsedFor (plan.repairs stage.role) a use log) ?_ ?_ huses
  · intro log u e v hstep ih hall
    have he : e.used = some a := hall e (List.mem_append_right _ (List.mem_singleton_self e))
    obtain ⟨use, rfl, hused⟩ := ih fun x hx => hall x (List.mem_append_left _ hx)
    cases hstep with
    | load =>
      cases hused
      exact ⟨.loaded, rfl, .loaded⟩
    | loadRaised =>
      cases hused
      exact ⟨.spent, rfl, .loadRaised _⟩
    | ask =>
      cases hused
      exact ⟨.asked, rfl, .asked _ _⟩
    | settle =>
      cases hused
      exact ⟨.spent, rfl, .settled _ _ _⟩
    | refuse hrefused =>
      cases hused
      exact ⟨.refused, rfl, .refused _ _ hrefused⟩
    | correct hrepairs =>
      cases hused with
      | refused accumulated answer h => exact ⟨.corrected, rfl, .corrected _ _ h hrepairs _ _⟩
    | settleCorrection =>
      cases hused with
      | corrected accumulated answer h hrepairs =>
        exact ⟨.spent, rfl, .settledCorrection _ _ h hrepairs _ _ _⟩
    | release => cases he
    | finalize hidle => cases hidle
  · intro _
    exact ⟨.created, rfl, .created⟩

/-- What is held is released before the protocol can end, and only used until then. -/
theorem released_of_run {a : A} (h : Run (Step plan) u log v) (hu : a ∈ u.held) (hv : v.held = []) :
    ∃ uses rest, log = uses ++ .release a :: rest ∧ ∀ x ∈ uses, x.used = some a := by
  induction h with
  | nil u =>
    rw [hv] at hu
    cases hu
  | @cons u t v e log hstep hrest ih =>
    -- a use keeps the adapter held, so the release is found further on
    have huse : a ∈ t.held → e.used = some a → ∃ uses rest,
        e :: log = uses ++ .release a :: rest ∧ ∀ x ∈ uses, x.used = some a := by
      intro ht he
      obtain ⟨uses, rest, rfl, hall⟩ := ih ht hv
      refine ⟨e :: uses, rest, rfl, ?_⟩
      intro x hx
      rcases List.mem_cons.mp hx with rfl | hx
      · exact he
      · exact hall x hx
    cases hstep with
    | release =>
      obtain rfl := List.mem_singleton.mp hu
      exact ⟨[], log, rfl, by simp⟩
    | releaseJudge =>
      obtain rfl := List.mem_singleton.mp hu
      exact ⟨[], log, rfl, by simp⟩
    | skip => cases hu
    | start => cases hu
    | conclude => cases hu
    | create => cases hu
    | createRaised => cases hu
    | createJudge => cases hu
    | createJudgeRaised => cases hu
    | finalize hidle => cases hidle <;> cases hu
    | _ =>
      obtain rfl := List.mem_singleton.mp hu
      exact huse (List.mem_singleton_self a) rfl

/-- What the log so far says of the phase it led to. -/
structure History (plan : Plan) (log : List (Event A)) (phase : Phase A) : Prop where
  boundaries : BoundariesOf log phase
  held : HeldBy log phase
  opened : OpenedBy log phase
  planned : PlannedBy plan log phase
  unfinished : Unfinished log phase

theorem history_of_run (h : Run (Step plan) (.between roleOrder) log v) : History plan log v := by
  refine h.history (I := History plan) ?_ ⟨⟨[], rfl⟩, ?_, ?_, List.Sublist.refl _, ?_⟩
  · intro log u e v hstep hlog
    exact ⟨boundaries_step hstep hlog.boundaries, heldBy_step hstep hlog.held,
      openedBy_step hstep hlog.opened, plannedBy_step hstep hlog.planned,
      unfinished_step hstep hlog.unfinished⟩
  · intro a ha
    cases ha
  · intro stage hstage
    cases hstage
  · intro _ hmem
    cases hmem

theorem mem_held_of_used {a : A} (hstep : Step plan u e v) (he : e.used = some a) : a ∈ u.held := by
  cases hstep <;> simp only [Event.used, Option.some.injEq, reduceCtorEq] at he <;> simp [Phase.held, he]

theorem mem_held_of_acquired {a : A} (hstep : Step plan u e v) (he : e.acquired = some a) :
    a ∈ v.held := by
  cases hstep <;> simp only [Event.acquired, Option.some.injEq, reduceCtorEq] at he <;> simp [Phase.held, he]

theorem role_of_creation {role : PipelineModelRole} (hstep : Step plan u e v)
    (he : e.creationRole = some role) : ∃ stage ∈ u.stage?, stage.role = role := by
  cases hstep <;> simp only [Event.creationRole, Option.some.injEq, reduceCtorEq] at he <;>
    simp [Phase.stage?, he]

/-- **The protocol implies the brackets.** -/
theorem wellBracketed_of_run {body : List (Event A)} (h : Run (Step plan) (.between roleOrder) body v)
    (hv : v.Idle) : WellBracketed plan (body ++ [.finalizeJob]) := by
  have hall : Run (Step plan) (.between roleOrder) (body ++ [.finalizeJob]) .finalized := h.snoc (.finalize hv)
  have hlast : v ≠ .finalized := by
    rintro rfl
    cases hv
  refine ⟨?_, ?_, ?_, ?_, ?_, ?_, ?_, ⟨body, rfl, (history_of_run h).unfinished hlast⟩⟩
  · obtain ⟨adapters, hadapters⟩ := (history_of_run hall).boundaries
    exact ⟨adapters, by simpa [Phase.held] using hadapters⟩
  · intro before after hlog
    rw [hlog] at hall
    obtain ⟨t, hbefore, -⟩ := hall.split
    obtain ⟨adapters, hadapters⟩ := (history_of_run hbefore).boundaries
    refine ⟨adapters, t.held, ?_, hadapters⟩
    cases t <;> simp [Phase.held]
  · intro before e a after hlog he
    rw [hlog] at hall
    obtain ⟨t, t', -, hstep, hafter⟩ := hall.at_label
    exact released_of_run hafter (mem_held_of_acquired hstep he) rfl
  · intro before e a after hlog he
    rw [hlog] at hall
    obtain ⟨t, t', hbefore, hstep, -⟩ := hall.at_label
    exact (history_of_run hbefore).held a (mem_held_of_used hstep he)
  · have hplanned := (history_of_run hall).planned
    rw [PlannedBy, Phase.remaining, List.append_nil] at hplanned
    exact hplanned
  · intro before role candidate a uses after hlog huses
    rw [hlog] at hall
    obtain ⟨t, t', -, hstep, hafter⟩ := hall.at_label
    cases hstep
    obtain ⟨t, t', hrun, hstep, -⟩ := hafter.at_label
    obtain ⟨use, rfl, hused⟩ := usedFor_of_run hrun huses
    cases hstep with
    | release hrest => exact hused.askedProperly hrest
  · intro before e role after hlog he
    rw [hlog] at hall
    obtain ⟨t, t', hbefore, hstep, -⟩ := hall.at_label
    obtain ⟨stage, hstage, rfl⟩ := role_of_creation hstep he
    exact (history_of_run hbefore).opened stage hstage

end Protocol

end SessionRunner

end FireviewerOrchestrator
