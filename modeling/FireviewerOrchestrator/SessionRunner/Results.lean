/-
  The accumulated evidence of a session.

  Abstractly a session keeps a LEDGER: one result per input, to which each stage adds either nothing
  or one set of patches, in stage order (`ledger`).  Nothing else of what the models said can reach
  it.  The first part connects one stage of the program to one entry of the ledger
  (`stageEvidence`); the run's output items are then the ledger of its stages' entries.
-/
import FireviewerOrchestrator.SessionRunner.Scripted
import FireviewerOrchestrator.SessionRunner.Session

set_option linter.unusedVariables false

namespace FireviewerOrchestrator

namespace SessionRunner

open Traced Prog

variable {ω A : Type} {env : Environment ω A} {runner : SessionRunner} {batch : WorkerInput}

/-! ## The ledger -/

/-- One stage's entry: the patches it releases, or nothing. -/
abbrev Release := Option (Dict String ItemPatch)

/-- What a release makes of one item's result. -/
def applyRelease (inputId : String) (result : ItemResult) : Release → ItemResult
  | some patches => applyPatch patches inputId result
  | none => result

/-- What a release makes of the map. -/
def applyReleaseAll (results : Dict String ItemResult) : Release → Dict String ItemResult
  | some patches => mergeAll results patches
  | none => results

/-- **The ledger** of one input: its initial result with the releases applied in order. -/
def ledger (item : BatchItem) (releases : List Release) : ItemResult :=
  releases.foldl (applyRelease item.inputId) (initialResult item)

theorem get?_applyReleaseAll (results : Dict String ItemResult) (release : Release) (k : String) :
    (applyReleaseAll results release).get? k = (results.get? k).map fun r => applyRelease k r release := by
  cases release with
  | none => cases h : results.get? k <;> simp [applyReleaseAll, applyRelease, h]
  | some patches => exact get?_mergeAll results patches k

@[simp] theorem keys_applyReleaseAll (results : Dict String ItemResult) (release : Release) :
    (applyReleaseAll results release).keys = results.keys := by
  cases release with
  | none => rfl
  | some patches => exact keys_mergeAll results patches

/-- Applying releases to the map applies them to each of its entries. -/
theorem get?_foldl_applyReleaseAll (releases : List Release) (k : String) :
    ∀ results : Dict String ItemResult, (releases.foldl applyReleaseAll results).get? k
      = (results.get? k).map fun r => releases.foldl (applyRelease k) r := by
  induction releases with
  | nil => intro results; simp
  | cons release releases ih =>
    intro results
    rw [List.foldl_cons, ih, get?_applyReleaseAll, Option.map_map]
    rfl

/-! ## What a stage releases -/

/-- The stage's evaluation lets downstream stages proceed and names this executed candidate, which
    carries results. -/
structure StageReport.Releases (report : StageReport) (x : CandidateExecution) : Prop where
  executed : x ∈ report.executions
  carries : x.results.isSome = true
  named : ∃ evaluation, report.evaluation = some evaluation ∧ evaluation.downstreamAllowed = true ∧
    evaluation.selectedCandidateId = some x.candidate.candidateId

/-- In the pass, this candidate's adapter was created, shown the map from before the stage, and the
    last attempt made with it accepted these patches. -/
def AnsweredWith (runner : SessionRunner) (p : StagePass ω A) (candidate : ModelCandidateSpec)
    (patches : Dict String ItemPatch) : Prop :=
  ∃ pre a body post, p.events = pre ++ .create (stageRoleOf p) candidate (.ok a) :: (body ++ .release a :: post) ∧
    CandidateLog a (asPatches p.before.results) (runner.contract (stageRoleOf p)).maxRepairAttempts body
      (.attempted (.ok patches))

/-- An evaluation that releases an execution is the one the code adopts. -/
theorem adopted_of_releases {xs : List CandidateExecution}
    (hn : (xs.map fun x => x.candidate.candidateId).Nodup) {evaluation : ConsensusEvaluation}
    {x : CandidateExecution} {m : Dict String ItemResult} (hx : x ∈ xs) (hm : x.results = some m)
    (hallowed : evaluation.downstreamAllowed = true)
    (hnamed : evaluation.selectedCandidateId = some x.candidate.candidateId) :
    adopted xs evaluation = some (x, m) := by
  have hsome : (selectedExecution xs evaluation).isSome = true := by
    rw [selectedExecution, List.find?_isSome]
    exact ⟨x, hx, by simp [hnamed]⟩
  obtain ⟨y, hy⟩ := Option.isSome_iff_exists.mp hsome
  have hid := List.find?_some hy
  rw [hnamed] at hid
  simp only [beq_iff_eq, Option.some.injEq] at hid
  have hxy : y = x := List.inj_on_of_nodup_map hn (List.mem_of_find?_eq_some hy) hx hid
  subst hxy
  rw [adopted, if_pos hallowed, hy]
  simp [hm]

/-! ## One stage of the program is one entry of the ledger -/

/-- **The evidence of one stage.** -/
structure StageEvidence (runner : SessionRunner) (p : StagePass ω A) (report : StageReport) : Prop where
  /-- Nothing released: the map is as it was. -/
  unchanged : (∀ x, ¬ report.Releases x) → p.after.results = p.before.results
  /-- A candidate released: the map is the one before, merged with exactly that candidate's patches. -/
  merged : ∀ x, report.Releases x → ∃ patches, AnsweredWith runner p x.candidate patches ∧
    p.after.results = mergeAll p.before.results patches
  /-- Whoever is asked is shown the map from before the stage. -/
  shown : ∀ a correction accumulated answer, Event.infer a correction accumulated answer ∈ p.events →
    accumulated = asPatches p.before.results
  keys : p.after.results.keys = p.before.results.keys

theorem AttemptLog.shown {a b : A} {acc accumulated : Dict String ItemPatch} {c correction : Bool}
    {es : List (Event A)} {ended answer : Except PyExc (Dict String ItemPatch)}
    (h : AttemptLog a acc c es ended) (hmem : Event.infer b correction accumulated answer ∈ es) :
    accumulated = acc := by
  cases h with
  | answered patches ended h =>
    simp only [List.mem_cons, Event.infer.injEq, reduceCtorEq, List.not_mem_nil, or_false] at hmem
    exact hmem.2.2.1
  | raised e =>
    simp only [List.mem_cons, Event.infer.injEq, reduceCtorEq, List.not_mem_nil, or_false] at hmem
    exact hmem.2.2.1

theorem CandidateLog.shown {a b : A} {acc accumulated : Dict String ItemPatch} {repairs : Nat}
    {correction : Bool} {es : List (Event A)} {usage : Usage}
    {answer : Except PyExc (Dict String ItemPatch)} (h : CandidateLog a acc repairs es usage)
    (hmem : Event.infer b correction accumulated answer ∈ es) : accumulated = acc := by
  cases h with
  | untouched => cases hmem
  | loadFailed e => simp at hmem
  | loaded => simp at hmem
  | first h =>
    rcases List.mem_cons.mp hmem with hmem | hmem
    · cases hmem
    · exact h.shown hmem
  | second h _ _ h' =>
    rcases List.mem_cons.mp hmem with hmem | hmem
    · cases hmem
    · rcases List.mem_append.mp hmem with hmem | hmem
      · exact h.shown hmem
      · exact h'.shown hmem

theorem JudgeProgress.no_infer {role : PipelineModelRole} {adjudicator : ModelCandidateSpec}
    {adapter : Option A} {es : List (Event A)} {answer : Option (Except PyExc ConsensusJudgeVerdict)}
    (h : JudgeProgress env role adjudicator adapter es answer) {b : A} {correction : Bool}
    {accumulated : Dict String ItemPatch} {r : Except PyExc (Dict String ItemPatch)} :
    Event.infer b correction accumulated r ∉ es := by
  cases h with
  | absent => simp
  | refused e => simp
  | created a h => cases h <;> simp

theorem Adjudicated.no_infer {role : PipelineModelRole} {group : ModelGroupSpec}
    {executions : List CandidateExecution} {first evaluation : ConsensusEvaluation}
    {x : Option AdjudicatorExecution} {es : List (Event A)}
    (h : Adjudicated env role group executions first evaluation x es) {b : A} {correction : Bool}
    {accumulated : Dict String ItemPatch} {r : Except PyExc (Dict String ItemPatch)} :
    Event.infer b correction accumulated r ∉ es := by
  have hdone : ∀ {adjudicator : ModelCandidateSpec} {x : AdjudicatorExecution},
      AdjudicatorDone env role adjudicator x es → Event.infer b correction accumulated r ∉ es := by
    intro adjudicator x hx hmem
    obtain ⟨adapter, body, answer, rfl, hprogress, -⟩ := hx.log
    rcases List.mem_append.mp hmem with hmem | hmem
    · exact hprogress.no_infer hmem
    · cases adapter <;> simp at hmem
  cases h with
  | direct => simp
  | verdict _ _ hx => exact hdone hx
  | failed _ _ hx => exact hdone hx

/-- **One stage of the program is one entry of the ledger.** -/
theorem stageEvidence {p : StagePass ω A} {report : StageReport}
    (h : StageDone env runner batch p.index.1 p.index.2 p.before report p.after p.events) :
    StageEvidence runner p report := by
  cases h.outcome with
  | skipped _ _ hresults _ _ _ _ hnone hevents =>
    refine ⟨fun _ => hresults, ?_, ?_, congrArg Dict.keys hresults⟩
    · rintro x ⟨-, -, evaluation, heval, -⟩
      rw [hnone.2.2.1] at heval
      cases heval
    · intro a correction accumulated answer hmem
      rw [hevents] at hmem
      simp at hmem
  | unconfigured _ _ hpost hresults _ _ _ _ hnone hevents =>
    refine ⟨fun _ => hresults, ?_, ?_, congrArg Dict.keys hresults⟩
    · rintro x ⟨-, -, evaluation, heval, -⟩
      rw [hnone.2.2.1] at heval
      cases heval
    · intro a correction accumulated answer hmem
      rw [hevents, hpost] at hmem
      simp at hmem
  | @executed _ group logged judgeLog first evaluation t elapsed hx =>
    have hids := hx.candidates.ids_nodup (group_valid hx.group_eq)
    have hshown : ∀ a correction accumulated answer,
        Event.infer a correction accumulated answer ∈ p.events →
        accumulated = asPatches p.before.results := by
      intro a correction accumulated answer hmem
      rw [hx.events_eq] at hmem
      simp only [List.mem_cons, reduceCtorEq, false_or, List.mem_append, List.not_mem_nil, or_false] at hmem
      rcases hmem with hmem | hmem
      · obtain ⟨q, hq, hmem⟩ := List.mem_flatMap.mp hmem
        obtain ⟨b, body, usage, hes, hlog, -⟩ := (hx.candidates.done q hq).log
        rw [hes] at hmem
        simp only [List.mem_cons, reduceCtorEq, false_or, List.mem_append, List.not_mem_nil,
          or_false] at hmem
        exact hlog.shown hmem
      · exact absurd hmem hx.adjudicated.no_infer
    rcases settle_cases hx.settled with
      ⟨y, m, hadopted, hresults, -⟩ | ⟨hnone, hresults, -⟩
    · -- an execution was adopted, so it is the released one, and its log has its patches
      obtain ⟨hallowed, hy, hnamed, hm⟩ := adopted_eq_some hadopted
      obtain ⟨es, hlogged, hdone⟩ := hx.candidates.done_of_mem hy
      obtain ⟨a, body, usage, hes, hlog, hcarried, -⟩ := hdone.log
      have hreleases : report.Releases y :=
        ⟨hy, by rw [hm]; rfl, evaluation, hx.evaluation_eq, hallowed, hnamed⟩
      obtain ⟨patches, husage, hmerge⟩ : ∃ patches, usage = .attempted (.ok patches) ∧
          mergeAll p.before.results patches = m := by
        rw [hm] at hcarried
        obtain ⟨patches, hpatches, hmerge⟩ := Option.map_eq_some_iff.mp hcarried.symm
        refine ⟨patches, ?_, hmerge⟩
        cases usage with
        | attempted ended =>
          cases ended with
          | ok patches' =>
            cases hpatches
            rfl
          | error e => cases hpatches
        | untouched => cases hpatches
        | loadFailed => cases hpatches
        | loaded => cases hpatches
      have hafter : p.after.results = mergeAll p.before.results patches := by
        rw [hx.results_eq, hresults, hmerge]
      refine ⟨fun hno => absurd hreleases (hno y), ?_, hshown, ?_⟩
      · rintro x ⟨hmem, -, evaluation', heval, -, hid⟩
        obtain rfl : evaluation = evaluation' := Option.some.inj (hx.evaluation_eq.symm.trans heval)
        have hxy : x = y := by
          refine List.inj_on_of_nodup_map hids hmem hy (Option.some.inj ?_)
          rw [← hid, hnamed]
        subst hxy
        obtain ⟨before, after, hsplit⟩ := List.append_of_mem hlogged
        refine ⟨patches, ⟨.gate report.preflight :: before.flatMap Prod.snd, a, body,
          after.flatMap Prod.snd ++ judgeLog
            ++ [.gate (stagePostflight runner batch p.index.2 p.before.results t elapsed)], ?_, ?_⟩, hafter⟩
        · rw [hx.events_eq, hsplit]
          simp [hes, stageRoleOf]
        · rw [← husage]
          exact hlog
      · rw [hafter, keys_mergeAll]
    · -- nothing was adopted, so nothing is released
      have hafter : p.after.results = p.before.results := hx.results_eq.trans hresults
      refine ⟨fun _ => hafter, ?_, hshown, congrArg Dict.keys hafter⟩
      rintro x ⟨hmem, hsome, evaluation', heval, hallowed, hid⟩
      obtain rfl : evaluation = evaluation' := Option.some.inj (hx.evaluation_eq.symm.trans heval)
      obtain ⟨m, hm⟩ := Option.isSome_iff_exists.mp hsome
      rw [adopted_of_releases hids hmem hm hallowed hid] at hnone
      cases hnone

/-! ## The run -/

/-- What a pass releases, as an entry of the ledger. -/
def PassReleases (runner : SessionRunner) (p : StagePass ω A) : Release → Prop
  | none => ∃ report, p.Returned report ∧ ∀ x, ¬ report.Releases x
  | some patches => ∃ report x, p.Returned report ∧ report.Releases x ∧ AnsweredWith runner p x.candidate patches

/-- Every pass has its entry, and the entry explains the map it leaves. -/
theorem exists_release {p : StagePass ω A} {report : StageReport} (hreport : p.Returned report)
    (h : StageEvidence runner p report) :
    ∃ release, PassReleases runner p release ∧ p.after.results = applyReleaseAll p.before.results release := by
  by_cases hsome : ∃ x, report.Releases x
  · obtain ⟨x, hx⟩ := hsome
    obtain ⟨patches, hanswered, hafter⟩ := h.merged x hx
    exact ⟨some patches, ⟨report, x, hreport, hx, hanswered⟩, hafter⟩
  · have hno : ∀ x, ¬ report.Releases x := fun x hx => hsome ⟨x, hx⟩
    exact ⟨none, ⟨report, hreport, hno⟩, h.unchanged hno⟩

/-- The ledger entries of a list of linked passes, with the map they lead to. -/
theorem exists_releases {s s' : Session} : ∀ {ps : List (StagePass ω A)}, Linked s ps s' →
    (∀ p ∈ ps, ∃ report, p.Returned report ∧ StageEvidence runner p report) →
    ∃ releases, List.Forall₂ (PassReleases runner) ps releases ∧
      s'.results = releases.foldl applyReleaseAll s.results := by
  intro ps hlinked
  induction hlinked with
  | nil s => exact fun _ => ⟨[], .nil, rfl⟩
  | @cons p ps s' _ ih =>
    intro hall
    obtain ⟨report, hreport, hevidence⟩ := hall p List.mem_cons_self
    obtain ⟨release, hrelease, hafter⟩ := exists_release hreport hevidence
    obtain ⟨releases, hreleases, hlast⟩ := ih fun q hq => hall q (List.mem_cons_of_mem _ hq)
    refine ⟨release :: releases, .cons hrelease hreleases, ?_⟩
    rw [hlast, hafter, List.foldl_cons]

/-- **The output is the ledger.**  The items of a run that returned are those of its releases. -/
theorem items_eq_ledger {w : ω} {final : Session} {result : SessionRunResult}
    (h : SessionDone env runner batch w final result) :
    ∃ releases, List.Forall₂ (PassReleases runner) (stagePasses env runner batch w) releases ∧
      result.output.items = batch.items.map fun item => ledger item releases := by
  obtain ⟨releases, hreleases, hfinal⟩ := exists_releases h.linked fun p hp => by
    obtain ⟨report, hreport, hdone⟩ := h.stageDone hp
    exact ⟨report, hreport, stageEvidence hdone⟩
  refine ⟨releases, hreleases, ?_⟩
  have hitems : result.output.items.map some = (batch.items.map fun item => ledger item releases).map some := by
    rw [h.result_of.items_eq, List.map_map]
    apply List.map_congr_left
    intro item hitem
    show final.results.get? item.inputId = some (ledger item releases)
    rw [hfinal, get?_foldl_applyReleaseAll]
    show ((initialResults batch).get? item.inputId).map _ = _
    rw [get?_initialResults hitem]
    rfl
  exact List.map_injective_iff.mpr (Option.some_injective _) hitems

/-- The keys of the map never change. -/
theorem keys_of_linked {w : ω} {s : Session}
    (hlinked : Linked (Session.start batch) (stagePasses env runner batch w) s)
    (hreturned : ∀ p ∈ stagePasses env runner batch w, ∃ report, p.Returned report) :
    (∀ p ∈ stagePasses env runner batch w, p.before.results.keys = batch.items.map BatchItem.inputId ∧
      p.after.results.keys = batch.items.map BatchItem.inputId) ∧
    s.results.keys = batch.items.map BatchItem.inputId := by
  have hstep : ∀ p ∈ stagePasses env runner batch w, p.after.results.keys = p.before.results.keys := by
    intro p hp
    obtain ⟨report, hreport⟩ := hreturned p hp
    exact (stageEvidence (stageDone_of_mem hp hreport)).keys
  obtain ⟨hbefore, hlast⟩ := hlinked.invariant
    (I := fun s => s.results.keys = batch.items.map BatchItem.inputId) (keys_initialResults batch)
    fun p hp hbefore => (hstep p hp).trans hbefore
  exact ⟨fun p hp => ⟨hbefore p hp, (hstep p hp).trans (hbefore p hp)⟩, hlast⟩

end SessionRunner

end FireviewerOrchestrator
