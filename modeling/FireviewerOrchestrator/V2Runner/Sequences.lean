/-
  A version 2.0 batch from its legacy input to its output: items and numbers.

  Four places number traces without knowing of each other: the session its four stages, the caller the
  two stages after them, the converter the first trace of the spatial pipeline, and, once that has
  answered, the two it makes itself.  `NumberedFrom.append` carries all of them: each list starts where
  the one before ends.

  The contract of the output refuses any other numbering, so what matters is the record before the
  contract sees it (`assembled`): `analysis_numbered` is about both.
-/
import FireviewerOrchestrator.SessionRunner.Audit
import FireviewerOrchestrator.V2Runner.Coverage

set_option linter.unusedVariables false

namespace FireviewerOrchestrator

namespace V2Runner

open SessionRunner Traced Prog

/-! ## Numbering -/

/-- The traces are numbered one after another, the first of them `start`. -/
def NumberedFrom (start : Nat) (traces : List WorkerStageTraceV2) : Prop :=
  traces.map WorkerStageTraceV2.sequence = List.range' start traces.length

section Numbering

variable {start : Nat} {xs ys : List WorkerStageTraceV2} {trace : WorkerStageTraceV2}

theorem numberedFrom_nil : NumberedFrom start [] := rfl

theorem numberedFrom_singleton (h : trace.sequence = start) : NumberedFrom start [trace] := by
  show [trace.sequence] = [start]
  rw [h]

/-- Each list starts where the one before ends. -/
theorem NumberedFrom.append (h : NumberedFrom start xs) (h' : NumberedFrom (start + xs.length) ys) :
    NumberedFrom start (xs ++ ys) := by
  have hrange : List.range' start xs.length ++ List.range' (start + xs.length) ys.length
      = List.range' start (xs.length + ys.length) := by
    have happend := @List.range'_append start xs.length ys.length 1
    rw [Nat.one_mul] at happend
    exact happend
  show (xs ++ ys).map WorkerStageTraceV2.sequence = List.range' start (xs ++ ys).length
  rw [List.map_append, List.length_append, ← hrange]
  exact congrArg₂ (· ++ ·) h h'

end Numbering

/-! ## The stages outside the session -/

/-- The external stages of an analysis.  Each is told the number of its first trace. -/
structure ExternalStages where
  /-- `run_fire_pointing_stage`. -/
  firePointing : WorkerInputV2 → WorkerOutput → Nat → Except PyExc FirePointingExecution
  /-- `run_burned_area_stage`. -/
  burnedArea : WorkerInputV2 → Nat → Except PyExc BurnedAreaExecution
  spatialPipeline : Option SpatialPipeline := none

/-- **Each external stage numbers its traces consecutively**, from the number it is given. -/
structure ExternalStages.Consecutive (stages : ExternalStages) : Prop where
  firePointing : ∀ batch output sequence execution,
    stages.firePointing batch output sequence = .ok execution → execution.stageTrace.sequence = sequence
  burnedArea : ∀ batch sequence execution,
    stages.burnedArea batch sequence = .ok execution → execution.stageTrace.sequence = sequence
  spatialPipeline : ∀ project ∈ stages.spatialPipeline, ∀ batch annotations sequence execution,
    project batch annotations sequence = .ok execution → NumberedFrom sequence execution.stageTraces

/-! ## An analysis -/

section Analysis

variable {ω A : Type} (host : Host) (env : Environment ω A) (runner : SessionRunner) (stages : ExternalStages)
  (batch : WorkerInputV2) (w : ω)

/-- What `handle_job` makes of a version 2.0 batch while it holds the lock, up to the record of the
    output. -/
def analysisRecord : Except PyExc WorkerOutputV2 := do
  let execution ← (runWithTrace env runner (toLegacyInput batch) w ()).result
  let pointing ← stages.firePointing batch execution.output (execution.stageTraces.length + 1)
  let burned ← stages.burnedArea batch (execution.stageTraces.length + 2)
  assembled host batch (some pointing) (some burned) execution.output execution.stageTraces
    execution.candidateRuns execution.consensusResults execution.contractDigest stages.spatialPipeline

/-- The whole of it. -/
def analyse : Except PyExc WorkerOutputV2 := do
  let execution ← (runWithTrace env runner (toLegacyInput batch) w ()).result
  let pointing ← stages.firePointing batch execution.output (execution.stageTraces.length + 1)
  let burned ← stages.burnedArea batch (execution.stageTraces.length + 2)
  fromLegacyOutput host batch (some pointing) (some burned) execution.output execution.stageTraces
    execution.candidateRuns execution.consensusResults execution.contractDigest stages.spatialPipeline

theorem analyse_eq : analyse host env runner stages batch w
    = analysisRecord host env runner stages batch w >>= WorkerOutputV2.build := by
  simp only [analyse, analysisRecord, bind_assoc, fromLegacyOutput]

end Analysis

/-! ## The session's part -/

section Session

variable {ω A : Type} {env : Environment ω A} {runner : SessionRunner} {batch : WorkerInput} {w : ω}
  {execution : SessionRunResult}

/-- The session numbers its traces from one. -/
theorem session_numbered (h : (runWithTrace env runner batch w ()).result = .ok execution) :
    NumberedFrom 1 execution.stageTraces := by
  obtain ⟨final, hdone⟩ := runWithTrace_ok h
  have hsequences : (stageReports env runner batch w).map (fun report => report.trace.sequence) = [1, 2, 3, 4] := by
    have hreports := hdone.reports
    have hpointwise : ∀ {keys : List (Nat × PipelineModelRole)} {reports : List StageReport},
        List.Forall₂ (ReportOf env runner batch) keys reports →
        reports.map (fun report => report.trace.sequence) = keys.map Prod.fst := by
      intro keys reports hforall
      induction hforall with
      | nil => rfl
      | cons hreport _ ih =>
        obtain ⟨s, s', es, hstage⟩ := hreport
        rw [List.map_cons, List.map_cons, ih, hstage.trace_sequence]
    rw [hpointwise hreports]
    rfl
  have hlength : (stageReports env runner batch w).length = 4 := by
    have hmapped := congrArg List.length hsequences
    rw [List.length_map] at hmapped
    exact hmapped
  show execution.stageTraces.map WorkerStageTraceV2.sequence = List.range' 1 execution.stageTraces.length
  rw [hdone.stageTraces_eq, List.map_map, List.length_map, hlength]
  exact hsequences

/-- Its items are the batch's, in order. -/
theorem session_items (h : (runWithTrace env runner batch w ()).result = .ok execution) :
    execution.output.items.map ItemResult.inputId = batch.items.map BatchItem.inputId := by
  obtain ⟨final, hdone⟩ := runWithTrace_ok h
  obtain ⟨releases, -, hitems⟩ := items_eq_ledger hdone
  have hkept : ∀ (inputId : String) (releases : List Release) (result : ItemResult),
      (releases.foldl (applyRelease inputId) result).inputId = result.inputId := by
    intro inputId releases
    induction releases with
    | nil => exact fun _ => rfl
    | cons release releases ih =>
      intro result
      rw [List.foldl_cons, ih]
      cases release with
      | none => rfl
      | some patches =>
        show (applyPatch patches inputId result).inputId = result.inputId
        unfold applyPatch
        split <;> rfl
  rw [hitems, List.map_map]
  apply List.map_congr_left
  intro item hitem
  exact hkept item.inputId releases (initialResult item)

/-- Where every stage returned, every item of the batch has a result to collect. -/
theorem session_collects
    (h : (forEach numberedRoles (stageBody env runner batch) w (Session.start batch)).result = .ok ()) :
    ∃ items, collectItems (sessionEnd env runner batch w).results batch.items = .ok items := by
  obtain ⟨-, hreturned, hlinked⟩ := forEach_ok _ _ _ h
  have hkeys := (keys_of_linked hlinked hreturned).2
  refine collectItems_ok ?_
  intro item hitem
  show item.inputId ∈ (sessionEnd env runner batch w).results.keys
  rw [show (sessionEnd env runner batch w).results.keys = _ from hkeys]
  exact List.mem_map_of_mem hitem

end Session

/-! ## The converter's part -/

section Converter

variable {host : Host} {batch : WorkerInputV2} {pointing : Option FirePointingExecution}
  {burned : Option BurnedAreaExecution} {spatial : Option SpatialPipelineExecution}

theorem orchestrationTraces_numbered {items : List WorkerItemResultV2} {count : Nat}
    {traces : List WorkerStageTraceV2} (h : orchestrationTraces host items count = .ok traces) :
    ∃ fusion situationReport, traces = [fusion, situationReport] ∧
      fusion.stageRole = .evidenceFusion ∧ situationReport.stageRole = .situationReport ∧
      NumberedFrom (count + 1) traces := by
  obtain ⟨fusion, situationReport, rfl, hfusion, hreport⟩ := orchestrationTraces_ok h
  refine ⟨fusion, situationReport, rfl, hfusion.role_eq, hreport.role_eq, ?_⟩
  show [fusion.sequence, situationReport.sequence] = [count + 1, count + 2]
  rw [hfusion.sequence_eq, hreport.sequence_eq]

theorem sourceOf_eq_ok {source : WorkerBatchItemV2} (h : source ∈ batch.items) :
    ∃ provenance, sourceOf batch source.inputId = .ok provenance := by
  unfold sourceOf
  split
  · exact ⟨_, rfl⟩
  · rename_i hnone
    exact absurd (List.find?_eq_none.mp hnone source h) (by simp)

/-- The facts of an item name its source. -/
theorem resultItem_facts {p : PreparedItem} {item : WorkerItemResultV2}
    (h : resultItem host batch burned spatial p = .ok item) :
    ∀ fact ∈ item.factProposals, fact.inputId = p.source.inputId := by
  obtain ⟨proposals, -, h⟩ := Fallible.bind_eq_ok.mp h
  obtain ⟨facts, hfacts, h⟩ := Fallible.bind_eq_ok.mp h
  obtain ⟨-, rfl⟩ := checked_eq_ok.mp h
  intro fact hfact
  obtain ⟨entry, -, hentry⟩ := Fallible.exists_of_forall₂_right (Fallible.mapM_eq_ok.mp hfacts) hfact
  unfold factOfObservation FactProposalV2.build at hentry
  obtain ⟨-, rfl⟩ := checked_eq_ok.mp hentry
  rfl

end Converter

/-! ## The guarantee -/

/-- **One item for each of the batch, and the traces numbered through.** -/
structure Numbered (batch : WorkerInputV2) (record : WorkerOutputV2) : Prop where
  items_eq : record.items.map WorkerItemResultV2.inputId = batch.items.map WorkerBatchItemV2.inputId
  numbered : NumberedFrom 1 record.stageTraces
  ending : ∃ before fusion situationReport, record.stageTraces = before ++ [fusion, situationReport] ∧
    fusion.stageRole = .evidenceFusion ∧ situationReport.stageRole = .situationReport
  /-- The report finds the source of every fact. -/
  facts_sourced : ∀ item ∈ record.items, ∀ fact ∈ item.factProposals,
    ∃ provenance, sourceOf batch fact.inputId = .ok provenance

section Guarantee

variable {ω A : Type} {host : Host} {env : Environment ω A} {runner : SessionRunner}
  {stages : ExternalStages} {batch : WorkerInputV2} {w : ω}

/-- Every result of the session has its source in the batch. -/
theorem results_sourced {execution : SessionRunResult}
    (h : (runWithTrace env runner (toLegacyInput batch) w ()).result = .ok execution) :
    ∀ result ∈ execution.output.items, ∃ source, sourceById batch result.inputId = .ok source := by
  intro result hresult
  have hids : execution.output.items.map ItemResult.inputId = batch.items.map WorkerBatchItemV2.inputId := by
    rw [session_items h]
    exact map_inputId_legacyItem batch.items
  have hmem : result.inputId ∈ batch.items.map WorkerBatchItemV2.inputId := by
    rw [← hids]
    exact List.mem_map_of_mem hresult
  obtain ⟨source, hsource, hid⟩ := List.mem_map.mp hmem
  exact ⟨source, sourceById_eq_ok.mpr ⟨hsource, hid⟩⟩

/-- What the record is made of is numbered, item for item and trace for trace. -/
theorem numbered_of_record (hconsecutive : stages.Consecutive) {record : WorkerOutputV2}
    (h : analysisRecord host env runner stages batch w = .ok record) : Numbered batch record := by
  obtain ⟨execution, hexecution, h⟩ := Fallible.bind_eq_ok.mp h
  obtain ⟨pointing, hpointing, h⟩ := Fallible.bind_eq_ok.mp h
  obtain ⟨burned, hburned, h⟩ := Fallible.bind_eq_ok.mp h
  obtain ⟨prepared, hprepared, h⟩ := Fallible.bind_eq_ok.mp h
  obtain ⟨spatial, hspatial, h⟩ := Fallible.bind_eq_ok.mp h
  obtain ⟨items, hitems, h⟩ := Fallible.bind_eq_ok.mp h
  obtain ⟨runs, -, h⟩ := Fallible.bind_eq_ok.mp h
  obtain ⟨orchestration, horchestration, h⟩ := Fallible.bind_eq_ok.mp h
  obtain ⟨draft, -, h⟩ := Fallible.bind_eq_ok.mp h
  obtain rfl := Fallible.pure_eq_ok.mp h
  -- the session's traces, the two behind them, the pipeline's and the converter's own
  have hbefore : NumberedFrom 1 (tracesBeforeSpatial (some pointing) (some burned) execution.stageTraces) := by
    have hfirst := hconsecutive.firePointing _ _ _ _ hpointing
    have hsecond := hconsecutive.burnedArea _ _ _ hburned
    refine (NumberedFrom.append (session_numbered hexecution) (numberedFrom_singleton ?_)).append
      (numberedFrom_singleton ?_)
    · rw [hfirst]
      omega
    · rw [hsecond, List.length_append]
      show _ = 1 + (execution.stageTraces.length + 1)
      omega
  have hpipeline : NumberedFrom
      (1 + (tracesBeforeSpatial (some pointing) (some burned) execution.stageTraces).length)
      (spatialTraces spatial) := by
    unfold projectSpatial at hspatial
    split at hspatial
    · obtain rfl := Fallible.pure_eq_ok.mp hspatial
      exact numberedFrom_nil
    · rename_i project hproject
      obtain ⟨answer, hanswer, hspatial⟩ := Fallible.bind_eq_ok.mp hspatial
      obtain rfl := Fallible.pure_eq_ok.mp hspatial
      rw [Nat.add_comm]
      exact hconsecutive.spatialPipeline project hproject _ _ _ _ hanswer
  obtain ⟨fusion, situationReport, rfl, hfusion, hreport, hends⟩ := orchestrationTraces_numbered horchestration
  have hprepare := Fallible.mapM_eq_ok.mp hprepared
  have hresult := Fallible.mapM_eq_ok.mp hitems
  constructor
  · have hresultIds : ∀ {ps : List PreparedItem} {out : List WorkerItemResultV2},
        List.Forall₂ (fun p item => resultItem host batch (some burned) spatial p = .ok item) ps out →
        out.map WorkerItemResultV2.inputId = ps.map fun p => p.source.inputId := by
      intro ps out hforall
      induction hforall with
      | nil => rfl
      | cons hitem _ ih => rw [List.map_cons, List.map_cons, ih, (resultItem_ok hitem).1]
    have hpreparedIds : ∀ {results : List ItemResult} {ps : List PreparedItem},
        List.Forall₂ (fun r p => prepareItem host batch (some pointing) (some burned) r = .ok p) results ps →
        ps.map (fun p => p.source.inputId) = results.map ItemResult.inputId := by
      intro results ps hforall
      induction hforall with
      | nil => rfl
      | cons hitem _ ih => rw [List.map_cons, List.map_cons, ih, (prepareItem_ok hitem).2.2.1]
    show items.map WorkerItemResultV2.inputId = _
    rw [hresultIds hresult, hpreparedIds hprepare, session_items hexecution]
    exact map_inputId_legacyItem batch.items
  · refine (hbefore.append hpipeline).append ?_
    rw [Nat.add_comm]
    exact hends
  · exact ⟨_, fusion, situationReport, rfl, hfusion, hreport⟩
  · intro item hitem fact hfact
    obtain ⟨p, hp, hitem⟩ := Fallible.exists_of_forall₂_right hresult hitem
    obtain ⟨result, -, hresult⟩ := Fallible.exists_of_forall₂_right hprepare hp
    rw [resultItem_facts hitem fact hfact]
    exact sourceOf_eq_ok (prepareItem_ok hresult).2.1

/-- **An analysis keeps the items and numbers its traces through**, whatever the models and the
    external stages answer: the record is so before the contract of the output looks at it, and none
    of the lookups by input id fails on the way. -/
theorem analysis_numbered (hconsecutive : stages.Consecutive) :
    ((forEach numberedRoles (stageBody env runner (toLegacyInput batch)) w
        (Session.start (toLegacyInput batch))).result = .ok () →
      ∃ items, collectItems (sessionEnd env runner (toLegacyInput batch) w).results
        (toLegacyInput batch).items = .ok items) ∧
    (∀ execution, (runWithTrace env runner (toLegacyInput batch) w ()).result = .ok execution →
      ∀ result ∈ execution.output.items, ∃ source, sourceById batch result.inputId = .ok source) ∧
    (∀ record, analysisRecord host env runner stages batch w = .ok record → Numbered batch record) ∧
    ∀ out, analyse host env runner stages batch w = .ok out → Numbered batch out := by
  refine ⟨session_collects, fun execution => results_sourced, fun record => numbered_of_record hconsecutive, ?_⟩
  intro out hout
  rw [analyse_eq] at hout
  obtain ⟨record, hrecord, hout⟩ := Fallible.bind_eq_ok.mp hout
  obtain ⟨-, rfl⟩ := checked_eq_ok.mp hout
  exact numbered_of_record hconsecutive hrecord

end Guarantee

/-! ## A satellite image -/

namespace Sample

/-- Stages that have nothing to do, and say so under the number they are given. -/
def idleStages : ExternalStages where
  firePointing _ _ sequence := .ok
    { annotationsByInput := .empty
      stageTrace := skippedTrace .firePointing sequence .notApplicable "no_applicable_input" }
  burnedArea _ sequence := .ok
    { annotationsByInput := .empty
      proposalsByInput := .empty
      stageTrace := skippedTrace .burnedArea sequence .notApplicable "no_applicable_input" }
  spatialPipeline := some notApplicable

theorem idleStages_consecutive : idleStages.Consecutive where
  firePointing := by
    rintro batch output sequence execution ⟨rfl⟩
    rfl
  burnedArea := by
    rintro batch sequence execution ⟨rfl⟩
    rfl
  spatialPipeline := by
    rintro project ⟨rfl⟩ batch annotations sequence execution ⟨rfl⟩
    rfl

/-- The session's constructor accepts the registry and a contract with a digest. -/
def analyst : SessionRunner :=
  (SessionRunner.init Sample.registry 12 (loadStageContractRegistry contractDigest)).toOption.get (by decide +kernel)

/-- Every model answers, and has seen nothing. -/
def unseeing : Environment ℚ String := ({} : Script).environment acceptingModels Sample.digest

end Sample

/-- The analysis of a satellite image nobody sees anything in: six stages before the pipeline, two of
    the pipeline and two of the converter. -/
theorem analysis_numbered_satellite : ∃ out,
    analyse Sample.plumeHost Sample.unseeing Sample.analyst Sample.idleStages Sample.satelliteBatch 0 = .ok out ∧
      out.stageTraces.length = 10 ∧ Numbered Sample.satelliteBatch out := by
  have hreturns : returns
      (analyse Sample.plumeHost Sample.unseeing Sample.analyst Sample.idleStages Sample.satelliteBatch 0)
      (fun out => decide (out.stageTraces.length = 10)) = true := by decide +kernel
  obtain ⟨out, hout, hlength⟩ := exists_returned hreturns
  exact ⟨out, hout, of_decide_eq_true hlength, (analysis_numbered Sample.idleStages_consecutive).2.2.2 out hout⟩

end V2Runner

end FireviewerOrchestrator
