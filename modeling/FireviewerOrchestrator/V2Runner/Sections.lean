/-
  What the report says of the facts.

  The sections of facts are a partition of the facts by position (`report_partitions`): the code groups
  the facts once, by the section of their category, and each section lists its group in the order of the
  items.  Behind them stands one section with the sources of all facts; without a fact there is only a
  section that says why.

  The sources are collected in a dictionary under their keys, so of the items that share a key only the
  source of the last fact is written down (`sources_attributed_iff`).
-/
import Mathlib.Data.List.ReduceOption
import FireviewerOrchestrator.SessionRunner.Scripted
import FireviewerOrchestrator.V2Runner.Conversion

set_option linter.unusedVariables false

namespace FireviewerOrchestrator

/-- Of a list of optional images, the ones that are there belong to the elements that have one. -/
theorem forall₂_reduceOption {α β : Type} {R : α → β → Prop} {p : α → Bool} {xs : List α}
    {ys : List (Option β)}
    (h : List.Forall₂ (fun x y => if p x then ∃ b, y = some b ∧ R x b else y = none) xs ys) :
    List.Forall₂ R (xs.filter p) ys.reduceOption := by
  induction h with
  | nil => exact .nil
  | @cons x y xs ys hhead _ ih =>
    by_cases hp : p x = true
    · rw [if_pos hp] at hhead
      obtain ⟨b, rfl, hr⟩ := hhead
      rw [List.filter_cons_of_pos hp, List.reduceOption_cons_of_some]
      exact .cons hr ih
    · rw [if_neg hp] at hhead
      subst hhead
      rw [List.filter_cons_of_neg hp, List.reduceOption_cons_of_none]
      exact ih

namespace V2Runner

/-! ## The positions of the facts -/

/-- The positions, among all facts, of those a section lists. -/
def positionsOf (items : List WorkerItemResultV2) (key : ReportSectionKey) : List Nat :=
  ((allFacts items).zipIdx.filter fun entry => sectionForCategory entry.1.category = key).map Prod.snd

section Positions

variable {items : List WorkerItemResultV2} {key : ReportSectionKey} {i : Nat}

theorem mem_positionsOf : i ∈ positionsOf items key ↔
    ∃ fact, (allFacts items)[i]? = some fact ∧ sectionForCategory fact.category = key := by
  unfold positionsOf
  rw [List.mem_map]
  constructor
  · rintro ⟨⟨fact, j⟩, hentry, rfl⟩
    rw [List.mem_filter] at hentry
    exact ⟨fact, List.mem_zipIdx_iff_getElem?.mp hentry.1, by simpa using hentry.2⟩
  · rintro ⟨fact, hfact, hkey⟩
    refine ⟨(fact, i), List.mem_filter.mpr ⟨List.mem_zipIdx_iff_getElem?.mpr hfact, ?_⟩, rfl⟩
    simpa using hkey

/-- A section lists the facts in their order. -/
theorem positionsOf_increasing : (positionsOf items key).Pairwise (· < ·) := by
  have hall : ((allFacts items).zipIdx.map Prod.snd).Pairwise (· < ·) := by
    rw [List.zipIdx_map_snd]
    exact List.pairwise_lt_range'
  exact hall.sublist (List.filter_sublist.map Prod.snd)

/-- What stands at the positions is the group of the section. -/
theorem facts_at_positions :
    List.Forall₂ (fun i fact => (allFacts items)[i]? = some fact) (positionsOf items key)
      (factsOfSection items key) := by
  have hfacts : factsOfSection items key
      = ((allFacts items).zipIdx.filter fun entry => sectionForCategory entry.1.category = key).map
        Prod.fst := by
    have hcomp : (fun entry : FactProposalV2 × Nat => decide (sectionForCategory entry.1.category = key))
        = (fun fact => decide (sectionForCategory fact.category = key)) ∘ Prod.fst := rfl
    rw [hcomp, ← List.filter_map, List.zipIdx_map_fst]
    rfl
  rw [hfacts]
  unfold positionsOf
  rw [List.forall₂_map_left_iff, List.forall₂_map_right_iff, List.forall₂_same]
  intro entry hentry
  exact List.mem_zipIdx_iff_getElem?.mp (List.mem_of_mem_filter hentry)

end Positions

/-! ## The sections -/

/-- The section lists the facts: one entry of the body and one identifier for each, in order. -/
structure Lists (host : Host) (batch : WorkerInputV2) (facts : List FactProposalV2) (s : ReportSectionV2) :
    Prop where
  factIds_eq : s.factIds = facts.map FactProposalV2.factId
  body_eq : ∃ lines, List.Forall₂ (fun fact line => sourcedFactLine host batch fact = .ok line) facts lines ∧
    s.body = "\n".intercalate lines

section Sections

variable {host : Host} {batch : WorkerInputV2} {items : List WorkerItemResultV2} {key : ReportSectionKey}

/-- A group that has a fact has its section, and no other group has one. -/
theorem factSection_eq {shown : Option ReportSectionV2} (h : factSection host batch items key = .ok shown) :
    if !(factsOfSection items key).isEmpty then
      ∃ s, shown = some s ∧ s.key = key ∧ Lists host batch (factsOfSection items key) s
    else shown = none := by
  unfold factSection at h
  cases hempty : (factsOfSection items key).isEmpty with
  | true =>
    rw [if_pos hempty] at h
    exact (Fallible.pure_eq_ok.mp h).symm
  | false =>
    rw [if_neg (by rw [hempty]; decide)] at h
    obtain ⟨lines, hlines, h⟩ := Fallible.bind_eq_ok.mp h
    obtain ⟨built, hbuilt, h⟩ := Fallible.bind_eq_ok.mp h
    obtain rfl := Fallible.pure_eq_ok.mp h
    obtain ⟨-, rfl⟩ := checked_eq_ok.mp hbuilt
    exact ⟨_, rfl, rfl, rfl, lines, Fallible.mapM_eq_ok.mp hlines, rfl⟩

/-- The keys of the sections of facts that are shown. -/
def shownKeys (items : List WorkerItemResultV2) : List ReportSectionKey :=
  factSectionKeys.filter fun key => !(factsOfSection items key).isEmpty

theorem mem_shownKeys : key ∈ shownKeys items ↔
    ∃ fact ∈ allFacts items, sectionForCategory fact.category = key := by
  have hgroup : (!(factsOfSection items key).isEmpty) = true ↔
      ∃ fact ∈ allFacts items, sectionForCategory fact.category = key := by
    rw [Bool.not_eq_true', List.isEmpty_eq_false_iff_exists_mem]
    simp [factsOfSection]
  rw [shownKeys, List.mem_filter, hgroup]
  constructor
  · exact And.right
  · rintro ⟨fact, hfact, rfl⟩
    refine ⟨?_, fact, hfact, rfl⟩
    cases fact.category <;> decide

/-- The sections of facts, in the order of the report. -/
theorem factSections_eq {shown : List (Option ReportSectionV2)}
    (h : factSectionKeys.mapM (factSection host batch items) = .ok shown) :
    List.Forall₂ (fun key s => s.key = key ∧ Lists host batch (factsOfSection items key) s)
      (shownKeys items) shown.reduceOption :=
  forall₂_reduceOption ((Fallible.mapM_eq_ok.mp h).imp fun _ _ => factSection_eq)

/-- With a fact there is a section of sources, and it lists every fact. -/
theorem sourcesSection_eq {shown : Option ReportSectionV2} (h : sourcesSection batch items = .ok shown) :
    if allFacts items = [] then shown = none
    else ∃ s sources, shown = some s ∧ (allFacts items).foldlM (addSource batch) Dict.empty = .ok sources ∧
      s.key = .sourcesAndFreshness ∧ s.factIds = (allFacts items).map FactProposalV2.factId ∧
      s.body = "\n".intercalate (sources.values.map SourceLine.text) := by
  unfold sourcesSection at h
  by_cases hempty : allFacts items = []
  · rw [if_pos (by rw [hempty]; rfl)] at h
    rw [if_pos hempty]
    exact (Fallible.pure_eq_ok.mp h).symm
  · rw [if_neg (by simpa using hempty)] at h
    rw [if_neg hempty]
    obtain ⟨sources, hsources, h⟩ := Fallible.bind_eq_ok.mp h
    obtain ⟨built, hbuilt, h⟩ := Fallible.bind_eq_ok.mp h
    obtain rfl := Fallible.pure_eq_ok.mp h
    obtain ⟨-, rfl⟩ := checked_eq_ok.mp hbuilt
    exact ⟨_, sources, rfl, hsources, rfl, rfl, rfl⟩

end Sections

/-! ## The partition -/

/-- The facts have their input among the items of the batch. -/
def FactsKnown (batch : WorkerInputV2) (items : List WorkerItemResultV2) : Prop :=
  ∀ fact ∈ allFacts items, fact.inputId ∈ batch.items.map WorkerBatchItemV2.inputId

/-- The codes are the sorted distinct ones of the spatial proposals, or the default one. -/
def ExplainsAbsence (items : List WorkerItemResultV2) (codes : List String) : Prop :=
  (codes.Pairwise (· < ·) ∧ codes ≠ [] ∧
    ∀ code, code ∈ codes ↔ ∃ item ∈ items, ∃ p ∈ item.spatialProposals, code ∈ p.uncertaintyCodes) ∨
  ((∀ item ∈ items, ∀ p ∈ item.spatialProposals, p.uncertaintyCodes = []) ∧
    codes = ["no_explicit_fact_extracted"])

/-- **The sections partition the facts**, each listed at its position. -/
structure Partitions (host : Host) (batch : WorkerInputV2) (items : List WorkerItemResultV2)
    (draft : SituationReportDraftV2) : Prop where
  with_facts : allFacts items ≠ [] → ∃ ofFacts sources, draft.sections = ofFacts ++ [sources] ∧
    (ofFacts.map ReportSectionV2.key).Sublist factSectionKeys ∧
    (∀ s ∈ ofFacts, s.factIds ≠ [] ∧ (positionsOf items s.key).Pairwise (· < ·) ∧
      ∃ facts, List.Forall₂ (fun i fact => (allFacts items)[i]? = some fact) (positionsOf items s.key) facts ∧
        Lists host batch facts s) ∧
    (∀ i fact, (allFacts items)[i]? = some fact → ∃ s ∈ ofFacts, s.key = sectionForCategory fact.category ∧
      i ∈ positionsOf items s.key ∧ ∀ s' ∈ ofFacts, i ∈ positionsOf items s'.key → s' = s) ∧
    sources.key = .sourcesAndFreshness ∧ sources.factIds = (allFacts items).map FactProposalV2.factId
  without_facts : allFacts items = [] → ∃ limitations, draft.sections = [limitations] ∧
    limitations.key = .limitations ∧ limitations.factIds = [] ∧
    ExplainsAbsence items limitations.basisCodes
  /-- Every reference is the identifier of a fact of the items. -/
  closed : ∀ s ∈ draft.sections, ∀ factId ∈ s.factIds,
    ∃ item ∈ items, ∃ fact ∈ item.factProposals, fact.factId = factId

section Partition

variable {host : Host} {batch : WorkerInputV2} {items : List WorkerItemResultV2}

theorem factId_of_allFacts {factId : String} (h : factId ∈ (allFacts items).map FactProposalV2.factId) :
    ∃ item ∈ items, ∃ fact ∈ item.factProposals, fact.factId = factId := by
  obtain ⟨fact, hfact, rfl⟩ := List.mem_map.mp h
  obtain ⟨item, hitem, hmem⟩ := List.mem_flatMap.mp hfact
  exact ⟨item, hitem, fact, hmem, rfl⟩

theorem limitationCodes_explain (items : List WorkerItemResultV2) :
    ExplainsAbsence items (limitationCodes items) := by
  have hmem : ∀ code, code ∈ sortedDistinct (items.flatMap fun item =>
        item.spatialProposals.flatMap SpatialProposalV2.uncertaintyCodes) ↔
      ∃ item ∈ items, ∃ p ∈ item.spatialProposals, code ∈ p.uncertaintyCodes := by
    intro code
    rw [mem_sortedDistinct]
    simp only [List.mem_flatMap]
  unfold limitationCodes
  cases hcodes : sortedDistinct (items.flatMap fun item =>
      item.spatialProposals.flatMap SpatialProposalV2.uncertaintyCodes) with
  | nil =>
    refine Or.inr ⟨fun item hitem p hp => ?_, rfl⟩
    rw [List.eq_nil_iff_forall_not_mem]
    intro code hcode
    have hnone := (hmem code).mpr ⟨item, hitem, p, hp, hcode⟩
    rw [hcodes] at hnone
    exact absurd hnone List.not_mem_nil
  | cons code codes =>
    rw [hcodes] at hmem
    refine Or.inl ⟨?_, List.cons_ne_nil _ _, hmem⟩
    show (code :: codes).Pairwise (· < ·)
    rw [← hcodes]
    exact pairwise_sortedDistinct _

/-- **The report partitions the facts.** -/
theorem partitions_of_sections {sections : List ReportSectionV2} {draft : SituationReportDraftV2}
    (h : reportSections host batch items = .ok sections) (hdraft : draft.sections = sections) :
    Partitions host batch items draft := by
  obtain ⟨shown, hshown, h⟩ := Fallible.bind_eq_ok.mp h
  obtain ⟨ofSources, hsources, h⟩ := Fallible.bind_eq_ok.mp h
  have hgroups := factSections_eq hshown
  have hsourced := sourcesSection_eq hsources
  have hkeys : shown.reduceOption.map ReportSectionV2.key = shownKeys items := by
    have heq : List.Forall₂ (fun key s => key = s) (shownKeys items)
        (shown.reduceOption.map ReportSectionV2.key) := by
      rw [List.forall₂_map_right_iff]
      exact hgroups.imp fun _ _ hgroup => hgroup.1.symm
    exact (List.forall₂_eq_eq_eq ▸ heq : _ = _).symm
  have hlists : ∀ s ∈ shown.reduceOption, Lists host batch (factsOfSection items s.key) s := by
    intro s hs
    obtain ⟨key, -, hkey, hlists⟩ := Fallible.exists_of_forall₂_right hgroups hs
    exact hkey ▸ hlists
  have hclosed : ∀ s ∈ shown.reduceOption, ∀ factId ∈ s.factIds,
      ∃ item ∈ items, ∃ fact ∈ item.factProposals, fact.factId = factId := by
    intro s hs factId hid
    rw [(hlists s hs).factIds_eq] at hid
    obtain ⟨fact, hfact, rfl⟩ := List.mem_map.mp hid
    exact factId_of_allFacts (List.mem_map_of_mem (List.mem_of_mem_filter hfact))
  by_cases hempty : allFacts items = []
  · -- without a fact no group has a section, so only the limitations are left
    rw [if_pos hempty] at hsourced
    subst hsourced
    have hnone : shown.reduceOption = [] := by
      have hkeysNil : shownKeys items = [] := by
        rw [List.eq_nil_iff_forall_not_mem]
        intro key hkey
        obtain ⟨fact, hfact, -⟩ := mem_shownKeys.mp hkey
        rw [hempty] at hfact
        exact absurd hfact List.not_mem_nil
      rw [← hkeys] at hkeysNil
      exact List.map_eq_nil_iff.mp hkeysNil
    rw [hnone] at h
    obtain ⟨limitations, hlimitations, h⟩ := Fallible.bind_eq_ok.mp h
    obtain rfl := Fallible.pure_eq_ok.mp h
    unfold limitationsSection ReportSectionV2.build at hlimitations
    obtain ⟨-, rfl⟩ := checked_eq_ok.mp hlimitations
    constructor
    · exact fun hfacts => absurd hempty hfacts
    · exact fun _ => ⟨_, hdraft, rfl, rfl, limitationCodes_explain items⟩
    · intro s hs factId hid
      rw [hdraft, List.mem_singleton] at hs
      subst hs
      exact absurd hid List.not_mem_nil
  · rw [if_neg hempty] at hsourced
    obtain ⟨s, sources, rfl, -, hkey, hids, -⟩ := hsourced
    have hsections : draft.sections = shown.reduceOption ++ [s] := by
      rw [if_neg (by simp)] at h
      rw [hdraft]
      exact (Fallible.pure_eq_ok.mp h).symm
    constructor
    · intro _
      refine ⟨shown.reduceOption, s, hsections, ?_, ?_, ?_, hkey, hids⟩
      · rw [hkeys]
        exact List.filter_sublist
      · intro s' hs'
        refine ⟨?_, positionsOf_increasing, _, facts_at_positions, hlists s' hs'⟩
        have hshownKey : s'.key ∈ shownKeys items := hkeys ▸ List.mem_map_of_mem hs'
        obtain ⟨fact, hfact, hcategory⟩ := mem_shownKeys.mp hshownKey
        have hmem : fact ∈ factsOfSection items s'.key :=
          List.mem_filter.mpr ⟨hfact, by simpa using hcategory⟩
        rw [(hlists s' hs').factIds_eq]
        exact List.ne_nil_of_mem (List.mem_map_of_mem hmem)
      · intro i fact hfact
        have hkeyShown : sectionForCategory fact.category ∈ shownKeys items :=
          mem_shownKeys.mpr ⟨fact, List.mem_of_getElem? hfact, rfl⟩
        rw [← hkeys] at hkeyShown
        obtain ⟨s', hs', hcategory⟩ := List.mem_map.mp hkeyShown
        refine ⟨s', hs', hcategory, mem_positionsOf.mpr ⟨fact, hfact, hcategory.symm⟩, ?_⟩
        intro s'' hs'' hlisted
        obtain ⟨fact', hfact', hcategory'⟩ := mem_positionsOf.mp hlisted
        obtain rfl := Option.some.inj (hfact.symm.trans hfact')
        have hnodup : (shown.reduceOption.map ReportSectionV2.key).Nodup := by
          rw [hkeys]
          exact List.Nodup.filter _ (by decide)
        exact List.inj_on_of_nodup_map hnodup hs'' hs' (hcategory'.symm.trans hcategory.symm)
    · exact fun hnone => absurd hnone hempty
    · intro s' hs' factId hid
      rw [hsections, List.mem_append, List.mem_singleton] at hs'
      rcases hs' with hs' | rfl
      · exact hclosed s' hs' factId hid
      · rw [hids] at hid
        exact factId_of_allFacts hid

/-! ## What the report raises -/

theorem sourceOf_known {inputId : String} (h : inputId ∈ batch.items.map WorkerBatchItemV2.inputId) :
    ∃ provenance, sourceOf batch inputId = .ok provenance := by
  obtain ⟨item, hitem, rfl⟩ := List.mem_map.mp h
  unfold sourceOf
  split
  · exact ⟨_, rfl⟩
  · rename_i hnone
    exact absurd (List.find?_eq_none.mp hnone item hitem) (by simp)

/-- With its sources known the report refuses a draft that breaks the contract, and raises nothing
    else. -/
theorem raisesOnly_report (hknown : FactsKnown batch items) :
    Fallible.RaisesOnly PyExc.IsValidation (report host batch items) := by
  have hsection : ∀ s : ReportSectionV2, Fallible.RaisesOnly PyExc.IsValidation s.build :=
    fun s => raisesOnly_checked (raisesOnly_pydanticValidate _ _)
  have hline : ∀ fact ∈ allFacts items,
      Fallible.RaisesOnly PyExc.IsValidation (sourcedFactLine host batch fact) := by
    intro fact hfact
    obtain ⟨provenance, hprovenance⟩ := sourceOf_known (hknown fact hfact)
    unfold sourcedFactLine
    rw [hprovenance, Fallible.ok_bind]
    exact Fallible.raisesOnly_ok _
  have hfactSection : ∀ key, Fallible.RaisesOnly PyExc.IsValidation (factSection host batch items key) := by
    intro key
    unfold factSection
    show Fallible.RaisesOnly _ (if _ then _ else _)
    split
    · exact Fallible.raisesOnly_ok _
    · refine (Fallible.raisesOnly_mapM fun fact hfact =>
        hline fact (List.mem_of_mem_filter hfact)).bind fun _ _ => ?_
      exact (hsection _).bind fun _ _ => Fallible.raisesOnly_ok _
  have haddSource : Fallible.RaisesOnly PyExc.IsValidation
      ((allFacts items).foldlM (addSource batch) Dict.empty) := by
    refine (Fallible.raisesOnly_foldlM (I := fun _ => True) ?_ trivial).1
    intro sources _ fact hfact
    obtain ⟨provenance, hprovenance⟩ := sourceOf_known (hknown fact hfact)
    unfold addSource
    rw [hprovenance, Fallible.ok_bind]
    exact ⟨Fallible.raisesOnly_ok _, fun _ _ => trivial⟩
  have hsourcesSection : Fallible.RaisesOnly PyExc.IsValidation (sourcesSection batch items) := by
    unfold sourcesSection
    show Fallible.RaisesOnly _ (if _ then _ else _)
    split
    · exact Fallible.raisesOnly_ok _
    · exact haddSource.bind fun _ _ => (hsection _).bind fun _ _ => Fallible.raisesOnly_ok _
  have hsections : Fallible.RaisesOnly PyExc.IsValidation (reportSections host batch items) := by
    refine (Fallible.raisesOnly_mapM fun key _ => hfactSection key).bind fun _ _ => ?_
    refine hsourcesSection.bind fun _ _ => ?_
    show Fallible.RaisesOnly _ (if _ then _ else _)
    split
    · exact (hsection _).bind fun _ _ => Fallible.raisesOnly_ok _
    · exact Fallible.raisesOnly_ok _
  exact hsections.bind fun _ _ => raisesOnly_checked (raisesOnly_pydanticValidate _ _)

end Partition

/-! ### Two articles of one source

  They share a key and differ in their addresses; each has a fact. -/

namespace Sample

def article (inputId url : String) (hid : isSafeIdentifier inputId = true) : WorkerBatchItemV2 :=
  .ofImage inputId "https://media/article" { provenance with sourceReferenceUrl := some url } hid

def articleBatch : WorkerInputV2 where
  batchId := "batch-5"
  batchType := .userMedia
  analysisWindow := window
  items := [article "article-1" "https://a/1" (by decide +kernel),
    article "article-2" "https://b/2" (by decide +kernel)]

def articleHost : Host := .ofSha256
  (.ofDigests [] "e3b0c44298fc1c149afbf4c8996fb92427ae41e4649b934ca495991b7852b855" emptyText_digest)
  "2026-07-01T12:00:00+00:00"

def articleFact (factId inputId summary : String) (category : FactCategory) : FactProposalV2 where
  factId := factId
  inputId := inputId
  category := category
  factKey := "observation"
  asOf := noon
  evidenceKind := .articleText
  evidenceId := inputId
  certainty := .explicitlyWritten
  valueText := some summary
  summary := summary

def articleResults : List WorkerItemResultV2 :=
  [{ inputId := "article-1", factProposals := [articleFact "fact-1" "article-1" "Fumée" .fireActivity] },
    { inputId := "article-2", factProposals := [articleFact "fact-2" "article-2" "Vent" .weather] }]

theorem articleFacts_known : FactsKnown articleBatch articleResults := by
  have hall : (allFacts articleResults).all (fun fact =>
      decide (fact.inputId ∈ articleBatch.items.map WorkerBatchItemV2.inputId)) = true := by decide
  intro fact hfact
  exact of_decide_eq_true (List.all_eq_true.mp hall fact hfact)

/-- The report on the two articles: the address of the first is nowhere in its section of sources. -/
theorem article_report : ∃ draft, report articleHost articleBatch articleResults = .ok draft ∧
    ∀ s ∈ draft.sections, s.key = .sourcesAndFreshness →
      containsText "- citizen — niveau unverified — https://a/1" s.body = false := by
  have hreturns : returns (report articleHost articleBatch articleResults)
      (fun draft => draft.sections.all fun s => s.key ≠ .sourcesAndFreshness ||
        !containsText "- citizen — niveau unverified — https://a/1" s.body) = true := by decide +kernel
  obtain ⟨draft, h, hsections⟩ := exists_returned hreturns
  refine ⟨draft, h, fun s hs hkey => ?_⟩
  have hs := List.all_eq_true.mp hsections s hs
  rw [hkey] at hs
  simpa using hs

end Sample

/-- **The situation report partitions the facts.**  Only a draft that breaks its contract is refused;
    any other has each fact in exactly one section. -/
theorem report_partitions (host : Host) (batch : WorkerInputV2) (items : List WorkerItemResultV2)
    (hknown : FactsKnown batch items) :
    Fallible.RaisesOnly PyExc.IsValidation (report host batch items) ∧
      ∀ draft, report host batch items = .ok draft → Partitions host batch items draft := by
  refine ⟨raisesOnly_report hknown, fun draft h => ?_⟩
  obtain ⟨sections, hsections, h⟩ := Fallible.bind_eq_ok.mp h
  obtain ⟨-, rfl⟩ := checked_eq_ok.mp h
  exact partitions_of_sections hsections rfl

/-- The report on the two articles has each of their facts in one section. -/
theorem report_partitions_articles :
    ∃ draft, report Sample.articleHost Sample.articleBatch Sample.articleResults = .ok draft ∧
      Partitions Sample.articleHost Sample.articleBatch Sample.articleResults draft := by
  obtain ⟨draft, h, -⟩ := Sample.article_report
  exact ⟨draft, h, (report_partitions _ _ _ Sample.articleFacts_known).2 draft h⟩

/-! ## The sources -/

/-- The entries of the body of the section of sources. -/
def sourceEntries (batch : WorkerInputV2) (items : List WorkerItemResultV2) : Except PyExc (List String) := do
  let sources ← (allFacts items).foldlM (addSource batch) Dict.empty
  pure (sources.values.map SourceLine.text)

/-- Of every fact, the line of its own item's source is an entry of the body of the section of
    sources. -/
def Attributed (batch : WorkerInputV2) (items : List WorkerItemResultV2) (draft : SituationReportDraftV2) :
    Prop :=
  ∀ fact ∈ allFacts items, ∃ source entries s, sourceOf batch fact.inputId = .ok source ∧
    sourceEntries batch items = .ok entries ∧ s ∈ draft.sections ∧ s.key = .sourcesAndFreshness ∧
    s.body = "\n".intercalate entries ∧ (sourceLine source).text ∈ entries

/-- The fact is the last of the facts whose source has its source's key. -/
def LastOfSource (batch : WorkerInputV2) (facts : List FactProposalV2) (source : SourceProvenanceV2) : Prop :=
  ∃ before fact after, facts = before ++ fact :: after ∧ sourceOf batch fact.inputId = .ok source ∧
    ∀ later ∈ after, ∀ laterSource, sourceOf batch later.inputId = .ok laterSource →
      laterSource.sourceKey ≠ source.sourceKey

/-- Every fact has the line of a fact that is the last one of its source key. -/
def LastAttributions (batch : WorkerInputV2) (items : List WorkerItemResultV2) : Prop :=
  ∀ fact ∈ allFacts items, ∀ source, sourceOf batch fact.inputId = .ok source →
    ∃ last, LastOfSource batch (allFacts items) last ∧ (sourceLine last).text = (sourceLine source).text

section Sources

variable {batch : WorkerInputV2} {items : List WorkerItemResultV2} {facts : List FactProposalV2}

/-- The key and the line of a source. -/
def sourcePair (source : SourceProvenanceV2) : String × SourceLine := (source.sourceKey, sourceLine source)

theorem addedSources_eq {sources : Dict String SourceLine}
    (h : facts.foldlM (addSource batch) Dict.empty = .ok sources) :
    ∃ ofFacts, List.Forall₂ (fun fact source => sourceOf batch fact.inputId = .ok source) facts ofFacts ∧
      sources = Dict.ofPairs (ofFacts.map sourcePair) := by
  obtain ⟨ofFacts, hread, rfl⟩ := Fallible.foldlM_eq_ok.mp h
  refine ⟨ofFacts, Fallible.mapM_eq_ok.mp hread, ?_⟩
  rw [Dict.ofPairs, List.foldl_map]
  rfl

/-- Of the sources of the facts, the last one of a key is that of a fact behind which no fact has the
    key. -/
theorem lastOf_sourcePair {line : SourceLine} {ofFacts : List SourceProvenanceV2}
    (h : List.Forall₂ (fun fact source => sourceOf batch fact.inputId = .ok source) facts ofFacts) :
    (∃ key, Dict.LastOf (ofFacts.map sourcePair) key line) ↔
      ∃ last, LastOfSource batch facts last ∧ sourceLine last = line := by
  constructor
  · rintro ⟨key, before, after, heq, hlast⟩
    obtain ⟨sourcesBefore, rest, rfl, rfl, hrest⟩ := List.map_eq_append_iff.mp heq
    obtain ⟨last, sourcesAfter, rfl, hpair, rfl⟩ := List.map_eq_cons_iff.mp hrest
    obtain ⟨rfl, rfl⟩ := Prod.mk.inj hpair
    have hrest := List.forall₂_drop_append _ _ _ h
    obtain ⟨fact, after, hfact, hafter, hdrop⟩ := List.forall₂_cons_right_iff.mp hrest
    refine ⟨last, ⟨facts.take sourcesBefore.length, fact, after, ?_, hfact, ?_⟩, rfl⟩
    · rw [← hdrop, List.take_append_drop]
    · intro later hlater laterSource hsource hkey
      obtain ⟨source, hmem, hread⟩ := Fallible.exists_of_forall₂_left hafter hlater
      obtain rfl := Except.ok.inj (hread.symm.trans hsource)
      apply hlast
      rw [List.map_map, ← hkey]
      exact List.mem_map_of_mem (f := Prod.fst ∘ sourcePair) hmem
  · rintro ⟨last, ⟨before, fact, after, rfl, hfact, hlater⟩, rfl⟩
    have hrest := List.forall₂_drop_append _ _ _ h.flip
    obtain ⟨source, sourcesAfter, hsource, hafter, hdrop⟩ := List.forall₂_cons_right_iff.mp hrest
    obtain rfl := Except.ok.inj (hsource.symm.trans hfact)
    refine ⟨source.sourceKey, (ofFacts.take before.length).map sourcePair, sourcesAfter.map sourcePair, ?_, ?_⟩
    · show _ = List.map sourcePair _ ++ List.map sourcePair (source :: sourcesAfter)
      rw [← List.map_append, ← hdrop, List.take_append_drop]
    · rw [List.map_map]
      intro hmem
      obtain ⟨later, hmem, hkey⟩ := List.mem_map.mp hmem
      obtain ⟨laterFact, hlaterFact, hread⟩ := Fallible.exists_of_forall₂_left hafter hmem
      exact hlater laterFact hlaterFact later hread hkey

/-- The entries are the lines of the sources that are the last ones of their keys. -/
theorem mem_sourceEntries {entries : List String} (h : sourceEntries batch items = .ok entries) {text : String} :
    text ∈ entries ↔ ∃ last, LastOfSource batch (allFacts items) last ∧ (sourceLine last).text = text := by
  obtain ⟨sources, hsources, h⟩ := Fallible.bind_eq_ok.mp h
  obtain rfl := Fallible.pure_eq_ok.mp h
  obtain ⟨ofFacts, hread, rfl⟩ := addedSources_eq hsources
  rw [List.mem_map]
  constructor
  · rintro ⟨line, hline, rfl⟩
    obtain ⟨last, hlast, rfl⟩ := (lastOf_sourcePair hread).mp (Dict.mem_values_ofPairs.mp hline)
    exact ⟨last, hlast, rfl⟩
  · rintro ⟨last, hlast, rfl⟩
    exact ⟨_, Dict.mem_values_ofPairs.mpr ((lastOf_sourcePair hread).mpr ⟨last, hlast, rfl⟩), rfl⟩

/-- A report with facts has a section whose body is the entries. -/
theorem sources_of_sections {host : Host} {sections : List ReportSectionV2}
    (h : reportSections host batch items = .ok sections) (hfacts : allFacts items ≠ []) :
    ∃ s entries, s ∈ sections ∧ s.key = .sourcesAndFreshness ∧
      sourceEntries batch items = .ok entries ∧ s.body = "\n".intercalate entries := by
  obtain ⟨shown, -, h⟩ := Fallible.bind_eq_ok.mp h
  obtain ⟨ofSources, hsources, h⟩ := Fallible.bind_eq_ok.mp h
  have hsourced := sourcesSection_eq hsources
  rw [if_neg hfacts] at hsourced
  obtain ⟨s, sources, rfl, hfold, hkey, -, hbody⟩ := hsourced
  have hentries : sourceEntries batch items = .ok (sources.values.map SourceLine.text) :=
    Fallible.bind_eq_ok.mpr ⟨sources, hfold, rfl⟩
  refine ⟨s, _, ?_, hkey, hentries, hbody⟩
  rw [if_neg (by simp)] at h
  rw [← Fallible.pure_eq_ok.mp h]
  exact List.mem_append_right _ List.mem_cons_self

end Sources

/-- **Which attributions are kept.**  A fact keeps the line of its own source exactly when it has the
    line of a fact that is the last one of its source key. -/
theorem sources_attributed_iff {host : Host} {batch : WorkerInputV2} {items : List WorkerItemResultV2}
    {draft : SituationReportDraftV2} (h : report host batch items = .ok draft) :
    Attributed batch items draft ↔ LastAttributions batch items := by
  obtain ⟨sections, hsections, h⟩ := Fallible.bind_eq_ok.mp h
  obtain ⟨-, rfl⟩ := checked_eq_ok.mp h
  constructor
  · intro hattributed fact hfact source hsource
    obtain ⟨source', entries, s, hsource', hentries, -, -, -, hmem⟩ := hattributed fact hfact
    obtain rfl := Except.ok.inj (hsource.symm.trans hsource')
    exact (mem_sourceEntries hentries).mp hmem
  · intro hlast fact hfact
    obtain ⟨s, entries, hs, hkey, hentries, hbody⟩ :=
      sources_of_sections hsections (List.ne_nil_of_mem hfact)
    obtain ⟨sources, hfold, -⟩ := Fallible.bind_eq_ok.mp hentries
    obtain ⟨ofFacts, hread, -⟩ := addedSources_eq hfold
    obtain ⟨source, -, hsource⟩ := Fallible.exists_of_forall₂_left hread hfact
    exact ⟨source, entries, s, hsource, hentries, hs, hkey, hbody,
      (mem_sourceEntries hentries).mpr (hlast fact hfact source hsource)⟩

/-- The account, for the two articles. -/
theorem sources_attributed_iff_articles :
    ∃ draft, report Sample.articleHost Sample.articleBatch Sample.articleResults = .ok draft ∧
      (Attributed Sample.articleBatch Sample.articleResults draft ↔
        LastAttributions Sample.articleBatch Sample.articleResults) := by
  obtain ⟨draft, h, -⟩ := Sample.article_report
  exact ⟨draft, h, sources_attributed_iff h⟩

/-- **An attribution is lost**: the address of the first article is nowhere in the section of sources. -/
theorem shared_key_unattributed :
    ∃ draft, report Sample.articleHost Sample.articleBatch Sample.articleResults = .ok draft ∧
      ∃ fact ∈ allFacts Sample.articleResults, ∃ source,
        sourceOf Sample.articleBatch fact.inputId = .ok source ∧
        source.sourceReferenceUrl = some "https://a/1" ∧
        ∀ s ∈ draft.sections, s.key = .sourcesAndFreshness →
          containsText (sourceLine source).text s.body = false := by
  obtain ⟨draft, h, hmissing⟩ := Sample.article_report
  have hline : (sourceLine (Sample.article "article-1" "https://a/1" (by decide)).provenance).text
      = "- citizen — niveau unverified — https://a/1" := by decide
  refine ⟨draft, h, _, List.mem_cons_self, _, rfl, rfl, fun s hs hkey => ?_⟩
  rw [hline]
  exact hmissing s hs hkey

end V2Runner

end FireviewerOrchestrator
