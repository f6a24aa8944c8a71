/-
  What the external observations say together: the families they come from, and the contradictions
  between them.

  An observation declares its conflicts in one direction only, and may name anything: itself, an
  observation nobody sent, one that names it back.  `IsSummary` is the relation behind that, closed
  symmetrically and restricted to what is known, and written as strictly increasing lists.  There is
  one such pair of lists, so `externalSummary` depends on nothing but which observations there are.
-/
import FireviewerOrchestrator.EventPipeline.Run

set_option linter.unusedVariables false

namespace FireviewerOrchestrator

namespace EventPipeline

/-! ## The relation -/

/-- An observation of the first identifier names the second one. -/
def Declares (observations : List ExternalObservation) (a b : String) : Prop :=
  ∃ item ∈ observations, item.observationId = a ∧ b ∈ item.conflictsWith

/-- Two known observations, in order, of which one names the other. -/
structure Contradicts (observations : List ExternalObservation) (a b : String) : Prop where
  ordered : a < b
  left_known : a ∈ observations.map ExternalObservation.observationId
  right_known : b ∈ observations.map ExternalObservation.observationId
  declared : Declares observations a b ∨ Declares observations b a

/-- The strictly increasing lists of the families and of the contradictions; pairs are compared by
    their first members, then by their second. -/
structure IsSummary (observations : List ExternalObservation)
    (summary : List String × List (String × String)) : Prop where
  families_increasing : summary.1.Pairwise (· < ·)
  mem_families : ∀ family, family ∈ summary.1 ↔ ∃ item ∈ observations, item.lineageFamilyId = family
  contradictions_increasing : summary.2.Pairwise fun p q => toLex p < toLex q
  mem_contradictions : ∀ a b, (a, b) ∈ summary.2 ↔ Contradicts observations a b

section

variable {observations : List ExternalObservation}

/-! ## The pairs of one observation -/

/-- A conflict becomes the pair of the two identifiers, whichever of them is the smaller one. -/
theorem sortedPair_eq_iff {x y a b : String} (hne : y ≠ x) :
    sortedPair x y = (a, b) ↔ a < b ∧ (x = a ∧ y = b ∨ x = b ∧ y = a) := by
  unfold sortedPair
  split
  · rename_i hlt
    constructor
    · intro h
      obtain ⟨rfl, rfl⟩ := Prod.mk.inj h
      exact ⟨hlt, Or.inr ⟨rfl, rfl⟩⟩
    · rintro ⟨hab, ⟨rfl, rfl⟩ | ⟨rfl, rfl⟩⟩
      · exact absurd hlt (lt_asymm hab)
      · rfl
  · rename_i hle
    have hlt : x < y := lt_of_le_of_ne (not_lt.mp hle) hne.symm
    constructor
    · intro h
      obtain ⟨rfl, rfl⟩ := Prod.mk.inj h
      exact ⟨hlt, Or.inl ⟨rfl, rfl⟩⟩
    · rintro ⟨hab, ⟨rfl, rfl⟩ | ⟨rfl, rfl⟩⟩
      · rfl
      · exact absurd hlt (lt_asymm hab)

theorem mem_conflictPairs {item : ExternalObservation} {a b : String} :
    (a, b) ∈ conflictPairs observations item ↔
      ∃ other ∈ item.conflictsWith, other ∈ observations.map ExternalObservation.observationId ∧
        a < b ∧ (item.observationId = a ∧ other = b ∨ item.observationId = b ∧ other = a) := by
  unfold conflictPairs
  rw [List.mem_map]
  constructor
  · rintro ⟨other, hother, hpair⟩
    obtain ⟨hlisted, hkept⟩ := List.mem_filter.mp hother
    obtain ⟨hknown, hne⟩ := of_decide_eq_true hkept
    exact ⟨other, hlisted, hknown, (sortedPair_eq_iff hne).mp hpair⟩
  · rintro ⟨other, hlisted, hknown, hlt, hcases⟩
    -- An observation that names itself is neither smaller nor greater than itself.
    have hne : other ≠ item.observationId := by
      rcases hcases with ⟨rfl, rfl⟩ | ⟨rfl, rfl⟩
      · exact hlt.ne'
      · exact hlt.ne
    exact ⟨other, List.mem_filter.mpr ⟨hlisted, decide_eq_true ⟨hknown, hne⟩⟩,
      (sortedPair_eq_iff hne).mpr ⟨hlt, hcases⟩⟩

/-- **The closure of the declared relation**: each contradiction is found from the one side, from the
    other, or from both. -/
theorem mem_contradictions_iff {a b : String} :
    (a, b) ∈ (externalSummary observations).2 ↔ Contradicts observations a b := by
  rw [mem_contradictions]
  constructor
  · rintro ⟨item, hitem, hpair⟩
    obtain ⟨other, hlisted, hknown, hlt, ⟨rfl, rfl⟩ | ⟨rfl, rfl⟩⟩ := mem_conflictPairs.mp hpair
    · exact ⟨hlt, List.mem_map_of_mem hitem, hknown, Or.inl ⟨item, hitem, rfl, hlisted⟩⟩
    · exact ⟨hlt, hknown, List.mem_map_of_mem hitem, Or.inr ⟨item, hitem, rfl, hlisted⟩⟩
  · rintro ⟨hlt, hleft, hright, ⟨item, hitem, rfl, hlisted⟩ | ⟨item, hitem, rfl, hlisted⟩⟩
    · exact ⟨item, hitem, mem_conflictPairs.mpr ⟨b, hlisted, hright, hlt, Or.inl ⟨rfl, rfl⟩⟩⟩
    · exact ⟨item, hitem, mem_conflictPairs.mpr ⟨a, hlisted, hleft, hlt, Or.inr ⟨rfl, rfl⟩⟩⟩

/-! ## One summary -/

theorem isSummary_externalSummary (observations : List ExternalObservation) :
    IsSummary observations (externalSummary observations) where
  families_increasing := pairwise_sortedDistinct _
  mem_families family := by
    show family ∈ sortedDistinct (observations.map ExternalObservation.lineageFamilyId) ↔ _
    rw [mem_sortedDistinct, List.mem_map]
  contradictions_increasing := by
    have hsorted := pairwise_sortedDistinct ((observations.flatMap (conflictPairs observations)).map toLex)
    exact List.pairwise_map.mpr hsorted
  mem_contradictions a b := mem_contradictions_iff

/-- There is one list of each kind. -/
theorem IsSummary.unique {summary summary' : List String × List (String × String)}
    (h : IsSummary observations summary) (h' : IsSummary observations summary') : summary = summary' := by
  have hfamilies : summary.1 = summary'.1 := by
    apply h.families_increasing.eq_of_mem_iff h'.families_increasing
    intro family
    rw [h.mem_families, h'.mem_families]
  have hcontradictions : summary.2.map toLex = summary'.2.map toLex := by
    have hincreasing : (summary.2.map toLex).Pairwise (· < ·) := List.pairwise_map.mpr h.contradictions_increasing
    apply hincreasing.eq_of_mem_iff (List.pairwise_map.mpr h'.contradictions_increasing)
    rintro ⟨a, b⟩
    have hmem := (h.mem_contradictions a b).trans (h'.mem_contradictions a b).symm
    have hleft : toLex (a, b) ∈ summary.2.map toLex ↔ (a, b) ∈ summary.2 :=
      List.mem_map_of_injective toLex.injective
    have hright : toLex (a, b) ∈ summary'.2.map toLex ↔ (a, b) ∈ summary'.2 :=
      List.mem_map_of_injective toLex.injective
    exact hleft.trans (hmem.trans hright.symm)
  exact Prod.ext hfamilies (List.map_injective_iff.mpr toLex.injective hcontradictions)

/-- What a summary says is said of the set of the observations. -/
theorem IsSummary.of_mem_iff {observations' : List ExternalObservation}
    {summary : List String × List (String × String)} (h : IsSummary observations summary)
    (hmem : ∀ item, item ∈ observations' ↔ item ∈ observations) : IsSummary observations' summary := by
  have hdeclares : ∀ a b, Declares observations' a b ↔ Declares observations a b :=
    fun a b => exists_congr fun item => and_congr_left' (hmem item)
  have hknown : ∀ a, a ∈ observations'.map ExternalObservation.observationId ↔
      a ∈ observations.map ExternalObservation.observationId := by
    intro a
    rw [List.mem_map, List.mem_map]
    exact exists_congr fun item => and_congr_left' (hmem item)
  refine ⟨h.families_increasing, ?_, h.contradictions_increasing, ?_⟩
  · intro family
    rw [h.mem_families]
    exact exists_congr fun item => and_congr_left' (hmem item).symm
  · intro a b
    rw [h.mem_contradictions]
    constructor
    · rintro ⟨hlt, hleft, hright, hdeclared⟩
      exact ⟨hlt, (hknown a).mpr hleft, (hknown b).mpr hright,
        hdeclared.imp (hdeclares a b).mpr (hdeclares b a).mpr⟩
    · rintro ⟨hlt, hleft, hright, hdeclared⟩
      exact ⟨hlt, (hknown a).mp hleft, (hknown b).mp hright,
        hdeclared.imp (hdeclares a b).mp (hdeclares b a).mp⟩

theorem externalSummary_congr {observations' : List ExternalObservation}
    (hmem : ∀ item, item ∈ observations' ↔ item ∈ observations) :
    externalSummary observations' = externalSummary observations := by
  have h : IsSummary observations' (externalSummary observations) :=
    (isSummary_externalSummary observations).of_mem_iff hmem
  exact (isSummary_externalSummary observations').unique h

end

/-- **The summary is the canonical one**: it is the strictly increasing list of the families with the
    strictly increasing list of the contradictions, and nothing else is.  It is the same for every
    reordering of the observations, and when one of them is sent again. -/
theorem external_summary_canonical (observations : List ExternalObservation) :
    (∀ summary, summary = externalSummary observations ↔ IsSummary observations summary) ∧
    (∀ reordered, reordered.Perm observations →
      externalSummary reordered = externalSummary observations) ∧
    ∀ before after, before ++ after = observations → ∀ item ∈ observations,
      externalSummary (before ++ item :: after) = externalSummary observations := by
  refine ⟨?_, ?_, ?_⟩
  · intro summary
    constructor
    · rintro rfl
      exact isSummary_externalSummary observations
    · intro h
      exact h.unique (isSummary_externalSummary observations)
  · intro reordered hperm
    exact externalSummary_congr fun item => hperm.mem_iff
  · rintro before after rfl item hitem
    apply externalSummary_congr
    intro other
    rw [List.mem_append, List.mem_cons, List.mem_append]
    constructor
    · rintro (hother | rfl | hother)
      · exact Or.inl hother
      · exact List.mem_append.mp hitem
      · exact Or.inr hother
    · rintro (hother | hother)
      · exact Or.inl hother
      · exact Or.inr (Or.inr hother)

/-- The output of a run carries it. -/
theorem isSummary_of_run {sha256 : Sha256} {value : EventPipelineInput}
    {failures : List PerceptionFailure} {out : EventPipelineOutput}
    (h : run sha256 value failures = .ok out) :
    IsSummary value.bundle.externalObservations (out.independentExternalFamilies, out.contradictions) := by
  obtain ⟨analyzed, -, rfl⟩ := run_eq_ok.mp h
  exact isSummary_externalSummary value.bundle.externalObservations

end EventPipeline

end FireviewerOrchestrator
