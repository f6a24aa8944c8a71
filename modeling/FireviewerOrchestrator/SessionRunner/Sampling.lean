/-
  The sample of an item's evidence: how `_temporal_sample` spreads it, and what `_initial_result`
  therefore selects.

  The indexes go through a set of rounded numbers.  `roundHalfEven_near` is all that is used of the
  rounding; with it, `Sampling.Rounded` says that no two of the numbers meet, so that the set has as
  many members as the limit says.
-/
import FireviewerOrchestrator.Library.Sampling
import FireviewerOrchestrator.SessionRunner.Data
import Mathlib.Data.Int.ConditionallyCompleteOrder
import Mathlib.Data.List.Chain
import Mathlib.Data.List.Range

set_option linter.unusedVariables false

namespace FireviewerOrchestrator

open Sampling

/-- Rounding halves to the even number leaves at most a half. -/
theorem roundHalfEven_near (q : ℚ) : Near (roundHalfEven q) q := by
  have hfloor := Int.floor_le q
  have hnext := Int.lt_floor_add_one q
  unfold roundHalfEven Near
  dsimp only
  split_ifs <;> push_cast <;> constructor <;> linarith

namespace SessionRunner

/-! ## Indexes -/

/-- The step from one index to the next, before rounding. -/
def sampleStep (count limit : ℕ) : ℚ := ((count - 1 : ℕ) : ℚ) / (limit - 1 : ℕ)

/-- The index at a position of the sample. -/
def sampleIndex (count limit position : ℕ) : ℤ :=
  roundHalfEven ((position * (count - 1 : ℕ) : ℚ) / (limit - 1 : ℕ))

/-- `sorted(indexes)`. -/
def sampleIndexes (count limit : ℕ) : List ℕ :=
  sortedDistinct ((List.range limit).map fun position => (sampleIndex count limit position).toNat)

theorem temporalSample_of_le {evidenceIds : List String} {limit : ℕ} (h : evidenceIds.length ≤ limit) :
    temporalSample evidenceIds limit = evidenceIds := if_pos h

theorem temporalSample_of_lt {evidenceIds : List String} {limit : ℕ} (hlimit : 2 ≤ limit)
    (h : limit < evidenceIds.length) :
    temporalSample evidenceIds limit = select evidenceIds (sampleIndexes evidenceIds.length limit) := by
  unfold temporalSample
  rw [if_neg (by omega), if_neg (by omega)]
  dsimp only
  -- The positions are numbers of the progression before they are rounded.
  simp only [List.pure_def, List.bind_eq_flatMap, List.map_flatMap, List.map_singleton]
  rw [← List.map_eq_flatMap]
  rfl

theorem sampleIndex_rounded (count limit : ℕ) : Rounded (sampleIndex count limit) (sampleStep count limit) := by
  intro position
  rw [sampleStep, ← mul_div_assoc]
  exact roundHalfEven_near _

theorem sampleIndex_last (count : ℕ) {limit : ℕ} (hlimit : 2 ≤ limit) :
    sampleIndex count limit (limit - 1) = (count - 1 : ℕ) := by
  apply (sampleIndex_rounded count limit).at_whole
  have hne : ((limit - 1 : ℕ) : ℚ) ≠ 0 := by
    have hnat : limit - 1 ≠ 0 := by omega
    exact_mod_cast hnat
  rw [sampleStep, mul_div_cancel₀ _ hne]
  norm_cast

section Spread

variable {count limit : ℕ} (hlimit : 2 ≤ limit) (h : limit < count)

include hlimit h

theorem one_le_sampleStep : 1 ≤ sampleStep count limit := by
  have hpos : (0 : ℚ) < ((limit - 1 : ℕ) : ℚ) := by
    have hnat : 0 < limit - 1 := by omega
    exact_mod_cast hnat
  have hle : ((limit - 1 : ℕ) : ℚ) ≤ ((count - 1 : ℕ) : ℚ) := by
    have hnat : limit - 1 ≤ count - 1 := by omega
    exact_mod_cast hnat
  exact (one_le_div hpos).mpr hle

theorem sampleIndex_strictMono : StrictMono (sampleIndex count limit) :=
  (sampleIndex_rounded count limit).strictMono (one_le_sampleStep hlimit h)

theorem sampleIndex_nonneg (position : ℕ) : 0 ≤ sampleIndex count limit position := by
  rw [← (sampleIndex_rounded count limit).zero]
  exact (sampleIndex_strictMono hlimit h).monotone (Nat.zero_le position)

/-- The set of the rounded numbers loses none of them, and sorting leaves them where they are. -/
theorem sampleIndexes_eq : sampleIndexes count limit =
    (List.range limit).map fun position => (sampleIndex count limit position).toNat := by
  have hincreasing : ((List.range limit).map fun position =>
      (sampleIndex count limit position).toNat).Pairwise (· < ·) := by
    apply List.pairwise_map.mpr
    refine List.pairwise_lt_range.imp fun {a b} hab => ?_
    have hlt := sampleIndex_strictMono hlimit h hab
    have hnonneg := sampleIndex_nonneg hlimit h a
    omega
  apply (pairwise_sortedDistinct _).eq_of_mem_iff hincreasing
  intro index
  exact mem_sortedDistinct

end Spread

/-! ## Samples -/

/-- Positions from the first to the last one, `⌊step⌋` or `⌈step⌉` apart. -/
structure EvenPositions (count limit : ℕ) (positions : List ℕ) : Prop where
  length_eq : positions.length = limit
  first : positions.head? = some 0
  last : positions.getLast? = some (count - 1)
  increasing : positions.Pairwise (· < ·)
  inside : ∀ p ∈ positions, p < count
  steps : positions.IsChain fun p q : ℕ =>
    (q : ℤ) - p = ⌊sampleStep count limit⌋ ∨ (q : ℤ) - p = ⌈sampleStep count limit⌉

/-- A part of the evidence as large as the limit, with its two ends, taken at such positions. -/
structure EvenSample (evidenceIds : List String) (limit : ℕ) (sample : List String) : Prop where
  length_eq : sample.length = limit
  sublist : sample.Sublist evidenceIds
  first : sample.head? = evidenceIds.head?
  last : sample.getLast? = evidenceIds.getLast?
  taken : ∃ positions, EvenPositions evidenceIds.length limit positions ∧
    sample.map some = positions.map fun p => evidenceIds[p]?

theorem evenPositions_sampleIndexes {count limit : ℕ} (hlimit : 2 ≤ limit) (h : limit < count) :
    EvenPositions count limit (sampleIndexes count limit) := by
  have heq := sampleIndexes_eq hlimit h
  have hzero := (sampleIndex_rounded count limit).zero
  have hlast := sampleIndex_last count hlimit
  have hlastIndex : (sampleIndex count limit (limit - 1)).toNat = count - 1 := by omega
  have hstep := (sampleIndex_rounded count limit).step
  have hnonneg := sampleIndex_nonneg hlimit h
  have hmono := (sampleIndex_strictMono hlimit h).monotone
  refine ⟨?_, ?_, ?_, pairwise_sortedDistinct _, ?_, ?_⟩
  · rw [heq, List.length_map, List.length_range]
  · rw [heq, List.head?_map, List.head?_range, if_neg (by omega), Option.map_some, hzero]
    rfl
  · rw [heq, List.getLast?_map, List.getLast?_range, if_neg (by omega), Option.map_some, hlastIndex]
  · intro p hp
    rw [heq] at hp
    obtain ⟨position, hposition, rfl⟩ := List.mem_map.mp hp
    have hlt : position < limit := List.mem_range.mp hposition
    have hle := hmono (show position ≤ limit - 1 by omega)
    omega
  · rw [heq, List.isChain_map, List.isChain_range]
    intro position hposition
    have hnext := hnonneg (position + 1)
    have hthis := hnonneg position
    rw [Int.toNat_of_nonneg hnext, Int.toNat_of_nonneg hthis]
    exact hstep position

/-- **Above the limit the sample is spread evenly.** -/
theorem evenSample_temporalSample {evidenceIds : List String} {limit : ℕ} (hlimit : 2 ≤ limit)
    (h : limit < evidenceIds.length) :
    EvenSample evidenceIds limit (temporalSample evidenceIds limit) := by
  have heven := evenPositions_sampleIndexes hlimit h
  rw [temporalSample_of_lt hlimit h]
  have hread := map_some_select heven.inside
  refine ⟨?_, select_sublist heven.inside heven.increasing, ?_, ?_, _, heven, hread⟩
  · rw [length_select heven.inside, heven.length_eq]
  · apply Option.map_injective (Option.some_injective String)
    have hzero : evidenceIds[0]? = some evidenceIds[0] := List.getElem?_eq_getElem _
    rw [← List.head?_map, hread, List.head?_map, heven.first, Option.map_some, List.head?_eq_getElem?, hzero,
      Option.map_some]
  · apply Option.map_injective (Option.some_injective String)
    have hlast : evidenceIds[evidenceIds.length - 1]? = some evidenceIds[evidenceIds.length - 1] :=
      List.getElem?_eq_getElem _
    rw [← List.getLast?_map, hread, List.getLast?_map, heven.last, Option.map_some,
      List.getLast?_eq_getElem?, hlast, Option.map_some]

/-! ## What is selected of an item -/

/-- Of these sources, in their order, at most so many are selected; the others are said to have been
    left out for want of room, and only they. -/
structure SelectsUpTo (capacity : ℕ) (sources : List String) (selection : List VisualEvidenceSelection) : Prop where
  sources_eq : selection.map VisualEvidenceSelection.evidenceId = sources
  selected_eq : selection.countP VisualEvidenceSelection.selectedForGrounding = min sources.length capacity
  reason_iff : ∀ s ∈ selection, s.selectionReason = .capacityLimit ↔ s.selectedForGrounding = false

theorem length_temporalSample (evidenceIds : List String) {limit : ℕ} (hlimit : 2 ≤ limit) :
    (temporalSample evidenceIds limit).length = min evidenceIds.length limit := by
  rcases Nat.lt_or_ge limit evidenceIds.length with hlt | hle
  · rw [(evenSample_temporalSample hlimit hlt).length_eq]
    omega
  · rw [temporalSample_of_le hle]
    omega

theorem temporalSample_sublist (evidenceIds : List String) {limit : ℕ} (hlimit : 2 ≤ limit) :
    (temporalSample evidenceIds limit).Sublist evidenceIds := by
  rcases Nat.lt_or_ge limit evidenceIds.length with hlt | hle
  · exact (evenSample_temporalSample hlimit hlt).sublist
  · rw [temporalSample_of_le hle]

theorem visualSources_nodup {item : BatchItem} (hframes : (item.frames.map FrameInput.frameId).Nodup) :
    (visualSources item).Nodup := by
  unfold visualSources
  split
  · exact List.nodup_singleton _
  · exact hframes

theorem selectsUpTo_fallbackSelection {sources : List String} (hnodup : sources.Nodup) :
    SelectsUpTo 8 sources (fallbackSelection sources) := by
  have hsub := temporalSample_sublist sources (show 2 ≤ 8 by omega)
  refine ⟨?_, ?_, ?_⟩
  · unfold fallbackSelection
    rw [List.map_map]
    exact List.map_id _
  · -- Without repetitions, the sources that are in the sample are as many as the sample.
    have hperm : (sources.filter fun id => id ∈ temporalSample sources 8).Perm (temporalSample sources 8) := by
      apply (List.perm_ext_iff_of_nodup (hnodup.filter _) (hnodup.sublist hsub)).mpr
      intro id
      rw [List.mem_filter, decide_eq_true_eq]
      exact and_iff_right_of_imp fun hid => hsub.subset hid
    rw [← length_temporalSample sources (show 2 ≤ 8 by omega), ← hperm.length_eq, ← List.countP_eq_length_filter]
    unfold fallbackSelection
    rw [List.countP_map]
    rfl
  · intro s hs
    obtain ⟨id, hid, rfl⟩ := List.mem_map.mp hs
    dsimp only
    split
    · rename_i hone
      have hall : temporalSample sources 8 = sources := temporalSample_of_le (by omega)
      simp [hall, hid]
    · split
      · rename_i hin
        simp [hin]
      · rename_i hout
        simp [hout]

/-- **The sample is spread evenly, and the selection is as large as it may be.**  A list up to the limit
    is its own sample; a longer one loses as much as the limit says, between its ends and evenly.  So the
    first result of an item selects as many of its visual sources as there is room for. -/
theorem evidence_sampled_evenly :
    (∀ (evidenceIds : List String) (limit : ℕ), 2 ≤ limit →
      (evidenceIds.length ≤ limit → temporalSample evidenceIds limit = evidenceIds) ∧
      (limit < evidenceIds.length → EvenSample evidenceIds limit (temporalSample evidenceIds limit))) ∧
    ∀ item : BatchItem, (item.frames.map FrameInput.frameId).Nodup →
      SelectsUpTo 8 (visualSources item) (initialResult item).visualEvidenceSelection := by
  constructor
  · intro evidenceIds limit hlimit
    exact ⟨temporalSample_of_le, evenSample_temporalSample hlimit⟩
  · intro item hframes
    exact selectsUpTo_fallbackSelection (visualSources_nodup hframes)

/-- A video of fourteen frames. -/
def fourteenFrames : BatchItem where
  inputId := "video-1"
  mediaType := .video
  metadata := .unknown
  frames := ["a", "b", "c", "d", "e", "f", "g", "h", "i", "j", "k", "l", "m", "n"].map fun frameId =>
    { frameId := frameId, timestampS := 0, workingFileUrl := "https://media.example/" ++ frameId }

/-- Six of them are left out. -/
theorem evidence_sampled_evenly_video :
    EvenSample (visualSources fourteenFrames) 8 (temporalSample (visualSources fourteenFrames) 8) ∧
      temporalSample (visualSources fourteenFrames).tail 13 = (visualSources fourteenFrames).tail ∧
      SelectsUpTo 8 (visualSources fourteenFrames) (initialResult fourteenFrames).visualEvidenceSelection :=
  ⟨(evidence_sampled_evenly.1 _ 8 (by decide)).2 (by decide), (evidence_sampled_evenly.1 _ 13 (by decide)).1 (by decide),
    evidence_sampled_evenly.2 fourteenFrames (by decide)⟩

example : sampleIndexes 14 8 = [0, 2, 4, 6, 7, 9, 11, 13] := by decide +kernel

end SessionRunner

end FireviewerOrchestrator
