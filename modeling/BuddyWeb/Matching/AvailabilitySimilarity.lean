/-
What the merged intervals of an availability cover, what the pass over two of them measures,
and the similarity as the share of the common instants.
-/
import Mathlib.Data.Set.Card
import BuddyWeb.Lib.CommonShare
import BuddyWeb.Lib.IntervalMeasure
import BuddyWeb.Matching.Scoring

namespace BuddyWeb

variable {context : ScoringContext}

/-- The instants of the slots of a schedule in the reference week; a slot that a clock change
leaves without a positive length has none. -/
def availableInstants (referenceWeekStart : Int) :
    Option (WeeklyAvailability context.zoneInfo) → Set Int
  | none => ∅
  | some availability =>
      {instant | ∃ slot ∈ availability.slots,
        (slotInterval context availability.timezone referenceWeekStart slot).1 ≤ instant ∧
          instant < (slotInterval context availability.timezone referenceWeekStart slot).2}

theorem intervalBefore_total (first second : Int × Int) :
    intervalBefore first second = true ∨ intervalBefore second first = true := by
  simp only [intervalBefore, Bool.or_eq_true, Bool.and_eq_true, decide_eq_true_eq]
  omega

theorem intervalBefore_trans {first second third : Int × Int}
    (h : intervalBefore first second = true) (h' : intervalBefore second third = true) :
    intervalBefore first third = true := by
  simp only [intervalBefore, Bool.or_eq_true, Bool.and_eq_true, decide_eq_true_eq] at h h' ⊢
  omega

/-- The order in which intervals are merged is that of their starts. -/
theorem sorted_starts (intervals : List (Int × Int)) :
    (intervals.insertionSort fun first second => intervalBefore first second).Pairwise
      fun first second => first.1 ≤ second.1 := by
  have : Std.Total fun first second : Int × Int => intervalBefore first second = true :=
    ⟨intervalBefore_total⟩
  have : IsTrans (Int × Int) fun first second => intervalBefore first second = true :=
    ⟨fun _ _ _ => intervalBefore_trans⟩
  refine (List.pairwise_insertionSort (fun first second => intervalBefore first second = true)
    intervals).imp fun {first second} h => ?_
  simp only [intervalBefore, Bool.or_eq_true, Bool.and_eq_true, decide_eq_true_eq] at h
  omega

/-- The merged intervals cover exactly the slots of positive length. -/
theorem covered_mergedUtcIntervals (referenceWeekStart : Int)
    (availability : Option (WeeklyAvailability context.zoneInfo)) :
    (covered (mergedUtcIntervals context referenceWeekStart availability) : Set Int) =
      availableInstants referenceWeekStart availability := by
  cases availability with
  | none => simp [mergedUtcIntervals, covered, availableInstants]
  | some availability =>
      ext instant
      have hpositive : ∀ interval ∈ ((availability.slots.map
          (slotInterval context availability.timezone referenceWeekStart)).filter
            fun interval => interval.1 < interval.2).insertionSort
              fun first second => intervalBefore first second,
          interval.1 < interval.2 := by
        intro interval hinterval
        rw [List.mem_insertionSort, List.mem_filter] at hinterval
        simpa using hinterval.2
      rw [mergedUtcIntervals, covered_mergeIntervals hpositive (sorted_starts _),
        Finset.mem_coe, mem_covered, availableInstants, Set.mem_ofPred_eq]
      simp only [List.mem_insertionSort, List.mem_filter, List.mem_map, decide_eq_true_eq]
      constructor
      · rintro ⟨interval, ⟨⟨slot, hslot, rfl⟩, _⟩, hbounds⟩
        exact ⟨slot, hslot, hbounds⟩
      · rintro ⟨slot, hslot, hstart, hend⟩
        exact ⟨_, ⟨⟨slot, hslot, rfl⟩, hstart.trans_lt hend⟩, hstart, hend⟩

/-- The share of the common part in finite sets, as the code computes it. -/
theorem coveredShare_eq (left right : {intervals : List (Int × Int) // Separated intervals}) :
    (coveredShare left right).val = commonShare (covered left.val) (covered right.val) := by
  have hinter := card_covered_inter left.property right.property
  have hunion : ((covered left.val ∪ covered right.val).card : ℤ) =
      totalLength left.val + totalLength right.val -
        intersectionLength left.val right.val := by
    have hcount := Finset.card_union_add_card_inter (covered left.val) (covered right.val)
    rw [← hinter, ← card_covered left.property, ← card_covered right.property]
    omega
  rw [coveredShare, commonShare]
  split
  · rename_i hzero
    have hempty : (covered left.val ∪ covered right.val).card = 0 := by
      exact_mod_cast hunion.trans hzero
    rw [hempty]
    simp [noSimilarity]
  · dsimp only
    rw [← hunion, ← hinter, Int.cast_natCast, Int.cast_natCast]

/-- The similarity in terms of the merged intervals. -/
theorem availabilitySimilarity_covered (context : ScoringContext)
    (left right : Option (WeeklyAvailability context.zoneInfo)) (referenceWeekStart : Int) :
    (availabilitySimilarity context left right referenceWeekStart).val =
      commonShare (covered (mergedUtcIntervals context referenceWeekStart left))
        (covered (mergedUtcIntervals context referenceWeekStart right)) :=
  coveredShare_eq ⟨_, mergedUtcIntervals_separated context referenceWeekStart left⟩
    ⟨_, mergedUtcIntervals_separated context referenceWeekStart right⟩

/-- The similarity in terms of the available instants. -/
theorem availabilitySimilarity_ncard (context : ScoringContext)
    (left right : Option (WeeklyAvailability context.zoneInfo)) (referenceWeekStart : Int) :
    (availabilitySimilarity context left right referenceWeekStart).val =
      ((availableInstants referenceWeekStart left ∩
          availableInstants referenceWeekStart right).ncard : ℚ) /
        (availableInstants referenceWeekStart left ∪
          availableInstants referenceWeekStart right).ncard := by
  rw [availabilitySimilarity_covered, commonShare, ← covered_mergedUtcIntervals,
    ← covered_mergedUtcIntervals, ← Finset.coe_inter, ← Finset.coe_union,
    Set.ncard_coe_finset, Set.ncard_coe_finset]

theorem availability_similarity_exact (context : ScoringContext)
    (left right : Option (WeeklyAvailability context.zoneInfo)) (referenceWeekStart : Int) :
    (∀ availability ∈ [left, right],
      Separated (mergedUtcIntervals context referenceWeekStart availability) ∧
        ∀ instant, (∃ interval ∈ mergedUtcIntervals context referenceWeekStart availability,
            interval.1 ≤ instant ∧ instant < interval.2) ↔
          instant ∈ availableInstants referenceWeekStart availability) ∧
      intersectionLength (mergedUtcIntervals context referenceWeekStart left)
          (mergedUtcIntervals context referenceWeekStart right) =
        (availableInstants referenceWeekStart left ∩
          availableInstants referenceWeekStart right).ncard ∧
      (availabilitySimilarity context left right referenceWeekStart).val =
        ((availableInstants referenceWeekStart left ∩
            availableInstants referenceWeekStart right).ncard : ℚ) /
          (availableInstants referenceWeekStart left ∪
            availableInstants referenceWeekStart right).ncard ∧
      0 ≤ (availabilitySimilarity context left right referenceWeekStart).val ∧
      (availabilitySimilarity context left right referenceWeekStart).val ≤ 1 ∧
      (availableInstants referenceWeekStart left = ∅ →
        availableInstants referenceWeekStart right = ∅ →
        (availabilitySimilarity context left right referenceWeekStart).val = 0) ∧
      ((availabilitySimilarity context left right referenceWeekStart).val = 1 ↔
        availableInstants referenceWeekStart left = availableInstants referenceWeekStart right ∧
          (availableInstants referenceWeekStart left).Nonempty) := by
  have hshare := availabilitySimilarity_covered context left right referenceWeekStart
  refine ⟨fun availability _ => ⟨mergedUtcIntervals_separated _ _ _, fun instant => ?_⟩,
    ?_, ?_, ?_, ?_, ?_, ?_⟩
  · rw [← mem_covered, ← covered_mergedUtcIntervals, Finset.mem_coe]
  · rw [← card_covered_inter (mergedUtcIntervals_separated _ _ _)
      (mergedUtcIntervals_separated _ _ _), ← covered_mergedUtcIntervals,
      ← covered_mergedUtcIntervals, ← Finset.coe_inter, Set.ncard_coe_finset]
  · exact availabilitySimilarity_ncard context left right referenceWeekStart
  · exact (availabilitySimilarity context left right referenceWeekStart).property.1
  · exact (availabilitySimilarity context left right referenceWeekStart).property.2
  · intro hleft hright
    rw [← covered_mergedUtcIntervals, Finset.coe_eq_empty] at hleft hright
    rw [hshare, hleft, hright]
    simp [commonShare]
  · rw [hshare, commonShare_eq_one_iff, ← covered_mergedUtcIntervals, ← covered_mergedUtcIntervals,
      Finset.coe_inj, Finset.coe_nonempty]

end BuddyWeb
