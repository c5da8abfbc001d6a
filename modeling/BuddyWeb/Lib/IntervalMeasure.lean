/-
The integers which a list of half-open intervals covers: merging keeps them, and the lengths
of merged lists and of their common part count them.
-/
import Mathlib.Data.Int.ConditionallyCompleteOrder
import Mathlib.Order.ConditionallyCompleteLattice.Basic
import Mathlib.Data.Int.Interval
import Mathlib.Data.Finset.Card
import Mathlib.Order.Interval.Finset.Basic
import BuddyWeb.Lib.Intervals

namespace BuddyWeb

/-- The integers in one of the intervals. -/
def covered : List (ℤ × ℤ) → Finset ℤ
  | [] => ∅
  | interval :: rest =>
      @Finset.Ico ℤ Int.instLinearOrder.toPartialOrder.toPreorder inferInstance interval.1
        interval.2 ∪ covered rest

theorem mem_covered {intervals : List (ℤ × ℤ)} {point : ℤ} :
    point ∈ covered intervals ↔
      ∃ interval ∈ intervals, interval.1 ≤ point ∧ point < interval.2 := by
  induction intervals with
  | nil => simp [covered]
  | cons interval rest ih =>
      rw [covered, Finset.mem_union, Finset.mem_Ico, ih, List.exists_mem_cons_iff]

/-- Merging keeps what a list covers whose intervals start in order. -/
theorem covered_mergeInto {current : ℤ × ℤ} {rest : List (ℤ × ℤ)}
    (hrest : ∀ interval ∈ rest, interval.1 < interval.2)
    (hstart : ∀ interval ∈ rest, current.1 ≤ interval.1)
    (hsorted : rest.Pairwise fun first second => first.1 ≤ second.1) :
    covered (mergeInto current rest) = Finset.Ico current.1 current.2 ∪ covered rest := by
  induction rest generalizing current with
  | nil => rfl
  | cons next rest ih =>
      have hnext := hrest next List.mem_cons_self
      have htail : ∀ interval ∈ rest, interval.1 < interval.2 :=
        fun interval hmem => hrest interval (List.mem_cons_of_mem next hmem)
      have horder := List.pairwise_cons.mp hsorted
      have hcurrent := hstart next List.mem_cons_self
      unfold mergeInto
      split
      · rw [covered, ih htail horder.1 horder.2, covered]
      · rename_i htouch
        have hjoin : Finset.Ico current.1 current.2 ∪ Finset.Ico next.1 next.2 =
            Finset.Ico current.1 (max current.2 next.2) := by
          rw [Finset.Ico_union_Ico' (not_lt.mp htouch) (hcurrent.trans hnext.le),
            min_eq_left hcurrent]
        have hmerged := @ih (current.1, max current.2 next.2) htail
          (fun interval hmem => hcurrent.trans (horder.1 interval hmem)) horder.2
        rw [hmerged, covered, ← Finset.union_assoc, hjoin]

theorem covered_mergeIntervals {intervals : List (ℤ × ℤ)}
    (h : ∀ interval ∈ intervals, interval.1 < interval.2)
    (hsorted : intervals.Pairwise fun first second => first.1 ≤ second.1) :
    covered (mergeIntervals intervals) = covered intervals := by
  cases intervals with
  | nil => rfl
  | cons first rest =>
      have horder := List.pairwise_cons.mp hsorted
      exact covered_mergeInto (fun interval hmem => h interval (List.mem_cons_of_mem first hmem))
        horder.1 horder.2

theorem card_Ico_int {start stop : ℤ} (h : start ≤ stop) :
    ((Finset.Ico start stop).card : ℤ) = stop - start := by
  rw [Int.card_Ico]
  exact Int.toNat_of_nonneg (Int.sub_nonneg_of_le h)

namespace Separated

variable {interval : ℤ × ℤ} {others : List (ℤ × ℤ)}

/-- Nothing after a bound of all starts is covered before it. -/
theorem disjoint_covered {stop : ℤ} {intervals : List (ℤ × ℤ)} (start : ℤ)
    (hafter : ∀ other ∈ intervals, stop ≤ other.1) :
    Disjoint (Finset.Ico start stop) (covered intervals) := by
  rw [Finset.disjoint_left]
  intro point hpoint hcovered
  obtain ⟨other, hother, hle, _⟩ := mem_covered.mp hcovered
  have hlt := (Finset.mem_Ico.mp hpoint).2
  exact absurd (hafter other hother) (not_le.mpr (hle.trans_lt hlt))

theorem disjoint_first (h : Separated (interval :: others)) :
    Disjoint (Finset.Ico interval.1 interval.2) (covered others) :=
  disjoint_covered _ fun other hother => (h.after_first other hother).le

/-- The first interval starts what is covered. -/
theorem start_le (h : Separated (interval :: others)) {point : ℤ}
    (hpoint : point ∈ covered (interval :: others)) : interval.1 ≤ point := by
  obtain ⟨other, hother, hle, _⟩ := mem_covered.mp hpoint
  rcases List.mem_cons.mp hother with rfl | hrest
  · exact hle
  · exact (h.first_lt.trans (h.after_first other hrest)).le.trans hle

theorem start_mem (h : Separated (interval :: others)) :
    interval.1 ∈ covered (interval :: others) :=
  mem_covered.mpr ⟨interval, List.mem_cons_self, le_rfl, h.first_lt⟩

/-- Nothing covered touches the end of the first interval. -/
theorem stop_notMem (h : Separated (interval :: others)) :
    interval.2 ∉ covered (interval :: others) := by
  intro hmem
  obtain ⟨other, hother, hle, hlt⟩ := mem_covered.mp hmem
  rcases List.mem_cons.mp hother with rfl | hrest
  · exact lt_irrefl _ hlt
  · exact absurd (h.after_first other hrest) (not_lt.mpr hle)

theorem stop_le (h : Separated (interval :: others)) {left : ℤ × ℤ} {lefts : List (ℤ × ℤ)}
    (hsame : covered (left :: lefts) = covered (interval :: others))
    (hstart : left.1 = interval.1) : left.2 ≤ interval.2 := by
  by_contra hlt
  refine h.stop_notMem (hsame ▸ mem_covered.mpr ⟨left, List.mem_cons_self, ?_, ?_⟩)
  · exact hstart ▸ h.first_lt.le
  · exact not_le.mp hlt

theorem covered_rest (h : Separated (interval :: others)) :
    covered others =
      covered (interval :: others) \ Finset.Ico interval.1 interval.2 := by
  rw [covered, Finset.union_sdiff_left]
  exact (Finset.sdiff_eq_self_of_disjoint h.disjoint_first.symm).symm

end Separated

/-- The total length of separated intervals counts what they cover. -/
theorem card_covered {intervals : List (ℤ × ℤ)} (h : Separated intervals) :
    ((covered intervals).card : ℤ) = totalLength intervals := by
  induction intervals with
  | nil => simp [covered, totalLength]
  | cons interval rest ih =>
      rw [covered, Finset.card_union_of_disjoint h.disjoint_first, Nat.cast_add,
        ih h.rest, card_Ico_int h.first_lt.le]
      simp [totalLength]

theorem card_overlap (left right : ℤ × ℤ) :
    ((Finset.Ico left.1 left.2 ∩ Finset.Ico right.1 right.2).card : ℤ) =
      overlap left right := by
  rw [Finset.Ico_inter_Ico, overlap]
  split
  · rename_i h
    exact card_Ico_int h.le
  · rename_i h
    rw [Finset.Ico_eq_empty (not_lt.mpr (not_lt.mp h))]
    rfl

/-- The pass over two separated lists counts what both cover. -/
theorem card_covered_inter {lefts rights : List (ℤ × ℤ)} (hlefts : Separated lefts)
    (hrights : Separated rights) :
    ((covered lefts ∩ covered rights).card : ℤ) = intersectionLength lefts rights := by
  induction lefts, rights using intersectionLength.induct with
  | case1 rights => simp [covered, intersectionLength]
  | case2 left lefts => simp [covered, intersectionLength]
  | case3 left lefts right rights ihLeft ihRight =>
      rw [intersectionLength]
      split
      · rename_i hend
        -- The left interval ends first: it meets the head of the other list only.
        have hrest : Disjoint (Finset.Ico left.1 left.2) (covered rights) :=
          Separated.disjoint_covered _
            fun other hother => (hend.trans_lt (hrights.after_first other hother)).le
        have hsplit : covered (left :: lefts) ∩ covered (right :: rights) =
            (Finset.Ico left.1 left.2 ∩ Finset.Ico right.1 right.2) ∪
              (covered lefts ∩ covered (right :: rights)) := by
          rw [covered, Finset.union_inter_distrib_right]
          congr 1
          rw [covered, Finset.inter_union_distrib_left,
            Finset.disjoint_iff_inter_eq_empty.mp hrest, Finset.union_empty]
        have hdisjoint : Disjoint (Finset.Ico left.1 left.2 ∩ Finset.Ico right.1 right.2)
            (covered lefts ∩ covered (right :: rights)) :=
          hlefts.disjoint_first.mono Finset.inter_subset_left Finset.inter_subset_left
        rw [hsplit, Finset.card_union_of_disjoint hdisjoint, Nat.cast_add, card_overlap,
          ihLeft hlefts.rest hrights]
      · rename_i hend
        have hrest : Disjoint (Finset.Ico right.1 right.2) (covered lefts) :=
          Separated.disjoint_covered _
            fun other hother => ((not_le.mp hend).trans (hlefts.after_first other hother)).le
        have hsplit : covered (left :: lefts) ∩ covered (right :: rights) =
            (Finset.Ico left.1 left.2 ∩ Finset.Ico right.1 right.2) ∪
              (covered (left :: lefts) ∩ covered rights) := by
          have hhead : covered (left :: lefts) ∩ Finset.Ico right.1 right.2 =
              Finset.Ico left.1 left.2 ∩ Finset.Ico right.1 right.2 := by
            rw [covered, Finset.union_inter_distrib_right, Finset.inter_comm (covered lefts),
              Finset.disjoint_iff_inter_eq_empty.mp hrest, Finset.union_empty]
          rw [← hhead, ← Finset.inter_union_distrib_left]
          rfl
        have hdisjoint : Disjoint (Finset.Ico left.1 left.2 ∩ Finset.Ico right.1 right.2)
            (covered (left :: lefts) ∩ covered rights) :=
          hrights.disjoint_first.mono Finset.inter_subset_right Finset.inter_subset_right
        rw [hsplit, Finset.card_union_of_disjoint hdisjoint, Nat.cast_add, card_overlap,
          ihRight hlefts hrights.rest]

/-- Separated lists which cover the same integers are the same list. -/
theorem Separated.eq_of_covered_eq {lefts rights : List (ℤ × ℤ)} (hlefts : Separated lefts)
    (hrights : Separated rights) (h : covered lefts = covered rights) : lefts = rights := by
  induction lefts generalizing rights with
  | nil =>
      cases rights with
      | nil => rfl
      | cons right rights => exact absurd (h ▸ hrights.start_mem) (Finset.notMem_empty _)
  | cons left lefts ih =>
      cases rights with
      | nil => exact absurd (h ▸ hlefts.start_mem) (Finset.notMem_empty _)
      | cons right rights =>
          have hstart : left.1 = right.1 :=
            le_antisymm (hlefts.start_le (h ▸ hrights.start_mem))
              (hrights.start_le (h ▸ hlefts.start_mem))
          have hstop : left.2 = right.2 :=
            le_antisymm (hrights.stop_le h hstart) (hlefts.stop_le h.symm hstart.symm)
          have hsame : left = right := Prod.ext hstart hstop
          subst hsame
          rw [ih hlefts.rest hrights.rest]
          rw [hlefts.covered_rest, hrights.covered_rest, h]

end BuddyWeb
