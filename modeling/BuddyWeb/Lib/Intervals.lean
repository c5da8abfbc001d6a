/-
Lists of half-open intervals: merging those which overlap or touch, and the measure of the
common part of two merged lists by one pass over both.
-/
import Mathlib.Algebra.Ring.Int.Defs
import Mathlib.Algebra.Group.Basic
import Mathlib.Algebra.BigOperators.Group.List.Basic
import Mathlib.Algebra.Order.BigOperators.Group.List
import Mathlib.Algebra.Order.Group.Int
import Mathlib.Order.Lattice

namespace BuddyWeb

universe u

variable {α : Type u} [LinearOrder α]

/-- Join an interval with those of a list, in the order of the list. -/
def mergeInto (current : α × α) : List (α × α) → List (α × α)
  | [] => [current]
  | next :: rest =>
      if current.2 < next.1 then current :: mergeInto next rest
      else mergeInto (current.1, max current.2 next.2) rest

def mergeIntervals : List (α × α) → List (α × α)
  | [] => []
  | first :: rest => mergeInto first rest

/-- Intervals which are not empty, each strictly before those after it. -/
structure Separated (intervals : List (α × α)) : Prop where
  nonempty : ∀ interval ∈ intervals, interval.1 < interval.2
  apart : intervals.Pairwise fun first second => first.2 < second.1

namespace Separated

variable {first : α × α} {others : List (α × α)}

theorem nil : Separated ([] : List (α × α)) :=
  ⟨by simp, .nil⟩

theorem rest (h : Separated (first :: others)) : Separated others :=
  ⟨fun interval hmem => h.nonempty interval (List.mem_cons_of_mem first hmem),
    (List.pairwise_cons.mp h.apart).2⟩

theorem first_lt (h : Separated (first :: others)) : first.1 < first.2 :=
  h.nonempty first List.mem_cons_self

theorem after_first (h : Separated (first :: others)) :
    ∀ interval ∈ others, first.2 < interval.1 :=
  (List.pairwise_cons.mp h.apart).1

end Separated

/-- The merged intervals are separated and start no earlier than the first one. -/
theorem mergeInto_separated {current : α × α} {rest : List (α × α)}
    (hcurrent : current.1 < current.2) (hrest : ∀ interval ∈ rest, interval.1 < interval.2) :
    Separated (mergeInto current rest) ∧
      ∀ interval ∈ mergeInto current rest, current.1 ≤ interval.1 := by
  induction rest generalizing current with
  | nil => simp [mergeInto, Separated.mk, hcurrent]
  | cons next rest ih =>
      have hnext := hrest next List.mem_cons_self
      have htail : ∀ interval ∈ rest, interval.1 < interval.2 :=
        fun interval hmem => hrest interval (List.mem_cons_of_mem next hmem)
      unfold mergeInto
      split
      · rename_i hgap
        obtain ⟨hseparated, hstart⟩ := ih hnext htail
        refine ⟨⟨?_, ?_⟩, ?_⟩
        · exact List.forall_mem_cons.mpr ⟨hcurrent, hseparated.nonempty⟩
        · refine List.pairwise_cons.mpr ⟨fun interval hmem => ?_, hseparated.apart⟩
          exact hgap.trans_le (hstart interval hmem)
        · refine List.forall_mem_cons.mpr ⟨le_rfl, fun interval hmem => ?_⟩
          exact (hcurrent.trans hgap).le.trans (hstart interval hmem)
      · exact ih (hcurrent.trans_le (le_max_left _ _)) htail

theorem mergeIntervals_separated {intervals : List (α × α)}
    (h : ∀ interval ∈ intervals, interval.1 < interval.2) :
    Separated (mergeIntervals intervals) := by
  cases intervals with
  | nil => exact .nil
  | cons first rest =>
      exact (mergeInto_separated (h first List.mem_cons_self)
        fun interval hmem => h interval (List.mem_cons_of_mem first hmem)).1

section Measure

variable [AddCommGroup α]

/-- The measure of disjoint intervals. -/
def totalLength (intervals : List (α × α)) : α :=
  (intervals.map fun interval => interval.2 - interval.1).sum

/-- The measure of the common part of two intervals. -/
def overlap (left right : α × α) : α :=
  if max left.1 right.1 < min left.2 right.2 then
    min left.2 right.2 - max left.1 right.1
  else 0

/-- One pass over two lists: the interval which ends first is left behind. -/
def intersectionLength : List (α × α) → List (α × α) → α
  | [], _ => 0
  | _ :: _, [] => 0
  | left :: lefts, right :: rights =>
      overlap left right +
        if left.2 ≤ right.2 then intersectionLength lefts (right :: rights)
        else intersectionLength (left :: lefts) rights
  termination_by lefts rights => lefts.length + rights.length

theorem overlap_comm (left right : α × α) : overlap left right = overlap right left := by
  rw [overlap, overlap, max_comm, min_comm]

theorem overlap_eq_zero {left right : α × α} (h : right.2 ≤ left.1) :
    overlap left right = 0 := by
  refine if_neg (not_lt.mpr ?_)
  exact (min_le_right _ _).trans (h.trans (le_max_left _ _))

theorem intersectionLength_nil_right (lefts : List (α × α)) :
    intersectionLength lefts [] = 0 := by
  cases lefts <;> simp [intersectionLength]

/-- An interval before all those of the other list adds nothing. -/
theorem intersectionLength_skip_right {lefts : List (α × α)} {right : α × α}
    {rights : List (α × α)} (hlefts : Separated lefts)
    (hbefore : ∀ interval ∈ lefts, right.2 < interval.1) :
    intersectionLength lefts (right :: rights) = intersectionLength lefts rights := by
  cases lefts with
  | nil => simp [intersectionLength]
  | cons left lefts =>
      have hstart := hbefore left List.mem_cons_self
      have hend : ¬ left.2 ≤ right.2 :=
        not_le.mpr (hstart.trans hlefts.first_lt)
      rw [intersectionLength, overlap_eq_zero hstart.le, if_neg hend, zero_add]

theorem intersectionLength_skip_left {left : α × α} {lefts rights : List (α × α)}
    (hrights : Separated rights) (hbefore : ∀ interval ∈ rights, left.2 < interval.1) :
    intersectionLength (left :: lefts) rights = intersectionLength lefts rights := by
  cases rights with
  | nil => rw [intersectionLength_nil_right, intersectionLength_nil_right]
  | cons right rights =>
      have hstart := hbefore right List.mem_cons_self
      have hend : left.2 ≤ right.2 := (hstart.trans hrights.first_lt).le
      rw [intersectionLength, overlap_comm, overlap_eq_zero hstart.le, if_pos hend, zero_add]

/-- The pass gives the same measure when the lists change places. -/
theorem intersectionLength_comm {lefts rights : List (α × α)} (hlefts : Separated lefts)
    (hrights : Separated rights) :
    intersectionLength lefts rights = intersectionLength rights lefts := by
  induction lefts, rights using intersectionLength.induct with
  | case1 rights =>
      rw [intersectionLength_nil_right]
      simp [intersectionLength]
  | case2 left lefts =>
      rw [intersectionLength_nil_right]
      simp [intersectionLength]
  | case3 left lefts right rights ihLeft ihRight =>
      rw [intersectionLength, intersectionLength, overlap_comm right left]
      congr 1
      rcases lt_trichotomy left.2 right.2 with hlt | heq | hgt
      · rw [if_pos hlt.le, if_neg (not_le.mpr hlt)]
        exact ihLeft hlefts.rest hrights
      · -- Both end together, and each pass leaves another one of them behind.
        rw [if_pos heq.le, if_pos heq.ge, ihLeft hlefts.rest hrights,
          intersectionLength_skip_left hlefts.rest
            fun interval hmem => heq ▸ hlefts.after_first interval hmem,
          intersectionLength_skip_right hrights.rest
            fun interval hmem => heq ▸ hrights.after_first interval hmem]
      · rw [if_neg (not_le.mpr hgt), if_pos hgt.le]
        exact ihRight hlefts hrights.rest

end Measure

section Bounds

variable {lefts rights : List (ℤ × ℤ)}

theorem overlap_nonneg (left right : ℤ × ℤ) : 0 ≤ overlap left right := by
  unfold overlap
  split
  · omega
  · exact le_rfl

theorem intersectionLength_nonneg (lefts rights : List (ℤ × ℤ)) :
    0 ≤ intersectionLength lefts rights := by
  induction lefts, rights using intersectionLength.induct with
  | case1 rights => simp [intersectionLength]
  | case2 left lefts => simp [intersectionLength]
  | case3 left lefts right rights ihLeft ihRight =>
      rw [intersectionLength]
      split
      · exact add_nonneg (overlap_nonneg left right) ihLeft
      · exact add_nonneg (overlap_nonneg left right) ihRight

/-- The length of the part of an interval from a point on. -/
def lengthFrom (start : ℤ) (interval : ℤ × ℤ) : ℤ :=
  max 0 (interval.2 - max interval.1 start)

theorem lengthFrom_anti {start later : ℤ} (h : start ≤ later) (interval : ℤ × ℤ) :
    lengthFrom later interval ≤ lengthFrom start interval := by
  unfold lengthFrom
  omega

theorem sum_lengthFrom_anti {start later : ℤ} (h : start ≤ later)
    (intervals : List (ℤ × ℤ)) :
    (intervals.map (lengthFrom later)).sum ≤ (intervals.map (lengthFrom start)).sum :=
  List.sum_le_sum fun interval _ => lengthFrom_anti h interval

/-- What both lists have in common lies in the part of the first one which the second one
may reach. -/
theorem intersectionLength_le_sum_lengthFrom (hrights : Separated rights) {start : ℤ}
    (hstart : ∀ right ∈ rights, start ≤ right.1) :
    intersectionLength lefts rights ≤ (lefts.map (lengthFrom start)).sum := by
  induction lefts, rights using intersectionLength.induct generalizing start with
  | case1 rights => simp [intersectionLength]
  | case2 left lefts =>
      rw [intersectionLength_nil_right]
      refine List.sum_nonneg fun length hlength => ?_
      obtain ⟨interval, _, rfl⟩ := List.mem_map.mp hlength
      exact le_max_left _ _
  | case3 left lefts right rights ihLeft ihRight =>
      have hright := hstart right List.mem_cons_self
      have hlength := hrights.first_lt
      rw [intersectionLength, List.map_cons, List.sum_cons]
      split
      · have hoverlap : overlap left right ≤ lengthFrom start left := by
          unfold overlap lengthFrom
          split <;> omega
        exact add_le_add hoverlap (ihLeft hrights hstart)
      · -- The rest of the second list starts after the interval left behind.
        have hrest := ihRight hrights.rest
          fun interval hmem => (hrights.after_first interval hmem).le
        have htail := sum_lengthFrom_anti (hright.trans hlength.le) lefts
        have hoverlap : overlap left right + lengthFrom right.2 left ≤
            lengthFrom start left := by
          unfold overlap lengthFrom
          split <;> omega
        rw [List.map_cons, List.sum_cons] at hrest
        omega

theorem intersectionLength_le_left (hlefts : Separated lefts) (hrights : Separated rights) :
    intersectionLength lefts rights ≤ totalLength lefts := by
  obtain ⟨start, hstart⟩ : ∃ start : ℤ, ∀ right ∈ rights, start ≤ right.1 := by
    cases rights with
    | nil => exact ⟨0, by simp⟩
    | cons right rights =>
        refine ⟨right.1, List.forall_mem_cons.mpr ⟨le_rfl, fun interval hmem => ?_⟩⟩
        exact (hrights.first_lt.trans (hrights.after_first interval hmem)).le
  refine (intersectionLength_le_sum_lengthFrom hrights hstart).trans ?_
  refine List.sum_le_sum fun interval hmem => ?_
  have hlt := hlefts.nonempty interval hmem
  unfold lengthFrom
  omega

theorem intersectionLength_le_right (hlefts : Separated lefts)
    (hrights : Separated rights) :
    intersectionLength lefts rights ≤ totalLength rights := by
  rw [intersectionLength_comm hlefts hrights]
  exact intersectionLength_le_left hrights hlefts

end Bounds

end BuddyWeb
