/-
The share of what two finite sets have in common, and what an image that merges some of
their elements does to it.
-/
import Mathlib.Algebra.Order.Field.Rat
import Mathlib.Data.Finset.Card
import Mathlib.Data.Rat.Cast.Order
import Mathlib.Tactic.FieldSimp
import Mathlib.Tactic.Linarith

namespace BuddyWeb

variable {α β : Type} [DecidableEq α] [DecidableEq β]

/-- The common elements among all those of either set; none where both are empty. -/
def commonShare (left right : Finset α) : ℚ :=
  (left ∩ right).card / (left ∪ right).card

theorem card_inter_eq_card_union_iff {left right : Finset α} :
    (left ∩ right).card = (left ∪ right).card ↔ left = right := by
  constructor
  · intro h
    have hsame : left ∩ right = left ∪ right := Finset.eq_of_subset_of_card_le
      (Finset.inter_subset_left.trans Finset.subset_union_left) h.ge
    apply Finset.Subset.antisymm
    · exact Finset.subset_union_left.trans (hsame ▸ Finset.inter_subset_right)
    · exact Finset.subset_union_right.trans (hsame ▸ Finset.inter_subset_left)
  · rintro rfl
    rw [Finset.inter_self, Finset.union_self]

theorem commonShare_eq_one_iff {left right : Finset α} :
    commonShare left right = 1 ↔ left = right ∧ left.Nonempty := by
  unfold commonShare
  by_cases hempty : (left ∪ right).card = 0
  · rw [hempty]
    have hleft : ¬left.Nonempty := by
      rw [Finset.not_nonempty_iff_eq_empty]
      exact (Finset.union_eq_empty.mp (Finset.card_eq_zero.mp hempty)).1
    simp [hleft]
  · have hpositive : ((left ∪ right).card : ℚ) ≠ 0 := Nat.cast_ne_zero.mpr hempty
    rw [div_eq_one_iff_eq hpositive, Nat.cast_inj, card_inter_eq_card_union_iff]
    constructor
    · intro heq
      refine ⟨heq, Finset.nonempty_iff_ne_empty.mpr fun hnone => hempty ?_⟩
      rw [← heq, hnone]
      rfl
    · exact And.left

section Image

variable {f : α → β} {left right : Finset α}

theorem image_inter_subset : (left ∩ right).image f ⊆ left.image f ∩ right.image f :=
  Finset.subset_inter (Finset.image_subset_image Finset.inter_subset_left)
    (Finset.image_subset_image Finset.inter_subset_right)

theorem card_image_inter (hleft : Set.InjOn f left) :
    ((left ∩ right).image f).card = (left ∩ right).card :=
  Finset.card_image_of_injOn (hleft.mono (Finset.coe_subset.mpr Finset.inter_subset_left))

/-- An image that is faithful on either set keeps the size of the common part where it
merges no element of one set with another one of the other set. -/
theorem card_inter_image_iff (hleft : Set.InjOn f left) (hright : Set.InjOn f right) :
    (left ∩ right).card = (left.image f ∩ right.image f).card ↔
      ∀ first ∈ left, ∀ second ∈ right, f first = f second → first = second := by
  rw [← card_image_inter hleft]
  constructor
  · intro hcard first hfirst second hsecond heq
    have hsame := Finset.eq_of_subset_of_card_le (image_inter_subset (f := f)) hcard.ge
    have hmem : f first ∈ left.image f ∩ right.image f := Finset.mem_inter.mpr
      ⟨Finset.mem_image_of_mem f hfirst, heq ▸ Finset.mem_image_of_mem f hsecond⟩
    rw [← hsame] at hmem
    obtain ⟨common, hcommon, himage⟩ := Finset.mem_image.mp hmem
    obtain ⟨hcommonLeft, hcommonRight⟩ := Finset.mem_inter.mp hcommon
    have hisFirst := hleft hcommonLeft hfirst himage
    have hisSecond := hright hcommonRight hsecond (himage.trans heq)
    exact hisFirst.symm.trans hisSecond
  · intro hmerges
    congr 1
    apply Finset.Subset.antisymm image_inter_subset
    intro value hvalue
    obtain ⟨hvalueLeft, hvalueRight⟩ := Finset.mem_inter.mp hvalue
    obtain ⟨first, hfirst, rfl⟩ := Finset.mem_image.mp hvalueLeft
    obtain ⟨second, hsecond, heq⟩ := Finset.mem_image.mp hvalueRight
    have hsame := hmerges first hfirst second hsecond heq.symm
    exact Finset.mem_image_of_mem f (Finset.mem_inter.mpr ⟨hfirst, hsame ▸ hsecond⟩)

/-- The share in terms of the sizes of the sets and of their common part. -/
theorem commonShare_eq (left right : Finset α) :
    commonShare left right =
      (left ∩ right).card / ((left.card + right.card : ℚ) - (left ∩ right).card) := by
  have hcount := Finset.card_union_add_card_inter left right
  have hcountRat : ((left ∪ right).card : ℚ) + (left ∩ right).card =
      left.card + right.card := by exact_mod_cast hcount
  rw [commonShare]
  congr 1
  linarith

/-- Among sets of the same sizes the share grows with the common part. -/
theorem commonShare_le_iff {left' right' : Finset β} (hleft : left.card = left'.card)
    (hright : right.card = right'.card) :
    commonShare left right ≤ commonShare left' right' ↔
      (left ∩ right).card ≤ (left' ∩ right').card := by
  rw [commonShare_eq, commonShare_eq, hleft, hright]
  have hboundLeft : ((left ∩ right).card : ℚ) ≤ left'.card := by
    rw [← hleft]
    exact_mod_cast Finset.card_le_card Finset.inter_subset_left
  have hboundRight : ((left ∩ right).card : ℚ) ≤ right'.card := by
    rw [← hright]
    exact_mod_cast Finset.card_le_card Finset.inter_subset_right
  have hboundLeft' : ((left' ∩ right').card : ℚ) ≤ left'.card := by
    exact_mod_cast Finset.card_le_card Finset.inter_subset_left
  have hboundRight' : ((left' ∩ right').card : ℚ) ≤ right'.card := by
    exact_mod_cast Finset.card_le_card Finset.inter_subset_right
  have hnonneg : (0 : ℚ) ≤ (left ∩ right).card := Nat.cast_nonneg _
  have hnonneg' : (0 : ℚ) ≤ (left' ∩ right').card := Nat.cast_nonneg _
  by_cases hempty : (left'.card : ℚ) + right'.card = 0
  · have hnone : (left ∩ right).card = 0 := by
      have hzero : ((left ∩ right).card : ℚ) = 0 := by linarith
      exact_mod_cast hzero
    have hnone' : (left' ∩ right').card = 0 := by
      have hzero : ((left' ∩ right').card : ℚ) = 0 := by linarith
      exact_mod_cast hzero
    simp [hnone, hnone']
  · have hpositive : (0 : ℚ) < left'.card + right'.card := by
      have hsum : (0 : ℚ) ≤ left'.card + right'.card := by linarith
      exact lt_of_le_of_ne hsum (Ne.symm hempty)
    rw [div_le_div_iff₀ (by linarith) (by linarith)]
    constructor
    · intro hshare
      have hle : ((left ∩ right).card : ℚ) ≤ (left' ∩ right').card := by nlinarith
      exact_mod_cast hle
    · intro hcard
      have hle : ((left ∩ right).card : ℚ) ≤ (left' ∩ right').card := by exact_mod_cast hcard
      nlinarith

theorem commonShare_eq_iff {left' right' : Finset β} (hleft : left.card = left'.card)
    (hright : right.card = right'.card) :
    commonShare left right = commonShare left' right' ↔
      (left ∩ right).card = (left' ∩ right').card := by
  rw [le_antisymm_iff, commonShare_le_iff hleft hright,
    commonShare_le_iff hleft.symm hright.symm, ← le_antisymm_iff]

/-- The image keeps the share exactly where it merges no elements across the sets. -/
theorem commonShare_image_iff (hleft : Set.InjOn f left) (hright : Set.InjOn f right) :
    commonShare left right = commonShare (left.image f) (right.image f) ↔
      ∀ first ∈ left, ∀ second ∈ right, f first = f second → first = second := by
  rw [← card_inter_image_iff hleft hright]
  exact commonShare_eq_iff (Finset.card_image_of_injOn hleft).symm
    (Finset.card_image_of_injOn hright).symm

/-- The image never loses a common element. -/
theorem commonShare_le_image (hleft : Set.InjOn f left) (hright : Set.InjOn f right) :
    commonShare left right ≤ commonShare (left.image f) (right.image f) := by
  rw [commonShare_le_iff (Finset.card_image_of_injOn hleft).symm
    (Finset.card_image_of_injOn hright).symm, ← card_image_inter hleft]
  exact Finset.card_le_card image_inter_subset

end Image

end BuddyWeb
