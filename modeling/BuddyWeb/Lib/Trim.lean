/-
Removing the entries at both ends of a list which satisfy a predicate.
-/
import Mathlib.Data.List.DropRight

namespace BuddyWeb

universe u

variable {α : Type u}

/-- Drop the longest prefix and the longest suffix on which `p` holds. -/
def trimEnds (p : α → Bool) (entries : List α) : List α :=
  (entries.dropWhile p).rdropWhile p

theorem trimEnds_eq_self_iff {p : α → Bool} {entries : List α} :
    trimEnds p entries = entries ↔
      (∀ h : entries ≠ [], ¬ p (entries.head h)) ∧
        ∀ h : entries ≠ [], ¬ p (entries.getLast h) := by
  constructor
  · intro hself
    have hlength : (trimEnds p entries).length ≤ (entries.dropWhile p).length :=
      (List.rdropWhile_prefix p (entries.dropWhile p)).length_le
    have hsuffix : entries.dropWhile p <:+ entries := List.dropWhile_suffix p
    have hdrop : entries.dropWhile p = entries := by
      apply hsuffix.eq_of_length_le
      rwa [hself] at hlength
    refine ⟨fun hne => ?_, ?_⟩
    · have hhead := List.dropWhile_eq_self_iff.mp hdrop
        (List.length_pos_iff.mpr hne)
      simpa [List.head_eq_getElem] using hhead
    · rw [trimEnds, hdrop] at hself
      exact List.rdropWhile_eq_self_iff.mp hself
  · rintro ⟨hhead, hlast⟩
    have hdrop : entries.dropWhile p = entries := by
      rw [List.dropWhile_eq_self_iff]
      intro hpos
      simpa [List.head_eq_getElem] using hhead (List.length_pos_iff.mp hpos)
    rw [trimEnds, hdrop]
    exact List.rdropWhile_eq_self_iff.mpr hlast

/-- Nothing is removed where the predicate holds nowhere. -/
theorem trimEnds_of_forall {p : α → Bool} {entries : List α}
    (h : ∀ entry ∈ entries, ¬ p entry) : trimEnds p entries = entries :=
  trimEnds_eq_self_iff.mpr
    ⟨fun hne => h _ (List.head_mem hne), fun hne => h _ (List.getLast_mem hne)⟩

/-- A trimmed list is its own trimming. -/
@[simp]
theorem trimEnds_trimEnds (p : α → Bool) (entries : List α) :
    trimEnds p (trimEnds p entries) = trimEnds p entries := by
  rw [trimEnds_eq_self_iff]
  have hprefix : trimEnds p entries <+: entries.dropWhile p :=
    List.rdropWhile_prefix p (entries.dropWhile p)
  refine ⟨fun hne => ?_, fun hne => List.rdropWhile_last_not p _ hne⟩
  have hdrop : entries.dropWhile p ≠ [] := by
    intro hnil
    rw [hnil] at hprefix
    exact hne (List.prefix_nil.mp hprefix)
  rw [List.IsPrefix.head hprefix hne]
  have hhead := List.dropWhile_get_zero_not p entries
    (List.length_pos_iff.mpr hdrop)
  simpa [List.head_eq_getElem] using hhead

end BuddyWeb
