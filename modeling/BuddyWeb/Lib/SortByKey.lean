/-
Lists sorted by a key of their entries.
-/
import Mathlib.Data.List.Sort

namespace BuddyWeb

universe u v

section Sorting

variable {α : Type u} {κ : Type v} (key : α → κ) {r : κ → κ → Prop} [DecidableRel r]
  [Std.Total r] [IsTrans κ r]

theorem pairwise_insertionSort_key (entries : List α) :
    (entries.insertionSort fun first second => r (key first) (key second)).Pairwise
      fun first second => r (key first) (key second) := by
  have : Std.Total fun first second : α => r (key first) (key second) :=
    ⟨fun first second => Std.Total.total (key first) (key second)⟩
  have : IsTrans α fun first second => r (key first) (key second) :=
    ⟨fun first second third => IsTrans.trans (key first) (key second) (key third)⟩
  exact List.pairwise_insertionSort _ _

omit [Std.Total r] [IsTrans κ r] in
/-- Sorted entries stay as they are, also behind another name for their keys. -/
theorem insertionSort_of_map_key {β : Type u} {keyOf : β → κ} {sorted : List α}
    {entries : List β} (hkeys : entries.map keyOf = sorted.map key)
    (hsorted : sorted.Pairwise fun first second => r (key first) (key second)) :
    (entries.insertionSort fun first second => r (keyOf first) (keyOf second)) = entries := by
  apply List.Pairwise.insertionSort_eq
  have hmapped : (sorted.map key).Pairwise r := List.pairwise_map.mpr hsorted
  rw [← hkeys] at hmapped
  exact List.pairwise_map.mp hmapped

theorem insertionSort_key_idem (entries : List α) :
    ((entries.insertionSort fun first second => r (key first) (key second)).insertionSort
        fun first second => r (key first) (key second)) =
      entries.insertionSort fun first second => r (key first) (key second) :=
  insertionSort_of_map_key key rfl (pairwise_insertionSort_key key entries)

end Sorting

end BuddyWeb
