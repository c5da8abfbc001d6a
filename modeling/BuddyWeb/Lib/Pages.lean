/-
The pages of a list: equally long parts of it, of which the last one may be shorter.
-/
import Mathlib.Algebra.Order.Field.Rat
import Mathlib.Data.Rat.Floor

namespace BuddyWeb

universe u

variable {α : Type u}

/-- The part of a list which a page shows; the pages are counted from zero. -/
def window (entries : List α) (size index : Nat) : List α :=
  (entries.drop (index * size)).take size

def windowCount (total size : Nat) : Nat :=
  (total + size - 1) / size

theorem window_subset (entries : List α) (size index : Nat) :
    window entries size index ⊆ entries := by
  intro entry hentry
  exact List.mem_of_mem_drop (List.mem_of_mem_take hentry)

/-- The first pages together are the head of the list. -/
theorem flatMap_window (entries : List α) (size count : Nat) :
    (List.range count).flatMap (window entries size) = entries.take (count * size) := by
  induction count with
  | zero => simp
  | succ count ih =>
      rw [List.range_succ, List.flatMap_append, ih, List.flatMap_singleton, window,
        Nat.succ_mul, List.take_add]

/-- The pages are just enough for the list. -/
theorem windowCount_le_iff {total size count : Nat} (hsize : 1 ≤ size) :
    windowCount total size ≤ count ↔ total ≤ count * size := by
  unfold windowCount
  rw [← Nat.lt_succ_iff, Nat.div_lt_iff_lt_mul hsize, Nat.succ_mul]
  omega

/-- All pages together are the list. -/
theorem flatMap_windows {entries : List α} {size : Nat} (hsize : 1 ≤ size) :
    (List.range (windowCount entries.length size)).flatMap (window entries size) =
      entries := by
  rw [flatMap_window]
  exact List.take_of_length_le ((windowCount_le_iff hsize).mp le_rfl)

theorem window_eq_nil {entries : List α} {size index : Nat} (hsize : 1 ≤ size)
    (hindex : windowCount entries.length size ≤ index) : window entries size index = [] := by
  have hlength := (windowCount_le_iff hsize).mp hindex
  rw [window, List.drop_eq_nil_of_le hlength, List.take_nil]

/-- The number of pages is the length over the size, rounded up. -/
theorem windowCount_eq_ceil {total size : Nat} (hsize : 1 ≤ size) :
    windowCount total size = ⌈(total : ℚ) / size⌉₊ := by
  have hpositive : (0 : ℚ) < size := by exact_mod_cast hsize
  apply eq_of_forall_ge_iff
  intro count
  rw [windowCount_le_iff hsize, Nat.ceil_le, div_le_iff₀ hpositive]
  exact_mod_cast Iff.rfl

end BuddyWeb
