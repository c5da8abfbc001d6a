/-
The entries of a list which come after the first few of a strict order.
-/
import Mathlib.Data.List.Basic

namespace BuddyWeb

universe u

section TopRanked

variable {α : Type u} (before : α → α → Prop) [DecidableRel before]

/-- How many entries come before a given one. -/
def rankIn (entries : List α) (entry : α) : Nat :=
  entries.countP fun other => before other entry

variable {before}

/-- The rank is of the entries and not of their order in the list. -/
theorem rankIn_perm {first second : List α} (hperm : first.Perm second) (entry : α) :
    rankIn before first entry = rankIn before second entry :=
  hperm.countP_eq _

theorem rankIn_cons_of_before {head entry : α} {tail : List α} (hbefore : before head entry) :
    rankIn before (head :: tail) entry = rankIn before tail entry + 1 := by
  unfold rankIn
  rw [List.countP_cons_of_pos (by simpa using hbefore)]

/-- The head of an ordered list has nothing before it. -/
theorem rankIn_head {head : α} {tail : List α}
    (hasymm : ∀ first second, before first second → ¬ before second first)
    (hhead : ∀ entry ∈ tail, before head entry) : rankIn before (head :: tail) head = 0 := by
  unfold rankIn
  rw [List.countP_eq_zero]
  intro entry hentry hbefore
  have hsmaller : before entry head := by simpa using hbefore
  rcases List.mem_cons.mp hentry with hsame | htail
  · rw [hsame] at hsmaller
    exact hasymm head head hsmaller hsmaller
  · exact hasymm entry head hsmaller (hhead entry htail)

/-- Dropping the first entries of an ordered list leaves those of a rank from there on. -/
theorem mem_drop_iff_rankIn {entries : List α}
    (hasymm : ∀ first second, before first second → ¬ before second first)
    (hsorted : entries.Pairwise before) {entry : α} (hentry : entry ∈ entries) (count : Nat) :
    entry ∈ entries.drop count ↔ count ≤ rankIn before entries entry := by
  induction entries generalizing count with
  | nil => exact absurd hentry (by simp)
  | cons head tail ih =>
      obtain ⟨hhead, htail⟩ := List.pairwise_cons.mp hsorted
      cases count with
      | zero => exact ⟨fun _ => Nat.zero_le _, fun _ => hentry⟩
      | succ count =>
          rw [List.drop_succ_cons]
          rcases List.mem_cons.mp hentry with hsame | hmem
          · rw [hsame, rankIn_head hasymm hhead]
            constructor
            · intro hdrop
              have hself := hhead head (List.mem_of_mem_drop hdrop)
              exact absurd hself (hasymm head head hself)
            · intro hle
              exact absurd hle (by simp)
          · rw [rankIn_cons_of_before (hhead entry hmem), ih htail hmem count]
            exact Nat.add_le_add_iff_right.symm

end TopRanked

end BuddyWeb
