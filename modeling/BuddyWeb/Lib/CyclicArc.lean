/-
Arcs of a cycle of `n` instants, each named by a start and a length.  An arc
which runs past the end of the cycle continues from its beginning.
-/
import Mathlib.Order.CompletePartialOrder
import Mathlib.Data.Set.Lattice
import Mathlib.Order.Interval.Set.Basic
import Mathlib.Data.List.Perm.Basic

namespace BuddyWeb

universe u v

/-- The instants met by `len` unit steps from `start` on a cycle of length `n`. -/
def arc (n start len : Nat) : Set Nat :=
  {m | ∃ k < len, m = (start + k) % n}

theorem mem_arc {n start len m : Nat} :
    m ∈ arc n start len ↔ ∃ k < len, m = (start + k) % n :=
  Iff.rfl

/-- Walking `first + second` steps is walking `first` steps and then `second`
more from the instant reached. -/
theorem arc_add (n start first second : Nat) :
    arc n start (first + second) =
      arc n start first ∪ arc n ((start + first) % n) second := by
  ext m
  simp only [Set.mem_union, mem_arc]
  constructor
  · rintro ⟨k, hk, rfl⟩
    by_cases hfirst : k < first
    · exact Or.inl ⟨k, hfirst, rfl⟩
    · refine Or.inr ⟨k - first, by omega, ?_⟩
      rw [Nat.mod_add_mod]
      congr 1
      omega
  · rintro (⟨k, hk, rfl⟩ | ⟨k, hk, rfl⟩)
    · exact ⟨k, by omega, rfl⟩
    · refine ⟨first + k, by omega, ?_⟩
      rw [Nat.mod_add_mod]
      congr 1
      omega

/-- An arc which stays inside one turn of the cycle is a half-open interval. -/
theorem arc_eq_Ico {n start len : Nat} (hturn : start + len ≤ n) :
    arc n start len = Set.Ico start (start + len) := by
  ext m
  simp only [mem_arc, Set.mem_Ico]
  constructor
  · rintro ⟨k, hk, rfl⟩
    rw [Nat.mod_eq_of_lt (by omega)]
    omega
  · rintro ⟨hlow, hhigh⟩
    refine ⟨m - start, by omega, ?_⟩
    rw [Nat.mod_eq_of_lt (by omega)]
    omega

/-- Arcs inside one turn are disjoint when the first ends before the second starts. -/
theorem disjoint_arc {n first second lenFirst lenSecond : Nat}
    (hfirst : first + lenFirst ≤ n) (hsecond : second + lenSecond ≤ n)
    (hbefore : first + lenFirst ≤ second) :
    Disjoint (arc n first lenFirst) (arc n second lenSecond) := by
  rw [arc_eq_Ico hfirst, arc_eq_Ico hsecond, Set.disjoint_left]
  intro m hm hm'
  have hlt := hm.2
  have hle := hm'.1
  omega

/-- The union of the sets which the entries of a list name. -/
def listCover {α : Type u} {β : Type v} (f : α → Set β) (entries : List α) :
    Set β :=
  {m | ∃ entry ∈ entries, m ∈ f entry}

section ListCover

variable {α : Type u} {β : Type v} {f : α → Set β}

theorem mem_listCover {entries : List α} {m : β} :
    m ∈ listCover f entries ↔ ∃ entry ∈ entries, m ∈ f entry :=
  Iff.rfl

@[simp]
theorem listCover_nil : listCover f ([] : List α) = ∅ := by
  ext m
  simp [mem_listCover]

@[simp]
theorem listCover_cons (head : α) (tail : List α) :
    listCover f (head :: tail) = f head ∪ listCover f tail := by
  ext m
  simp [mem_listCover]

/-- Covering is insensitive to the order of the entries. -/
theorem listCover_perm {first second : List α} (hperm : first.Perm second) :
    listCover f first = listCover f second := by
  ext m
  simp only [mem_listCover, hperm.mem_iff]

theorem listCover_map {γ : Type u} (g : γ → α) (entries : List γ) :
    listCover f (entries.map g) = listCover (f ∘ g) entries := by
  ext m
  simp [mem_listCover]

/-- Replacing every entry by a list which covers the same set changes nothing. -/
theorem listCover_flatMap {split : α → List α} (entries : List α)
    (hsplit : ∀ entry ∈ entries, listCover f (split entry) = f entry) :
    listCover f (entries.flatMap split) = listCover f entries := by
  ext m
  simp only [mem_listCover, List.mem_flatMap]
  constructor
  · rintro ⟨piece, ⟨entry, hentry, hpiece⟩, hm⟩
    refine ⟨entry, hentry, ?_⟩
    rw [← hsplit entry hentry]
    exact ⟨piece, hpiece, hm⟩
  · rintro ⟨entry, hentry, hm⟩
    rw [← hsplit entry hentry] at hm
    obtain ⟨piece, hpiece, hm⟩ := hm
    exact ⟨piece, ⟨entry, hentry, hpiece⟩, hm⟩

end ListCover

end BuddyWeb
