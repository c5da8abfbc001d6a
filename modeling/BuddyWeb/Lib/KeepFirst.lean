/-
Lists of keyed entries without the repetitions of a key: of each key the first entry stays.
-/
import Mathlib.Data.List.Nodup
import Mathlib.Data.List.Basic

namespace BuddyWeb

universe u v w

variable {α : Type u} {β : Type w} {κ : Type v} [DecidableEq κ] {key : α → κ}

/-- The entries whose keys are new: not seen before and not on an earlier entry. -/
def keepFirst (key : α → κ) (seen : List κ) : List α → List α
  | [] => []
  | entry :: rest =>
      if key entry ∈ seen then keepFirst key seen rest
      else entry :: keepFirst key (key entry :: seen) rest

theorem keepFirst_sublist (key : α → κ) (seen : List κ) (entries : List α) :
    (keepFirst key seen entries).Sublist entries := by
  induction entries generalizing seen with
  | nil => exact .slnil
  | cons entry rest ih =>
      unfold keepFirst
      split
      · exact (ih seen).cons entry
      · exact (ih (key entry :: seen)).cons_cons entry

theorem mem_of_mem_keepFirst {seen : List κ} {entries : List α} {entry : α}
    (h : entry ∈ keepFirst key seen entries) : entry ∈ entries :=
  (keepFirst_sublist key seen entries).subset h

/-- The keys which stay are the new ones. -/
theorem mem_map_keepFirst {seen : List κ} {entries : List α} {value : κ} :
    value ∈ (keepFirst key seen entries).map key ↔ value ∈ entries.map key ∧ value ∉ seen := by
  induction entries generalizing seen with
  | nil => simp [keepFirst]
  | cons entry rest ih =>
      by_cases hseen : key entry ∈ seen
      · rw [keepFirst, if_pos hseen, ih, List.map_cons, List.mem_cons]
        constructor
        · rintro ⟨hrest, hnew⟩
          exact ⟨Or.inr hrest, hnew⟩
        · rintro ⟨rfl | hrest, hnew⟩
          · exact absurd hseen hnew
          · exact ⟨hrest, hnew⟩
      · rw [keepFirst, if_neg hseen, List.map_cons, List.mem_cons, ih, List.map_cons,
          List.mem_cons, List.mem_cons]
        constructor
        · rintro (rfl | ⟨hrest, hnew⟩)
          · exact ⟨Or.inl rfl, hseen⟩
          · exact ⟨Or.inr hrest, fun hmem => hnew (Or.inr hmem)⟩
        · rintro ⟨hmem, hnew⟩
          by_cases hsame : value = key entry
          · exact Or.inl hsame
          · rcases hmem with hentry | hrest
            · exact absurd hentry hsame
            · exact Or.inr ⟨hrest, fun hor => hor.elim hsame hnew⟩

/-- Only the set of the seen keys matters. -/
theorem keepFirst_congr {first second : List κ} (hsame : ∀ value, value ∈ first ↔ value ∈ second)
    (entries : List α) : keepFirst key first entries = keepFirst key second entries := by
  induction entries generalizing first second with
  | nil => rfl
  | cons entry rest ih =>
      have hnext : ∀ value, value ∈ key entry :: first ↔ value ∈ key entry :: second := by
        intro value
        rw [List.mem_cons, List.mem_cons, hsame]
      by_cases hseen : key entry ∈ first
      · rw [keepFirst, keepFirst, if_pos hseen, if_pos ((hsame _).mp hseen), ih hsame]
      · rw [keepFirst, keepFirst, if_neg hseen, if_neg (fun hmem => hseen ((hsame _).mpr hmem)),
          ih hnext]

theorem keepFirst_append (seen : List κ) (first second : List α) :
    keepFirst key seen (first ++ second) =
      keepFirst key seen first ++ keepFirst key (first.map key ++ seen) second := by
  induction first generalizing seen with
  | nil => rfl
  | cons entry rest ih =>
      by_cases hseen : key entry ∈ seen
      · rw [List.cons_append, keepFirst, keepFirst, if_pos hseen, if_pos hseen, ih]
        congr 1
        apply keepFirst_congr
        intro value
        simp only [List.map_cons, List.mem_append, List.mem_cons]
        constructor
        · rintro (hrest | hmem)
          · exact Or.inl (Or.inr hrest)
          · exact Or.inr hmem
        · rintro ((rfl | hrest) | hmem)
          · exact Or.inr hseen
          · exact Or.inl hrest
          · exact Or.inr hmem
      · rw [List.cons_append, keepFirst, keepFirst, if_neg hseen, if_neg hseen, ih,
          List.cons_append]
        congr 2
        apply keepFirst_congr
        intro value
        simp only [List.map_cons, List.mem_append, List.mem_cons]
        tauto

/-- Entries with pairwise different keys all stay. -/
theorem keepFirst_eq_self {seen : List κ} {entries : List α}
    (hnodup : (entries.map key).Nodup) (hnew : ∀ entry ∈ entries, key entry ∉ seen) :
    keepFirst key seen entries = entries := by
  induction entries generalizing seen with
  | nil => rfl
  | cons entry rest ih =>
      rw [List.map_cons, List.nodup_cons] at hnodup
      rw [keepFirst, if_neg (hnew entry List.mem_cons_self), ih hnodup.2]
      intro other hother hmem
      rcases List.mem_cons.mp hmem with hsame | hseen
      · exact hnodup.1 (hsame ▸ List.mem_map_of_mem hother)
      · exact hnew other (List.mem_cons_of_mem _ hother) hseen

/-- Entries which are written with keys of their own, where different keys stay different. -/
theorem keepFirst_map {ι : Type*} [DecidableEq ι] {written : β → κ} {write : α → β}
    {identity : α → ι} {seen : List κ} {seenIds : List ι} {entries : List α}
    (hseen : ∀ entry ∈ entries, (written (write entry) ∈ seen ↔ identity entry ∈ seenIds))
    (hsame : ∀ first ∈ entries, ∀ second ∈ entries,
      (written (write first) = written (write second) ↔ identity first = identity second)) :
    keepFirst written seen (entries.map write) =
      (keepFirst identity seenIds entries).map write := by
  induction entries generalizing seen seenIds with
  | nil => rfl
  | cons entry rest ih =>
      have htail : ∀ first ∈ rest, ∀ second ∈ rest,
          (written (write first) = written (write second) ↔
            identity first = identity second) := by
        intro first hfirst second hsecond
        exact hsame first (List.mem_cons_of_mem _ hfirst) second
          (List.mem_cons_of_mem _ hsecond)
      have hhead := hseen entry List.mem_cons_self
      by_cases hmem : identity entry ∈ seenIds
      · rw [List.map_cons, keepFirst, keepFirst, if_pos (hhead.mpr hmem), if_pos hmem]
        exact ih (fun other hother => hseen other (List.mem_cons_of_mem _ hother)) htail
      · rw [List.map_cons, keepFirst, keepFirst, if_neg (fun h => hmem (hhead.mp h)),
          if_neg hmem, List.map_cons]
        congr 1
        apply ih _ htail
        intro other hother
        rw [List.mem_cons, List.mem_cons, hseen other (List.mem_cons_of_mem _ hother),
          hsame other (List.mem_cons_of_mem _ hother) entry List.mem_cons_self]

end BuddyWeb
