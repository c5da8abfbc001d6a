/-
The first place where one list occurs in another.
-/
import Mathlib.Data.List.Infix

namespace BuddyWeb

universe u

variable {α : Type u}

/-- The pattern occurs at a position and at none before it. -/
def OccursFirst (pattern text : List α) (position : Nat) : Prop :=
  pattern <+: text.drop position ∧ ∀ earlier, earlier < position →
    ¬ pattern <+: text.drop earlier

theorem OccursFirst.unique {pattern text : List α} {first second : Nat}
    (hfirst : OccursFirst pattern text first) (hsecond : OccursFirst pattern text second) :
    first = second := by
  rcases Nat.lt_trichotomy first second with hless | hequal | hgreater
  · exact absurd hfirst.1 (hsecond.2 first hless)
  · exact hequal
  · exact absurd hsecond.1 (hfirst.2 second hgreater)

/-- The list from the position of a first occurrence on. -/
theorem OccursFirst.split {pattern text : List α} {position : Nat}
    (h : OccursFirst pattern text position) (hpattern : pattern ≠ []) :
    ∃ before after, text = before ++ (pattern ++ after) ∧ before.length = position := by
  obtain ⟨after, hafter⟩ := h.1
  have hle : position ≤ text.length := by
    by_contra hlong
    rw [List.drop_eq_nil_of_le (by omega)] at hafter
    exact hpattern (List.append_eq_nil_iff.mp hafter).1
  refine ⟨text.take position, after, ?_, ?_⟩
  · rw [hafter, List.take_append_drop]
  · rw [List.length_take]
    omega

variable [DecidableEq α]

def findIn (pattern : List α) : List α → Option Nat
  | [] => if pattern = [] then some 0 else none
  | char :: rest =>
      if pattern.isPrefixOf (char :: rest) then some 0 else (findIn pattern rest).map (· + 1)

/-- `find` with a start. -/
def findFrom (text pattern : List α) (start : Nat) : Option Nat :=
  (findIn pattern (text.drop start)).map (· + start)

theorem findIn_eq_some_iff {pattern text : List α} {position : Nat}
    (hpattern : pattern ≠ []) :
    findIn pattern text = some position ↔ OccursFirst pattern text position := by
  induction text generalizing position with
  | nil =>
    rw [findIn, if_neg hpattern]
    constructor
    · intro h
      cases h
    · intro h
      have hnil := h.1
      rw [List.drop_nil] at hnil
      exact absurd (List.prefix_nil.mp hnil) hpattern
  | cons char rest ih =>
    rw [findIn]
    by_cases hhead : pattern.isPrefixOf (char :: rest) = true
    · rw [if_pos hhead]
      have hzero : OccursFirst pattern (char :: rest) 0 :=
        ⟨List.isPrefixOf_iff_prefix.mp hhead, fun earlier hearlier => absurd hearlier (by omega)⟩
      constructor
      · intro h
        cases h
        exact hzero
      · intro h
        rw [hzero.unique h]
    · rw [if_neg hhead]
      have hnot : ¬ pattern <+: (char :: rest).drop 0 := fun hprefix =>
        hhead (List.isPrefixOf_iff_prefix.mpr hprefix)
      constructor
      · intro h
        obtain ⟨inner, hinner, rfl⟩ := Option.map_eq_some_iff.mp h
        obtain ⟨hhere, hbefore⟩ := ih.mp hinner
        refine ⟨hhere, ?_⟩
        intro earlier hearlier
        cases earlier with
        | zero => exact hnot
        | succ earlier => exact hbefore earlier (by omega)
      · intro h
        cases position with
        | zero => exact absurd h.1 hnot
        | succ position =>
          rw [ih.mpr ⟨h.1, fun earlier hearlier => h.2 (earlier + 1) (by omega)⟩]
          rfl

theorem findFrom_eq_some_iff {text pattern : List α} {start position : Nat}
    (hpattern : pattern ≠ []) :
    findFrom text pattern start = some position ↔
      ∃ offset, position = start + offset ∧ OccursFirst pattern (text.drop start) offset := by
  rw [findFrom, Option.map_eq_some_iff]
  constructor
  · rintro ⟨offset, hoffset, rfl⟩
    exact ⟨offset, Nat.add_comm _ _, (findIn_eq_some_iff hpattern).mp hoffset⟩
  · rintro ⟨offset, rfl, hoffset⟩
    exact ⟨offset, (findIn_eq_some_iff hpattern).mpr hoffset, Nat.add_comm _ _⟩

end BuddyWeb
