/-
Lines joined by a separator which none of them contains: where in the joined text a line
stands, told by the number of separators before it.
-/
import Mathlib.Data.List.Infix

namespace BuddyWeb

universe u

variable {α : Type u} {sep : α} {lines : List (List α)}

/-- No line contains the separator. -/
def SeparatorFree (sep : α) (lines : List (List α)) : Prop :=
  ∀ line ∈ lines, sep ∉ line

theorem SeparatorFree.tail {line : List α} (h : SeparatorFree sep (line :: lines)) :
    SeparatorFree sep lines :=
  fun other hother => h other (List.mem_cons_of_mem line hother)

theorem SeparatorFree.sublist {others : List (List α)} (h : SeparatorFree sep lines)
    (hsublist : others.Sublist lines) : SeparatorFree sep others :=
  fun line hline => h line (hsublist.subset hline)

/-- A prefix of a joined text either ends in the first line or contains it. -/
theorem prefix_cons_cases {first : List α} {rest : List α} {start after : List α}
    (h : first ++ sep :: rest = start ++ after) :
    start <+: first ∨ ∃ later, start = first ++ sep :: later ∧ rest = later ++ after := by
  rcases List.append_eq_append_iff.mp h with ⟨between, hstart, hafter⟩ | ⟨between, hfirst, _⟩
  · cases between with
    | nil =>
      left
      rw [hstart, List.append_nil]
    | cons head later =>
      right
      simp only [List.cons_append, List.cons.injEq] at hafter
      exact ⟨later, by rw [hstart, hafter.1], hafter.2⟩
  · left
    exact ⟨between, hfirst.symm⟩

/-- Filtering out the separator leaves the lines. -/
theorem filter_intercalate {p : α → Bool} (hsep : p sep = false) (lines : List (List α)) :
    ([sep].intercalate lines).filter p = lines.flatten.filter p := by
  induction lines with
  | nil => rfl
  | cons line rest ih =>
    cases rest with
    | nil => simp
    | cons next rest =>
      rw [List.intercalate_cons_cons, List.append_assoc, List.singleton_append,
        List.filter_append, List.filter_cons_of_neg (by simp [hsep]), ih,
        @List.flatten_cons _ line, List.filter_append]

variable [DecidableEq α]

theorem count_eq_zero_of_opening {start first : List α} (h : start <+: first)
    (hfirst : sep ∉ first) : start.count sep = 0 :=
  List.count_eq_zero.mpr fun hmem => hfirst (h.subset hmem)

/-- A prefix with some separators lies in the lines up to as many. -/
theorem prefix_intercalate_take (hfree : SeparatorFree sep lines) {start after : List α}
    (h : [sep].intercalate lines = start ++ after) :
    start <+: [sep].intercalate (lines.take (start.count sep + 1)) := by
  induction lines generalizing start with
  | nil =>
    have hnil : start = [] := (List.append_eq_nil_iff.mp h.symm).1
    rw [hnil]
    exact List.nil_prefix
  | cons line rest ih =>
    cases rest with
    | nil =>
      rw [List.intercalate_singleton] at h
      rw [List.take_succ_cons, List.take_nil, List.intercalate_singleton]
      exact ⟨after, h.symm⟩
    | cons next rest =>
      rw [List.intercalate_cons_cons, List.append_assoc, List.singleton_append] at h
      have hline : sep ∉ line := hfree line List.mem_cons_self
      rcases prefix_cons_cases h with hprefix | ⟨later, hstart, hrest⟩
      · rw [count_eq_zero_of_opening hprefix hline, List.take_succ_cons, List.take_zero,
          List.intercalate_singleton]
        exact hprefix
      · have hlater := ih hfree.tail hrest
        have hcount : start.count sep = later.count sep + 1 := by
          rw [hstart, List.count_append, List.count_eq_zero.mpr hline, List.count_cons_self,
            Nat.zero_add]
        have htake : (next :: rest).take (later.count sep + 1) ≠ [] := by simp
        rw [hcount, List.take_succ_cons, List.intercalate_cons_of_ne_nil htake, hstart,
          List.append_assoc]
        exact List.prefix_append_right_inj line |>.mpr
          (List.cons_prefix_cons.mpr ⟨rfl, hlater⟩)

/-- After a prefix with some separators come the lines after as many. -/
theorem exists_intercalate_drop (hfree : SeparatorFree sep lines) (hlines : lines ≠ [])
    {start after : List α} (h : [sep].intercalate lines = start ++ after) :
    start.count sep < lines.length ∧ ∃ rest, rest.count sep = 0 ∧
      [sep].intercalate (lines.drop (start.count sep)) = rest ++ after := by
  induction lines generalizing start with
  | nil => exact absurd rfl hlines
  | cons line rest ih =>
    have hline : sep ∉ line := hfree line List.mem_cons_self
    cases rest with
    | nil =>
      rw [List.intercalate_singleton] at h
      have hcount := count_eq_zero_of_opening ⟨after, h.symm⟩ hline
      refine ⟨by simp [hcount], start, hcount, ?_⟩
      rw [hcount, List.drop_zero, List.intercalate_singleton]
      exact h
    | cons next rest =>
      have hsplit := h
      rw [List.intercalate_cons_cons, List.append_assoc, List.singleton_append] at hsplit
      rcases prefix_cons_cases hsplit with hprefix | ⟨later, hstart, hrest⟩
      · have hcount := count_eq_zero_of_opening hprefix hline
        refine ⟨by simp [hcount], start, hcount, ?_⟩
        rw [hcount, List.drop_zero]
        exact h
      · have hcount : start.count sep = later.count sep + 1 := by
          rw [hstart, List.count_append, List.count_eq_zero.mpr hline, List.count_cons_self,
            Nat.zero_add]
        obtain ⟨hless, hexists⟩ := ih hfree.tail (by simp) hrest
        rw [hcount, List.drop_succ_cons]
        exact ⟨Nat.succ_lt_succ hless, hexists⟩

/-- A part of a joined text lies in the lines which the separators before it and in it
count. -/
theorem infix_intercalate_drop_take (hfree : SeparatorFree sep lines) (hlines : lines ≠ [])
    {start part after : List α} (h : [sep].intercalate lines = start ++ (part ++ after)) :
    part <:+: [sep].intercalate
      ((lines.drop (start.count sep)).take (part.count sep + 1)) := by
  obtain ⟨_, rest, hrest, hdrop⟩ := exists_intercalate_drop hfree hlines h
  rw [← List.append_assoc] at hdrop
  have hprefix := prefix_intercalate_take (hfree.sublist (List.drop_sublist _ _)) hdrop
  rw [List.count_append, hrest, Nat.zero_add] at hprefix
  exact (List.suffix_append rest part).isInfix.trans hprefix.isInfix

theorem count_intercalate (hfree : SeparatorFree sep lines) :
    ([sep].intercalate lines).count sep = lines.length - 1 := by
  induction lines with
  | nil => rfl
  | cons line rest ih =>
    have hline : line.count sep = 0 := List.count_eq_zero.mpr (hfree line List.mem_cons_self)
    cases rest with
    | nil => rw [List.intercalate_singleton, hline]; rfl
    | cons next rest =>
      rw [List.intercalate_cons_cons, List.append_assoc, List.singleton_append,
        List.count_append, hline, List.count_cons_self, ih hfree.tail]
      simp

end BuddyWeb
