/-
Reading one text under two notions of white space: what trimming leaves, and how many
words are seen.
-/
import BuddyWeb.Lib.Trim

namespace BuddyWeb

universe u

variable {α : Type u}

theorem dropWhile_dropWhile_of_imp {c p : α → Bool} (himp : ∀ entry, c entry → p entry)
    (entries : List α) : (entries.dropWhile c).dropWhile p = entries.dropWhile p := by
  induction entries with
  | nil => rfl
  | cons entry rest ih =>
      by_cases hc : c entry = true
      · rw [List.dropWhile_cons_of_pos hc, ih, List.dropWhile_cons_of_pos (himp entry hc)]
      · rw [List.dropWhile_cons_of_neg hc]

theorem rdropWhile_append_of_forall {p : α → Bool} {entries suffix : List α}
    (h : ∀ entry ∈ suffix, p entry) :
    (entries ++ suffix).rdropWhile p = entries.rdropWhile p := by
  have hdrop : (suffix.reverse ++ entries.reverse).dropWhile p =
      entries.reverse.dropWhile p := by
    apply List.dropWhile_append_of_pos
    intro entry hentry
    exact h entry (List.mem_reverse.mp hentry)
  simp only [List.rdropWhile, List.reverse_append, hdrop]

/-- Characters of `p` at the end are trimmed in any case. -/
theorem trimEnds_append_of_forall {p : α → Bool} {entries suffix : List α}
    (h : ∀ entry ∈ suffix, p entry) :
    trimEnds p (entries ++ suffix) = trimEnds p entries := by
  rw [trimEnds, trimEnds, List.dropWhile_append]
  by_cases hempty : (entries.dropWhile p).isEmpty = true
  · have hnil : suffix.dropWhile p = [] := List.dropWhile_eq_nil_iff.mpr h
    rw [if_pos hempty, hnil, List.isEmpty_iff.mp hempty]
  · rw [if_neg hempty, rdropWhile_append_of_forall h]

/-- Trimming fewer characters first does not change what trimming leaves. -/
theorem trimEnds_trimEnds_of_imp {c p : α → Bool} (himp : ∀ entry, c entry → p entry)
    (entries : List α) : trimEnds p (trimEnds c entries) = trimEnds p entries := by
  have hsuffix : ∀ entry ∈ (entries.dropWhile c).rtakeWhile c, p entry :=
    fun entry hentry => himp entry (List.mem_rtakeWhile_imp hentry)
  calc trimEnds p (trimEnds c entries)
      = trimEnds p (trimEnds c entries ++ (entries.dropWhile c).rtakeWhile c) :=
        (trimEnds_append_of_forall hsuffix).symm
    _ = trimEnds p (entries.dropWhile c) := by
        rw [show trimEnds c entries = (entries.dropWhile c).rdropWhile c from rfl,
          List.rdropWhile_append_rtakeWhile]
    _ = trimEnds p entries := by
        rw [trimEnds, trimEnds, dropWhile_dropWhile_of_imp himp]

section Trimmed

variable {p q : α → Bool} {entries : List α}

/-- A trimmed list begins with an entry on which the predicate fails. -/
theorem head_trimEnds_not (hne : trimEnds p entries ≠ []) :
    ¬ p ((trimEnds p entries).head hne) :=
  (trimEnds_eq_self_iff.mp (trimEnds_trimEnds p entries)).1 hne

theorem rdropWhile_head {hne : entries ≠ []} (hhead : ¬ p (entries.head hne)) :
    ∃ h : entries.rdropWhile p ≠ [], (entries.rdropWhile p).head h = entries.head hne := by
  have hkept : entries.rdropWhile p ≠ [] := by
    intro hnil
    exact hhead (List.rdropWhile_eq_nil_iff.mp hnil _ (List.head_mem hne))
  exact ⟨hkept, List.IsPrefix.head (List.rdropWhile_prefix p entries) hkept⟩

theorem dropWhile_eq_self_of_head {hne : entries ≠ []} (hhead : ¬ p (entries.head hne)) :
    entries.dropWhile p = entries := by
  rw [List.dropWhile_eq_self_iff]
  intro hpos
  simpa [List.head_eq_getElem] using hhead

/-- Two trimmings which leave the same remove nothing at the front, where no first entry
is subject to both. -/
theorem head_not_of_trimEnds_eq (hne : entries ≠ [])
    (hboth : ¬ (p (entries.head hne) ∧ q (entries.head hne)))
    (h : trimEnds p entries = trimEnds q entries) : ¬ p (entries.head hne) := by
  intro hp
  have hq : ¬ q (entries.head hne) := fun hq => hboth ⟨hp, hq⟩
  have hright : trimEnds q entries = entries.rdropWhile q := by
    rw [trimEnds, dropWhile_eq_self_of_head hq]
  obtain ⟨hkept, hhead⟩ := rdropWhile_head hq
  have hleft : trimEnds p entries = entries.rdropWhile q := h.trans hright
  have hnot : ∀ (trimmed : List α) (htrimmed : trimmed ≠ []),
      trimEnds p entries = trimmed → ¬ p (trimmed.head htrimmed) := by
    intro trimmed htrimmed hequal
    subst hequal
    exact head_trimEnds_not htrimmed
  exact hnot _ hkept hleft (hhead ▸ hp)

/-- Two trimmings leave the same text where no entry at an end is subject to both only if
both leave it as it is. -/
theorem trimEnds_eq_trimEnds_iff
    (hhead : ∀ h : entries ≠ [], ¬ (p (entries.head h) ∧ q (entries.head h)))
    (hlast : ∀ h : entries ≠ [], ¬ (p (entries.getLast h) ∧ q (entries.getLast h))) :
    trimEnds p entries = trimEnds q entries ↔
      trimEnds p entries = entries ∧ trimEnds q entries = entries := by
  constructor
  · intro h
    have hfront : ∀ hne : entries ≠ [],
        ¬ p (entries.head hne) ∧ ¬ q (entries.head hne) := fun hne =>
      ⟨head_not_of_trimEnds_eq hne (hhead hne) h,
        head_not_of_trimEnds_eq hne (fun hboth => hhead hne hboth.symm) h.symm⟩
    by_cases hne : entries = []
    · subst hne
      exact ⟨rfl, rfl⟩
    · have hp : trimEnds p entries = entries.rdropWhile p := by
        rw [trimEnds, dropWhile_eq_self_of_head (hfront hne).1]
      have hq : trimEnds q entries = entries.rdropWhile q := by
        rw [trimEnds, dropWhile_eq_self_of_head (hfront hne).2]
      by_cases hend : p (entries.getLast hne) = true
      · -- the other trimming removes nothing, so this one does not either
        have hqlast : ¬ q (entries.getLast hne) := fun hqlast => hlast hne ⟨hend, hqlast⟩
        have hwhole : entries.rdropWhile q = entries :=
          List.rdropWhile_eq_self_iff.mpr fun _ => hqlast
        have hpself : entries.rdropWhile p = entries := by rw [← hp, h, hq, hwhole]
        exact absurd hend (List.rdropWhile_eq_self_iff.mp hpself hne)
      · have hpself : trimEnds p entries = entries := by
          rw [hp]
          exact List.rdropWhile_eq_self_iff.mpr fun _ => hend
        exact ⟨hpself, by rw [← h, hpself]⟩
  · rintro ⟨hp, hq⟩
    rw [hp, hq]

end Trimmed

/-- The maximal runs of entries on which `p` fails. -/
def wordRuns [DecidableEq α] (p : α → Bool) (entries : List α) : List (List α) :=
  (entries.splitOnP p).filter (· ≠ [])

/-- The first entry is one of a run, and the one before it is not. -/
def startsWord (p : α → Bool) (pair : α × α) : Bool :=
  p pair.1 && !p pair.2

/-- The runs which begin in a list, `outside` telling whether a run can begin at once. -/
def runStarts (p : α → Bool) : Bool → List α → Nat
  | _, [] => 0
  | outside, entry :: rest =>
      (if outside && !p entry then 1 else 0) + runStarts p (p entry) rest

section Runs

variable [DecidableEq α] (p : α → Bool)

/-- Counting the runs by their starts; inside a run the first piece is not a new one. -/
theorem splitOnP_runStarts (entries : List α) :
    (wordRuns p entries).length = runStarts p true entries ∧
      ((entries.splitOnP p).tail.filter (· ≠ [])).length = runStarts p false entries := by
  induction entries with
  | nil => simp [wordRuns, runStarts, List.splitOnP_nil]
  | cons entry rest ih =>
      obtain ⟨first, pieces, hpieces⟩ := List.exists_cons_of_ne_nil
        (List.splitOnP_ne_nil p rest)
      rw [wordRuns, hpieces, List.tail_cons] at ih
      rw [wordRuns, List.splitOnP_cons_eq_if_modifyHead, hpieces]
      by_cases hentry : p entry = true
      · constructor
        · simpa [runStarts, hentry] using ih.1
        · simpa [runStarts, hentry] using ih.1
      · have hfalse : p entry = false := by simpa using hentry
        constructor
        · have htail := ih.2
          simp [runStarts, hfalse] at htail ⊢
          rw [htail, Nat.add_comm]
        · simpa [runStarts, hfalse] using ih.2

theorem length_wordRuns (entries : List α) :
    (wordRuns p entries).length = runStarts p true entries :=
  (splitOnP_runStarts p entries).1

omit [DecidableEq α] in
theorem runStarts_cons (outside : Bool) (entry : α) (rest : List α) :
    runStarts p outside (entry :: rest) =
      (if outside && !p entry then 1 else 0) +
        ((entry :: rest).zip rest).countP (startsWord p) := by
  induction rest generalizing outside entry with
  | nil => simp [runStarts]
  | cons next rest ih =>
      rw [runStarts, ih (p entry) next, List.zip_cons_cons, List.countP_cons]
      have hpair : startsWord p (entry, next) = (p entry && !p next) := rfl
      rw [hpair, Nat.add_comm (List.countP _ _)]

/-- Where nothing is to be trimmed, the first word starts at once and each further one
at an entry which follows white space. -/
theorem length_wordRuns_of_trimmed {entries : List α} (hne : entries ≠ [])
    (htrim : trimEnds p entries = entries) :
    (wordRuns p entries).length =
      1 + (entries.zip entries.tail).countP (startsWord p) := by
  obtain ⟨entry, rest, hentries⟩ := List.exists_cons_of_ne_nil hne
  have hhead := (trimEnds_eq_self_iff.mp htrim).1 hne
  subst hentries
  have hfalse : p entry = false := by simpa using hhead
  rw [length_wordRuns, runStarts_cons, List.tail_cons, hfalse]
  rfl

end Runs

/-- Two counts differ by what only one of them counts. -/
theorem countP_eq_countP_iff (p q : α → Bool) (entries : List α) :
    entries.countP p = entries.countP q ↔
      entries.countP (fun entry => p entry && !q entry) =
        entries.countP (fun entry => q entry && !p entry) := by
  have hsplit : entries.countP p + entries.countP (fun entry => q entry && !p entry) =
      entries.countP q + entries.countP (fun entry => p entry && !q entry) := by
    induction entries with
    | nil => rfl
    | cons entry rest ih =>
        simp only [List.countP_cons]
        cases p entry <;> cases q entry <;> simp <;> omega
  omega

end BuddyWeb
