/-
How a transaction changes a table: it adds rows at the front and replaces old rows
by new versions with the same key, in place.
-/
import BuddyWeb.Lib.Table
import Mathlib.Data.List.Forall2

namespace BuddyWeb

universe u

section Pairs

variable {α β : Type u} {related : α → β → Prop}

theorem exists_right_of_forall₂ {before : List α} {after : List β}
    (h : List.Forall₂ related before after) {old : α} (hold : old ∈ before) :
    ∃ new ∈ after, related old new := by
  induction h with
  | nil => simp at hold
  | @cons head changed _ rest hhead _ ih =>
      rcases List.mem_cons.mp hold with rfl | htail
      · exact ⟨changed, List.mem_cons_self, hhead⟩
      · obtain ⟨new, hnew, hrelated⟩ := ih htail
        exact ⟨new, List.mem_cons_of_mem _ hnew, hrelated⟩

theorem exists_left_of_forall₂ {before : List α} {after : List β}
    (h : List.Forall₂ related before after) {new : β} (hnew : new ∈ after) :
    ∃ old ∈ before, related old new := by
  obtain ⟨old, hold, hrelated⟩ := exists_right_of_forall₂ h.flip hnew
  exact ⟨old, hold, hrelated⟩

/-- What relates two lists entry by entry also relates the first one to a combination. -/
theorem forall₂_zipWith {γ : Type u} {combined : α → γ → Prop} {f : α → β → γ}
    {before : List α} {after : List β} (h : List.Forall₂ related before after)
    (hcombined : ∀ old new, related old new → combined old (f old new)) :
    List.Forall₂ combined before (List.zipWith f before after) := by
  induction h with
  | nil => exact .nil
  | cons hhead _ ih => exact .cons (hcombined _ _ hhead) ih

theorem map_eq_of_forall₂ {γ : Type u} {f : α → γ} {g : β → γ} {before : List α}
    {after : List β} (h : List.Forall₂ related before after)
    (hsame : ∀ old new, related old new → g new = f old) : after.map g = before.map f := by
  induction h with
  | nil => rfl
  | cons hhead _ ih => rw [List.map_cons, List.map_cons, hsame _ _ hhead, ih]

/-- An order of the old rows which new versions keep. -/
theorem pairwise_of_forall₂ {related order : α → α → Prop} {before after : List α}
    (h : List.Forall₂ related before after) (hpairs : before.Pairwise order)
    (hkeeps : ∀ old ∈ before, ∀ other ∈ before, ∀ new changed, order old other →
      related old new → related other changed → order new changed) :
    after.Pairwise order := by
  induction h with
  | nil => exact List.Pairwise.nil
  | @cons head changed tail rest hhead hrest ih =>
      obtain ⟨hfirst, htail⟩ := List.pairwise_cons.mp hpairs
      refine List.pairwise_cons.mpr ⟨fun new hnew => ?_, ih htail fun old hold other hother =>
        hkeeps old (List.mem_cons_of_mem _ hold) other (List.mem_cons_of_mem _ hother)⟩
      obtain ⟨old, hold, hrelated⟩ := exists_left_of_forall₂ hrest hnew
      exact hkeeps head List.mem_cons_self old (List.mem_cons_of_mem _ hold) changed new
        (hfirst old hold) hhead hrelated

end Pairs

namespace Table

variable {ρ : Type u} [Keyed ρ]

/-- A row is the same, or a new version which the transaction may write. -/
def Version (updates : ρ → ρ → Prop) (old row : ρ) : Prop :=
  Keyed.key row = Keyed.key old ∧ (row = old ∨ updates old row)

theorem forall₂_put {updates : ρ → ρ → Prop} {table : Table ρ} {old row : ρ}
    (hold : old ∈ table.rows) (hkey : Keyed.key row = Keyed.key old)
    (hupdate : updates old row) :
    List.Forall₂ (Version updates) table.rows (table.put row).rows := by
  simp only [Table.put, List.forall₂_map_right_iff, List.forall₂_same]
  intro other hother
  split
  · rename_i hsame
    obtain rfl := eq_of_key hother hold (hsame.trans hkey)
    exact ⟨hkey, Or.inr hupdate⟩
  · exact ⟨rfl, Or.inl rfl⟩

/-- The table after a transaction which writes only such versions and adds one such row
at most. -/
structure Evolves (updates : ρ → ρ → Prop) (adds : ρ → Prop) (before after : Table ρ) :
    Prop where
  split : ∃ (added : Option ρ) (kept : List ρ), after.rows = added.toList ++ kept ∧
    (∀ row ∈ added, adds row) ∧ List.Forall₂ (Version updates) before.rows kept

namespace Evolves

variable {updates : ρ → ρ → Prop} {adds : ρ → Prop} {before after : Table ρ}

theorem refl (table : Table ρ) : Evolves updates adds table table :=
  ⟨none, table.rows, rfl, by simp, List.forall₂_same.mpr fun _ _ => ⟨rfl, Or.inl rfl⟩⟩

theorem of_eq (h : after = before) : Evolves updates adds before after := h ▸ refl _

theorem put {old row : ρ} (hold : old ∈ before.rows) (hkey : Keyed.key row = Keyed.key old)
    (hupdate : updates old row) : Evolves updates adds before (before.put row) :=
  ⟨none, _, rfl, by simp, forall₂_put hold hkey hupdate⟩

theorem insert {row : ρ} (hadds : adds row) (hinsert : before.insert? row = some after) :
    Evolves updates adds before after :=
  ⟨some row, before.rows, (insert?_eq_some_iff.mp hinsert).2, by simpa using hadds,
    List.forall₂_same.mpr fun _ _ => ⟨rfl, Or.inl rfl⟩⟩

theorem put_insert {old changed row : ρ} (hold : old ∈ before.rows)
    (hkey : Keyed.key changed = Keyed.key old) (hupdate : updates old changed)
    (hadds : adds row) (hinsert : (before.put changed).insert? row = some after) :
    Evolves updates adds before after :=
  ⟨some row, _, (insert?_eq_some_iff.mp hinsert).2, by simpa using hadds,
    forall₂_put hold hkey hupdate⟩

variable (h : Evolves updates adds before after)

include h

/-- Each old row is still there, perhaps in a new version. -/
theorem forward {old : ρ} (hold : old ∈ before.rows) :
    ∃ row ∈ after.rows, Version updates old row := by
  obtain ⟨added, kept, hrows, _, hversions⟩ := h.split
  obtain ⟨row, hrow, hversion⟩ := exists_right_of_forall₂ hversions hold
  exact ⟨row, hrows ▸ List.mem_append_right _ hrow, hversion⟩

/-- The version of an old row. -/
theorem version {old row : ρ} (hold : old ∈ before.rows) (hrow : row ∈ after.rows)
    (hkey : Keyed.key row = Keyed.key old) : row = old ∨ updates old row := by
  obtain ⟨found, hfound, hsame, hversion⟩ := h.forward hold
  obtain rfl := eq_of_key hrow hfound (hkey.trans hsame.symm)
  exact hversion

/-- Each row is a version of an old one, or new. -/
theorem backward {row : ρ} (hrow : row ∈ after.rows) :
    (∃ old ∈ before.rows, Version updates old row) ∨ adds row := by
  obtain ⟨added, kept, hrows, hadded, hversions⟩ := h.split
  rcases List.mem_append.mp (hrows ▸ hrow) with hnew | hkept
  · exact Or.inr (hadded row (Option.mem_toList.mp hnew))
  · exact Or.inl (exists_left_of_forall₂ hversions hkept)

end Evolves

end Table

end BuddyWeb
