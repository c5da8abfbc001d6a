/-
Tables of rows with a unique key, as a transaction reads and writes them.
-/
import Mathlib.Data.List.Basic
import Mathlib.Data.List.Nodup
import Mathlib.Data.Finset.Dedup
import Mathlib.Data.Set.Finite.Lemmas

namespace BuddyWeb

universe u

/-- Rows which carry their own primary key. -/
class Keyed (ρ : Type u) where
  key : ρ → Nat

/-- Rows with pairwise different keys. -/
structure Table (ρ : Type u) [Keyed ρ] where
  rows : List ρ
  nodup : (rows.map Keyed.key).Nodup

namespace Table

variable {ρ : Type u} [Keyed ρ]

def empty : Table ρ := ⟨[], by simp⟩

/-- The row with a given key. -/
def get? (table : Table ρ) (id : Nat) : Option ρ :=
  table.rows.find? fun row => Keyed.key row == id

/-- The first row which a filter selects. -/
def select? (table : Table ρ) (filter : ρ → Bool) : Option ρ :=
  table.rows.find? filter

/-- Store the new version of a row in place of the old one. -/
def put (table : Table ρ) (row : ρ) : Table ρ where
  rows := table.rows.map fun old => if Keyed.key old = Keyed.key row then row else old
  nodup := by
    have hkeys : (Keyed.key ∘ fun old : ρ =>
        if Keyed.key old = Keyed.key row then row else old) = Keyed.key := by
      funext old
      simp only [Function.comp_apply]
      split
      · rename_i hkey
        exact hkey.symm
      · rfl
    rw [List.map_map, hkeys]
    exact table.nodup

/-- Change rows which keep their keys. -/
def modify (table : Table ρ) (change : ρ → ρ)
    (hkey : ∀ row, Keyed.key (change row) = Keyed.key row) : Table ρ where
  rows := table.rows.map change
  nodup := by
    have hkeys : (Keyed.key ∘ change : ρ → Nat) = Keyed.key := funext hkey
    rw [List.map_map, hkeys]
    exact table.nodup

/-- Add a row whose key is not in use. -/
def insert? (table : Table ρ) (row : ρ) : Option (Table ρ) :=
  if hfresh : Keyed.key row ∉ table.rows.map Keyed.key then
    some ⟨row :: table.rows, List.nodup_cons.mpr ⟨hfresh, table.nodup⟩⟩
  else none

/-- Add rows one by one. -/
def insertAll? (table : Table ρ) (rows : List ρ) : Option (Table ρ) :=
  rows.foldlM insert? table

/-- The table without the rows which a filter selects. -/
def delete (table : Table ρ) (selected : ρ → Bool) : Table ρ where
  rows := table.rows.filter fun row => !selected row
  nodup := (List.filter_sublist.map Keyed.key).nodup table.nodup

theorem get?_mem {table : Table ρ} {id : Nat} {row : ρ} (h : table.get? id = some row) :
    row ∈ table.rows :=
  List.mem_of_find?_eq_some h

theorem get?_key {table : Table ρ} {id : Nat} {row : ρ} (h : table.get? id = some row) :
    Keyed.key row = id := by
  simpa using List.find?_some h

theorem get?_self {table : Table ρ} {id : Nat} {row : ρ} (h : table.get? id = some row) :
    table.get? (Keyed.key row) = some row := by
  rwa [get?_key h]

theorem select?_mem {table : Table ρ} {filter : ρ → Bool} {row : ρ}
    (h : table.select? filter = some row) : row ∈ table.rows :=
  List.mem_of_find?_eq_some h

theorem select?_filter {table : Table ρ} {filter : ρ → Bool} {row : ρ}
    (h : table.select? filter = some row) : filter row = true :=
  List.find?_some h

theorem select?_eq_none {table : Table ρ} {filter : ρ → Bool}
    (h : table.select? filter = none) : ∀ row ∈ table.rows, filter row = false := by
  simpa [select?] using h

theorem eq_of_key {table : Table ρ} {first second : ρ} (hfirst : first ∈ table.rows)
    (hsecond : second ∈ table.rows) (hkey : Keyed.key first = Keyed.key second) :
    first = second :=
  List.inj_on_of_nodup_map table.nodup hfirst hsecond hkey

theorem get?_eq_some_iff {table : Table ρ} {id : Nat} {row : ρ} :
    table.get? id = some row ↔ row ∈ table.rows ∧ Keyed.key row = id := by
  refine ⟨fun h => ⟨get?_mem h, get?_key h⟩, fun ⟨hmem, hkey⟩ => ?_⟩
  cases hget : table.get? id with
  | none =>
      have hnone := List.find?_eq_none.mp hget row hmem
      exact absurd hkey (by simpa using hnone)
  | some found =>
      rw [eq_of_key (get?_mem hget) hmem ((get?_key hget).trans hkey.symm)]

/-- A filter which at most one row meets selects that row. -/
theorem select?_eq_some_of_unique {table : Table ρ} {filter : ρ → Bool} {row : ρ}
    (hmem : row ∈ table.rows) (hfilter : filter row = true)
    (hunique : ∀ other ∈ table.rows, filter other = true → other = row) :
    table.select? filter = some row := by
  cases hselect : table.select? filter with
  | none => exact absurd hfilter (by simp [select?_eq_none hselect row hmem])
  | some found => rw [hunique found (select?_mem hselect) (select?_filter hselect)]

/-- Selecting by the key and a filter reads the row with the key and filters it. -/
theorem select?_key_eq_filter (table : Table ρ) (id : Nat) (filter : ρ → Bool) :
    table.select? (fun row => Keyed.key row == id && filter row) =
      (table.get? id).filter filter := by
  rw [Option.ext_iff]
  intro row
  simp only [Option.filter_eq_some_iff]
  constructor
  · intro hselect
    have hfilter := select?_filter hselect
    simp only [Bool.and_eq_true, beq_iff_eq] at hfilter
    exact ⟨get?_eq_some_iff.mpr ⟨select?_mem hselect, hfilter.1⟩, hfilter.2⟩
  · rintro ⟨hget, hfilter⟩
    apply select?_eq_some_of_unique (get?_mem hget)
    · simp [get?_key hget, hfilter]
    · intro other hother hmeets
      simp only [Bool.and_eq_true, beq_iff_eq] at hmeets
      exact eq_of_key hother (get?_mem hget) (hmeets.1.trans (get?_key hget).symm)

theorem mem_put_iff {table : Table ρ} {row other : ρ} :
    other ∈ (table.put row).rows ↔
      (other = row ∧ ∃ old ∈ table.rows, Keyed.key old = Keyed.key row) ∨
        (other ∈ table.rows ∧ Keyed.key other ≠ Keyed.key row) := by
  simp only [put, List.mem_map]
  constructor
  · rintro ⟨old, hold, rfl⟩
    split
    · rename_i hkey
      exact Or.inl ⟨rfl, old, hold, hkey⟩
    · rename_i hkey
      exact Or.inr ⟨hold, hkey⟩
  · rintro (⟨rfl, old, hold, hkey⟩ | ⟨hmem, hkey⟩)
    · exact ⟨old, hold, by simp [hkey]⟩
    · exact ⟨other, hmem, by simp [hkey]⟩

theorem mem_put_self {table : Table ρ} {old row : ρ} (hold : old ∈ table.rows)
    (hkey : Keyed.key row = Keyed.key old) : row ∈ (table.put row).rows :=
  mem_put_iff.mpr (Or.inl ⟨rfl, old, hold, hkey.symm⟩)

theorem mem_put_of_ne {table : Table ρ} {row other : ρ} (hother : other ∈ table.rows)
    (hkey : Keyed.key other ≠ Keyed.key row) : other ∈ (table.put row).rows :=
  mem_put_iff.mpr (Or.inr ⟨hother, hkey⟩)

/-- A row of the new table is the new version of the replaced row or an old row. -/
theorem mem_put_cases {table : Table ρ} {old row other : ρ}
    (hkey : Keyed.key row = Keyed.key old) (hother : other ∈ (table.put row).rows) :
    other = row ∨ (other ∈ table.rows ∧ other ≠ old) := by
  rcases mem_put_iff.mp hother with ⟨rfl, _⟩ | ⟨hmem, hne⟩
  · exact Or.inl rfl
  · refine Or.inr ⟨hmem, fun hsame => hne ?_⟩
    rw [hsame, hkey]

/-- An old row is the replaced row or is still there. -/
theorem mem_put_or_eq {table : Table ρ} {old row other : ρ} (hold : old ∈ table.rows)
    (hkey : Keyed.key row = Keyed.key old) (hother : other ∈ table.rows) :
    other = old ∨ other ∈ (table.put row).rows := by
  by_cases hsame : Keyed.key other = Keyed.key row
  · exact Or.inl (eq_of_key hother hold (hsame.trans hkey))
  · exact Or.inr (mem_put_of_ne hother hsame)

theorem get?_put_of_ne {table : Table ρ} {row : ρ} {id : Nat} (hne : id ≠ Keyed.key row) :
    (table.put row).get? id = table.get? id := by
  rw [Option.ext_iff]
  intro other
  simp only [get?_eq_some_iff, mem_put_iff]
  constructor
  · rintro ⟨⟨rfl, _⟩ | ⟨hmem, _⟩, hkey⟩
    · exact absurd hkey.symm hne
    · exact ⟨hmem, hkey⟩
  · rintro ⟨hmem, hkey⟩
    exact ⟨Or.inr ⟨hmem, hkey ▸ hne⟩, hkey⟩

theorem put_get?_self {table : Table ρ} {old row : ρ} (hold : old ∈ table.rows)
    (hkey : Keyed.key row = Keyed.key old) :
    (table.put row).get? (Keyed.key row) = some row :=
  get?_eq_some_iff.mpr ⟨mem_put_self hold hkey, rfl⟩

theorem insert?_eq_some_iff {table after : Table ρ} {row : ρ} :
    table.insert? row = some after ↔
      (∀ other ∈ table.rows, Keyed.key other ≠ Keyed.key row) ∧
        after.rows = row :: table.rows := by
  rcases after with ⟨rows, hnodup⟩
  unfold insert?
  constructor
  · intro h
    split at h
    · rename_i hfresh
      simp only [Option.some.injEq, mk.injEq] at h
      refine ⟨fun other hother hkey => hfresh ?_, h.symm⟩
      exact List.mem_map.mpr ⟨other, hother, hkey⟩
    · exact absurd h (by simp)
  · rintro ⟨hfresh, rfl⟩
    rw [dif_pos]
    intro hmem
    obtain ⟨other, hother, hkey⟩ := List.mem_map.mp hmem
    exact hfresh other hother hkey

theorem get?_insert? {table after : Table ρ} {row : ρ} (h : table.insert? row = some after)
    (id : Nat) : after.get? id = if id = Keyed.key row then some row else table.get? id := by
  have hrows := (insert?_eq_some_iff.mp h).2
  simp only [get?, hrows, List.find?_cons]
  split
  · rename_i hkey
    simp only [beq_iff_eq] at hkey
    rw [if_pos hkey.symm]
  · rename_i hkey
    rw [if_neg fun hsame => by simp [hsame] at hkey]

theorem get?_of_insert? {table after : Table ρ} {row : ρ} (h : table.insert? row = some after) :
    table.get? (Keyed.key row) = none := by
  cases hget : table.get? (Keyed.key row) with
  | none => rfl
  | some found =>
      exact absurd (get?_key hget) ((insert?_eq_some_iff.mp h).1 found (get?_mem hget))

theorem mem_insertAll? {table after : Table ρ} {inserted : List ρ}
    (h : table.insertAll? inserted = some after) {row : ρ} :
    row ∈ after.rows ↔ row ∈ inserted ∨ row ∈ table.rows := by
  induction inserted generalizing table with
  | nil =>
      have hsame : table = after := Option.some.inj h
      rw [hsame]
      simp
  | cons head tail ih =>
      obtain ⟨middle, hmiddle, htail⟩ := Option.bind_eq_some_iff.mp h
      rw [ih htail, (insert?_eq_some_iff.mp hmiddle).2, List.mem_cons, List.mem_cons]
      constructor
      · rintro (hmem | hhead | hold)
        · exact Or.inl (Or.inr hmem)
        · exact Or.inl (Or.inl hhead)
        · exact Or.inr hold
      · rintro ((hhead | hmem) | hold)
        · exact Or.inr (Or.inl hhead)
        · exact Or.inl hmem
        · exact Or.inr (Or.inr hold)

/-- Inserted rows have new keys. -/
theorem insertAll?_key_ne {table after : Table ρ} {inserted : List ρ}
    (h : table.insertAll? inserted = some after) {row old : ρ} (hrow : row ∈ inserted)
    (hold : old ∈ table.rows) : Keyed.key row ≠ Keyed.key old := by
  induction inserted generalizing table with
  | nil => exact absurd hrow (by simp)
  | cons head tail ih =>
      obtain ⟨middle, hmiddle, htail⟩ := Option.bind_eq_some_iff.mp h
      obtain ⟨hfresh, hrows⟩ := insert?_eq_some_iff.mp hmiddle
      rcases List.mem_cons.mp hrow with hhead | hmem
      · rw [hhead]
        exact (hfresh old hold).symm
      · apply ih htail hmem
        rw [hrows]
        exact List.mem_cons_of_mem head hold

@[simp]
theorem mem_delete_iff {table : Table ρ} {selected : ρ → Bool} {row : ρ} :
    row ∈ (table.delete selected).rows ↔ row ∈ table.rows ∧ selected row = false := by
  simp [delete]

/-- A row after several updates is one of the new versions or an old row. -/
theorem mem_putAll_cases {table : Table ρ} {updated : List ρ} {row : ρ}
    (h : row ∈ (updated.foldl put table).rows) : row ∈ updated ∨ row ∈ table.rows := by
  induction updated generalizing table with
  | nil => exact Or.inr h
  | cons head tail ih =>
      rcases ih h with htail | hput
      · exact Or.inl (List.mem_cons_of_mem head htail)
      · rcases mem_put_iff.mp hput with ⟨hsame, _⟩ | ⟨hmem, _⟩
        · exact Or.inl (hsame ▸ List.mem_cons_self)
        · exact Or.inr hmem

/-- The rows after updates under different keys: the new versions of rows in use, and the old
rows without a new version. -/
theorem mem_putAll_iff {table : Table ρ} {updated : List ρ}
    (hkeys : (updated.map Keyed.key).Nodup) {row : ρ} :
    row ∈ (updated.foldl put table).rows ↔
      (row ∈ updated ∧ ∃ old ∈ table.rows, Keyed.key old = Keyed.key row) ∨
        (row ∈ table.rows ∧ ∀ other ∈ updated, Keyed.key other ≠ Keyed.key row) := by
  induction updated generalizing table with
  | nil => simp
  | cons head tail ih =>
      rw [List.map_cons, List.nodup_cons] at hkeys
      have hhead : ∀ other ∈ tail, Keyed.key other ≠ Keyed.key head := by
        intro other hother hsame
        exact hkeys.1 (hsame ▸ List.mem_map_of_mem hother)
      rw [List.foldl_cons, ih hkeys.2]
      constructor
      · rintro (⟨htail, old, hold, hkey⟩ | ⟨hput, hothers⟩)
        · rcases mem_put_iff.mp hold with ⟨rfl, -⟩ | ⟨hmem, -⟩
          · exact absurd hkey.symm (hhead row htail)
          · exact .inl ⟨List.mem_cons_of_mem head htail, old, hmem, hkey⟩
        · rcases mem_put_iff.mp hput with ⟨rfl, hold⟩ | ⟨hmem, hne⟩
          · exact .inl ⟨List.mem_cons_self, hold⟩
          · exact .inr ⟨hmem, List.forall_mem_cons.mpr ⟨hne.symm, hothers⟩⟩
      · rintro (⟨hmem, hold⟩ | ⟨hmem, hothers⟩)
        · rcases List.mem_cons.mp hmem with rfl | htail
          · exact .inr ⟨mem_put_iff.mpr (.inl ⟨rfl, hold⟩), hhead⟩
          · obtain ⟨old, holdMem, hkey⟩ := hold
            have hne : Keyed.key old ≠ Keyed.key head := hkey ▸ hhead row htail
            exact .inl ⟨htail, old, mem_put_of_ne holdMem hne, hkey⟩
        · rw [List.forall_mem_cons] at hothers
          exact .inr ⟨mem_put_of_ne hmem hothers.1.symm, hothers.2⟩

/-- A new version which a filter selects only where it selects the old one adds no row. -/
theorem countP_put_le {table : Table ρ} {row : ρ} {filter : ρ → Bool}
    (hrow : ∀ old ∈ table.rows, Keyed.key old = Keyed.key row → filter row = true →
      filter old = true) : (table.put row).rows.countP filter ≤ table.rows.countP filter := by
  change (table.rows.map _).countP filter ≤ _
  rw [List.countP_map]
  apply List.countP_mono_left
  intro old hold h
  rw [Function.comp_apply] at h
  by_cases hkey : Keyed.key old = Keyed.key row
  · rw [if_pos hkey] at h
    exact hrow old hold hkey h
  · rwa [if_neg hkey] at h

/-- Updates keep the keys in use. -/
theorem exists_key_of_putAll {table : Table ρ} (updated : List ρ) {row : ρ}
    (hrow : row ∈ table.rows) :
    ∃ other ∈ (updated.foldl put table).rows, Keyed.key other = Keyed.key row := by
  induction updated generalizing table row with
  | nil => exact ⟨row, hrow, rfl⟩
  | cons head tail ih =>
      by_cases hkey : Keyed.key row = Keyed.key head
      · obtain ⟨other, hother, hsame⟩ := ih (mem_put_self hrow hkey.symm)
        exact ⟨other, hother, hsame.trans hkey.symm⟩
      · exact ih (mem_put_of_ne hrow hkey)

/-- Some key is not in use. -/
theorem exists_fresh (table : Table ρ) : ∃ id, table.get? id = none := by
  obtain ⟨id, hid⟩ := Infinite.exists_notMem_finset (table.rows.map Keyed.key).toFinset
  refine ⟨id, List.find?_eq_none.mpr fun row hrow hkey => hid ?_⟩
  rw [List.mem_toFinset]
  exact List.mem_map.mpr ⟨row, hrow, by simpa using hkey⟩

theorem exists_insert? {table : Table ρ} (row : ρ)
    (hfresh : table.get? (Keyed.key row) = none) :
    ∃ after, table.insert? row = some after ∧ row ∈ after.rows := by
  have hnew : Keyed.key row ∉ table.rows.map Keyed.key := by
    intro hmem
    obtain ⟨other, hother, hkey⟩ := List.mem_map.mp hmem
    exact absurd hkey (by simpa using List.find?_eq_none.mp hfresh other hother)
  exact ⟨_, dif_pos hnew, List.mem_cons_self⟩

end Table

end BuddyWeb
