/-
Deletion under foreign keys.  A statement removes the selected rows of one
table; rows which refer to a removed row are removed with it or lose the
reference.  When the statements run from the referring tables to the tables they
refer to, nothing is left for the cascade.
-/
import Mathlib.Data.List.Basic

namespace BuddyWeb

universe u

variable {τ : Type} {Row : τ → Type u}

/-- The rows of each table. -/
abbrev Tables (Row : τ → Type u) : Type u := (table : τ) → List (Row table)

/-- A selection of rows in each table. -/
abbrev Selection (Row : τ → Type u) : Type u := (table : τ) → Row table → Bool

/-- The foreign keys of a schema: its tables, the referenced key of a row, the rows
it is deleted with, the rows it only loses its reference to, and that loss. -/
structure ForeignKeys (Row : τ → Type u) where
  tables : List τ
  mem_tables : ∀ table, table ∈ tables
  key : (table : τ) → Row table → Option Nat
  owners : (table : τ) → Row table → List (τ × Nat)
  optional : (table : τ) → Row table → List (τ × Nat)
  clear : List (τ × Nat) → (table : τ) → Row table → Row table
  clear_eq : ∀ gone table row, (∀ target ∈ optional table row, target ∉ gone) →
    clear gone table row = row

namespace ForeignKeys

variable (keys : ForeignKeys Row)

/-- The keys of the removed rows. -/
def gone (data : Tables Row) (removed : Selection Row) : List (τ × Nat) :=
  keys.tables.flatMap fun table =>
    ((data table).filter (removed table)).filterMap fun row =>
      (keys.key table row).map (table, ·)

/-- Remove the selected rows and clear the references to them. -/
def remove (data : Tables Row) (removed : Selection Row) : Tables Row :=
  fun table => ((data table).filter fun row => !removed table row).map
    (keys.clear (keys.gone data removed) table)

/-- The references of a row. -/
def references (table : τ) (row : Row table) : List (τ × Nat) :=
  keys.owners table row ++ keys.optional table row

/-- With a selected row every row is selected which refers to it. -/
def Closed (original : Tables Row) (selected : Selection Row) : Prop :=
  ∀ table, ∀ row ∈ original table, ∀ target ∈ keys.references table row,
    ∀ parent ∈ original target.1, keys.key target.1 parent = some target.2 →
      selected target.1 parent = true → selected table row = true

variable {keys}

theorem mem_gone_iff {data : Tables Row} {removed : Selection Row} {target : τ × Nat} :
    target ∈ keys.gone data removed ↔
      ∃ row ∈ data target.1, keys.key target.1 row = some target.2 ∧
        removed target.1 row = true := by
  rcases target with ⟨table, id⟩
  simp only [gone, List.mem_flatMap, List.mem_filterMap, List.mem_filter,
    Option.map_eq_some_iff, Prod.mk.injEq]
  constructor
  · rintro ⟨_, _, row, ⟨hrow, hremoved⟩, _, hkey, rfl, rfl⟩
    exact ⟨row, hrow, hkey, hremoved⟩
  · rintro ⟨row, hrow, hkey, hremoved⟩
    exact ⟨table, keys.mem_tables table, row, ⟨hrow, hremoved⟩, id, hkey, rfl, rfl⟩

/-- Rows whose references all stay are only filtered. -/
theorem remove_eq_filter {data : Tables Row} {removed : Selection Row}
    (hoptional : ∀ table, ∀ row ∈ data table, removed table row = false →
      ∀ target ∈ keys.optional table row, target ∉ keys.gone data removed) :
    keys.remove data removed =
      fun table => (data table).filter fun row => !removed table row := by
  funext table
  rw [remove]
  conv_rhs => rw [← List.map_id ((data table).filter fun row => !removed table row)]
  apply List.map_congr_left
  intro row hrow
  obtain ⟨hmem, hkept⟩ := List.mem_filter.mp hrow
  exact keys.clear_eq _ table row (hoptional table row hmem (by simpa using hkept))

variable [DecidableEq τ]

variable (keys) in
/-- Remove the selected rows, then the rows which they own, and so on. -/
def cascade : Nat → Tables Row → Selection Row → Tables Row
  | 0, data, removed => keys.remove data removed
  | rounds + 1, data, removed =>
      match keys.gone data removed with
      | [] => keys.remove data removed
      | lost :: rest => cascade rounds (keys.remove data removed) fun table row =>
          (keys.owners table row).any fun owner => (lost :: rest).contains owner

variable (keys) in
/-- Delete the selected rows of one table. -/
def deleteFrom (rounds : Nat) (data : Tables Row) (table : τ) (selected : Selection Row) :
    Tables Row :=
  keys.cascade rounds data fun other row => decide (other = table) && selected other row

/-- Selecting no row deletes nothing. -/
theorem cascade_of_none {data : Tables Row} {removed : Selection Row} (rounds : Nat)
    (hnone : ∀ table, ∀ row ∈ data table, removed table row = false) :
    keys.cascade rounds data removed = data := by
  have hgone : keys.gone data removed = [] := by
    rw [List.eq_nil_iff_forall_not_mem]
    intro target htarget
    obtain ⟨row, hrow, _, hremoved⟩ := mem_gone_iff.mp htarget
    exact absurd hremoved (by simp [hnone target.1 row hrow])
  have hremove : keys.remove data removed = data := by
    rw [remove_eq_filter (by simp [hgone])]
    funext table
    exact List.filter_eq_self.mpr fun row hrow => by simp [hnone table row hrow]
  cases rounds with
  | zero => exact hremove
  | succ rounds =>
      rw [cascade, hgone]
      exact hremove

/-- Deleting rows to which no kept row refers only filters them out. -/
theorem cascade_eq_filter {data : Tables Row} {removed : Selection Row} (rounds : Nat)
    (hkept : ∀ table, ∀ row ∈ data table, removed table row = false →
      ∀ target ∈ keys.references table row, target ∉ keys.gone data removed) :
    keys.cascade rounds data removed =
      fun table => (data table).filter fun row => !removed table row := by
  have hremove : keys.remove data removed =
      fun table => (data table).filter fun row => !removed table row :=
    remove_eq_filter fun table row hrow hremoved target htarget =>
      hkept table row hrow hremoved target (List.mem_append_right _ htarget)
  cases rounds with
  | zero => exact hremove
  | succ rounds =>
      rw [cascade]
      split
      · exact hremove
      · rename_i lost rest hgone
        rw [hremove]
        apply cascade_of_none
        intro table row hrow
        obtain ⟨hmem, hnot⟩ := List.mem_filter.mp hrow
        rw [List.any_eq_false]
        intro owner howner
        have howner' := hkept table row hmem (by simpa using hnot) owner
          (List.mem_append_left _ howner)
        rw [hgone] at howner'
        simpa using howner'

/-- The tables of `done` have lost exactly their selected rows. -/
def Swept (original : Tables Row) (selected : Selection Row) (done : List τ)
    (data : Tables Row) : Prop :=
  ∀ table, data table =
    if table ∈ done then (original table).filter fun row => !selected table row
    else original table

theorem swept_nil (original : Tables Row) (selected : Selection Row) :
    Swept original selected [] original := by
  intro table
  simp

/-- Once the tables which refer to it are swept, a table is swept by one
statement and no other table changes. -/
theorem Swept.deleteFrom {original data : Tables Row} {selected : Selection Row}
    {done : List τ} {table : τ} (hswept : Swept original selected done data)
    (hclosed : Closed keys original selected)
    (hreferring : ∀ other, ∀ row ∈ original other, ∀ target ∈ keys.references other row,
      target.1 = table → other ∈ done) (rounds : Nat) :
    Swept original selected (table :: done) (keys.deleteFrom rounds data table selected) := by
  have hsubset : ∀ other, ∀ row ∈ data other, row ∈ original other := by
    intro other row hrow
    rw [hswept other] at hrow
    split at hrow
    · exact List.mem_of_mem_filter hrow
    · exact hrow
  have hdelete : keys.deleteFrom rounds data table selected = fun other =>
      (data other).filter fun row => !(decide (other = table) && selected other row) :=
    cascade_eq_filter rounds ?_
  · intro other
    rw [hdelete]
    simp only [hswept other]
    by_cases htable : other = table
    · subst htable
      by_cases hdone : other ∈ done
      · simp [hdone, List.filter_filter]
      · simp [hdone]
    · simp only [htable, decide_false, Bool.false_and, Bool.not_false, List.filter_true,
        List.mem_cons, false_or]
  · intro other row hrow _ target htarget hgone
    obtain ⟨parent, hparent, hkey, hremoved⟩ := mem_gone_iff.mp hgone
    simp only [Bool.and_eq_true, decide_eq_true_eq] at hremoved
    obtain ⟨htable, hselected⟩ := hremoved
    have hdone := hreferring other row (hsubset other row hrow) target htarget htable
    have hnot : selected other row = false := by
      rw [hswept other, if_pos hdone] at hrow
      simpa using (List.mem_filter.mp hrow).2
    have hchild := hclosed other row (hsubset other row hrow) target htarget parent
      (hsubset target.1 parent hparent) hkey hselected
    exact absurd hchild (by simp [hnot])

end ForeignKeys

end BuddyWeb
