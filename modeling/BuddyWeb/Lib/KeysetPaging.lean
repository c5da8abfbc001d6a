/-
Keyset pagination, newest first: each page is a window of the rows older than a
cursor, read from a table which may change between the pages.
-/
import Mathlib.Data.List.Sort
import Mathlib.Data.List.Nodup
import Mathlib.Data.List.Count

namespace BuddyWeb

universe u v

variable {ρ : Type u} {κ : Type v} [LinearOrder κ]

/-- A page in ascending order, with the cursor of the next older page. -/
structure KeysetPage (ρ : Type u) (κ : Type v) where
  items : List ρ
  next : Option κ

/-- A key which the page before a cursor may cover. -/
def OlderThan (before : Option κ) (position : κ) : Prop :=
  ∀ cursor ∈ before, position < cursor

instance (before : Option κ) (position : κ) : Decidable (OlderThan before position) := by
  unfold OlderThan
  infer_instance

theorem OlderThan.trans {before : Option κ} {cursor position : κ}
    (hcursor : OlderThan before cursor) (h : OlderThan (some cursor) position) :
    OlderThan before position :=
  fun bound hbound => (h cursor rfl).trans (hcursor bound hbound)

/-- The rows before a cursor in descending order. -/
def newestFirst (key : ρ → κ) (rows : List ρ) (before : Option κ) : List ρ :=
  (rows.filter fun row => OlderThan before (key row)).insertionSort
    fun first second => key second ≤ key first

/-- One page: a window with one look-ahead row, which only says that more rows follow. -/
def readPage (key : ρ → κ) (rows : List ρ) (before : Option κ) (size : Nat) :
    KeysetPage ρ κ :=
  let window := (newestFirst key rows before).take (size + 1)
  let selected := window.take size
  { items := selected.reverse
    next := if size < window.length then selected.getLast?.map key else none }

section Window

variable {key : ρ → κ} {rows : List ρ} {before : Option κ} {size : Nat}

theorem mem_newestFirst {row : ρ} :
    row ∈ newestFirst key rows before ↔ row ∈ rows ∧ OlderThan before (key row) := by
  simp [newestFirst]

/-- Rows with pairwise different keys are listed in strictly descending order. -/
theorem newestFirst_pairwise (hnodup : (rows.map key).Nodup) :
    (newestFirst key rows before).Pairwise fun first second => key second < key first := by
  have htotal : Std.Total fun first second : ρ => key second ≤ key first :=
    ⟨fun first second => le_total (key second) (key first)⟩
  have htrans : IsTrans ρ fun first second => key second ≤ key first :=
    ⟨fun _ _ _ hfirst hsecond => hsecond.trans hfirst⟩
  have hsorted : (newestFirst key rows before).Pairwise
      fun first second => key second ≤ key first :=
    List.pairwise_insertionSort _ _
  have hkeys : ((newestFirst key rows before).map key).Nodup := by
    have hperm : (newestFirst key rows before).Perm
        (rows.filter fun row => OlderThan before (key row)) :=
      List.perm_insertionSort _ _
    rw [(hperm.map key).nodup_iff]
    exact hnodup.sublist (List.filter_sublist.map key)
  rw [List.Nodup, List.pairwise_map] at hkeys
  exact hsorted.imp₂ (fun _ _ hle hne => lt_of_le_of_ne hle (Ne.symm hne)) hkeys

theorem readPage_items : (readPage key rows before size).items =
    ((newestFirst key rows before).take size).reverse := by
  simp [readPage, List.take_take]

theorem readPage_next : (readPage key rows before size).next =
    if size < (newestFirst key rows before).length then
      ((newestFirst key rows before).take size).getLast?.map key
    else none := by
  have hmore : size < min (size + 1) (newestFirst key rows before).length ↔
      size < (newestFirst key rows before).length := by
    omega
  simp [readPage, List.take_take, List.length_take, hmore]

theorem mem_items {row : ρ} (h : row ∈ (readPage key rows before size).items) :
    row ∈ rows ∧ OlderThan before (key row) := by
  rw [readPage_items, List.mem_reverse] at h
  exact mem_newestFirst.mp (List.mem_of_mem_take h)

theorem key_mem_items {row : ρ} (h : row ∈ (readPage key rows before size).items) :
    key row ∈ (readPage key rows before size).items.map key :=
  List.mem_map_of_mem h

/-- A page is in strictly ascending order. -/
theorem items_pairwise (hnodup : (rows.map key).Nodup) :
    (readPage key rows before size).items.Pairwise
      fun first second => key first < key second := by
  rw [readPage_items, List.pairwise_reverse]
  exact (newestFirst_pairwise hnodup).take

theorem items_count_le (before : Option κ) (size : Nat) (hnodup : (rows.map key).Nodup)
    (position : κ) : ((readPage key rows before size).items.map key).count position ≤ 1 := by
  have hkeys : ((readPage key rows before size).items.map key).Pairwise (· < ·) :=
    List.pairwise_map.mpr (items_pairwise hnodup)
  exact List.nodup_iff_count_le_one.mp (hkeys.imp ne_of_lt) position

/-- Without a next cursor the page holds every row before its own cursor. -/
theorem mem_items_of_next_none {row : ρ} (hnext : (readPage key rows before size).next = none)
    (hsize : 1 ≤ size) (hrow : row ∈ rows) (hold : OlderThan before (key row)) :
    row ∈ (readPage key rows before size).items := by
  have hmem := mem_newestFirst.mpr ⟨hrow, hold⟩
  rw [readPage_items, List.mem_reverse]
  rw [readPage_next] at hnext
  split at hnext
  · rename_i hmore
    have hempty : (newestFirst key rows before).take size = [] := by
      simpa using hnext
    rcases List.take_eq_nil_iff.mp hempty with hzero | hnil
    · omega
    · simp [hnil] at hmem
  · rename_i hall
    rwa [List.take_of_length_le (Nat.le_of_not_lt hall)]

/-- The next cursor is the key of the page's oldest row. -/
theorem next_eq_head {cursor : κ} (hnext : (readPage key rows before size).next = some cursor) :
    ∃ oldest, (readPage key rows before size).items.head? = some oldest ∧
      key oldest = cursor := by
  rw [readPage_next] at hnext
  split at hnext
  · obtain ⟨oldest, hlast, hkey⟩ := Option.map_eq_some_iff.mp hnext
    exact ⟨oldest, by rw [readPage_items, List.head?_reverse, hlast], hkey⟩
  · simp at hnext

/-- The next cursor splits the rows before the page's own cursor: those from it on are on
the page, and no others are. -/
theorem mem_items_iff {cursor : κ} {row : ρ} (hnodup : (rows.map key).Nodup)
    (hnext : (readPage key rows before size).next = some cursor) (hrow : row ∈ rows)
    (hold : OlderThan before (key row)) :
    row ∈ (readPage key rows before size).items ↔ cursor ≤ key row := by
  have hmem := mem_newestFirst.mpr ⟨hrow, hold⟩
  have hpairwise : (newestFirst key rows before).Pairwise
      fun first second => key second < key first := newestFirst_pairwise hnodup
  rw [readPage_next] at hnext
  split at hnext
  swap
  · simp at hnext
  obtain ⟨oldest, hlast, hkey⟩ := Option.map_eq_some_iff.mp hnext
  rw [readPage_items, List.mem_reverse]
  rw [← List.take_append_drop size (newestFirst key rows before)] at hmem hpairwise
  have hoverlap := (List.pairwise_append.mp hpairwise).2.2
  have hselected := (List.pairwise_append.mp hpairwise).1
  have holdest : oldest ∈ (newestFirst key rows before).take size :=
    List.mem_of_getLast? hlast
  constructor
  · intro hselectedMem
    obtain ⟨init, hinit⟩ := List.getLast?_eq_some_iff.mp hlast
    rw [hinit, List.mem_append, List.mem_singleton] at hselectedMem
    rw [hinit] at hselected
    rcases hselectedMem with hnewer | rfl
    · rw [← hkey]
      exact ((List.pairwise_append.mp hselected).2.2 row hnewer oldest
        List.mem_cons_self).le
    · exact hkey.ge
  · intro hle
    rcases List.mem_append.mp hmem with hin | hdropped
    · exact hin
    · have hlt := hoverlap oldest holdest row hdropped
      rw [hkey] at hlt
      exact absurd hlt (not_lt.mpr hle)

theorem next_olderThan {cursor : κ}
    (hnext : (readPage key rows before size).next = some cursor) :
    OlderThan before cursor := by
  obtain ⟨oldest, hhead, rfl⟩ := next_eq_head hnext
  exact (mem_items (List.mem_of_mem_head? hhead)).2

end Window

/-- Pages read from successive states of the rows, each before the cursor of the page
before it, until a page has none. -/
inductive Traversal (key : ρ → κ) : Option κ → List (List ρ) → List (KeysetPage ρ κ) → Prop
  | last {before : Option κ} {rows : List ρ} {size : Nat} (hsize : 1 ≤ size)
      (hnext : (readPage key rows before size).next = none) :
      Traversal key before [rows] [readPage key rows before size]
  | more {before : Option κ} {rows : List ρ} {size : Nat} {cursor : κ}
      {snapshots : List (List ρ)} {pages : List (KeysetPage ρ κ)} (hsize : 1 ≤ size)
      (hnext : (readPage key rows before size).next = some cursor)
      (hrest : Traversal key (some cursor) snapshots pages) :
      Traversal key before (rows :: snapshots) (readPage key rows before size :: pages)

namespace Traversal

variable {key : ρ → κ} {before : Option κ} {snapshots : List (List ρ)}
  {pages : List (KeysetPage ρ κ)}

theorem olderThan (htraversal : Traversal key before snapshots pages) :
    ∀ page ∈ pages, ∀ item ∈ page.items, OlderThan before (key item) := by
  induction htraversal with
  | last hsize hnext =>
      intro page hpage item hitem
      rw [List.mem_singleton] at hpage
      subst hpage
      exact (mem_items hitem).2
  | more hsize hnext hrest ih =>
      intro page hpage item hitem
      rcases List.mem_cons.mp hpage with rfl | hpage
      · exact (mem_items hitem).2
      · exact (next_olderThan hnext).trans (ih page hpage item hitem)

/-- Later pages are strictly older. -/
theorem pairwise (hnodup : ∀ rows ∈ snapshots, (rows.map key).Nodup)
    (htraversal : Traversal key before snapshots pages) :
    pages.Pairwise fun newer older =>
      ∀ first ∈ newer.items, ∀ second ∈ older.items, key second < key first := by
  induction htraversal with
  | last hsize hnext => simp
  | more hsize hnext hrest ih =>
      rw [List.pairwise_cons]
      refine ⟨?_, ih fun rows hrows => hnodup rows (List.mem_cons_of_mem _ hrows)⟩
      intro older holder first hfirst second hsecond
      have hmem := mem_items hfirst
      have hle := (mem_items_iff (hnodup _ List.mem_cons_self) hnext hmem.1 hmem.2).mp hfirst
      exact lt_of_lt_of_le (hrest.olderThan older holder second hsecond _ rfl) hle

/-- A key which every state of the rows holds is yielded exactly once. -/
theorem count_eq_one {position : κ} (hnodup : ∀ rows ∈ snapshots, (rows.map key).Nodup)
    (hold : OlderThan before position)
    (hpresent : ∀ rows ∈ snapshots, position ∈ rows.map key)
    (htraversal : Traversal key before snapshots pages) :
    ((pages.flatMap (·.items)).map key).count position = 1 := by
  induction htraversal with
  | @last before rows size hsize hnext =>
      obtain ⟨row, hrow, rfl⟩ := List.mem_map.mp (hpresent rows List.mem_cons_self)
      have hitem := mem_items_of_next_none hnext hsize hrow hold
      have hle := items_count_le before size (hnodup rows List.mem_cons_self) (key row)
      have hpos := List.count_pos_iff.mpr (key_mem_items hitem)
      simp only [List.flatMap_cons, List.flatMap_nil, List.append_nil]
      omega
  | @more before rows size cursor snapshots pages hsize hnext hrest ih =>
      obtain ⟨row, hrow, rfl⟩ := List.mem_map.mp (hpresent rows List.mem_cons_self)
      have hnodupHead := hnodup rows List.mem_cons_self
      have hsplit := mem_items_iff hnodupHead hnext hrow hold
      simp only [List.flatMap_cons, List.map_append, List.count_append]
      by_cases hcursor : cursor ≤ key row
      · have hitem := hsplit.mpr hcursor
        have hle := items_count_le before size hnodupHead (key row)
        have hpos := List.count_pos_iff.mpr (key_mem_items hitem)
        have hlater : ((pages.flatMap (·.items)).map key).count (key row) = 0 := by
          rw [List.count_eq_zero]
          intro hmem
          obtain ⟨item, hitem, hkey⟩ := List.mem_map.mp hmem
          obtain ⟨page, hpage, hitem⟩ := List.mem_flatMap.mp hitem
          have hlt := hrest.olderThan page hpage item hitem cursor rfl
          rw [hkey] at hlt
          exact absurd hlt (not_lt.mpr hcursor)
        omega
      · have hfirst : ((readPage key rows before size).items.map key).count (key row) = 0 := by
          rw [List.count_eq_zero]
          intro hmem
          obtain ⟨item, hitem, hkey⟩ := List.mem_map.mp hmem
          have hitemMem := mem_items hitem
          have hle := (mem_items_iff hnodupHead hnext hitemMem.1 hitemMem.2).mp hitem
          rw [hkey] at hle
          exact hcursor hle
        have hrestCount := ih (fun rows hrows => hnodup rows (List.mem_cons_of_mem _ hrows))
          (fun bound hbound => by
            rw [Option.mem_some_iff] at hbound
            exact hbound ▸ lt_of_not_ge hcursor)
          (fun rows hrows => hpresent rows (List.mem_cons_of_mem _ hrows))
        omega

/-- The same as a count of the yielded rows. -/
theorem countP_eq_one {position : κ} (hnodup : ∀ rows ∈ snapshots, (rows.map key).Nodup)
    (hold : OlderThan before position)
    (hpresent : ∀ rows ∈ snapshots, position ∈ rows.map key)
    (htraversal : Traversal key before snapshots pages) :
    (pages.flatMap (·.items)).countP (fun item => key item = position) = 1 := by
  have hcount := htraversal.count_eq_one hnodup hold hpresent
  rw [List.count, List.countP_map] at hcount
  exact hcount

end Traversal

end BuddyWeb
