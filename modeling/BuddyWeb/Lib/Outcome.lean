/-
Successful outcomes of fallible computations, taken apart step by step.
-/
import Mathlib.Data.List.Basic

namespace BuddyWeb

universe u

variable {ε α β : Type u}

@[simp]
theorem except_bind_eq_ok_iff {outcome : Except ε α} {f : α → Except ε β} {value : β} :
    outcome >>= f = .ok value ↔ ∃ source, outcome = .ok source ∧ f source = .ok value := by
  cases outcome <;> simp [bind, Except.bind]

@[simp]
theorem except_map_eq_ok_iff {outcome : Except ε α} {f : α → β} {value : β} :
    outcome.map f = .ok value ↔ ∃ source, outcome = .ok source ∧ f source = value := by
  cases outcome <;> simp [Except.map]

@[simp]
theorem except_functor_map_eq_ok_iff {outcome : Except ε α} {f : α → β} {value : β} :
    f <$> outcome = .ok value ↔ ∃ source, outcome = .ok source ∧ f source = value :=
  except_map_eq_ok_iff

@[simp]
theorem except_pure_eq_ok_iff {source value : α} :
    (pure source : Except ε α) = .ok value ↔ source = value := by
  simp [pure, Except.pure]

@[simp]
theorem except_throw_ne_ok {error : ε} {value : α} :
    (throw error : Except ε α) ≠ .ok value := by
  simp [throw, throwThe, MonadExceptOf.throw]

/-- Continue when a condition holds and stop with an error when it does not. -/
def ensure (condition : Prop) [Decidable condition] (error : ε) : Except ε PUnit :=
  if condition then .ok PUnit.unit else .error error

@[simp]
theorem ensure_eq_ok_iff {condition : Prop} [Decidable condition] {error : ε}
    {value : PUnit} : ensure condition error = .ok value ↔ condition := by
  unfold ensure
  split <;> simp_all

theorem ensure_of_true {condition : Prop} [Decidable condition] (error : ε)
    (h : condition) : ensure condition error = .ok PUnit.unit :=
  ensure_eq_ok_iff.mpr h

/-- The value which must be there, or an error. -/
def require (value : Option α) (error : ε) : Except ε α :=
  match value with
  | some found => .ok found
  | none => .error error

@[simp]
theorem require_eq_ok_iff {value : Option α} {error : ε} {found : α} :
    require value error = .ok found ↔ value = some found := by
  cases value <;> simp [require]

theorem except_bind_eq_error_iff {outcome : Except ε α} {f : α → Except ε β} {error : ε} :
    outcome >>= f = .error error ↔
      outcome = .error error ∨ ∃ source, outcome = .ok source ∧ f source = .error error := by
  cases outcome <;> simp [bind, Except.bind]

theorem ensure_eq_error_iff {condition : Prop} [Decidable condition] {error raised : ε} :
    ensure condition error = .error raised ↔ ¬ condition ∧ error = raised := by
  unfold ensure
  split <;> simp_all

theorem require_eq_error_iff {value : Option α} {error raised : ε} :
    require value error = .error raised ↔ value = none ∧ error = raised := by
  cases value <;> simp [require]

theorem except_pure_ne_error {value : α} {error : ε} :
    (pure value : Except ε α) ≠ .error error := by
  simp [pure, Except.pure]

theorem exists_ok_of_toBool (outcome : Except ε α) (h : outcome.toBool = true) :
    ∃ value, outcome = .ok value := by
  cases outcome with
  | error error => simp [Except.toBool] at h
  | ok value => exact ⟨value, rfl⟩

theorem exists_error_of_toBool (outcome : Except ε α) (h : outcome.toBool = false) :
    ∃ error, outcome = .error error := by
  cases outcome with
  | error error => exact ⟨error, rfl⟩
  | ok value => simp [Except.toBool] at h

theorem ok_of_toOption {outcome : Except ε α} {value : α}
    (h : outcome.toOption = some value) : outcome = .ok value := by
  cases outcome with
  | error error => simp [Except.toOption] at h
  | ok found => simpa [Except.toOption] using h

@[simp]
theorem mapError_eq_ok_iff {ε' : Type u} {outcome : Except ε α} {f : ε → ε'} {value : α} :
    outcome.mapError f = .ok value ↔ outcome = .ok value := by
  cases outcome <;> simp [Except.mapError]

/-- A mapped check which only refuses keeps the list. -/
theorem mapM_eq_self {f : α → Except ε α} {entries values : List α}
    (hf : ∀ entry value, f entry = .ok value → value = entry)
    (h : entries.mapM f = .ok values) : values = entries := by
  induction entries generalizing values with
  | nil =>
      simp only [List.mapM_nil, except_pure_eq_ok_iff] at h
      exact h.symm
  | cons head tail ih =>
      simp only [List.mapM_cons, except_bind_eq_ok_iff, except_pure_eq_ok_iff] at h
      obtain ⟨first, hfirst, rest, hrest, rfl⟩ := h
      rw [hf head first hfirst, ih hrest]

/-- Mapping a computation over a list succeeds when it succeeds on each entry. -/
theorem exists_mapM_ok {f : α → Except ε β} {entries : List α}
    (hentries : ∀ entry ∈ entries, ∃ value, f entry = .ok value) :
    ∃ values, entries.mapM f = .ok values ∧ values.length = entries.length := by
  induction entries with
  | nil => exact ⟨[], by simp [pure, Except.pure]⟩
  | cons head tail ih =>
      obtain ⟨value, hvalue⟩ := hentries head List.mem_cons_self
      obtain ⟨values, hvalues, hlength⟩ := ih fun entry hentry =>
        hentries entry (List.mem_cons_of_mem head hentry)
      exact ⟨value :: values, by
        simp [List.mapM_cons, hvalue, hvalues, bind, Except.bind, pure, Except.pure],
        by simp [hlength]⟩

/-- A mapped computation succeeds only when it does on each entry. -/
theorem exists_ok_of_mapM {f : α → Except ε β} {entries : List α} {values : List β}
    (h : entries.mapM f = .ok values) : ∀ entry ∈ entries, ∃ value, f entry = .ok value := by
  induction entries generalizing values with
  | nil => simp
  | cons head tail ih =>
      simp only [List.mapM_cons, except_bind_eq_ok_iff, except_pure_eq_ok_iff] at h
      obtain ⟨first, hfirst, rest, hrest, rfl⟩ := h
      exact List.forall_mem_cons.mpr ⟨⟨first, hfirst⟩, ih hrest⟩

/-- Each result of a mapped computation is the result of an entry. -/
theorem exists_of_mem_mapM {f : α → Except ε β} {entries : List α} {values : List β}
    (h : entries.mapM f = .ok values) {value : β} (hvalue : value ∈ values) :
    ∃ entry ∈ entries, f entry = .ok value := by
  induction entries generalizing values with
  | nil =>
      simp only [List.mapM_nil, except_pure_eq_ok_iff] at h
      simp [← h] at hvalue
  | cons head tail ih =>
      simp only [List.mapM_cons, except_bind_eq_ok_iff, except_pure_eq_ok_iff] at h
      obtain ⟨first, hfirst, rest, hrest, rfl⟩ := h
      rcases List.mem_cons.mp hvalue with rfl | hmem
      · exact ⟨head, List.mem_cons_self, hfirst⟩
      · obtain ⟨entry, hentry, hresult⟩ := ih hrest hmem
        exact ⟨entry, List.mem_cons_of_mem head hentry, hresult⟩

/-- A computation which gives a known value for each entry gives the list of them. -/
theorem mapM_eq_ok_map {f : α → Except ε β} {g : α → β} {entries : List α}
    (h : ∀ entry ∈ entries, f entry = .ok (g entry)) :
    entries.mapM f = .ok (entries.map g) := by
  induction entries with
  | nil => rfl
  | cons head tail ih =>
      have htail := ih fun entry hentry => h entry (List.mem_cons_of_mem head hentry)
      rw [List.mapM_cons, h head List.mem_cons_self, htail]
      rfl

/-- The results of a mapped computation stand beside their entries. -/
theorem forall₂_of_mapM {f : α → Except ε β} {entries : List α} {values : List β}
    (h : entries.mapM f = .ok values) :
    List.Forall₂ (fun entry value => f entry = .ok value) entries values := by
  induction entries generalizing values with
  | nil =>
      simp only [List.mapM_nil, except_pure_eq_ok_iff] at h
      rw [← h]
      exact .nil
  | cons head tail ih =>
      simp only [List.mapM_cons, except_bind_eq_ok_iff, except_pure_eq_ok_iff] at h
      obtain ⟨value, hvalue, rest, hrest, rfl⟩ := h
      exact .cons hvalue (ih hrest)

/-- Computations which give known values, one for each entry, give the list of them. -/
theorem mapM_of_forall₂ {f : α → Except ε β} {entries : List α} {values : List β}
    (h : List.Forall₂ (fun entry value => f entry = .ok value) entries values) :
    entries.mapM f = .ok values := by
  induction h with
  | nil => rfl
  | cons hhead _ ih =>
      rw [List.mapM_cons, hhead, ih]
      rfl

/-- Two lists whose entries are computed alike. -/
theorem mapM_eq_of_forall₂ {γ : Type u} {f : α → Except ε β} {g : γ → Except ε β}
    {entries : List α} {others : List γ}
    (h : List.Forall₂ (fun entry other => f entry = g other) entries others) :
    entries.mapM f = others.mapM g := by
  induction h with
  | nil => rfl
  | cons hhead _ ih => rw [List.mapM_cons, List.mapM_cons, hhead, ih]

/-- What holds of an entry exactly when it holds of its result. -/
theorem exists_mem_iff_of_mapM {f : α → Except ε β} {entries : List α}
    {values : List β} (h : entries.mapM f = .ok values) {p : α → Prop} {q : β → Prop}
    (hiff : ∀ entry value, f entry = .ok value → (p entry ↔ q value)) :
    (∃ entry ∈ entries, p entry) ↔ ∃ value ∈ values, q value := by
  have hpairs := forall₂_of_mapM h
  clear h
  induction hpairs with
  | nil => simp
  | cons hhead _ ih =>
      simp only [List.mem_cons, exists_eq_or_imp]
      exact or_congr (hiff _ _ hhead) ih

/-- The error of a computation which stops with one. -/
def raised : Except ε α → Option ε
  | .error error => some error
  | .ok _ => none

@[simp]
theorem raised_ok (value : α) : raised (.ok value : Except ε α) = none :=
  rfl

@[simp]
theorem raised_error (error : ε) : raised (.error error : Except ε α) = some error :=
  rfl

theorem raised_eq_none_iff {outcome : Except ε α} :
    raised outcome = none ↔ ∃ value, outcome = .ok value := by
  cases outcome <;> simp [raised]

theorem raised_eq_some_iff {outcome : Except ε α} {error : ε} :
    raised outcome = some error ↔ outcome = .error error := by
  cases outcome <;> simp [raised]

@[simp]
theorem raised_map (outcome : Except ε α) (f : α → β) :
    raised (outcome.map f) = raised outcome := by
  cases outcome <;> rfl

theorem findSome?_flatMap {γ : Type u} (entries : List α) (f : α → List β)
    (p : β → Option γ) :
    (entries.flatMap f).findSome? p = entries.findSome? fun entry => (f entry).findSome? p := by
  induction entries with
  | nil => rfl
  | cons head tail ih =>
      rw [List.flatMap_cons, List.findSome?_append, ih, List.findSome?_cons]
      cases (f head).findSome? p <;> rfl

/-- A mapped computation stops at the first entry which stops it. -/
theorem raised_mapM (f : α → Except ε β) (entries : List α) :
    raised (entries.mapM f) = entries.findSome? fun entry => raised (f entry) := by
  induction entries with
  | nil => rfl
  | cons head tail ih =>
      rw [List.mapM_cons, List.findSome?_cons, ← ih]
      cases f head with
      | error error => rfl
      | ok value => cases tail.mapM f <;> rfl

/-- A mapped computation is cut where its list is cut. -/
theorem mapM_append_eq_ok {f : α → Except ε β} {first last : List α} {entry : α}
    {values : List β} (h : (first ++ entry :: last).mapM f = .ok values) : ∃ before value after,
      values = before ++ value :: after ∧ first.mapM f = .ok before ∧ f entry = .ok value := by
  simp only [List.mapM_append, List.mapM_cons, except_bind_eq_ok_iff,
    except_pure_eq_ok_iff] at h
  obtain ⟨before, hbefore, _, ⟨value, hvalue, after, _, rfl⟩, rfl⟩ := h
  exact ⟨before, value, after, rfl, hbefore, hvalue⟩

/-- The list of a mapped computation is cut where its values are cut. -/
theorem exists_append_of_mapM {f : α → Except ε β} {entries : List α}
    {before after : List β} {value : β} (h : entries.mapM f = .ok (before ++ value :: after)) :
    ∃ first entry last,
      entries = first ++ entry :: last ∧ first.mapM f = .ok before ∧ f entry = .ok value := by
  induction before generalizing entries with
  | nil =>
    cases entries with
    | nil => simp at h
    | cons head tail =>
      simp only [List.mapM_cons, except_bind_eq_ok_iff, except_pure_eq_ok_iff, List.nil_append,
        List.cons.injEq] at h
      obtain ⟨found, hfound, _, _, rfl, _⟩ := h
      exact ⟨[], head, tail, rfl, rfl, hfound⟩
  | cons earlier before ih =>
    cases entries with
    | nil => simp at h
    | cons head tail =>
      simp only [List.mapM_cons, except_bind_eq_ok_iff, except_pure_eq_ok_iff, List.cons_append,
        List.cons.injEq] at h
      obtain ⟨found, hfound, rest, hrest, rfl, rfl⟩ := h
      obtain ⟨first, entry, last, rfl, hfirst, hentry⟩ := ih hrest
      refine ⟨head :: first, entry, last, rfl, ?_, hentry⟩
      simp only [List.mapM_cons, except_bind_eq_ok_iff, except_pure_eq_ok_iff]
      exact ⟨found, hfound, before, hfirst, rfl⟩

end BuddyWeb
