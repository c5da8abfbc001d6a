/-
A log of broadcasts, and what of it reaches a listener who joined on the way.
-/
import Mathlib.Data.List.Basic
import Mathlib.Data.List.Forall2

namespace BuddyWeb

universe u

/-- A listener who joined after the first `start` entries of a log has got the later entries
which concern it in their order, and all of them when none was lost. -/
structure HeardFrom {α : Type u} (log : List α) (start : Nat) (concerns : α → Bool)
    (lossless : Prop) (heard : List α) : Prop where
  joined : start ≤ log.length
  inOrder : heard.Sublist ((log.drop start).filter concerns)
  complete : lossless → heard = (log.drop start).filter concerns

namespace HeardFrom

variable {α : Type u} {log heard fewer : List α} {entry : α} {start : Nat}
  {concerns : α → Bool} {lossless weaker : Prop}

/-- A listener who joins now has missed nothing. -/
theorem join : HeardFrom log log.length concerns lossless [] where
  joined := Nat.le_refl _
  inOrder := List.nil_sublist _
  complete := by simp

/-- A listener who has not joined waits for nothing. -/
theorem absent (h : ¬ lossless) : HeardFrom log 0 concerns lossless [] where
  joined := Nat.zero_le _
  inOrder := List.nil_sublist _
  complete := fun hlossless => absurd hlossless h

theorem weaken (h : HeardFrom log start concerns lossless heard) (hweaker : weaker → lossless) :
    HeardFrom log start concerns weaker heard where
  joined := h.joined
  inOrder := h.inOrder
  complete := fun hholds => h.complete (hweaker hholds)

theorem drop_append (h : start ≤ log.length) :
    ((log ++ [entry]).drop start).filter concerns =
      (log.drop start).filter concerns ++ [entry].filter concerns := by
  rw [List.drop_append_of_le_length h, List.filter_append]

/-- A broadcast reaches a listener whom it concerns. -/
theorem broadcast (h : HeardFrom log start concerns lossless heard)
    (hconcerns : concerns entry = true) :
    HeardFrom (log ++ [entry]) start concerns lossless (heard ++ [entry]) where
  joined := by
    rw [List.length_append]
    exact Nat.le_add_right_of_le h.joined
  inOrder := by
    rw [drop_append h.joined, List.filter_singleton, hconcerns]
    exact h.inOrder.append (List.Sublist.refl _)
  complete := by
    intro hlossless
    rw [drop_append h.joined, List.filter_singleton, hconcerns, h.complete hlossless]
    rfl

/-- A broadcast does not reach a listener whom it does not concern, or who has lost some. -/
theorem overheard (h : HeardFrom log start concerns lossless heard)
    (hmissed : concerns entry = false ∨ ¬ lossless) :
    HeardFrom (log ++ [entry]) start concerns lossless heard where
  joined := by
    rw [List.length_append]
    exact Nat.le_add_right_of_le h.joined
  inOrder := by
    rw [drop_append h.joined]
    exact h.inOrder.trans (List.sublist_append_left _ _)
  complete := by
    intro hlossless
    rcases hmissed with hother | hlost
    · rw [drop_append h.joined, List.filter_singleton, hother, h.complete hlossless]
      exact (List.append_nil _).symm
    · exact absurd hlossless hlost

/-- A listener may lose entries which have reached it. -/
theorem lose (h : HeardFrom log start concerns lossless heard) (hfewer : fewer.Sublist heard)
    (hlost : ¬ weaker) : HeardFrom log start concerns weaker fewer where
  joined := h.joined
  inOrder := hfewer.trans h.inOrder
  complete := fun hholds => absurd hholds hlost

end HeardFrom

section Places

variable {α : Type u} {related : α → α → Prop}

/-- Every item moves by `move`, and the one at a position further by `change`. -/
theorem forall₂_modify {items : List α} {move change : α → α} {position : Nat}
    (hmove : ∀ item ∈ items, related item (move item))
    (hchange : ∀ item, items[position]? = some item → related item (change (move item))) :
    List.Forall₂ related items ((items.map move).modify position change) := by
  induction items generalizing position with
  | nil => simp
  | cons head tail ih =>
      have htail := fun item hitem => hmove item (List.mem_cons_of_mem head hitem)
      cases position with
      | zero =>
          refine .cons (hchange head rfl) ?_
          rw [List.forall₂_map_right_iff, List.forall₂_same]
          exact htail
      | succ position =>
          exact .cons (hmove head List.mem_cons_self) (ih htail hchange)

/-- The item at a position is replaced. -/
theorem forall₂_set {items : List α} {changed : α} {position : Nat}
    (hkept : ∀ item ∈ items, related item item)
    (hchanged : ∀ item, items[position]? = some item → related item changed) :
    List.Forall₂ related items (items.set position changed) := by
  have hmodified := @forall₂_modify α related items id (fun _ => changed) position hkept hchanged
  rwa [List.map_id, ← List.set_eq_modify] at hmodified

/-- What stands at a position after the items have moved and others were added. -/
theorem getElem?_of_forall₂_append {items moved added : List α} {current : α} {position : Nat}
    (hmoves : List.Forall₂ related items moved)
    (hcurrent : (moved ++ added)[position]? = some current) :
    (∃ item, items[position]? = some item ∧ related item current) ∨ current ∈ added := by
  induction hmoves generalizing position with
  | nil => exact Or.inr (List.mem_of_getElem? hcurrent)
  | @cons head changed tail rest hhead _ ih =>
      cases position with
      | zero => exact Or.inl ⟨head, rfl, Option.some.inj hcurrent ▸ hhead⟩
      | succ position => exact ih hcurrent

end Places

/-- A value which no two related entries both have occurs once at most. -/
theorem count_map_le_one {α β : Type u} [BEq β] [LawfulBEq β] {related : α → α → Prop}
    {items : List α} {f : α → β} {value : β} (hpairs : items.Pairwise related)
    (hapart : ∀ first ∈ items, ∀ second ∈ items, f first = value → f second = value →
      ¬ related first second) : (items.map f).count value ≤ 1 := by
  induction items with
  | nil => simp
  | cons head tail ih =>
      obtain ⟨hhead, htail⟩ := List.pairwise_cons.mp hpairs
      have hrest := ih htail fun first hfirst second hsecond =>
        hapart first (List.mem_cons_of_mem _ hfirst) second (List.mem_cons_of_mem _ hsecond)
      rw [List.map_cons, List.count_cons]
      by_cases hvalue : f head = value
      · have hnone : (tail.map f).count value = 0 := by
          rw [List.count_eq_zero, List.mem_map]
          rintro ⟨other, hother, hsame⟩
          exact hapart head List.mem_cons_self other (List.mem_cons_of_mem _ hother) hvalue hsame
            (hhead other hother)
        rw [hnone]
        split <;> omega
      · simpa [hvalue] using hrest

end BuddyWeb
