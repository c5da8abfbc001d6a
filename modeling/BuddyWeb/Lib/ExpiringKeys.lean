/-
Keys which a store keeps for a period unless it loses them, and what is done at most once
while a key lives.
-/
import Mathlib.Data.List.Count
import Mathlib.Data.List.Pairwise

namespace BuddyWeb

universe u

/-- A key which a store keeps until an instant. -/
structure ExpiringKey (κ : Type u) where
  key : κ
  endsAt : Int
  deriving DecidableEq, Repr

/-- Something done under a key, and how often the store had lost the key before. -/
structure KeyedAct (κ : Type u) where
  key : κ
  losses : Nat
  actedAt : Int
  deriving DecidableEq, Repr

namespace ExpiringKeys

variable {κ : Type u} [DecidableEq κ]

def isLive (keys : List (ExpiringKey κ)) (now : Int) (key : κ) : Bool :=
  keys.any fun stored => stored.key = key && decide (now < stored.endsAt)

/-- A key is stored over its earlier entry. -/
def store (keys : List (ExpiringKey κ)) (key : κ) (endsAt : Int) : List (ExpiringKey κ) :=
  ⟨key, endsAt⟩ :: keys.filter fun stored => stored.key ≠ key

/-- The store loses some keys before their end. -/
def lose (keys : List (ExpiringKey κ)) (lost : List κ) : List (ExpiringKey κ) :=
  keys.filter fun stored => stored.key ∉ lost

/-- How often a key has been lost. -/
def losses (lost : List κ) (key : κ) : Nat := lost.count key

theorem losses_append (lost more : List κ) (key : κ) :
    losses (lost ++ more) key = losses lost key + losses more key :=
  List.count_append

/-- Acts of one key between two losses of it are a period apart, and until the next loss the
key of an act lives that long. -/
structure Spaced (period : Int) (keys : List (ExpiringKey κ)) (lost : List κ)
    (acts : List (KeyedAct κ)) (now : Int) : Prop where
  apart : acts.Pairwise fun first second =>
    first.key = second.key → first.losses = second.losses →
      first.actedAt + period ≤ second.actedAt
  counted : ∀ act ∈ acts, act.losses ≤ losses lost act.key
  guarded : ∀ act ∈ acts, act.losses = losses lost act.key → act.actedAt + period ≤ now ∨
    ∃ stored ∈ keys, stored.key = act.key ∧ act.actedAt + period ≤ stored.endsAt

variable {period now : Int} {keys : List (ExpiringKey κ)} {lost : List κ}
  {acts : List (KeyedAct κ)}

theorem lose_nil : lose keys [] = keys :=
  List.filter_eq_self.mpr (by simp)

theorem spaced_nil : Spaced period keys lost [] now :=
  ⟨.nil, by simp, by simp⟩

theorem le_of_not_live {stored : ExpiringKey κ}
    (h : isLive keys now stored.key = false) (hstored : stored ∈ keys) : stored.endsAt ≤ now := by
  by_contra hends
  rw [isLive, List.any_eq_false] at h
  exact h stored hstored (by simpa using hends)

namespace Spaced

variable (h : Spaced period keys lost acts now)

include h

theorem later {later : Int} (hlater : now ≤ later) : Spaced period keys lost acts later :=
  ⟨h.apart, h.counted, fun act hact hlosses => (h.guarded act hact hlosses).imp_left
    fun hpast => Int.le_trans hpast hlater⟩

/-- A lost key guards none of the earlier acts any more. -/
theorem lose (more : List κ) :
    Spaced period (ExpiringKeys.lose keys more) (lost ++ more) acts now := by
  refine ⟨h.apart, ?_, ?_⟩
  · intro act hact
    rw [losses_append]
    exact Nat.le_add_right_of_le (h.counted act hact)
  · intro act hact hlosses
    have hcounted := h.counted act hact
    rw [losses_append] at hlosses
    have hnone : losses more act.key = 0 := by omega
    have hkept : act.key ∉ more := List.count_eq_zero.mp hnone
    refine (h.guarded act hact (by omega)).imp_right ?_
    rintro ⟨stored, hstored, hguards, hbound⟩
    refine ⟨stored, List.mem_filter.mpr ⟨hstored, ?_⟩, hguards, hbound⟩
    rw [hguards]
    simpa using hkept

/-- An act whose key does not live stores its key anew. -/
theorem act {key : κ} (hkey : isLive keys now key = false) :
    Spaced period (store keys key (now + period)) lost
      (acts ++ [⟨key, losses lost key, now⟩]) now := by
  have hends : ∀ act ∈ acts, act.key = key → act.losses = losses lost key →
      act.actedAt + period ≤ now := by
    intro act hact hsame hlosses
    rw [← hsame] at hlosses
    rcases h.guarded act hact hlosses with hpast | ⟨stored, hstored, hguards, hbound⟩
    · exact hpast
    · have hdead : isLive keys now stored.key = false := by
        rw [hguards, hsame]
        exact hkey
      exact Int.le_trans hbound (le_of_not_live hdead hstored)
  refine ⟨?_, ?_, ?_⟩
  · rw [List.pairwise_append]
    refine ⟨h.apart, List.pairwise_singleton _ _, ?_⟩
    intro act hact last hlast hsame hlosses
    rw [List.mem_singleton.mp hlast] at hsame hlosses ⊢
    exact hends act hact hsame hlosses
  · intro act hact
    rcases List.mem_append.mp hact with hold | hnew
    · exact h.counted act hold
    · obtain rfl := List.mem_singleton.mp hnew
      exact Nat.le_refl _
  · intro act hact hlosses
    rcases List.mem_append.mp hact with hold | hnew
    · by_cases hsame : act.key = key
      · rw [hsame] at hlosses
        exact Or.inl (hends act hold hsame hlosses)
      · refine (h.guarded act hold hlosses).imp_right ?_
        rintro ⟨stored, hstored, hguards, hbound⟩
        refine ⟨stored, List.mem_cons_of_mem _ (List.mem_filter.mpr ⟨hstored, ?_⟩), hguards,
          hbound⟩
        rw [hguards]
        simpa using hsame
    · rw [List.mem_singleton.mp hnew]
      exact Or.inr ⟨_, List.mem_cons_self, rfl, Int.le_refl _⟩

end Spaced

end ExpiringKeys

end BuddyWeb
