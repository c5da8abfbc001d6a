/-
Field validation: the paths and reasons of refused fields, and validators which
collect every error instead of stopping at the first.
-/
import BuddyWeb.Lib.Outcome

namespace BuddyWeb

universe u

/-- One step of the path at which a schema reports an error. -/
inductive Loc
  | field (name : String)
  | index (position : Nat)
  deriving DecidableEq, Repr

/-- Why a field was refused: a declared bound, or a validator's own message. -/
inductive FieldReason
  | greaterThanEqual (bound : Int)
  | lessThanEqual (bound : Int)
  | tooLong (bound : Nat)
  | tooShort (bound : Nat)
  | valueError (message : String)
  deriving DecidableEq, Repr

/-- A refused field with the path to it. -/
structure FieldError where
  loc : List Loc
  reason : FieldReason
  deriving DecidableEq, Repr

/-- The outcome of validating a value: the value, or all its refused fields. -/
abbrev Validated (α : Type u) : Type u :=
  Except (List FieldError) α

namespace Validated

variable {α β : Type u}

/-- Validate two parts and keep the errors of both. -/
def both (first : Validated α) (second : Validated β) : Validated (α × β) :=
  match first, second with
  | .ok left, .ok right => .ok (left, right)
  | .ok _, .error errors => .error errors
  | .error errors, .ok _ => .error errors
  | .error left, .error right => .error (left ++ right)

@[simp]
theorem both_eq_ok_iff {first : Validated α} {second : Validated β} {pair : α × β} :
    both first second = .ok pair ↔ first = .ok pair.1 ∧ second = .ok pair.2 := by
  rcases pair with ⟨left, right⟩
  cases first <;> cases second <;> simp [both]

/-- A validator's own message becomes an error at its field. -/
def atField (loc : List Loc) : Except String α → Validated α
  | .ok value => .ok value
  | .error message => .error [⟨loc, .valueError message⟩]

@[simp]
theorem atField_eq_ok_iff {loc : List Loc} {outcome : Except String α} {value : α} :
    atField loc outcome = .ok value ↔ outcome = .ok value := by
  cases outcome <;> simp [atField]

/-- A list field with a declared maximum length, checked before its validator. -/
def boundedList (loc : List Loc) (maximum : Nat) (entries : List α)
    (rest : Validated β) : Validated β :=
  if maximum < entries.length then .error [⟨loc, .tooLong maximum⟩] else rest

@[simp]
theorem boundedList_eq_ok_iff {loc : List Loc} {maximum : Nat} {entries : List α}
    {rest : Validated β} {value : β} :
    boundedList loc maximum entries rest = .ok value ↔
      entries.length ≤ maximum ∧ rest = .ok value := by
  unfold boundedList
  split
  · simp
    omega
  · simp
    omega

end Validated

/-- The declared bounds of an integer field. -/
def checkBounds (loc : List Loc) (low high value : Int) : List FieldError :=
  if value < low then [⟨loc, .greaterThanEqual low⟩]
  else if high < value then [⟨loc, .lessThanEqual high⟩]
  else []

theorem checkBounds_eq_nil_iff {loc : List Loc} {low high value : Int} :
    checkBounds loc low high value = [] ↔ low ≤ value ∧ value ≤ high := by
  unfold checkBounds
  split
  · simp
    omega
  · split
    · simp
      omega
    · simp
      omega

end BuddyWeb
