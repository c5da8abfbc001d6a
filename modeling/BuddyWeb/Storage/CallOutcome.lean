/-
Calls to the database and to the object store, which can fail before or after they take
effect.
-/
namespace BuddyWeb

/-- What a failing call raises. -/
inductive RaisedError
  | storageOperation
  | exception
  /-- A cancellation, which is no `Exception`. -/
  | cancelled
  deriving DecidableEq, Repr

def RaisedError.isException : RaisedError → Bool
  | .cancelled => false
  | _ => true

/-- What becomes of a call to the database or to the object store. -/
inductive CallOutcome
  | returns
  | failsBefore (error : RaisedError)
  /-- The call took effect although it raises. -/
  | failsAfter (error : RaisedError)
  deriving DecidableEq, Repr

namespace CallOutcome

def error? : CallOutcome → Option RaisedError
  | .returns => none
  | .failsBefore error => some error
  | .failsAfter error => some error

def takesEffect : CallOutcome → Bool
  | .failsBefore _ => false
  | _ => true

@[simp] theorem error?_returns : returns.error? = none := rfl

@[simp] theorem error?_failsBefore (error : RaisedError) :
    (failsBefore error).error? = some error := rfl

@[simp] theorem error?_failsAfter (error : RaisedError) :
    (failsAfter error).error? = some error := rfl

@[simp] theorem takesEffect_returns : returns.takesEffect = true := rfl

@[simp] theorem takesEffect_failsBefore (error : RaisedError) :
    (failsBefore error).takesEffect = false := rfl

@[simp] theorem takesEffect_failsAfter (error : RaisedError) :
    (failsAfter error).takesEffect = true := rfl

theorem returns_of_error {outcome : CallOutcome} (h : outcome.error? = none) :
    outcome = .returns := by
  cases outcome with
  | returns => rfl
  | failsBefore error => cases h
  | failsAfter error => cases h

end CallOutcome

end BuddyWeb
