/-
Accounts, as far as the services which own other data read them.
-/
import Mathlib.Init

namespace BuddyWeb

inductive UserRole
  | user
  | admin
  deriving DecidableEq, Repr

/-- An account row. -/
structure User where
  id : Nat
  role : UserRole
  isActive : Bool
  deletedAt : Option Nat
  emailVerifiedAt : Option Nat
  semesterId : Option Nat
  deriving DecidableEq, Repr

/-- The account may act as a student: the check repeated by every owner-bound
service. -/
def User.isAvailable (user : User) : Bool :=
  user.role = .user && user.isActive && user.deletedAt.isNone

inductive StudentType
  | vietnamese
  | international
  deriving DecidableEq, Repr

end BuddyWeb
