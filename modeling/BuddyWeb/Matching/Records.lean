/-
The rows of the buddy relationship tables: invitations, matches and their
conversations.  Instants are microseconds since 1970 in UTC.
-/
import Mathlib.Data.Rat.Defs
import BuddyWeb.Lib.Table

namespace BuddyWeb

inductive InvitationStatus
  | pending
  | accepted
  | declined
  | cancelled
  | expired
  deriving DecidableEq, Repr

/-- A request of one student to another with its response lifecycle. -/
structure MatchingInvitation where
  id : Nat
  senderId : Nat
  recipientId : Nat
  message : String
  status : InvitationStatus
  createdAt : Int
  expiresAt : Int
  respondedAt : Option Int
  cancelledAt : Option Int
  expiredAt : Option Int
  senderHiddenAt : Option Int
  deletedAt : Option Int
  deriving DecidableEq, Repr

/-- The public numbers of one compatibility signal. -/
structure CompatibilitySignalExplanation where
  similarity : ℚ
  weight : Nat
  points : ℚ
  deriving DecidableEq, Repr

structure CompatibilityExplanation where
  interests : CompatibilitySignalExplanation
  activities : CompatibilitySignalExplanation
  availability : CompatibilitySignalExplanation
  languages : CompatibilitySignalExplanation
  major : CompatibilitySignalExplanation
  deriving DecidableEq, Repr

/-- The stored explanation of a score with the Monday of its reference week. -/
structure ScoreBreakdown where
  referenceWeekStart : Int
  explanation : CompatibilityExplanation
  deriving DecidableEq, Repr

inductive MatchStatus
  | active
  deriving DecidableEq, Repr

/-- An active relationship created from one accepted invitation. -/
structure BuddyMatch where
  id : Nat
  participantOneUserId : Nat
  participantTwoUserId : Nat
  participantOneProfileId : Nat
  participantTwoProfileId : Nat
  status : MatchStatus
  acceptedInvitationId : Nat
  semesterId : Nat
  score : Nat
  scoreBreakdown : ScoreBreakdown
  activatedAt : Int
  deletedAt : Option Int
  deriving DecidableEq, Repr

structure BuddyConversation where
  id : Nat
  matchId : Nat
  semesterId : Nat
  createdAt : Int
  deriving DecidableEq, Repr

instance : Keyed MatchingInvitation := ⟨MatchingInvitation.id⟩

instance : Keyed BuddyMatch := ⟨BuddyMatch.id⟩

instance : Keyed BuddyConversation := ⟨BuddyConversation.id⟩

/-- The identity of a pair of users in either order. -/
def canonicalUserPair (first second : Nat) : Nat × Nat :=
  if first < second then (first, second) else (second, first)

def MatchingInvitation.pair (invitation : MatchingInvitation) : Nat × Nat :=
  canonicalUserPair invitation.senderId invitation.recipientId

namespace BuddyMatch

def pair (buddyMatch : BuddyMatch) : Nat × Nat :=
  canonicalUserPair buddyMatch.participantOneUserId buddyMatch.participantTwoUserId

def hasParticipant (buddyMatch : BuddyMatch) (userId : Nat) : Bool :=
  buddyMatch.participantOneUserId = userId || buddyMatch.participantTwoUserId = userId

def isActive (buddyMatch : BuddyMatch) : Bool :=
  buddyMatch.status = .active

end BuddyMatch

end BuddyWeb
