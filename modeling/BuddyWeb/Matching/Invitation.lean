/-
The lifecycle of one invitation: its transitions with their timestamps, and the status
which it has in effect at an instant.
-/
import BuddyWeb.Lib.Outcome
import BuddyWeb.Matching.Records

namespace BuddyWeb

/-- Seven days in microseconds. -/
def invitationExpiryInterval : Int := 604800000000

def maxInvitationMessageCodePoints : Nat := 10000

def invitationExpiresAt (sentAt : Int) : Int :=
  sentAt + invitationExpiryInterval

/-- Why a transition raises. -/
inductive InvitationTransitionError
  | transition (current target : InvitationStatus)
  | expired
  | value (message : String)
  deriving DecidableEq, Repr

def isTerminalStatus : InvitationStatus → Bool
  | .pending => false
  | _ => true

namespace MatchingInvitation

/-- The row after a transition, with the timestamp of its new status. -/
def stamped (invitation : MatchingInvitation) (target : InvitationStatus) (instant : Int) :
    MatchingInvitation :=
  match target with
  | .pending => invitation
  | .accepted => { invitation with status := .accepted, respondedAt := some instant }
  | .declined => { invitation with status := .declined, respondedAt := some instant }
  | .cancelled => { invitation with status := .cancelled, cancelledAt := some instant }
  | .expired => { invitation with status := .expired, expiredAt := some instant }

def transition (invitation : MatchingInvitation) (target : InvitationStatus) (instant : Int) :
    Except InvitationTransitionError MatchingInvitation := do
  ensure (invitation.status = .pending ∧ isTerminalStatus target = true)
    (.transition invitation.status target)
  ensure (target = .expired ∨ instant < invitation.expiresAt) .expired
  ensure (invitation.createdAt ≤ instant)
    (.value "Invitation transition cannot predate creation.")
  return invitation.stamped target instant

def accept (invitation : MatchingInvitation) (instant : Int) :
    Except InvitationTransitionError MatchingInvitation :=
  invitation.transition .accepted instant

def expire (invitation : MatchingInvitation) (instant : Int) :
    Except InvitationTransitionError MatchingInvitation := do
  ensure (invitation.expiresAt ≤ instant)
    (.value "Invitation cannot expire before its persisted deadline.")
  invitation.transition .expired instant

/-- Hide an accepted row from its sender; a row which is hidden already stays as it is. -/
def hideFromSender (invitation : MatchingInvitation) (instant : Int) :
    Except InvitationTransitionError MatchingInvitation := do
  ensure (invitation.status = .accepted ∧ invitation.respondedAt.isSome = true)
    (.value "Only an accepted invitation can be hidden from its sender.")
  if invitation.senderHiddenAt.isSome then
    return invitation
  ensure (invitation.respondedAt.all (· ≤ instant) = true)
    (.value "Invitation sender hidden time cannot predate acceptance.")
  return { invitation with senderHiddenAt := some instant }

/-- A stale pending row counts as expired before any cleanup. -/
def effectiveStatus (invitation : MatchingInvitation) (instant : Int) : InvitationStatus :=
  if invitation.status = .pending ∧ invitation.expiresAt ≤ instant then .expired
  else invitation.status

def effectivePending (invitation : MatchingInvitation) (instant : Int) : Bool :=
  invitation.status = .pending && instant < invitation.expiresAt

def expiredPending (invitation : MatchingInvitation) (instant : Int) : Bool :=
  invitation.status = .pending && invitation.expiresAt ≤ instant

/-- The constraints of the table on the lifecycle columns. -/
structure Consistent (invitation : MatchingInvitation) : Prop where
  distinct : invitation.senderId ≠ invitation.recipientId
  expiresAt : invitation.expiresAt = invitationExpiresAt invitation.createdAt
  responded : invitation.respondedAt.isSome = true ↔
    invitation.status = .accepted ∨ invitation.status = .declined
  cancelled : invitation.cancelledAt.isSome = true ↔ invitation.status = .cancelled
  expired : invitation.expiredAt.isSome = true ↔ invitation.status = .expired
  hidden : invitation.senderHiddenAt.isSome = true → invitation.status = .accepted
  respondedAt : ∀ instant ∈ invitation.respondedAt, invitation.createdAt ≤ instant
  cancelledAt : ∀ instant ∈ invitation.cancelledAt, invitation.createdAt ≤ instant
  expiredAt : ∀ instant ∈ invitation.expiredAt, invitation.expiresAt ≤ instant
  hiddenAt : ∀ hidden ∈ invitation.senderHiddenAt, ∀ responded ∈ invitation.respondedAt,
    responded ≤ hidden

/-- A transition leaves a pending row for a terminal status, and only expiry may happen at
the deadline or later. -/
theorem transition_eq_ok_iff {invitation after : MatchingInvitation}
    {target : InvitationStatus} {instant : Int} :
    invitation.transition target instant = .ok after ↔
      (invitation.status = .pending ∧ isTerminalStatus target = true) ∧
        (target = .expired ∨ instant < invitation.expiresAt) ∧ invitation.createdAt ≤ instant ∧
        invitation.stamped target instant = after := by
  simp [transition]

theorem expire_eq_ok_iff {invitation after : MatchingInvitation} {instant : Int} :
    invitation.expire instant = .ok after ↔
      invitation.expiresAt ≤ instant ∧ invitation.status = .pending ∧
        invitation.createdAt ≤ instant ∧ invitation.stamped .expired instant = after := by
  simp [expire, transition_eq_ok_iff, isTerminalStatus]

theorem hideFromSender_eq_ok_iff {invitation after : MatchingInvitation} {instant : Int} :
    invitation.hideFromSender instant = .ok after ↔
      (invitation.status = .accepted ∧ invitation.respondedAt.isSome = true) ∧
        (invitation.senderHiddenAt.isSome = true ∧ invitation = after ∨
          invitation.senderHiddenAt = none ∧
            invitation.respondedAt.all (· ≤ instant) = true ∧
            { invitation with senderHiddenAt := some instant } = after) := by
  unfold hideFromSender
  cases hhidden : invitation.senderHiddenAt <;> simp

@[simp]
theorem stamped_id (invitation : MatchingInvitation) (target : InvitationStatus)
    (instant : Int) : (invitation.stamped target instant).id = invitation.id := by
  cases target <;> rfl

end MatchingInvitation

end BuddyWeb
