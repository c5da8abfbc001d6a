/-
Sending an invitation: the canonical message, the locked pair, the stale invitation of the
pair, and the staged rows.
-/
import BuddyWeb.Matching.MatchingTables

namespace BuddyWeb

def maxInvitationMessageWords : Nat := 500

def maxOutgoingPendingInvitations : Nat := 30

inductive InvitationSendReason
  | messageTooManyWords
  | messageTooManyCodePoints
  | selfNotAllowed
  | senderIneligible
  | recipientIneligible
  | pendingLimitReached
  | pendingExists
  | activePairExists
  deriving DecidableEq, Repr

abbrev SendError : Type := InvitationError InvitationSendReason

structure CanonicalInvitationMessage where
  value : String
  wordCount : Nat
  codePointCount : Nat
  deriving DecidableEq, Repr

/-- The trimmed message within its limits. -/
def canonicalizeInvitationMessage (message : String) :
    Except SendError CanonicalInvitationMessage := do
  let canonical := pyStrip message
  ensure (canonical.length ≤ maxInvitationMessageCodePoints)
    (.rejected .messageTooManyCodePoints)
  let wordCount := (pySplit canonical).length
  ensure (wordCount ≤ maxInvitationMessageWords) (.rejected .messageTooManyWords)
  return ⟨canonical, wordCount, canonical.length⟩

section Pair

variable (unicode : UnicodeData) (db : MatchingDatabase) (current : VerifiedBuddyPrincipal)

/-- The user behind a public profile, before any lock. -/
def sendTarget (recipientProfileId : Nat) : Except SendError Nat := do
  let record ← require ((db.profiles.get? recipientProfileId).filter fun record =>
    record.profile.deletedAt.isNone) (.rejected .recipientIneligible)
  ensure (record.profile.userId ≠ current.user.id) (.rejected .selfNotAllowed)
  return record.profile.userId

/-- The check of the locked user rows. -/
def sendUsers (recipientUserId : Nat) : Except SendError (User × User) := do
  let sender ← require ((db.sessionUser current current.user.id).filter (·.isVerified))
    (.rejected .senderIneligible)
  let recipient ← require ((db.sessionUser current recipientUserId).filter (·.isVerified))
    (.rejected .recipientIneligible)
  ensure (sender.semesterId.isSome = true) (.rejected .senderIneligible)
  ensure (recipient.semesterId = sender.semesterId) (.rejected .recipientIneligible)
  return (sender, recipient)

/-- The check of the locked profile rows. -/
def sendPrincipals (users : User × User) (recipientProfileId recipientUserId : Nat) :
    Except SendError (EligibleMatchingPrincipal × EligibleMatchingPrincipal) := do
  let senderProfile ← require ((db.sessionProfile current current.user.id).filter
    fun record => record.profile.deletedAt.isNone) (.rejected .senderIneligible)
  let recipientProfile ← require ((db.sessionProfile current recipientUserId).filter
    fun record => record.profile.id = recipientProfileId && record.profile.deletedAt.isNone)
    (.rejected .recipientIneligible)
  let sender ← requireEligibility unicode db users.1 senderProfile .senderIneligible
  let recipient ← requireEligibility unicode db users.2 recipientProfile
    .recipientIneligible
  ensure (matchingPairIsEligible sender recipient = true) (.rejected .recipientIneligible)
  return (sender, recipient)

end Pair

/-- A pending invitation of the pair is in the way, unless its deadline has passed: then it
is expired first. -/
def expireOrRejectPendingPair (db : MatchingDatabase) (senderUserId recipientUserId : Nat)
    (instant : Int) : Except SendError (List MatchingInvitation) :=
  match pendingOfPair db.invitations senderUserId recipientUserId with
  | none => .ok []
  | some pending => do
      ensure (pending.expiresAt ≤ instant) (.rejected .pendingExists)
      let expired ← (pending.expire instant).mapError .transition
      return [expired]

/-- The pending invitations of a sender which are still usable. -/
def pendingCount (db : MatchingDatabase) (senderUserId : Nat) (instant : Int) : Nat :=
  (db.invitations.rows.filter fun invitation =>
    invitation.senderId = senderUserId && invitation.effectivePending instant).length

def sentInvitation (id senderId recipientId : Nat) (message : CanonicalInvitationMessage)
    (instant : Int) : MatchingInvitation where
  id := id
  senderId := senderId
  recipientId := recipientId
  message := message.value
  status := .pending
  createdAt := instant
  expiresAt := invitationExpiresAt instant
  respondedAt := none
  cancelledAt := none
  expiredAt := none
  senderHiddenAt := none
  deletedAt := none

def createdEvent (id : Nat) (invitation : MatchingInvitation) (instant : Int) :
    TransactionalOutbox where
  id := id
  aggregateId := invitation.id
  recipientUserId := invitation.recipientId
  idempotencyKey := .invitationCreated invitation.id
  payload := ⟨invitation.id, none, none⟩
  createdAt := instant

/-- The identifiers of the rows which a send creates. -/
structure SendIds where
  invitation : Nat
  event : Nat
  deriving DecidableEq, Repr

/-- What is staged under the locks of the pair. -/
def stageInvitation (db : MatchingDatabase)
    (principals : EligibleMatchingPrincipal × EligibleMatchingPrincipal)
    (message : CanonicalInvitationMessage) (instant : Int) (ids : SendIds) :
    Except SendError (MatchingInvitation × InvitationWrites) := do
  let senderId := principals.1.userId
  let recipientId := principals.2.userId
  let expired ← expireOrRejectPendingPair db senderId recipientId instant
  ensure (db.activePairExists senderId recipientId = false) (.rejected .activePairExists)
  ensure (pendingCount db senderId instant < maxOutgoingPendingInvitations)
    (.rejected .pendingLimitReached)
  -- The unique index on pending pairs.
  ensure (pendingOfPair (db.updateInvitations expired) senderId recipientId = none)
    (.rejected .pendingExists)
  let invitation := sentInvitation ids.invitation senderId recipientId message instant
  let event ← db.stageEvent (createdEvent ids.event invitation instant)
  return (invitation, {
    updated := expired
    created := some invitation
    event := some event })

/-- One send whose transaction no other one disturbs. -/
def sendMatchingInvitation (unicode : UnicodeData) (db : MatchingDatabase)
    (current : VerifiedBuddyPrincipal) (recipientProfileId : Nat) (message : String)
    (instant : Int) (ids : SendIds) :
    Except SendError (MatchingInvitation × MatchingDatabase) := do
  let message ← canonicalizeInvitationMessage message
  let recipientUserId ← sendTarget db current recipientProfileId
  let users ← sendUsers db current recipientUserId
  let principals ← sendPrincipals unicode db current users recipientProfileId
    recipientUserId
  let (invitation, writes) ← stageInvitation db principals message instant ids
  let after ← require (db.write writes) .integrity
  return (invitation, after)

end BuddyWeb
