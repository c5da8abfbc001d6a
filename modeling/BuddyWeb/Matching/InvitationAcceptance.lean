/-
Accepting an invitation: what is observed before any lock, the locked participants, and
the match, conversation and event which are staged under the lock of the invitation.
-/
import BuddyWeb.Matching.MatchingTables

namespace BuddyWeb

inductive InvitationAcceptReason
  | notFound
  | expired
  | notPending
  | recipientIneligible
  | participantIneligible
  | oppositeTypesRequired
  | activePairExists
  | stateConflict
  deriving DecidableEq, Repr

abbrev AcceptError : Type := InvitationError InvitationAcceptReason

inductive BuddyMatchActivationReason
  | invitationNotAccepted
  | participantStateInvalid
  | oppositeTypesRequired
  | activePairExists
  deriving DecidableEq, Repr

def mapActivationError : BuddyMatchActivationReason → InvitationAcceptReason
  | .participantStateInvalid => .participantIneligible
  | .oppositeTypesRequired => .oppositeTypesRequired
  | .activePairExists => .activePairExists
  | .invitationNotAccepted => .stateConflict

def activationError (reason : BuddyMatchActivationReason) : AcceptError :=
  .rejected (mapActivationError reason)

structure InvitationAcceptanceResult where
  invitationId : Nat
  matchId : Nat
  conversationId : Nat
  deriving DecidableEq, Repr

/-- The day of an instant in UTC. -/
def utcDate (instant : Int) : Int :=
  instant / 86400000000

/-- The Monday of the week of an instant. -/
def currentReferenceWeekStart (now : Int) : Int :=
  utcDate now - (utcDate now + 3) % 7

theorem isMonday_currentReferenceWeekStart (now : Int) :
    isMonday (currentReferenceWeekStart now) = true := by
  unfold isMonday currentReferenceWeekStart
  rw [decide_eq_true_eq]
  omega

/-- The public numbers of a score with its reference week, as a match stores them. -/
def compatibilityScoreSnapshot (context : ScoringContext) (score : CompatibilityScore) :
    Validated ScoreBreakdown := do
  let explanation ← projectCompatibilityExplanation context score
  return ⟨score.referenceWeekStart, explanation⟩

section Loading

variable (db : MatchingDatabase)

def loadOwnedInvitation (invitationId recipientUserId : Nat) :
    Except AcceptError MatchingInvitation :=
  require (db.invitations.select? fun invitation =>
    invitation.id = invitationId && invitation.recipientId = recipientUserId &&
      invitation.deletedAt.isNone) (.rejected .notFound)

/-- The receipt of an acceptance which has taken place. -/
def loadCompletedResult (invitation : MatchingInvitation) :
    Except AcceptError InvitationAcceptanceResult := do
  let buddyMatch ← require (db.buddyMatches.select? fun buddyMatch =>
    buddyMatch.acceptedInvitationId = invitation.id && buddyMatch.deletedAt.isNone)
    (.rejected .stateConflict)
  let conversation ← require (db.conversations.select? fun conversation =>
    conversation.matchId = buddyMatch.id) (.rejected .stateConflict)
  return ⟨invitation.id, buddyMatch.id, conversation.id⟩

/-- What the invitation shows before any lock is taken. -/
def observeInvitation (current : VerifiedBuddyPrincipal) (invitationId : Nat)
    (instant : Int) :
    Except AcceptError (InvitationAcceptanceResult ⊕ MatchingInvitation) := do
  let observed ← loadOwnedInvitation db invitationId current.user.id
  if observed.status = .accepted then
    return .inl (← loadCompletedResult db observed)
  ensure (observed.status = .pending) (.rejected .notPending)
  ensure (observed.effectiveStatus instant ≠ .expired) (.rejected .expired)
  return .inr observed

end Loading

structure LockedBuddyParticipants where
  senderUser : User
  recipientUser : User
  senderProfile : ProfileRecord
  recipientProfile : ProfileRecord

section Participants

variable (unicode : UnicodeData) (db : MatchingDatabase) (current : VerifiedBuddyPrincipal)

/-- The locked user rows must be available students. -/
def lockCurrentBuddyUsers (invitation : MatchingInvitation) :
    Except AcceptError (User × User) := do
  ensure (invitation.senderId ≠ invitation.recipientId)
    (.participants "A Buddy Match requires two distinct users.")
  let sender ← require
    ((db.sessionUser current invitation.senderId).filter (·.isAvailable))
    (activationError .participantStateInvalid)
  let recipient ← require
    ((db.sessionUser current invitation.recipientId).filter (·.isAvailable))
    (activationError .participantStateInvalid)
  return (sender, recipient)

/-- The two student types, in either order. -/
def haveOppositeTypes (first second : StudentProfile) : Bool :=
  first.studentType = some .vietnamese && second.studentType = some .international ||
    first.studentType = some .international && second.studentType = some .vietnamese

/-- The check of the locked user and profile rows. -/
def lockBuddyMatchParticipants (users : User × User) (invitation : MatchingInvitation) :
    Except AcceptError LockedBuddyParticipants := do
  let senderProfile ← require ((db.sessionProfile current invitation.senderId).filter
    fun record => record.profile.deletedAt.isNone) (activationError .participantStateInvalid)
  let recipientProfile ← require
    ((db.sessionProfile current invitation.recipientId).filter
      fun record => record.profile.deletedAt.isNone)
    (activationError .participantStateInvalid)
  ensure (users.1.semesterId.isSome = true ∧ users.1.semesterId = users.2.semesterId)
    (activationError .participantStateInvalid)
  ensure (haveOppositeTypes senderProfile.profile recipientProfile.profile = true)
    (activationError .oppositeTypesRequired)
  return ⟨users.1, users.2, senderProfile, recipientProfile⟩

/-- The participants, and the eligibility of both. -/
def acceptParticipants (users : User × User) (invitation : MatchingInvitation) :
    Except AcceptError (LockedBuddyParticipants ×
      EligibleMatchingPrincipal × EligibleMatchingPrincipal) := do
  let participants ← lockBuddyMatchParticipants db current users invitation
  let sender ← requireEligibility unicode db participants.senderUser
    participants.senderProfile .participantIneligible
  let recipient ← requireEligibility unicode db participants.recipientUser
    participants.recipientProfile .recipientIneligible
  ensure (recipient.userId = current.user.id) (.rejected .notFound)
  ensure (matchingPairIsEligible sender recipient = true)
    (.rejected .oppositeTypesRequired)
  return (participants, sender, recipient)

end Participants

/-- The identifiers of the rows which an acceptance creates. -/
structure AcceptIds where
  buddyMatch : Nat
  conversation : Nat
  event : Nat
  deriving DecidableEq, Repr

def acceptedEvent (id : Nat) (invitation : MatchingInvitation) (buddyMatch : BuddyMatch)
    (conversation : BuddyConversation) (instant : Int) : TransactionalOutbox where
  id := id
  aggregateId := invitation.id
  recipientUserId := invitation.senderId
  idempotencyKey := .invitationAccepted invitation.id
  payload := ⟨invitation.id, some buddyMatch.id, some conversation.id⟩
  createdAt := instant

section Staging

variable (context : ScoringContext) (db : MatchingDatabase)

/-- The active match of an accepted invitation. -/
def activateBuddyMatch (id : Nat) (invitation : MatchingInvitation)
    (participants : LockedBuddyParticipants) (compatibility : CompatibilityScore)
    (instant : Int) : Except AcceptError BuddyMatch := do
  ensure (invitation.status = .accepted) (activationError .invitationNotAccepted)
  ensure (participants.senderUser.id = invitation.senderId ∧
      participants.recipientUser.id = invitation.recipientId ∧
      participants.senderProfile.profile.userId = invitation.senderId ∧
      participants.recipientProfile.profile.userId = invitation.recipientId)
    (activationError .participantStateInvalid)
  ensure (db.activePairExists invitation.senderId invitation.recipientId = false)
    (activationError .activePairExists)
  let semesterId ← require (participants.senderUser.semesterId.filter fun semesterId =>
    participants.recipientUser.semesterId = some semesterId)
    (activationError .participantStateInvalid)
  let snapshot ← (compatibilityScoreSnapshot context compatibility).mapError .invalid
  -- The unique index on the accepted invitation.
  ensure (∀ row ∈ db.buddyMatches.rows, row.acceptedInvitationId ≠ invitation.id)
    (activationError .activePairExists)
  return {
    id := id
    participantOneUserId := invitation.senderId
    participantTwoUserId := invitation.recipientId
    participantOneProfileId := participants.senderProfile.profile.id
    participantTwoProfileId := participants.recipientProfile.profile.id
    status := .active
    acceptedInvitationId := invitation.id
    semesterId := semesterId
    score := compatibility.score.toNat
    scoreBreakdown := snapshot
    activatedAt := instant
    deletedAt := none }

/-- The conversation of an active match, with the row to insert when there is none. -/
def getOrCreateBuddyConversation (id : Nat) (buddyMatch : BuddyMatch) (instant : Int) :
    Except AcceptError (BuddyConversation × Option BuddyConversation) := do
  ensure (buddyMatch.isActive = true ∧ buddyMatch.deletedAt = none) .activeMatchRequired
  match db.conversations.select? fun conversation =>
      conversation.matchId = buddyMatch.id with
  | some existing => return (existing, none)
  | none =>
      let conversation : BuddyConversation :=
        ⟨id, buddyMatch.id, buddyMatch.semesterId, instant⟩
      return (conversation, some conversation)

/-- What is staged under the lock of the invitation.  A request which lost the race gets
the receipt of the winner. -/
def stageAcceptance (current : VerifiedBuddyPrincipal) (invitationId : Nat)
    (observed : MatchingInvitation) (participants : LockedBuddyParticipants)
    (sender recipient : EligibleMatchingPrincipal) (instant : Int) (ids : AcceptIds) :
    Except AcceptError (InvitationAcceptanceResult × InvitationWrites) := do
  let invitation ← loadOwnedInvitation db invitationId current.user.id
  ensure (invitation.senderId = observed.senderId) (.rejected .stateConflict)
  if invitation.status = .accepted then
    return (← loadCompletedResult db invitation, {})
  ensure (invitation.status = .pending) (.rejected .notPending)
  ensure (invitation.effectiveStatus instant ≠ .expired) (.rejected .expired)
  let loaded ← (loadMatchingPairScoringProfiles context db.toStudentTables current.profile
    sender recipient .en).mapError .invalid
  let profiles ← require loaded (.rejected .participantIneligible)
  let compatibility ← (scoreEligiblePair sender recipient profiles.1 profiles.2
    (currentReferenceWeekStart instant)).mapError .scoring
  let accepted ← (invitation.accept instant).mapError .transition
  let buddyMatch ← activateBuddyMatch context db ids.buddyMatch accepted participants
    compatibility instant
  let (conversation, created) ← getOrCreateBuddyConversation db ids.conversation buddyMatch
    instant
  let event ← db.stageEvent (acceptedEvent ids.event accepted buddyMatch conversation instant)
  return (⟨invitation.id, buddyMatch.id, conversation.id⟩, {
    updated := [accepted]
    buddyMatch := some buddyMatch
    conversation := created
    event := some event })

/-- One acceptance whose transaction no other one disturbs. -/
def acceptMatchingInvitation (current : VerifiedBuddyPrincipal) (invitationId : Nat)
    (instant : Int) (ids : AcceptIds) :
    Except AcceptError (InvitationAcceptanceResult × MatchingDatabase) := do
  match ← observeInvitation db current invitationId instant with
  | .inl result => return (result, db)
  | .inr observed =>
      let users ← lockCurrentBuddyUsers db current observed
      let (participants, sender, recipient) ← acceptParticipants context.unicode db current
        users observed
      let (result, writes) ← stageAcceptance context db current invitationId observed
        participants sender recipient instant ids
      let after ← require (db.write writes) .integrity
      return (result, after)

end Staging

section Stages

variable {context : ScoringContext} {db : MatchingDatabase} {current : VerifiedBuddyPrincipal}
  {invitationId : Nat} {observed : MatchingInvitation}
  {participants : LockedBuddyParticipants} {sender recipient : EligibleMatchingPrincipal}
  {instant : Int} {ids : AcceptIds}

/-- The rows of a new acceptance of a pending invitation. -/
structure AcceptanceRows (context : ScoringContext) (db : MatchingDatabase)
    (current : VerifiedBuddyPrincipal) (invitation : MatchingInvitation)
    (participants : LockedBuddyParticipants) (sender recipient : EligibleMatchingPrincipal)
    (instant : Int) (ids : AcceptIds)
    (profiles : SafeMatchingProfile context.zoneInfo × SafeMatchingProfile context.zoneInfo)
    (compatibility : CompatibilityScore) (buddyMatch : BuddyMatch)
    (conversation : BuddyConversation × Option BuddyConversation)
    (event : TransactionalOutbox) : Prop where
  pending : invitation.status = .pending
  before : instant < invitation.expiresAt
  created : invitation.createdAt ≤ instant
  loaded : loadMatchingPairScoringProfiles context db.toStudentTables current.profile sender
    recipient .en = .ok (some profiles)
  scored : scoreEligiblePair sender recipient profiles.1 profiles.2
    (currentReferenceWeekStart instant) = .ok compatibility
  activated : activateBuddyMatch context db ids.buddyMatch
    (invitation.stamped .accepted instant) participants compatibility instant =
      .ok buddyMatch
  talking : getOrCreateBuddyConversation db ids.conversation buddyMatch instant =
    .ok conversation
  announced : event = acceptedEvent ids.event (invitation.stamped .accepted instant) buddyMatch
    conversation.1 instant
  fresh : ∀ row ∈ db.outbox.rows, row.idempotencyKey ≠ event.idempotencyKey

/-- An acceptance under the locks replays the receipt of an earlier one, or stages a match,
a conversation and an event. -/
theorem stageAcceptance_cases {result : InvitationAcceptanceResult} {writes : InvitationWrites}
    (h : stageAcceptance context db current invitationId observed participants sender
      recipient instant ids = .ok (result, writes)) :
    ∃ invitation, loadOwnedInvitation db invitationId current.user.id = .ok invitation ∧
      invitation.senderId = observed.senderId ∧
      (invitation.status = .accepted ∧ loadCompletedResult db invitation = .ok result ∧
          writes = {} ∨
        ∃ profiles compatibility buddyMatch conversation event,
          AcceptanceRows context db current invitation participants sender recipient instant
            ids profiles compatibility buddyMatch conversation event ∧
          result = ⟨invitation.id, buddyMatch.id, conversation.1.id⟩ ∧
          writes = {
            updated := [invitation.stamped .accepted instant]
            buddyMatch := some buddyMatch
            conversation := conversation.2
            event := some event }) := by
  simp only [stageAcceptance, except_bind_eq_ok_iff, ensure_eq_ok_iff] at h
  obtain ⟨invitation, hinvitation, _, hsender, h⟩ := h
  refine ⟨invitation, hinvitation, hsender, ?_⟩
  split at h
  · rename_i haccepted
    simp only [except_bind_eq_ok_iff, except_pure_eq_ok_iff, Prod.mk.injEq] at h
    obtain ⟨completed, hcompleted, rfl, rfl⟩ := h
    exact Or.inl ⟨haccepted, hcompleted, rfl⟩
  · simp only [MatchingDatabase.stageEvent, except_bind_eq_ok_iff, ensure_eq_ok_iff,
      mapError_eq_ok_iff, require_eq_ok_iff, except_pure_eq_ok_iff, Prod.mk.injEq] at h
    obtain ⟨_, hpending, _, _, _, hloaded, profiles, rfl, compatibility, hcompatibility,
      accepted, haccepted, buddyMatch, hmatch, conversation, hconversation, event,
      ⟨_, hfresh, rfl⟩, rfl, rfl⟩ := h
    obtain ⟨_, hdeadline, hcreated, rfl⟩ := MatchingInvitation.transition_eq_ok_iff.mp haccepted
    exact Or.inr ⟨profiles, compatibility, buddyMatch, conversation, _, {
      pending := hpending
      before := hdeadline.resolve_left (by decide)
      created := hcreated
      loaded := hloaded
      scored := hcompatibility
      activated := hmatch
      talking := hconversation
      announced := rfl
      fresh := hfresh }, rfl, rfl⟩

end Stages

end BuddyWeb
