/-
Interleaved matching requests: transactions which take row locks one by one, stage their
rows under them, and commit or roll back.
-/
import Mathlib.Logic.Function.Basic
import BuddyWeb.Lib.Run
import BuddyWeb.Matching.InvitationAcceptance
import BuddyWeb.Matching.InvitationMutations
import BuddyWeb.Matching.InvitationSending

namespace BuddyWeb

/-- A lockable row: a user's, the profile of a user, or an invitation. -/
inductive RowLock
  | user (userId : Nat)
  | profile (userId : Nat)
  | invitation (invitationId : Nat)
  deriving DecidableEq, Repr

/-- The locks of both rows of a pair, in the order in which they are taken. -/
def pairLocks (row : Nat → RowLock) (first second : Nat) : List RowLock :=
  [row (canonicalUserPair first second).1, row (canonicalUserPair first second).2]

/-- A send before its locks. -/
structure SendDraft where
  current : VerifiedBuddyPrincipal
  message : CanonicalInvitationMessage
  instant : Int
  recipientProfileId : Nat
  recipientUserId : Nat
  ids : SendIds

/-- An acceptance before its locks. -/
structure AcceptDraft where
  current : VerifiedBuddyPrincipal
  invitationId : Nat
  observed : MatchingInvitation
  ids : AcceptIds

inductive InvitationMutation
  | decline
  | cancel
  | hide
  deriving DecidableEq, Repr

def InvitationMutation.run (db : MatchingDatabase) (mutation : InvitationMutation)
    (current : VerifiedBuddyPrincipal) (invitationId : Nat) (instant : Int) :
    Except MutationError (InvitationMutationResult × InvitationWrites) :=
  match mutation with
  | .decline => declineMatchingInvitation db current invitationId instant
  | .cancel => cancelMatchingInvitation db current invitationId instant
  | .hide => hideAcceptedInvitationFromSender db current invitationId instant

def InvitationMutation.owner : InvitationMutation → InvitationOwner
  | .decline => .recipient
  | .cancel => .sender
  | .hide => .sender

section World

variable (context : ScoringContext)

/-- A partial update of an own profile, with the row of its owner as the request loaded
it. -/
structure ProfileDraft where
  owner : User
  freshProfileId : Nat
  update : ProfileUpdate context.zoneInfo

inductive InvitationRequest
  | send (current : VerifiedBuddyPrincipal) (recipientProfileId : Nat) (message : String)
      (ids : SendIds)
  | accept (current : VerifiedBuddyPrincipal) (invitationId : Nat) (ids : AcceptIds)
  | mutate (mutation : InvitationMutation) (current : VerifiedBuddyPrincipal)
      (invitationId : Nat)
  | expire (batchSize : Nat)
  | updateProfile (draft : ProfileDraft context)

/-- What a transaction does once it has its locks. -/
inductive InvitationStage
  | sendUsers (draft : SendDraft)
  | sendProfiles (draft : SendDraft) (users : User × User)
  | sendPair (draft : SendDraft)
      (principals : EligibleMatchingPrincipal × EligibleMatchingPrincipal)
  | acceptUsers (draft : AcceptDraft)
  | acceptProfiles (draft : AcceptDraft) (users : User × User)
  | acceptInvitation (draft : AcceptDraft) (participants : LockedBuddyParticipants)
      (sender recipient : EligibleMatchingPrincipal)
  | mutate (mutation : InvitationMutation) (current : VerifiedBuddyPrincipal)
      (invitationId : Nat)
  | expire (batchSize : Nat)
  | updateUser (draft : ProfileDraft context)
  | updateProfile (draft : ProfileDraft context)

inductive StagedRows
  | invitations (writes : InvitationWrites)
  | profile (record : ProfileRecord)

/-- What a request answers. -/
inductive InvitationReceipt
  | sent (invitationId : Nat)
  | accepted (result : InvitationAcceptanceResult)
  | mutated (result : InvitationMutationResult)
  | expired (invitationIds : List Nat)
  | profileUpdated

inductive InvitationPhase
  | started
  | locking (waiting : List RowLock) (stage : InvitationStage context)
  | flushed (rows : StagedRows) (receipt : InvitationReceipt)
  | succeeded (receipt : InvitationReceipt)
  | rejected

structure InvitationTransaction where
  request : InvitationRequest context
  phase : InvitationPhase context

/-- The committed tables, the clock, the holders of the row locks and the transactions. -/
structure InvitationWorld where
  db : MatchingDatabase
  now : Int
  locks : RowLock → Option Nat
  transactions : Nat → Option (InvitationTransaction context)

inductive InvitationLabel
  | start (id : Nat) (request : InvitationRequest context)
  | advance (id : Nat)
  | commit (id : Nat)
  | rollback (id : Nat)
  | tick (instant : Int)
  | students (tables : StudentTables)

end World

def MatchingDatabase.hasActiveBuddyMatch (db : MatchingDatabase) (userId : Nat) : Bool :=
  db.buddyMatches.rows.any fun buddyMatch =>
    buddyMatch.isActive && buddyMatch.hasParticipant userId

/-- The tables with a profile row, when they keep their constraints. -/
def StudentTables.storeProfile (tables : StudentTables) (record : ProfileRecord) :
    Option StudentTables := do
  let profiles ← match tables.profiles.get? record.profile.id with
    | some _ => some (tables.profiles.put record)
    | none => tables.profiles.insert? record
  if h : (∀ first ∈ profiles.rows, ∀ second ∈ profiles.rows,
        first.profile.userId = second.profile.userId → first = second) ∧
      ∀ record ∈ profiles.rows, ∀ custom ∈ record.customs,
        custom.kind = .language ↔ custom.proficiency.isSome = true then
    some { tables with profiles := profiles, profiles_user := h.1, customs_proficiency := h.2 }
  else none

def MatchingDatabase.commitRows (db : MatchingDatabase) : StagedRows → Option MatchingDatabase
  | .invitations writes => db.write writes
  | .profile record =>
      (db.storeProfile record).map fun tables => { db with toStudentTables := tables }

variable {context : ScoringContext}

namespace InvitationRequest

/-- The rows which a request brings were loaded from the committed tables. -/
def loadedFrom (db : MatchingDatabase) : InvitationRequest context → Bool
  | .send current _ _ _ => db.verifiedPrincipalOf current.user.id = some current
  | .accept current _ _ => db.verifiedPrincipalOf current.user.id = some current
  | .mutate _ current _ => db.verifiedPrincipalOf current.user.id = some current
  | .expire _ => true
  | .updateProfile draft => db.users.get? draft.owner.id = some draft.owner

end InvitationRequest

def InvitationPhase.finished : InvitationPhase context → Bool
  | .succeeded _ => true
  | .rejected => true
  | _ => false

namespace InvitationWorld

variable (w : InvitationWorld context)

def setPhase (id : Nat) (transaction : InvitationTransaction context)
    (phase : InvitationPhase context) : InvitationWorld context :=
  { w with
    transactions :=
      Function.update w.transactions id (some { transaction with phase := phase }) }

def isFree (id : Nat) (lock : RowLock) : Bool :=
  w.locks lock = none || w.locks lock = some id

def takeLock (id : Nat) (lock : RowLock) : InvitationWorld context :=
  { w with locks := Function.update w.locks lock (some id) }

/-- Ending a transaction releases its locks. -/
def finish (id : Nat) (transaction : InvitationTransaction context)
    (phase : InvitationPhase context) : InvitationWorld context :=
  { w.setPhase id transaction phase with
    locks := fun lock => if w.locks lock = some id then none else w.locks lock }

/-- What a request does before its first lock. -/
def firstPhase : InvitationRequest context → InvitationPhase context
  | .send current recipientProfileId message ids =>
      let draft : Except SendError SendDraft := do
        let message ← canonicalizeInvitationMessage message
        let recipientUserId ← sendTarget w.db current recipientProfileId
        return ⟨current, message, w.now, recipientProfileId, recipientUserId, ids⟩
      match draft with
      | .ok draft =>
          .locking (pairLocks .user current.user.id draft.recipientUserId) (.sendUsers draft)
      | .error _ => .rejected
  | .accept current invitationId ids =>
      match observeInvitation w.db current invitationId w.now with
      | .ok (.inl result) => .succeeded (.accepted result)
      | .ok (.inr observed) =>
          .locking (pairLocks .user observed.senderId observed.recipientId)
            (.acceptUsers ⟨current, invitationId, observed, ids⟩)
      | .error _ => .rejected
  | .mutate mutation current invitationId =>
      .locking [] (.mutate mutation current invitationId)
  | .expire batchSize => .locking [] (.expire batchSize)
  | .updateProfile draft =>
      if draft.update.studentType.isSome then
        .locking [.user draft.owner.id] (.updateUser draft)
      else .locking [.profile draft.owner.id] (.updateProfile draft)

/-- The outcome of a stage: a rejection ends the transaction. -/
def proceed {ε α : Type} (id : Nat) (transaction : InvitationTransaction context)
    (outcome : Except ε α) (next : α → InvitationWorld context) : InvitationWorld context :=
  match outcome with
  | .ok value => next value
  | .error _ => w.finish id transaction .rejected

/-- Flush staged rows under the locks of the invitations which they change. -/
def flush (id : Nat) (transaction : InvitationTransaction context)
    (writes : InvitationWrites) (receipt : InvitationReceipt) : InvitationWorld context :=
  (writes.updated.foldl (fun w invitation => w.takeLock id (.invitation invitation.id))
    w).setPhase id transaction (.flushed (.invitations writes) receipt)

def profileContext (draft : ProfileDraft context) : ProfileContext where
  unicode := context.unicode
  zoneInfo := context.zoneInfo
  catalog := w.db.catalog
  hasActiveBuddyMatch := w.db.hasActiveBuddyMatch
  freshProfileId := draft.freshProfileId

/-- The row which a stage still locks must not be locked by another transaction. -/
def awaits (id : Nat) (row : Option MatchingInvitation) : Bool :=
  row.any fun invitation => !w.isFree id (.invitation invitation.id)

/-- A stage of a transaction which has its locks; `none` when it has to wait. -/
def runStage (id : Nat) (transaction : InvitationTransaction context) :
    InvitationStage context → Option (InvitationWorld context)
  | .sendUsers draft =>
      some (w.proceed id transaction (sendUsers w.db draft.current draft.recipientUserId)
        fun users => w.setPhase id transaction
          (.locking (pairLocks .profile draft.current.user.id draft.recipientUserId)
            (.sendProfiles draft users)))
  | .sendProfiles draft users =>
      some (w.proceed id transaction (sendPrincipals context.unicode w.db draft.current users
          draft.recipientProfileId draft.recipientUserId)
        fun principals => w.setPhase id transaction
          (.locking [] (.sendPair draft principals)))
  | .sendPair draft principals =>
      if w.awaits id (pendingOfPair w.db.invitations principals.1.userId
          principals.2.userId) then none
      else some (w.proceed id transaction
        (stageInvitation w.db principals draft.message draft.instant draft.ids)
        fun staged => w.flush id transaction staged.2 (.sent staged.1.id))
  | .acceptUsers draft =>
      some (w.proceed id transaction (lockCurrentBuddyUsers w.db draft.current draft.observed)
        fun users => w.setPhase id transaction
          (.locking (pairLocks .profile draft.observed.senderId draft.observed.recipientId)
            (.acceptProfiles draft users)))
  | .acceptProfiles draft users =>
      some (w.proceed id transaction
        (acceptParticipants context.unicode w.db draft.current users draft.observed)
        fun eligible => w.setPhase id transaction
          (.locking [] (.acceptInvitation draft eligible.1 eligible.2.1 eligible.2.2)))
  | .acceptInvitation draft participants sender recipient =>
      if w.awaits id (loadOwnedInvitation w.db draft.invitationId
          draft.current.user.id).toOption then none
      else some (w.proceed id transaction
        (stageAcceptance context w.db draft.current draft.invitationId draft.observed
          participants sender recipient w.now draft.ids)
        fun staged => w.flush id transaction staged.2 (.accepted staged.1))
  | .mutate mutation current invitationId =>
      if w.awaits id (loadOwnedInvitationForUpdate w.db mutation.owner current.user.id
          invitationId).toOption then none
      else some (w.proceed id transaction
        (mutation.run w.db current invitationId w.now)
        fun staged => w.flush id transaction staged.2 (.mutated staged.1))
  | .expire batchSize =>
      some (w.proceed id transaction
        (expireInvitationBatch w.db
          (fun invitationId => !w.isFree id (.invitation invitationId)) batchSize w.now)
        fun staged => w.flush id transaction staged.2 (.expired staged.1))
  | .updateUser draft =>
      if draft.owner.isAvailable then
        some (w.setPhase id transaction
          (.locking [.profile draft.owner.id] (.updateProfile draft)))
      else some (w.finish id transaction .rejected)
  | .updateProfile draft =>
      some (w.proceed id transaction
        (replaceOwnProfileFields (w.profileContext draft) draft.owner
          (w.db.profileOf draft.owner.id) draft.update)
        fun record => w.setPhase id transaction (.flushed (.profile record) .profileUpdated))

/-- The next step of a transaction. -/
def advance (id : Nat) (transaction : InvitationTransaction context) :
    Option (InvitationWorld context) :=
  match transaction.phase with
  | .started => some (w.setPhase id transaction (w.firstPhase transaction.request))
  | .locking (lock :: waiting) stage =>
      if w.isFree id lock then
        some ((w.takeLock id lock).setPhase id transaction (.locking waiting stage))
      else none
  | .locking [] stage => w.runStage id transaction stage
  | _ => none

def commit (id : Nat) (transaction : InvitationTransaction context) :
    Option (InvitationWorld context) :=
  match transaction.phase with
  | .flushed rows receipt =>
      (w.db.commitRows rows).map fun db =>
        { w.finish id transaction (.succeeded receipt) with db := db }
  | _ => none

/-- One step of the system. -/
def next : InvitationLabel context → Option (InvitationWorld context)
  | .start id request =>
      if (w.transactions id).isNone && request.loadedFrom w.db then
        some { w with
          transactions := Function.update w.transactions id (some ⟨request, .started⟩) }
      else none
  | .advance id => do
      let transaction ← w.transactions id
      w.advance id transaction
  | .commit id => do
      let transaction ← w.transactions id
      w.commit id transaction
  | .rollback id => do
      let transaction ← w.transactions id
      if transaction.phase.finished then none
      else some (w.finish id transaction .rejected)
  | .tick instant => some { w with now := instant }
  | .students tables => some { w with db := { w.db with toStudentTables := tables } }

def Step (w : InvitationWorld context) (label : InvitationLabel context)
    (after : InvitationWorld context) : Prop :=
  w.next label = some after

/-- No invitation has been sent and no request made. -/
structure Initial (w : InvitationWorld context) : Prop where
  invitations : w.db.invitations.rows = []
  buddyMatches : w.db.buddyMatches.rows = []
  conversations : w.db.conversations.rows = []
  outbox : w.db.outbox.rows = []
  locks : ∀ lock, w.locks lock = none
  transactions : ∀ id, w.transactions id = none

/-- The states which runs of allowed steps reach. -/
def Reached (allowed : InvitationWorld context → InvitationLabel context → Prop)
    (w : InvitationWorld context) : Prop :=
  Reaches Initial Step allowed w

end InvitationWorld

end BuddyWeb
