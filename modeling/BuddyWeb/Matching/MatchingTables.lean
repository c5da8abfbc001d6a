/-
The tables of the matching features, the rows as a request's session reads them, and the
writes which a transaction stages.
-/
import BuddyWeb.Matching.Invitation
import BuddyWeb.Matching.StudentTables

namespace BuddyWeb

/-- What a queued e-mail announces, which also identifies the event. -/
inductive OutboxKey
  | invitationCreated (invitationId : Nat)
  | invitationAccepted (invitationId : Nat)
  deriving DecidableEq, Repr

structure OutboxPayload where
  invitationId : Nat
  matchId : Option Nat
  conversationId : Option Nat
  deriving DecidableEq, Repr

structure TransactionalOutbox where
  id : Nat
  aggregateId : Nat
  recipientUserId : Nat
  idempotencyKey : OutboxKey
  payload : OutboxPayload
  createdAt : Int
  deriving DecidableEq, Repr

instance : Keyed TransactionalOutbox := ⟨TransactionalOutbox.id⟩

structure MatchingDatabase extends StudentTables where
  invitations : Table MatchingInvitation
  buddyMatches : Table BuddyMatch
  conversations : Table BuddyConversation
  outbox : Table TransactionalOutbox

/-- The rows which a transaction has flushed and not yet committed. -/
structure InvitationWrites where
  updated : List MatchingInvitation := []
  created : Option MatchingInvitation := none
  buddyMatch : Option BuddyMatch := none
  conversation : Option BuddyConversation := none
  event : Option TransactionalOutbox := none
  deriving DecidableEq, Repr

/-- Why an invitation service raises: one of its own reasons, or another exception. -/
inductive InvitationError (ρ : Type)
  | rejected (reason : ρ)
  | matching (error : MatchingError)
  | transition (error : InvitationTransitionError)
  | invalid (errors : List FieldError)
  | scoring (message : String)
  | participants (message : String)
  | activeMatchRequired
  | integrity
  deriving DecidableEq, Repr

/-- A table with the row of an insertion, when there is one. -/
def Table.insertOptional {ρ : Type} [Keyed ρ] (table : Table ρ) :
    Option ρ → Option (Table ρ)
  | none => some table
  | some row => table.insert? row

/-- The pending invitation of an unordered pair. -/
def pendingOfPair (invitations : Table MatchingInvitation)
    (firstUserId secondUserId : Nat) : Option MatchingInvitation :=
  invitations.select? fun invitation =>
    invitation.pair = canonicalUserPair firstUserId secondUserId &&
      invitation.status = .pending

namespace MatchingDatabase

variable (db : MatchingDatabase)

def updateInvitations (updated : List MatchingInvitation) : Table MatchingInvitation :=
  updated.foldl Table.put db.invitations

/-- The tables after a commit. -/
def write (writes : InvitationWrites) : Option MatchingDatabase := do
  let invitations ← (db.updateInvitations writes.updated).insertOptional writes.created
  let buddyMatches ← db.buddyMatches.insertOptional writes.buddyMatch
  let conversations ← db.conversations.insertOptional writes.conversation
  let outbox ← db.outbox.insertOptional writes.event
  return { db with
    invitations := invitations
    buddyMatches := buddyMatches
    conversations := conversations
    outbox := outbox }

/-- A selected user row: the session keeps the attributes of the row which it loaded for
the request. -/
def sessionUser (current : VerifiedBuddyPrincipal) (userId : Nat) : Option User :=
  (db.users.get? userId).map fun row =>
    if row.id = current.user.id then current.user else row

def sessionProfile (current : VerifiedBuddyPrincipal) (userId : Nat) :
    Option ProfileRecord :=
  (db.profileOf userId).map (·.inSession current.profile)

/-- The rows of a verified user, as a request loads them. -/
def verifiedPrincipalOf (userId : Nat) : Option VerifiedBuddyPrincipal := do
  let user ← db.users.get? userId
  (getVerifiedBuddyPrincipal db.toStudentTables user).toOption

/-- The active match of an unordered pair. -/
def activePairExists (firstUserId secondUserId : Nat) : Bool :=
  db.buddyMatches.rows.any fun buddyMatch =>
    buddyMatch.isActive && buddyMatch.pair = canonicalUserPair firstUserId secondUserId

/-- A flushed event meets the unique index on its key. -/
def stageEvent {ρ : Type} (event : TransactionalOutbox) :
    Except (InvitationError ρ) TransactionalOutbox := do
  ensure (∀ row ∈ db.outbox.rows, row.idempotencyKey ≠ event.idempotencyKey) .integrity
  return event

end MatchingDatabase

section Writes

variable {db after : MatchingDatabase} {writes : InvitationWrites}

/-- The tables after a commit, one by one. -/
theorem MatchingDatabase.write_eq_some_iff :
    db.write writes = some after ↔
      (after.toStudentTables = db.toStudentTables ∧
        (db.updateInvitations writes.updated).insertOptional writes.created =
          some after.invitations) ∧
      db.buddyMatches.insertOptional writes.buddyMatch = some after.buddyMatches ∧
      db.conversations.insertOptional writes.conversation = some after.conversations ∧
      db.outbox.insertOptional writes.event = some after.outbox := by
  rcases after with ⟨tables, invitations, buddyMatches, conversations, outbox⟩
  simp only [write, Option.bind_eq_bind, Option.bind_eq_some_iff, Option.pure_def,
    Option.some_inj, mk.injEq]
  constructor
  · rintro ⟨_, hinvitations, _, hmatches, _, hconversations, _, houtbox, rfl, rfl, rfl, rfl,
      rfl⟩
    exact ⟨⟨rfl, hinvitations⟩, hmatches, hconversations, houtbox⟩
  · rintro ⟨⟨rfl, hinvitations⟩, hmatches, hconversations, houtbox⟩
    exact ⟨_, hinvitations, _, hmatches, _, hconversations, _, houtbox, rfl, rfl, rfl, rfl,
      rfl⟩

/-- The rows after an insertion are the old ones and the inserted one. -/
theorem Table.mem_insertOptional {ρ : Type} [Keyed ρ] {table after : Table ρ}
    {inserted : Option ρ} (h : table.insertOptional inserted = some after) {row : ρ} :
    row ∈ after.rows ↔ row ∈ inserted ∨ row ∈ table.rows := by
  cases inserted with
  | none =>
      obtain rfl := Option.some.inj h
      simp
  | some new =>
      rw [(Table.insert?_eq_some_iff.mp h).2, List.mem_cons, Option.mem_some_iff, eq_comm]

end Writes

/-- The eligibility check of loaded rows, with the capability denial as a reason of the
calling service. -/
def requireEligibility {ρ : Type} (unicode : UnicodeData) (db : MatchingDatabase)
    (user : User) (record : ProfileRecord) (reason : ρ) :
    Except (InvitationError ρ) EligibleMatchingPrincipal :=
  (getEligibleMatchingPrincipal (db.completionContext unicode) user record).mapError
    fun
      | .buddyCapability _ => .rejected reason
      | error => .matching error

end BuddyWeb
