/-
Buddy messages and the services which send, list and acknowledge them.
-/
import Mathlib.Algebra.GroupWithZero.Nat
import Mathlib.Data.Prod.Lex
import BuddyWeb.Chat.Cursor
import BuddyWeb.Lib.PyText
import BuddyWeb.Matching.Records

namespace BuddyWeb

def maxBuddyMessageCodePoints : Nat := 10000

def microsecondsPerDay : Int := 86400000000

def buddyMessageMaxRetention : Int := 90 * microsecondsPerDay

theorem instant_maxRetention :
    firstInstant ≤ buddyMessageMaxRetention ∧ buddyMessageMaxRetention ≤ lastInstant := by
  decide

def buddyMessageReadRetention : Int := 30 * microsecondsPerDay

def defaultChatMessagePageSize : Nat := 50

def maxChatMessagePageSize : Nat := 100

/-- An immutable plain-text message with its first-read retention. -/
structure BuddyMessage where
  id : Uuid
  conversationId : Nat
  senderId : Nat
  clientMessageId : Nat
  body : String
  createdAt : Instant
  readAt : Option Instant
  expiresAt : Instant
  deriving DecidableEq

instance : Keyed BuddyMessage := ⟨fun message => message.id.val⟩

/-- The order tuple of the history. -/
def BuddyMessage.position (message : BuddyMessage) : Instant ×ₗ Uuid :=
  toLex (message.createdAt, message.id)

structure ChatDb where
  messages : Table BuddyMessage
  conversations : Table BuddyConversation
  buddyMatches : Table BuddyMatch

/-- The space class of the database, which its body check uses. -/
structure ChatEnvironment where
  isDatabaseSpace : Char → Bool

/-- The text type and the check of the body column. -/
def ChatEnvironment.storesBody (env : ChatEnvironment) (body : String) : Bool :=
  body.toList.any (fun char => !env.isDatabaseSpace char) &&
    !body.toList.contains (Char.ofNat 0) && decide (body.length ≤ maxBuddyMessageCodePoints)

def validateBuddyMessageBody (body : String) : Except ChatError String := do
  ensure (pyStrip body ≠ "") .messageInvalid
  ensure (body.length ≤ maxBuddyMessageCodePoints) .messageInvalid
  return body

/-- The deadline of a message which is never read. -/
def buddyMessageExpiresAt (createdAt : Instant) : Except ChatError Instant :=
  require (Instant.ofMicroseconds? (createdAt.val + buddyMessageMaxRetention))
    .instantOverflow

/-- The conversation belongs to an active match of the user. -/
def ChatDb.isParticipant (db : ChatDb) (conversation : BuddyConversation) (userId : Nat) :
    Bool :=
  db.buddyMatches.rows.any fun buddyMatch =>
    buddyMatch.id = conversation.matchId && buddyMatch.isActive &&
      buddyMatch.deletedAt.isNone && buddyMatch.hasParticipant userId

def requireAuthorizedActiveConversation (db : ChatDb) (conversationId userId : Nat) :
    Except ChatError BuddyConversation :=
  require (db.conversations.select? fun conversation =>
    conversation.id = conversationId && db.isParticipant conversation userId)
    .conversationNotFound

/-- What a send attempt carries, and the id and the instant which the server gives it. -/
structure SendAttempt where
  conversationId : Nat
  senderId : Nat
  clientMessageId : Nat
  body : String
  freshId : Uuid
  now : Instant
  deriving DecidableEq

/-- The row which a send attempt inserts. -/
def SendAttempt.message (attempt : SendAttempt) (expiresAt : Instant) : BuddyMessage where
  id := attempt.freshId
  conversationId := attempt.conversationId
  senderId := attempt.senderId
  clientMessageId := attempt.clientMessageId
  body := attempt.body
  createdAt := attempt.now
  readAt := none
  expiresAt := expiresAt

/-- One idempotent send: a second attempt with the client id returns the first row. -/
def sendBuddyMessage (env : ChatEnvironment) (db : ChatDb) (attempt : SendAttempt) :
    Except ChatError (ChatDb × BuddyMessage) := do
  let body ← validateBuddyMessageBody attempt.body
  ensure (requireAuthorizedActiveConversation db attempt.conversationId
    attempt.senderId).toBool .activeConversationRequired
  let expiresAt ← buddyMessageExpiresAt attempt.now
  ensure (env.storesBody body) .integrity
  match db.messages.select? fun message =>
      message.senderId = attempt.senderId &&
        message.clientMessageId = attempt.clientMessageId with
  | none =>
      let message := attempt.message expiresAt
      let messages ← require (db.messages.insert? message) .integrity
      return ({ db with messages := messages }, message)
  | some existing =>
      ensure (existing.conversationId = attempt.conversationId ∧ existing.body = body ∧
        attempt.now < existing.expiresAt) .idempotencyKeyReused
      return (db, existing)

structure BuddyMessagePage where
  items : List BuddyMessage
  nextBefore : Option String
  deriving DecidableEq

/-- A row before the decoded cursor. -/
def isBeforeCursor (cursor : Option (Instant × Uuid)) (message : BuddyMessage) : Bool :=
  match cursor with
  | none => true
  | some (createdAt, id) =>
      message.createdAt < createdAt || (message.createdAt = createdAt && message.id < id)

/-- The effective messages of a conversation. -/
def ChatDb.effectiveMessages (db : ChatDb) (conversationId : Nat) (now : Instant) :
    List BuddyMessage :=
  db.messages.rows.filter fun message =>
    message.conversationId = conversationId && decide (now < message.expiresAt)

def decodeBefore : Option String → Except ChatError (Option (Instant × Uuid))
  | none => .ok none
  | some before => (decodeBuddyMessageCursor before).map some

/-- The newest bounded window, or the next older keyset page, in chronological order. -/
def listBuddyMessages (db : ChatDb) (conversationId userId : Nat) (before : Option String)
    (pageSize : Nat) (now : Instant) : Except ChatError BuddyMessagePage := do
  ensure (1 ≤ pageSize ∧ pageSize ≤ maxChatMessagePageSize) .pageSizeInvalid
  let _ ← requireAuthorizedActiveConversation db conversationId userId
  let cursor ← decodeBefore before
  let newestFirst := (((db.effectiveMessages conversationId now).filter
    (isBeforeCursor cursor)).insertionSort
      fun first second => second.position ≤ first.position).take (pageSize + 1)
  let selected := newestFirst.take pageSize
  return {
    items := selected.reverse
    nextBefore :=
      if pageSize < newestFirst.length then
        selected.getLast?.map fun oldest =>
          encodeBuddyMessageCursor oldest.createdAt oldest.id
      else none }

/-- The earlier one of the deadline and the end of the read retention.  Where that end lies
after the year 9999 the source raises an `OverflowError`, and the deadline is kept here. -/
def leastDeadline (expiresAt now : Instant) : Instant :=
  if h : now.val + buddyMessageReadRetention < expiresAt.val then
    ⟨now.val + buddyMessageReadRetention, by
      have hlower := now.property.1
      have hupper := expiresAt.property.2
      unfold buddyMessageReadRetention microsecondsPerDay at *
      omega⟩
  else expiresAt

/-- The incoming unread effective rows up to a boundary. -/
def isAcknowledged (conversationId readerId : Nat) (boundary : BuddyMessage) (now : Instant)
    (message : BuddyMessage) : Bool :=
  message.conversationId = conversationId && message.senderId ≠ readerId &&
    message.readAt.isNone && decide (now < message.expiresAt) &&
    decide (message.position ≤ boundary.position)

def markRead (conversationId readerId : Nat) (boundary : BuddyMessage) (now : Instant)
    (message : BuddyMessage) : BuddyMessage :=
  if isAcknowledged conversationId readerId boundary now message then
    { message with readAt := some now, expiresAt := leastDeadline message.expiresAt now }
  else message

theorem markRead_key (conversationId readerId : Nat) (boundary : BuddyMessage)
    (now : Instant) (message : BuddyMessage) :
    Keyed.key (markRead conversationId readerId boundary now message) =
      Keyed.key message := by
  unfold markRead
  split <;> rfl

/-- First-read retention for the incoming messages through one visible boundary.  The
table refuses a read instant before the creation of the row. -/
def acknowledgeBuddyMessagesRead (db : ChatDb) (conversationId readerId : Nat)
    (throughMessageId : Uuid) (now : Instant) : Except ChatError (ChatDb × Nat) := do
  let boundary ← require (db.messages.select? fun message =>
    message.id = throughMessageId && message.conversationId = conversationId &&
      decide (now < message.expiresAt) &&
      (requireAuthorizedActiveConversation db conversationId readerId).toBool)
    .messageNotFound
  let marked := db.messages.rows.filter
    (isAcknowledged conversationId readerId boundary now)
  ensure (∀ message ∈ marked, message.createdAt ≤ now) .integrity
  return ({ db with
    messages := db.messages.modify (markRead conversationId readerId boundary now)
      (markRead_key conversationId readerId boundary now) }, marked.length)

structure BuddyUnreadConversation where
  conversationId : Nat
  unreadCount : Nat
  deriving DecidableEq, Repr

structure BuddyUnreadSummary where
  conversations : List BuddyUnreadConversation
  totalUnreadMessages : Nat
  deriving DecidableEq, Repr

/-- The effective unread incoming messages of one conversation. -/
def ChatDb.unreadMessages (db : ChatDb) (conversationId userId : Nat) (now : Instant) :
    List BuddyMessage :=
  (db.effectiveMessages conversationId now).filter fun message =>
    message.senderId ≠ userId && message.readAt.isNone

/-- The unread counts by conversation.  The join leaves out conversations without any. -/
def getBuddyUnreadSummary (db : ChatDb) (userId : Nat) (now : Instant) :
    BuddyUnreadSummary :=
  let counted := ((db.conversations.rows.filter fun conversation =>
    db.isParticipant conversation userId).insertionSort
      fun first second => first.id ≤ second.id).map fun conversation =>
        { conversationId := conversation.id
          unreadCount := (db.unreadMessages conversation.id userId now).length :
            BuddyUnreadConversation }
  let conversations := counted.filter fun conversation => 0 < conversation.unreadCount
  { conversations := conversations
    totalUnreadMessages := (conversations.map (·.unreadCount)).sum }

/-- One effective message for a live event. -/
def getRealtimeBuddyMessage (db : ChatDb) (conversationId userId : Nat) (messageId : Uuid)
    (now : Instant) : Except ChatError (Option BuddyMessage) := do
  let _ ← requireAuthorizedActiveConversation db conversationId userId
  return (db.effectiveMessages conversationId now).find? fun message =>
    message.id = messageId

inductive ChatLabel
  | send (attempt : SendAttempt)
  | acknowledge (conversationId readerId : Nat) (throughMessageId : Uuid) (now : Instant)

/-- The committed rows after a request: a refused one is rolled back. -/
def ChatDb.after (env : ChatEnvironment) (db : ChatDb) : ChatLabel → ChatDb
  | .send attempt =>
      match sendBuddyMessage env db attempt with
      | .ok (after, _) => after
      | .error _ => db
  | .acknowledge conversationId readerId throughMessageId now =>
      match acknowledgeBuddyMessagesRead db conversationId readerId throughMessageId now with
      | .ok (after, _) => after
      | .error _ => db

/-- One committed request. -/
def ChatDb.Step (env : ChatEnvironment) (db : ChatDb) (label : ChatLabel)
    (after : ChatDb) : Prop :=
  after = db.after env label

end BuddyWeb
