/-
Sends, acknowledgements and the cleanup of messages as interleaved statements: a call has
read the clock, has inserted its row or met another one, or has locked the rows which it
marks, and others commit in between.
-/
import BuddyWeb.Chat.Messages
import BuddyWeb.Lib.Run
import Mathlib.Logic.Function.Basic

namespace BuddyWeb

/-- What a client sends, as the server has authenticated it. -/
structure SendRequest where
  conversationId : Nat
  senderId : Nat
  clientMessageId : Nat
  body : String
  deriving DecidableEq, Repr

def SendRequest.attempt (request : SendRequest) (freshId : Uuid) (now : Instant) :
    SendAttempt where
  conversationId := request.conversationId
  senderId := request.senderId
  clientMessageId := request.clientMessageId
  body := request.body
  freshId := freshId
  now := now

abbrev SendAttempt.request (attempt : SendAttempt) : SendRequest where
  conversationId := attempt.conversationId
  senderId := attempt.senderId
  clientMessageId := attempt.clientMessageId
  body := attempt.body

/-- The row of a retry key. -/
def ChatDb.findKey (db : ChatDb) (senderId clientMessageId : Nat) : Option BuddyMessage :=
  db.messages.select? fun message =>
    message.senderId = senderId && message.clientMessageId = clientMessageId

/-- The checks before the first statement which writes. -/
def authorizeSend (db : ChatDb) (request : SendRequest) : Except ChatError Unit := do
  let _ ← validateBuddyMessageBody request.body
  ensure (requireAuthorizedActiveConversation db request.conversationId
    request.senderId).toBool .activeConversationRequired

/-- The insert with its trigger, its body check and its unique key: the row, or nothing where
the key is in use. -/
def insertBuddyMessage (env : ChatEnvironment) (db : ChatDb) (attempt : SendAttempt) :
    Except ChatError (Option BuddyMessage) := do
  let expiresAt ← buddyMessageExpiresAt attempt.now
  ensure (requireAuthorizedActiveConversation db attempt.conversationId
    attempt.senderId).toBool .integrity
  ensure (env.storesBody attempt.body) .integrity
  match db.findKey attempt.senderId attempt.clientMessageId with
  | none => return some (attempt.message expiresAt)
  | some _ => return none

/-- The second read of a call whose insert did nothing. -/
def readExistingMessage (db : ChatDb) (request : SendRequest) (createdAt : Instant) :
    Except ChatError BuddyMessage := do
  let existing ← require (db.findKey request.senderId request.clientMessageId)
    .idempotencyKeyReused
  ensure (existing.conversationId = request.conversationId ∧ existing.body = request.body ∧
    createdAt < existing.expiresAt) .idempotencyKeyReused
  return existing

/-- A send which nothing interrupts. -/
theorem sendBuddyMessage_eq_statements (env : ChatEnvironment) (db : ChatDb)
    (attempt : SendAttempt) :
    sendBuddyMessage env db attempt = (do
      authorizeSend db attempt.request
      match ← insertBuddyMessage env db attempt with
      | some message => do
          let messages ← require (db.messages.insert? message) .integrity
          return ({ db with messages := messages }, message)
      | none => do
          let existing ← readExistingMessage db attempt.request attempt.now
          return (db, existing)) := by
  have hbody : ∀ body, validateBuddyMessageBody attempt.body = .ok body →
      body = attempt.body := by
    intro body h
    simp only [validateBuddyMessageBody, except_bind_eq_ok_iff, except_pure_eq_ok_iff] at h
    obtain ⟨_, _, _, _, rfl⟩ := h
    rfl
  simp only [sendBuddyMessage, authorizeSend, insertBuddyMessage, readExistingMessage,
    ChatDb.findKey, bind_assoc]
  cases hvalid : validateBuddyMessageBody attempt.body with
  | error error => rfl
  | ok body =>
      rw [hbody body hvalid]
      simp only [bind, Except.bind]
      by_cases hactive : (requireAuthorizedActiveConversation db attempt.conversationId
        attempt.senderId).toBool = true
      · simp only [ensure, hactive, ↓reduceIte]
        cases buddyMessageExpiresAt attempt.now with
        | error error => rfl
        | ok expiresAt =>
            by_cases hstores : env.storesBody attempt.body = true
            · simp only [hstores, ↓reduceIte]
              cases db.messages.select? fun message => message.senderId = attempt.senderId &&
                message.clientMessageId = attempt.clientMessageId with
              | none => rfl
              | some existing =>
                  simp only [require, pure, Except.pure]
            · simp [hstores]
      · simp [ensure, hactive]

/-- An acknowledgement with the boundary which it has found. -/
structure Acknowledgement where
  conversationId : Nat
  readerId : Nat
  boundary : BuddyMessage
  now : Instant
  deriving DecidableEq

/-- The visible boundary of an authorized reader. -/
def selectBoundary (db : ChatDb) (conversationId readerId : Nat) (throughMessageId : Uuid)
    (now : Instant) : Except ChatError BuddyMessage :=
  require (db.messages.select? fun message =>
    message.id = throughMessageId && message.conversationId = conversationId &&
      decide (now < message.expiresAt) &&
      (requireAuthorizedActiveConversation db conversationId readerId).toBool)
    .messageNotFound

namespace Acknowledgement

variable (ack : Acknowledgement)

/-- The condition of the update. -/
def marks (message : BuddyMessage) : Bool :=
  isAcknowledged ack.conversationId ack.readerId ack.boundary ack.now message

/-- The rows which the update locks: they met its condition when it began, and their current
versions still do. -/
def markedIds (snapshot rows : List BuddyMessage) : List Uuid :=
  (rows.filter fun row => ack.marks row &&
    snapshot.any fun seen => seen.id = row.id && ack.marks seen).map (·.id)

/-- The new version of a locked row. -/
def readRow (ids : List Uuid) (message : BuddyMessage) : BuddyMessage :=
  if message.id ∈ ids then
    { message with
      readAt := some ack.now
      expiresAt := leastDeadline message.expiresAt ack.now }
  else message

theorem readRow_key (ids : List Uuid) (message : BuddyMessage) :
    Keyed.key (ack.readRow ids message) = Keyed.key message := by
  unfold readRow
  split <;> rfl

def readRows (ids : List Uuid) (messages : Table BuddyMessage) : Table BuddyMessage :=
  messages.modify (ack.readRow ids) (ack.readRow_key ids)

/-- An acknowledgement which nothing interrupts. -/
theorem readRows_markedIds (messages : Table BuddyMessage) :
    ack.readRows (ack.markedIds messages.rows messages.rows) messages =
      messages.modify (markRead ack.conversationId ack.readerId ack.boundary ack.now)
        (markRead_key ack.conversationId ack.readerId ack.boundary ack.now) := by
  have hrows : ∀ message ∈ messages.rows,
      ack.readRow (ack.markedIds messages.rows messages.rows) message =
        markRead ack.conversationId ack.readerId ack.boundary ack.now message := by
    intro message hmessage
    have hmarked : message.id ∈ ack.markedIds messages.rows messages.rows ↔
        ack.marks message = true := by
      simp only [markedIds, List.mem_map, List.mem_filter, Bool.and_eq_true, List.any_eq_true,
        decide_eq_true_eq]
      constructor
      · rintro ⟨row, ⟨hrow, hmarks, _⟩, hid⟩
        rw [← Table.eq_of_key hrow hmessage (congrArg Fin.val hid)]
        exact hmarks
      · intro hmarks
        exact ⟨message, ⟨hmessage, hmarks, message, hmessage, rfl, hmarks⟩, rfl⟩
    have hmarksEq : isAcknowledged ack.conversationId ack.readerId ack.boundary ack.now
        message = ack.marks message := rfl
    unfold readRow markRead
    rw [hmarksEq]
    by_cases hmarks : ack.marks message = true
    · rw [if_pos (hmarked.mpr hmarks), if_pos hmarks]
    · rw [if_neg (hmarked.not.mpr hmarks), if_neg hmarks]
  unfold readRows Table.modify
  simp only [Table.mk.injEq]
  exact List.map_congr_left hrows

end Acknowledgement

/-- Where a call is. -/
inductive MessagePhase
  | idle
  | authorized (request : SendRequest)
  /-- The call has read its clock. -/
  | sending (request : SendRequest) (createdAt : Instant)
  /-- The insert returned its row, which is not committed yet. -/
  | inserted (request : SendRequest) (message : BuddyMessage)
  /-- The insert did nothing. -/
  | conflicted (request : SendRequest) (createdAt : Instant)
  | acknowledging (conversationId readerId : Nat) (now : Instant)
  | bounded (ack : Acknowledgement)
  /-- The update has begun with these rows. -/
  | updating (ack : Acknowledgement) (snapshot : List BuddyMessage)
  /-- The update has locked and marked the rows with these ids. -/
  | marked (ack : Acknowledgement) (snapshot : List BuddyMessage) (ids : List Uuid)
  deriving DecidableEq

structure MessageWorld where
  db : ChatDb
  now : Instant
  /-- The ids which the database has drawn. -/
  drawn : List Uuid
  phase : Nat → MessagePhase

namespace MessageWorld

variable (world : MessageWorld)

def setPhase (call : Nat) (phase : MessagePhase) : MessageWorld :=
  { world with phase := Function.update world.phase call phase }

@[simp]
theorem setPhase_phase_self (call : Nat) (phase : MessagePhase) :
    (world.setPhase call phase).phase call = phase :=
  Function.update_self _ _ _

theorem setPhase_phase_of_ne {call other : Nat} (phase : MessagePhase) (hother : other ≠ call) :
    (world.setPhase call phase).phase other = world.phase other :=
  Function.update_of_ne hother _ _

/-- The committed rows after a call's transaction. -/
def committed (call : Nat) (messages : Table BuddyMessage) : MessageWorld :=
  { world with db := { world.db with messages := messages } }.setPhase call .idle

/-- No call has locked a row with the id. -/
def Unlocked (id : Uuid) : Prop :=
  ∀ call ack snapshot ids, world.phase call = .marked ack snapshot ids → id ∉ ids

/-- No call has inserted a row with the key which is not committed yet. -/
def KeyFree (request : SendRequest) : Prop :=
  ∀ other pending message, world.phase other = .inserted pending message →
    ¬ (pending.senderId = request.senderId ∧ pending.clientMessageId = request.clientMessageId)

end MessageWorld

inductive MessageLabel
  | tick (now : Instant)
  | authorize (call : Nat) (request : SendRequest)
  | refuse (call : Nat) (request : SendRequest) (error : ChatError)
  | readClock (call : Nat)
  | insert (call : Nat) (freshId : Uuid)
  | conflict (call : Nat) (freshId : Uuid)
  | commitSend (call : Nat)
  | readExisting (call : Nat)
  | acknowledge (call conversationId readerId : Nat)
  | selectBoundary (call : Nat) (throughMessageId : Uuid)
  | update (call : Nat)
  | mark (call : Nat)
  | commitAcknowledgement (call : Nat)
  | cleanup (ids : List Uuid)
  | stop (call : Nat)

/-- One statement or commit of a call, a cleanup batch or the clock. -/
inductive MessageStep (env : ChatEnvironment) :
    MessageWorld → MessageLabel → MessageWorld → Prop
  | tick {world} {now} (hnow : world.now ≤ now) :
      MessageStep env world (.tick now) { world with now := now }
  | authorize {world} {call} {request} (hphase : world.phase call = .idle)
      (hauthorized : authorizeSend world.db request = .ok ()) :
      MessageStep env world (.authorize call request) (world.setPhase call (.authorized request))
  | refuse {world} {call} {request} {error} (hphase : world.phase call = .idle)
      (hrefused : authorizeSend world.db request = .error error) :
      MessageStep env world (.refuse call request error) world
  | readClock {world} {call} {request} (hphase : world.phase call = .authorized request) :
      MessageStep env world (.readClock call)
        (world.setPhase call (.sending request world.now))
  /-- The unique key waits for the end of another insert with the key. -/
  | insert {world} {call} {freshId} {request} {createdAt} {message}
      (hphase : world.phase call = .sending request createdAt)
      (hfresh : freshId ∉ world.drawn) (hfree : world.KeyFree request)
      (hinsert : insertBuddyMessage env world.db (request.attempt freshId createdAt) =
        .ok (some message)) :
      MessageStep env world (.insert call freshId)
        ({ world with drawn := freshId :: world.drawn }.setPhase call
          (.inserted request message))
  | conflict {world} {call} {freshId} {request} {createdAt}
      (hphase : world.phase call = .sending request createdAt)
      (hinsert : insertBuddyMessage env world.db (request.attempt freshId createdAt) =
        .ok none) :
      MessageStep env world (.conflict call freshId)
        (world.setPhase call (.conflicted request createdAt))
  | commitSend {world} {call} {request} {message} {messages}
      (hphase : world.phase call = .inserted request message)
      (hmessages : world.db.messages.insert? message = some messages) :
      MessageStep env world (.commitSend call) (world.committed call messages)
  | readExisting {world} {call} {request} {createdAt}
      (hphase : world.phase call = .conflicted request createdAt) :
      MessageStep env world (.readExisting call) (world.setPhase call .idle)
  | acknowledge {world} {call conversationId readerId} (hphase : world.phase call = .idle) :
      MessageStep env world (.acknowledge call conversationId readerId)
        (world.setPhase call (.acknowledging conversationId readerId world.now))
  | selectBoundary {world} {call} {throughMessageId} {conversationId readerId} {now} {boundary}
      (hphase : world.phase call = .acknowledging conversationId readerId now)
      (hboundary : selectBoundary world.db conversationId readerId throughMessageId now =
        .ok boundary) :
      MessageStep env world (.selectBoundary call throughMessageId)
        (world.setPhase call (.bounded ⟨conversationId, readerId, boundary, now⟩))
  | update {world} {call} {ack} (hphase : world.phase call = .bounded ack) :
      MessageStep env world (.update call)
        (world.setPhase call (.updating ack world.db.messages.rows))
  /-- The update waits for the locks of others, and the table refuses a read instant before
  the creation of a row. -/
  | mark {world} {call} {ack} {snapshot}
      (hphase : world.phase call = .updating ack snapshot)
      (hfree : ∀ id ∈ ack.markedIds snapshot world.db.messages.rows, world.Unlocked id)
      (hcheck : ∀ row ∈ world.db.messages.rows,
        row.id ∈ ack.markedIds snapshot world.db.messages.rows → row.createdAt ≤ ack.now) :
      MessageStep env world (.mark call) (world.setPhase call
        (.marked ack snapshot (ack.markedIds snapshot world.db.messages.rows)))
  | commitAcknowledgement {world} {call} {ack} {snapshot} {ids}
      (hphase : world.phase call = .marked ack snapshot ids) :
      MessageStep env world (.commitAcknowledgement call)
        (world.committed call (ack.readRows ids world.db.messages))
  /-- A batch of due rows which no call has locked. -/
  | cleanup {world} {ids} {messages : Table BuddyMessage}
      (hdue : ∀ row ∈ world.db.messages.rows, row.id ∈ ids → row.expiresAt ≤ world.now)
      (hfree : ∀ id ∈ ids, world.Unlocked id)
      (hrows : messages.rows = world.db.messages.rows.filter fun row => row.id ∉ ids) :
      MessageStep env world (.cleanup ids)
        { world with db := { world.db with messages := messages } }
  /-- A call which is refused, raises or crashes rolls back. -/
  | stop {world} {call} : MessageStep env world (.stop call) (world.setPhase call .idle)

/-- The answer which a call gets in a step. -/
def MessageWorld.answer (world : MessageWorld) :
    MessageLabel → Option (SendRequest × Except ChatError BuddyMessage)
  | .refuse _ request error => some (request, .error error)
  | .commitSend call =>
      match world.phase call with
      | .inserted request message => some (request, .ok message)
      | _ => none
  | .readExisting call =>
      match world.phase call with
      | .conflicted request createdAt =>
          some (request, readExistingMessage world.db request createdAt)
      | _ => none
  | _ => none

namespace MessageWorld

/-- No messages and no calls, on any conversations and matches. -/
def Initial (world : MessageWorld) : Prop :=
  world.db.messages.rows = [] ∧ world.drawn = [] ∧ ∀ call, world.phase call = .idle

def Reached (env : ChatEnvironment) (world : MessageWorld) : Prop :=
  Reaches Initial (MessageStep env) (fun _ _ => True) world

end MessageWorld

end BuddyWeb
