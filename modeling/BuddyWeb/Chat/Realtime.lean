/-
The realtime transport of Buddy chat: sockets, the channels of Redis with the keys which keep a
message from being published again, and the messages which are committed before they are
published.
-/
import BuddyWeb.Chat.MessageWorld
import BuddyWeb.Chat.WireContract
import BuddyWeb.Lib.ExpiringKeys

namespace BuddyWeb

/-- `_PUBLISH_DEDUPE_SECONDS` in microseconds. -/
def publishDedupePeriod : Int := 86400 * 1000000

/-- A notification which reached a subscriber, with how often Redis had lost its key before. -/
structure Publication where
  conversationId : Nat
  messageId : Uuid
  publishedAt : Instant
  losses : Nat
  deriving DecidableEq

abbrev Publication.key (publication : Publication) : Nat × Uuid :=
  (publication.conversationId, publication.messageId)

/-- A publication as an act under its key. -/
def Publication.act (publication : Publication) : KeyedAct (Nat × Uuid) :=
  ⟨publication.key, publication.losses, publication.publishedAt.val⟩

inductive ChatPublishDisposition
  | published
  | alreadyPublished
  | unavailable
  deriving DecidableEq, Repr

/-- Why the server closes a socket. -/
inductive SocketClosure
  | textEventsRequired
  | eventTooLarge
  | clientTooSlow
  | rateLimited
  | realtimeUnavailable
  | conversationNotFound
  | accessDenied
  | eventsReadOnly
  | internalError
  deriving DecidableEq, Repr

/-- What a frame of the client is for `_receive_client_event`. -/
inductive ClientFrame
  | disconnect
  | notText
  | tooLarge
  | invalid
  | send (clientMessageId : Nat) (body : String)
  deriving DecidableEq

inductive RateCheck
  | passed
  | exceeded
  | unavailable
  deriving DecidableEq, Repr

inductive ChatErrorCode
  | eventInvalid
  | messageInvalid
  | idempotencyKeyReused
  | rateLimited
  | realtimeUnavailable
  deriving DecidableEq, Repr

inductive ServerEvent
  | ready
  | message (message : ChatMessageResponse)
  | sendAccepted (messageId : Uuid) (delivery : ChatPublishDisposition)
  | error (code : ChatErrorCode) (recoverable : Bool)
  | unreadChanged
  deriving DecidableEq

inductive SocketKind
  | conversation (conversationId : Nat)
  | unread (conversationIds : List Nat)
  deriving DecidableEq

def SocketKind.channels : SocketKind → List Nat
  | conversation conversationId => [conversationId]
  | unread conversationIds => conversationIds

inductive SocketPhase
  | authorized
  | subscribed
  | accepted
  | closed (closure : Option SocketClosure)
  deriving DecidableEq

/-- Where `_receive_and_persist` is. -/
inductive ReceiverPhase
  | waiting
  | sending (request : SendRequest)
  | committed (messageId : Uuid)
  | answering (messageId : Uuid) (delivery : ChatPublishDisposition)
  deriving DecidableEq

/-- Where `_forward_committed_messages` or `_forward_unread_changes` is. -/
inductive ForwarderPhase
  | waiting
  | taken (publication : Publication)
  | authorized (publication : Publication)
  /-- The clock of the next select has been read. -/
  | selecting (publication : Publication) (now : Instant)
  /-- The session is closed; the event waits for the lock of the writer and the write. -/
  | showing (publication : Publication) (message : ChatMessageResponse)
  | signalling (publication : Publication)
  deriving DecidableEq

/-- The notification which the forwarder works on. -/
def ForwarderPhase.publication? : ForwarderPhase → Option Publication
  | waiting => none
  | taken publication => some publication
  | authorized publication => some publication
  | selecting publication _ => some publication
  | showing publication _ => some publication
  | signalling publication => some publication

/-- The event which waits for the writer. -/
def ForwarderPhase.event? : ForwarderPhase → Option ServerEvent
  | showing _ message => some (.message message)
  | signalling _ => some .unreadChanged
  | _ => none

/-- A socket with the notifications which wait for it and, as a history, the ones it has
taken. -/
structure RealtimeSocket where
  userId : Nat
  kind : SocketKind
  phase : SocketPhase := .authorized
  /-- Its subscription holds a connection to Redis. -/
  linked : Bool := false
  queue : List Publication := []
  receiver : ReceiverPhase := .waiting
  forwarder : ForwarderPhase := .waiting
  events : List ServerEvent := []
  handled : List Publication := []
  /-- The publications before it subscribed. -/
  subscribedAt : Nat := 0
  /-- Its connection was never interrupted. -/
  lossless : Bool := true
  deriving DecidableEq

namespace RealtimeSocket

variable (socket : RealtimeSocket)

/-- The tasks of the socket end; its subscription is released later. -/
def close (closure : Option SocketClosure) : RealtimeSocket :=
  { socket with phase := .closed closure }

def send (event : ServerEvent) : RealtimeSocket :=
  { socket with events := socket.events ++ [event] }

def subscribes (conversationId : Nat) : Bool :=
  socket.linked && socket.kind.channels.contains conversationId

def notify (publication : Publication) : RealtimeSocket :=
  if socket.subscribes publication.conversationId then
    { socket with queue := socket.queue ++ [publication] }
  else socket

/-- The subscription is confirmed, or Redis fails.  Without conversations there is nothing to
subscribe to. -/
def subscribe (published : Nat) (redisUp : Bool) : RealtimeSocket :=
  if redisUp || socket.kind.channels.isEmpty then
    { socket with phase := .subscribed, linked := true, subscribedAt := published }
  else socket.close (some .realtimeUnavailable)

/-- The upgrade is accepted and the client is told. -/
def accept : RealtimeSocket :=
  { socket with phase := .accepted }.send .ready

/-- One frame of the client. -/
def receive (frame : ClientFrame) (authenticated : Bool) (rate : RateCheck) : RealtimeSocket :=
  match socket.kind, frame with
  | _, .disconnect => socket.close none
  | .unread _, _ => socket.close (some .eventsReadOnly)
  | .conversation _, .notText => socket.close (some .textEventsRequired)
  | .conversation _, .tooLarge => socket.close (some .eventTooLarge)
  | .conversation _, .invalid => socket.send (.error .eventInvalid true)
  | .conversation conversationId, .send clientMessageId body =>
      if authenticated then
        match rate with
        | .exceeded =>
            (socket.send (.error .rateLimited false)).close (some .rateLimited)
        | .unavailable =>
            (socket.send (.error .realtimeUnavailable true)).close (some .realtimeUnavailable)
        | .passed =>
            { socket with
              receiver := .sending ⟨conversationId, socket.userId, clientMessageId, body⟩ }
      else socket.close (some .accessDenied)

/-- The end of the transaction which sends. -/
def answered : Except ChatError BuddyMessage → RealtimeSocket
  | .ok message => { socket with receiver := .committed message.id }
  | .error .messageInvalid =>
      { socket with receiver := .waiting }.send (.error .messageInvalid true)
  | .error .idempotencyKeyReused =>
      { socket with receiver := .waiting }.send (.error .idempotencyKeyReused false)
  | .error .activeConversationRequired => socket.close (some .conversationNotFound)
  | .error _ => socket.close (some .internalError)

def answering (messageId : Uuid) (delivery : ChatPublishDisposition) : RealtimeSocket :=
  { socket with receiver := .answering messageId delivery }

/-- What the sender is told of the publication. -/
def tell (messageId : Uuid) (delivery : ChatPublishDisposition) : RealtimeSocket :=
  let told := { socket with receiver := .waiting }.send (.sendAccepted messageId delivery)
  if delivery = .unavailable then told.close (some .realtimeUnavailable) else told

/-- A taken notification. -/
def take (publication : Publication) (rest : List Publication) : RealtimeSocket :=
  { socket with
    queue := rest
    forwarder := .taken publication
    handled := socket.handled ++ [publication] }

/-- The user is authenticated again and, for a message, authorized in the conversation. -/
def authorize (db : ChatDb) (publication : Publication) (authenticated : Bool) :
    RealtimeSocket :=
  if authenticated then
    match socket.kind with
    | .unread _ => { socket with forwarder := .signalling publication }
    | .conversation conversationId =>
        match requireAuthorizedActiveConversation db conversationId socket.userId with
        | .error _ => socket.close (some .conversationNotFound)
        | .ok _ => { socket with forwarder := .authorized publication }
  else socket.close (some .accessDenied)

def readClock (publication : Publication) (now : Instant) : RealtimeSocket :=
  { socket with forwarder := .selecting publication now }

/-- The message is read again; an expired or deleted one is not shown. -/
def select (wire : WireFormat) (publication : Publication) (found : Option BuddyMessage) :
    RealtimeSocket :=
  match found with
  | none => { socket with forwarder := .waiting }
  | some message =>
      { socket with
        forwarder := .showing publication (chatMessageResponse wire socket.userId message) }

/-- The event of the forwarder is written. -/
def forward (event : ServerEvent) : RealtimeSocket :=
  { socket with forwarder := .waiting }.send event

/-- The connection to Redis is lost, with what it had not handed over yet. -/
def unlink (kept : Nat) : RealtimeSocket :=
  { socket with linked := false, queue := socket.queue.take kept, lossless := false }

end RealtimeSocket

/-- What comes of the call of the script. -/
inductive EvalOutcome
  | answered
  | lostReply
  | unreached
  deriving DecidableEq, Repr

structure RealtimeWorld where
  chat : MessageWorld
  keys : List (ExpiringKey (Nat × Uuid))
  sockets : List RealtimeSocket
  /-- Every publication, as a history. -/
  publications : List Publication
  /-- Every key which Redis has lost before its end, as a history. -/
  lost : List (Nat × Uuid)
  /-- Every row which a send has committed, as a history. -/
  committed : List BuddyMessage

inductive RealtimeLabel
  | chat (label : MessageLabel)
  | tables (conversations : Table BuddyConversation) (buddyMatches : Table BuddyMatch)
  | connect (kind : SocketKind) (userId : Nat)
  | subscribe (position : Nat) (redisUp : Bool)
  | accept (position : Nat)
  | receive (position : Nat) (frame : ClientFrame) (authenticated : Bool) (rate : RateCheck)
  | answered (position : Nat) (label : MessageLabel)
  | publish (position : Nat) (outcome : EvalOutcome)
  | tell (position : Nat)
  | take (position : Nat)
  | authorize (position : Nat) (authenticated : Bool)
  | readClock (position : Nat)
  | select (position : Nat)
  | write (position : Nat)
  | unlink (position : Nat) (kept : Nat)
  | relink (position : Nat)
  | close (position : Nat) (closure : Option SocketClosure)
  | unsubscribe (position : Nat)
  | loseKeys (lost : List (Nat × Uuid))

/-- The row which a step commits. -/
def MessageWorld.committedRow (world : MessageWorld) : MessageLabel → Option BuddyMessage
  | .commitSend call =>
      match world.phase call with
      | .inserted _ message => some message
      | _ => none
  | _ => none

/-- The second statement of `get_realtime_buddy_message`. -/
def selectRealtimeMessage (db : ChatDb) (conversationId : Nat) (messageId : Uuid)
    (now : Instant) : Option BuddyMessage :=
  (db.effectiveMessages conversationId now).find? fun message => message.id = messageId

/-- A read which nothing interrupts. -/
theorem getRealtimeBuddyMessage_eq_statements (db : ChatDb) (conversationId userId : Nat)
    (messageId : Uuid) (now : Instant) :
    getRealtimeBuddyMessage db conversationId userId messageId now = (do
      let _ ← requireAuthorizedActiveConversation db conversationId userId
      return selectRealtimeMessage db conversationId messageId now) :=
  rfl

/-- `list_active_buddy_conversation_ids` -/
def listActiveBuddyConversationIds (db : ChatDb) (userId : Nat) : List Nat :=
  ((db.conversations.rows.filter fun conversation =>
    db.isParticipant conversation userId).map (·.id)).insertionSort (· ≤ ·)

namespace RealtimeWorld

variable (world : RealtimeWorld)

def withSocket (position : Nat) (socket : RealtimeSocket) : RealtimeWorld :=
  { world with sockets := world.sockets.set position socket }

/-- A statement of a chat request, with the row which it commits. -/
def withChat (label : MessageLabel) (chat : MessageWorld) : RealtimeWorld :=
  { world with
    chat := chat
    committed := (world.chat.committedRow label).toList ++ world.committed }

def subscribers (conversationId : Nat) : Nat :=
  world.sockets.countP (·.subscribes conversationId)

/-- `_PUBLISH_ONCE_SCRIPT` -/
def publishOnce (conversationId : Nat) (messageId : Uuid) :
    ChatPublishDisposition × RealtimeWorld :=
  let now := world.chat.now
  if ExpiringKeys.isLive world.keys now.val (conversationId, messageId) then
    (.alreadyPublished, world)
  else if world.subscribers conversationId = 0 then (.unavailable, world)
  else
    let publication :=
      ⟨conversationId, messageId, now, ExpiringKeys.losses world.lost (conversationId, messageId)⟩
    (.published,
      { world with
        keys := ExpiringKeys.store world.keys (conversationId, messageId)
          (now.val + publishDedupePeriod)
        sockets := world.sockets.map (·.notify publication)
        publications := world.publications ++ [publication] })

/-- The script runs unless Redis cannot be reached; without its reply the sender is told that
live delivery is unavailable. -/
def publish (position : Nat) (socket : RealtimeSocket) (conversationId : Nat) (messageId : Uuid)
    (outcome : EvalOutcome) : RealtimeWorld :=
  match outcome with
  | .unreached => world.withSocket position (socket.answering messageId .unavailable)
  | .answered =>
      let evaluated := world.publishOnce conversationId messageId
      { evaluated.2 with
        sockets := evaluated.2.sockets.modify position (·.answering messageId evaluated.1) }
  | .lostReply =>
      let evaluated := world.publishOnce conversationId messageId
      { evaluated.2 with
        sockets := evaluated.2.sockets.modify position (·.answering messageId .unavailable) }

/-- The check of an upgrade: the conversation of the user, or all of them. -/
def mayConnect (userId : Nat) : SocketKind → Bool
  | .conversation conversationId =>
      (requireAuthorizedActiveConversation world.chat.db conversationId userId).toBool
  | .unread conversationIds =>
      conversationIds == listActiveBuddyConversationIds world.chat.db userId

end RealtimeWorld

/-- One statement, script or frame.  Other requests may change conversations and matches. -/
inductive RealtimeStep (env : ChatEnvironment) (wire : WireFormat) :
    RealtimeWorld → RealtimeLabel → RealtimeWorld → Prop
  | chat {world} {label} {after} (hstep : MessageStep env world.chat label after) :
      RealtimeStep env wire world (.chat label) (world.withChat label after)
  | tables {world : RealtimeWorld} {conversations} {buddyMatches} :
      RealtimeStep env wire world (.tables conversations buddyMatches)
        { world with chat := { world.chat with
            db := { world.chat.db with
              conversations := conversations, buddyMatches := buddyMatches } } }
  | connect {world : RealtimeWorld} {kind} {userId}
      (hallowed : world.mayConnect userId kind = true) :
      RealtimeStep env wire world (.connect kind userId)
        { world with sockets := world.sockets ++ [{ userId, kind }] }
  | subscribe {world : RealtimeWorld} {position} {redisUp} {socket}
      (hsocket : world.sockets[position]? = some socket) (hphase : socket.phase = .authorized) :
      RealtimeStep env wire world (.subscribe position redisUp)
        (world.withSocket position (socket.subscribe world.publications.length redisUp))
  | accept {world : RealtimeWorld} {position} {socket}
      (hsocket : world.sockets[position]? = some socket) (hphase : socket.phase = .subscribed) :
      RealtimeStep env wire world (.accept position)
        (world.withSocket position socket.accept)
  | receive {world : RealtimeWorld} {position} {frame} {authenticated} {rate} {socket}
      (hsocket : world.sockets[position]? = some socket) (hphase : socket.phase = .accepted)
      (hreceiver : socket.receiver = .waiting) :
      RealtimeStep env wire world (.receive position frame authenticated rate)
        (world.withSocket position (socket.receive frame authenticated rate))
  | answered {world : RealtimeWorld} {position} {label} {after} {socket} {request} {outcome}
      (hsocket : world.sockets[position]? = some socket) (hphase : socket.phase = .accepted)
      (hreceiver : socket.receiver = .sending request)
      (hstep : MessageStep env world.chat label after)
      (hanswer : world.chat.answer label = some (request, outcome)) :
      RealtimeStep env wire world (.answered position label)
        ((world.withChat label after).withSocket position (socket.answered outcome))
  | publish {world : RealtimeWorld} {position} {outcome} {socket} {conversationId} {messageId}
      (hsocket : world.sockets[position]? = some socket) (hphase : socket.phase = .accepted)
      (hkind : socket.kind = .conversation conversationId)
      (hreceiver : socket.receiver = .committed messageId) :
      RealtimeStep env wire world (.publish position outcome)
        (world.publish position socket conversationId messageId outcome)
  | tell {world : RealtimeWorld} {position} {socket} {messageId} {delivery}
      (hsocket : world.sockets[position]? = some socket) (hphase : socket.phase = .accepted)
      (hreceiver : socket.receiver = .answering messageId delivery) :
      RealtimeStep env wire world (.tell position)
        (world.withSocket position (socket.tell messageId delivery))
  | take {world : RealtimeWorld} {position} {socket} {publication} {rest}
      (hsocket : world.sockets[position]? = some socket) (hphase : socket.phase = .accepted)
      (hforwarder : socket.forwarder = .waiting) (hqueue : socket.queue = publication :: rest) :
      RealtimeStep env wire world (.take position)
        (world.withSocket position (socket.take publication rest))
  | authorize {world : RealtimeWorld} {position} {authenticated} {socket} {publication}
      (hsocket : world.sockets[position]? = some socket) (hphase : socket.phase = .accepted)
      (hforwarder : socket.forwarder = .taken publication) :
      RealtimeStep env wire world (.authorize position authenticated)
        (world.withSocket position
          (socket.authorize world.chat.db publication authenticated))
  | readClock {world : RealtimeWorld} {position} {socket} {publication}
      (hsocket : world.sockets[position]? = some socket) (hphase : socket.phase = .accepted)
      (hforwarder : socket.forwarder = .authorized publication) :
      RealtimeStep env wire world (.readClock position)
        (world.withSocket position (socket.readClock publication world.chat.now))
  | select {world : RealtimeWorld} {position} {socket} {conversationId} {publication} {now}
      (hsocket : world.sockets[position]? = some socket) (hphase : socket.phase = .accepted)
      (hkind : socket.kind = .conversation conversationId)
      (hforwarder : socket.forwarder = .selecting publication now) :
      RealtimeStep env wire world (.select position)
        (world.withSocket position (socket.select wire publication
          (selectRealtimeMessage world.chat.db conversationId publication.messageId now)))
  | write {world : RealtimeWorld} {position} {socket} {event}
      (hsocket : world.sockets[position]? = some socket) (hphase : socket.phase = .accepted)
      (hevent : socket.forwarder.event? = some event) :
      RealtimeStep env wire world (.write position)
        (world.withSocket position (socket.forward event))
  | unlink {world : RealtimeWorld} {position} {kept} {socket}
      (hsocket : world.sockets[position]? = some socket)
      (hphase : socket.phase ≠ .authorized) :
      RealtimeStep env wire world (.unlink position kept)
        (world.withSocket position (socket.unlink kept))
  | relink {world : RealtimeWorld} {position} {socket}
      (hsocket : world.sockets[position]? = some socket) (hphase : socket.phase = .accepted) :
      RealtimeStep env wire world (.relink position)
        (world.withSocket position { socket with linked := true })
  | close {world : RealtimeWorld} {position} {closure} {socket}
      (hsocket : world.sockets[position]? = some socket) :
      RealtimeStep env wire world (.close position closure)
        (world.withSocket position (socket.close closure))
  | unsubscribe {world : RealtimeWorld} {position} {closure} {socket}
      (hsocket : world.sockets[position]? = some socket)
      (hphase : socket.phase = .closed closure) :
      RealtimeStep env wire world (.unsubscribe position)
        (world.withSocket position { socket with linked := false })
  /-- An eviction, a restart or a failover of Redis. -/
  | loseKeys {world : RealtimeWorld} {lost} :
      RealtimeStep env wire world (.loseKeys lost)
        { world with keys := ExpiringKeys.lose world.keys lost, lost := world.lost ++ lost }

namespace RealtimeWorld

/-- No messages, sockets or keys, on any conversations and matches. -/
def Initial (world : RealtimeWorld) : Prop :=
  world.chat.Initial ∧ world.keys = [] ∧ world.sockets = [] ∧ world.publications = [] ∧
    world.lost = [] ∧ world.committed = []

def Reached (env : ChatEnvironment) (wire : WireFormat) (world : RealtimeWorld) : Prop :=
  Reaches Initial (RealtimeStep env wire) (fun _ _ => True) world

end RealtimeWorld

end BuddyWeb
