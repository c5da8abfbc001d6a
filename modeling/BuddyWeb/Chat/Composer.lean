/-
The conversation hook of the web client: pending messages, the chat socket, the
acknowledgement timeout, the HTTP fallback and the reconciliation with the history.
-/
import BuddyWeb.Chat.WireContract

namespace BuddyWeb

inductive ChatConnectionState
  | connecting
  | connected
  | reconnecting
  | offline
  | denied
  deriving DecidableEq, Repr

inductive PendingSendStatus
  | sending
  | confirmed
  | failed
  deriving DecidableEq, Repr

structure PendingChatMessage where
  clientMessageId : Nat
  body : String
  status : PendingSendStatus
  persistedMessageId : Option Uuid
  deriving DecidableEq

inductive ChatEventErrorCode
  | eventInvalid
  | messageInvalid
  | idempotencyKeyReused
  | rateLimited
  | realtimeUnavailable
  deriving DecidableEq, Repr

/-- An event of the server.  An unreadable one is not of the contract. -/
inductive ChatWebSocketEvent
  | ready
  | messageCreated (messageId : Uuid)
  | messageAccepted (messageId : Uuid)
  | error (code : ChatEventErrorCode)
  | unreadable
  deriving DecidableEq

inductive ReadyState
  | connecting
  | opened
  | closing
  deriving DecidableEq, Repr

/-- The `message.send` event of the client. -/
structure SendFrame where
  clientMessageId : Nat
  body : String
  deriving DecidableEq, Repr

/-- A socket: the frames which the server has still to read, whether it goes on reading,
and the events which have not been delivered yet. -/
structure ChatSocket where
  readyState : ReadyState
  frames : List SendFrame
  isServed : Bool
  events : List ChatWebSocketEvent
  deriving DecidableEq

def ChatSocket.fresh : ChatSocket where
  readyState := .connecting
  frames := []
  isServed := true
  events := []

/-- A request in flight, with the message which the server answered. -/
structure HttpFlight where
  clientMessageId : Nat
  body : String
  answer : Option Uuid
  deriving DecidableEq

/-- What the last render captured for its effects and callbacks. -/
structure RenderedChat where
  persistedIds : List Uuid
  accessDenied : Bool
  deriving DecidableEq

/-- The state and the references of `useChatConversation`.  Of a shown message only its
id matters here. -/
structure ChatConversation where
  pendingMessages : List PendingChatMessage
  liveMessages : List Uuid
  historyPages : List (List Uuid)
  connectionState : ChatConnectionState
  accessDenied : Bool
  socket : Option ChatSocket
  activeSocketSend : Option Nat
  sendAckTimer : Option Nat
  httpFlights : List HttpFlight
  reconnectAttempt : Nat
  reconnectTimer : Bool
  rendered : RenderedChat
  deriving DecidableEq

def reconnectDelaysMs : List Nat :=
  [1000, 2000, 5000, 10000, 10000]

/-- An API error with one of these statuses. -/
def isAccessFailure (status : Option Nat) : Bool :=
  status.any fun status => [401, 403, 404].contains status

/-- A close of the server which takes the access away. -/
def isPolicyClosure (code : Nat) (reason : String) : Bool :=
  code == 1008 && reason != "CHAT_RATE_LIMITED" && reason != "CHAT_EVENT_INVALID"

namespace ChatConversation

variable (conversation : ChatConversation)

/-- The commit of a change to one pending message. -/
def updatePending (clientMessageId : Nat)
    (update : PendingChatMessage → PendingChatMessage) : ChatConversation :=
  { conversation with
    pendingMessages := conversation.pendingMessages.map fun message =>
      if message.clientMessageId = clientMessageId then update message else message }

def setStatus (clientMessageId : Nat) (status : PendingSendStatus) : ChatConversation :=
  conversation.updatePending clientMessageId fun message => { message with status := status }

def findPending (clientMessageId : Nat) : Option PendingChatMessage :=
  conversation.pendingMessages.find? fun message =>
    message.clientMessageId = clientMessageId

def isSending : Bool :=
  conversation.pendingMessages.any fun message => message.status = .sending

def appendLiveMessage (messageId : Uuid) : ChatConversation :=
  if messageId ∈ conversation.liveMessages then conversation
  else { conversation with liveMessages := conversation.liveMessages ++ [messageId] }

/-- The access-denied reset. -/
def denyAccess : ChatConversation :=
  { conversation with
    accessDenied := true
    sendAckTimer := none
    activeSocketSend := none
    socket := conversation.socket.map fun socket => { socket with readyState := .closing }
    historyPages := []
    liveMessages := []
    pendingMessages := []
    connectionState := .denied }

/-- The start of a send over HTTP, unless one is in flight or nothing is pending. -/
def sendThroughHttp (clientMessageId : Nat) : ChatConversation :=
  if conversation.httpFlights.any fun flight => flight.clientMessageId = clientMessageId then
    conversation
  else
    match conversation.findPending clientMessageId with
    | none => conversation
    | some pending =>
        { conversation.setStatus clientMessageId .sending with
          httpFlights :=
            ⟨clientMessageId, pending.body, none⟩ :: conversation.httpFlights }

def landFlight (clientMessageId : Nat) : ChatConversation :=
  { conversation with
    httpFlights := conversation.httpFlights.filter fun flight =>
      flight.clientMessageId ≠ clientMessageId }

/-- The answer of an HTTP send. -/
def httpSucceeded (clientMessageId : Nat) (messageId : Uuid) : ChatConversation :=
  let shown := conversation.appendLiveMessage messageId
  let settled := { shown with
    pendingMessages := shown.pendingMessages.filter fun message =>
      message.clientMessageId ≠ clientMessageId }
  settled.landFlight clientMessageId

/-- A refused or lost HTTP send. -/
def httpRejected (clientMessageId : Nat) (status : Option Nat) : ChatConversation :=
  if isAccessFailure status then conversation.denyAccess.landFlight clientMessageId
  else (conversation.setStatus clientMessageId .failed).landFlight clientMessageId

/-- Open a socket.  The constructor may throw. -/
def connect (throws : Bool) : ChatConversation :=
  if conversation.accessDenied then conversation
  else if throws then { conversation with connectionState := .offline }
  else
    { conversation with
      connectionState :=
        if conversation.reconnectAttempt = 0 then .connecting else .reconnecting
      socket := some .fresh }

/-- The active send is over, with the timer for its acknowledgement. -/
def clearActiveSend : ChatConversation :=
  { conversation with sendAckTimer := none, activeSocketSend := none }

/-- The codes which fail the active send. -/
def failsActiveSend : ChatEventErrorCode → Bool
  | .messageInvalid | .idempotencyKeyReused | .rateLimited => true
  | .eventInvalid | .realtimeUnavailable => false

/-- The socket's listener for messages.  An acceptance names no client id: it is taken for
the active send. -/
def handleEvent : ChatWebSocketEvent → ChatConversation
  | .ready => { conversation with reconnectAttempt := 0, connectionState := .connected }
  | .messageCreated messageId => conversation.appendLiveMessage messageId
  | .messageAccepted messageId =>
      match conversation.activeSocketSend with
      | none => conversation
      | some clientMessageId =>
          conversation.clearActiveSend.updatePending clientMessageId fun message =>
            { message with persistedMessageId := some messageId, status := .confirmed }
  | .error code =>
      match conversation.activeSocketSend with
      | none => conversation
      | some clientMessageId =>
          if failsActiveSend code then
            conversation.clearActiveSend.setStatus clientMessageId .failed
          else conversation
  | .unreadable => conversation

/-- The active send goes over HTTP when its socket has closed. -/
def resendActive : ChatConversation :=
  match conversation.activeSocketSend with
  | none => conversation
  | some clientMessageId => conversation.clearActiveSend.sendThroughHttp clientMessageId

/-- The socket's listener for its end. -/
def handleClose (code : Nat) (reason : String) : ChatConversation :=
  let closed := { conversation with socket := none }
  if closed.accessDenied then closed
  else
    let resent := closed.resendActive
    if isPolicyClosure code reason then resent.denyAccess
    else
      match reconnectDelaysMs[resent.reconnectAttempt]? with
      | none => { resent with connectionState := .offline }
      | some _ =>
          { resent with
            reconnectAttempt := resent.reconnectAttempt + 1
            connectionState := .reconnecting
            reconnectTimer := true }

/-- The timer of the active send. -/
def handleAckTimeout (clientMessageId : Nat) : ChatConversation :=
  if conversation.activeSocketSend = some clientMessageId then
    conversation.clearActiveSend.sendThroughHttp clientMessageId
  else { conversation with sendAckTimer := none }

/-- Send a pending message over the socket when it is free, else over HTTP.  The socket's
own send may throw. -/
def dispatchPending (clientMessageId : Nat) (throws : Bool) : ChatConversation :=
  match conversation.findPending clientMessageId, conversation.socket with
  | none, _ => conversation
  | some _, none => conversation.sendThroughHttp clientMessageId
  | some pending, some socket =>
      if conversation.connectionState = .connected ∧ socket.readyState = .opened ∧
          conversation.activeSocketSend = none then
        if throws then
          (conversation.setStatus clientMessageId .sending).sendThroughHttp clientMessageId
        else
          { conversation.setStatus clientMessageId .sending with
            activeSocketSend := some clientMessageId
            sendAckTimer := some clientMessageId
            socket := some { socket with
              frames := socket.frames ++ [⟨clientMessageId, pending.body⟩] } }
      else conversation.sendThroughHttp clientMessageId

/-- A message which the user sends, with the client id which it is given. -/
def sendMessage (body : String) (clientMessageId : Nat) (throws : Bool) :
    ChatConversation :=
  if conversation.rendered.accessDenied || !isValidChatBody body ||
      conversation.isSending then
    conversation
  else
    let appended : ChatConversation := { conversation with
      pendingMessages := conversation.pendingMessages ++
        [{ clientMessageId := clientMessageId
           body := body
           status := .sending
           persistedMessageId := none }] }
    appended.dispatchPending clientMessageId throws

def retryMessage (clientMessageId : Nat) (throws : Bool) : ChatConversation :=
  if conversation.isSending then conversation
  else conversation.dispatchPending clientMessageId throws

/-- A new connection by hand, after the clean-up of the old one. -/
def retryConnection (throws : Bool) : ChatConversation :=
  let disposed := { conversation.clearActiveSend with
    accessDenied := false
    socket := none
    reconnectTimer := false
    reconnectAttempt := 0 }
  disposed.connect throws

def persistedIds : List Uuid :=
  conversation.historyPages.flatten ++ conversation.liveMessages

def render : ChatConversation :=
  { conversation with
    rendered := ⟨conversation.persistedIds, conversation.accessDenied⟩ }

/-- The effect which drops the pending messages whose persisted form is shown. -/
def reconcilePending : ChatConversation :=
  { conversation with
    pendingMessages := conversation.pendingMessages.filter fun message =>
      message.persistedMessageId.all fun messageId =>
        decide (messageId ∉ conversation.rendered.persistedIds) }

/-- The state before the first connection. -/
def initial : ChatConversation where
  pendingMessages := []
  liveMessages := []
  historyPages := []
  connectionState := .connecting
  accessDenied := false
  socket := none
  activeSocketSend := none
  sendAckTimer := none
  httpFlights := []
  reconnectAttempt := 0
  reconnectTimer := false
  rendered := ⟨[], false⟩

end ChatConversation

/-- The hook of a user, the committed rows, and the history pages which were served. -/
structure ChatWorld where
  conversation : ChatConversation
  db : ChatDb
  servedPages : List (List Uuid)

inductive ComposerLabel
  | sendMessage (body : String) (clientMessageId : Nat) (throws : Bool)
  | retryMessage (clientMessageId : Nat) (throws : Bool)
  | ackTimeout
  | serveHttp (clientMessageId : Nat) (freshId : Uuid) (now : Instant)
  | httpSucceeded (clientMessageId : Nat)
  | httpRejected (clientMessageId : Nat) (status : Option Nat)
  | socketOpened
  | serveFrame (freshId : Uuid) (now : Instant) (isLimited : Bool)
  | pushEvent (event : ChatWebSocketEvent) (now : Instant)
  | receive
  | socketClosing
  | socketClosed (code : Nat) (reason : String)
  | reconnect (throws : Bool)
  | retryConnection (throws : Bool)
  | serveHistory (before : Option String) (pageSize : Nat) (now : Instant)
  | historyLoaded (pages : List (List Uuid))
  | accessFailed
  | render
  | reconcile
  | commit (label : ChatLabel)

section Steps

variable (env : ChatEnvironment) (conversationId userId : Nat)

/-- The send attempt of a frame or of an HTTP request. -/
def composerAttempt (clientMessageId : Nat) (body : String) (freshId : Uuid)
    (now : Instant) : SendAttempt where
  conversationId := conversationId
  senderId := userId
  clientMessageId := clientMessageId
  body := body
  freshId := freshId
  now := now

/-- The server reads the next frame of a socket and answers it.  A refusal which is not of
the message ends the socket. -/
def serveFrame (db : ChatDb) (socket : ChatSocket) (freshId : Uuid) (now : Instant)
    (isLimited : Bool) : Option (ChatDb × ChatSocket) :=
  if socket.isServed then
    match socket.frames with
    | [] => none
    | frame :: frames =>
        let served := { socket with frames := frames }
        if isLimited then
          some (db, { served with
            isServed := false
            events := served.events ++ [.error .rateLimited] })
        else
          match sendBuddyMessage env db (composerAttempt conversationId userId
              frame.clientMessageId frame.body freshId now) with
          | .ok (after, message) =>
              some (after, { served with
                events := served.events ++ [.messageAccepted message.id] })
          | .error .messageInvalid =>
              some (db, { served with events := served.events ++ [.error .messageInvalid] })
          | .error .idempotencyKeyReused =>
              some (db, { served with
                events := served.events ++ [.error .idempotencyKeyReused] })
          | .error _ => some (db, { served with isServed := false })
  else none

/-- The events which the server sends without a frame. -/
def mayPush (db : ChatDb) (now : Instant) : ChatWebSocketEvent → Bool
  | .messageCreated messageId =>
      (getRealtimeBuddyMessage db conversationId userId messageId now).toOption.any
        Option.isSome
  | .messageAccepted _ => false
  | .ready | .error _ | .unreadable => true

namespace ChatWorld

/-- One event of the user, the client, the network or the server. -/
def next (world : ChatWorld) : ComposerLabel → Option ChatWorld
  | .sendMessage body clientMessageId throws =>
      some { world with
        conversation := world.conversation.sendMessage body clientMessageId throws }
  | .retryMessage clientMessageId throws =>
      some { world with
        conversation := world.conversation.retryMessage clientMessageId throws }
  | .ackTimeout =>
      world.conversation.sendAckTimer.map fun clientMessageId =>
        { world with conversation := world.conversation.handleAckTimeout clientMessageId }
  | .serveHttp clientMessageId freshId now => do
      let flight ← world.conversation.httpFlights.find? fun flight =>
        flight.clientMessageId = clientMessageId
      let (after, message) ← (sendBuddyMessage env world.db (composerAttempt conversationId
        userId clientMessageId flight.body freshId now)).toOption
      return { world with
        db := after
        conversation := { world.conversation with
          httpFlights := world.conversation.httpFlights.map fun flight =>
            if flight.clientMessageId = clientMessageId then
              { flight with answer := some message.id }
            else flight } }
  | .httpSucceeded clientMessageId => do
      let flight ← world.conversation.httpFlights.find? fun flight =>
        flight.clientMessageId = clientMessageId
      let messageId ← flight.answer
      return { world with
        conversation := world.conversation.httpSucceeded clientMessageId messageId }
  | .httpRejected clientMessageId status => do
      guard (world.conversation.httpFlights.any fun flight =>
        flight.clientMessageId = clientMessageId)
      return { world with
        conversation := world.conversation.httpRejected clientMessageId status }
  | .socketOpened => do
      let socket ← world.conversation.socket
      guard (socket.readyState = .connecting)
      return { world with
        conversation := { world.conversation with
          socket := some { socket with readyState := .opened } } }
  | .serveFrame freshId now isLimited => do
      let socket ← world.conversation.socket
      let (after, served) ← serveFrame env conversationId userId world.db socket freshId now
        isLimited
      return { world with
        db := after
        conversation := { world.conversation with socket := some served } }
  | .pushEvent event now => do
      let socket ← world.conversation.socket
      guard (socket.isServed && mayPush conversationId userId world.db now event)
      return { world with
        conversation := { world.conversation with
          socket := some { socket with events := socket.events ++ [event] } } }
  | .receive => do
      let socket ← world.conversation.socket
      guard (socket.readyState = .opened)
      let event ← socket.events.head?
      let received := { world.conversation with
        socket := some { socket with events := socket.events.tail } }
      return { world with conversation := received.handleEvent event }
  | .socketClosing => do
      let socket ← world.conversation.socket
      return { world with
        conversation := { world.conversation with
          socket := some { socket with readyState := .closing } } }
  | .socketClosed code reason => do
      guard world.conversation.socket.isSome
      return { world with conversation := world.conversation.handleClose code reason }
  | .reconnect throws => do
      guard world.conversation.reconnectTimer
      let fired := { world.conversation with reconnectTimer := false }
      return { world with conversation := fired.connect throws }
  | .retryConnection throws =>
      some { world with conversation := world.conversation.retryConnection throws }
  | .serveHistory before pageSize now => do
      let page ← (listBuddyMessages world.db conversationId userId before pageSize
        now).toOption
      return { world with
        servedPages := page.items.map (·.id) :: world.servedPages }
  | .historyLoaded pages => do
      guard (pages.all fun page => decide (page ∈ world.servedPages))
      return { world with
        conversation := { world.conversation with historyPages := pages } }
  | .accessFailed => some { world with conversation := world.conversation.denyAccess }
  | .render => some { world with conversation := world.conversation.render }
  | .reconcile => some { world with conversation := world.conversation.reconcilePending }
  | .commit label => some { world with db := world.db.after env label }

def Step (world : ChatWorld) (label : ComposerLabel) (after : ChatWorld) : Prop :=
  world.next env conversationId userId label = some after

/-- The hook has just been mounted. -/
def Initial (world : ChatWorld) : Prop :=
  ∃ throws, world.conversation = ChatConversation.initial.connect throws

/-- The step takes the branch of the source which calls the access-denied reset. -/
def resets : ComposerLabel → Bool
  | .httpRejected _ status => isAccessFailure status
  | .socketClosed code reason => isPolicyClosure code reason
  | .accessFailed => true
  | _ => false

end ChatWorld

end Steps

end BuddyWeb
