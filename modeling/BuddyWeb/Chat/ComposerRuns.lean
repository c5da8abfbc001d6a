/-
What the pending messages of the conversation hook know of the server, over all orders of
sends, frames, timeouts, fallbacks, closes and history reads.
-/
import BuddyWeb.Chat.Composer

namespace BuddyWeb

/-- The server has the message of a send of the user. -/
def ChatDb.hasPersisted (db : ChatDb) (userId clientMessageId : Nat) (messageId : Uuid) :
    Bool :=
  db.messages.rows.any fun message =>
    message.senderId = userId && message.clientMessageId = clientMessageId &&
      message.id = messageId

/-- An acceptance which is handled during an active send is the acceptance of that send. -/
def acceptanceAnswersActive (userId : Nat) (world : ChatWorld) : ComposerLabel → Bool
  | .receive =>
      match world.conversation.socket.bind fun socket => socket.events.head?,
          world.conversation.activeSocketSend with
      | some (.messageAccepted messageId), some clientMessageId =>
          world.db.hasPersisted userId clientMessageId messageId
      | _, _ => true
  | _ => true

section Persisted

variable {env : ChatEnvironment} {db after : ChatDb} {userId clientMessageId : Nat}
  {messageId : Uuid}

theorem ChatDb.hasPersisted_iff : db.hasPersisted userId clientMessageId messageId = true ↔
    ∃ message ∈ db.messages.rows, message.senderId = userId ∧
      message.clientMessageId = clientMessageId ∧ message.id = messageId := by
  simp [ChatDb.hasPersisted, and_assoc]

theorem hasPersisted_of_send {attempt : SendAttempt} {message : BuddyMessage}
    (h : sendBuddyMessage env db attempt = .ok (after, message)) :
    after.hasPersisted attempt.senderId attempt.clientMessageId message.id = true := by
  have hidentity := sendBuddyMessage_identity h
  exact ChatDb.hasPersisted_iff.mpr
    ⟨message, (sendBuddyMessage_rows h).1, hidentity.1, hidentity.2, rfl⟩

theorem hasPersisted_send {attempt : SendAttempt} {message : BuddyMessage}
    (h : sendBuddyMessage env db attempt = .ok (after, message))
    (hdb : db.hasPersisted userId clientMessageId messageId = true) :
    after.hasPersisted userId clientMessageId messageId = true := by
  obtain ⟨stored, hstored, hsame⟩ := ChatDb.hasPersisted_iff.mp hdb
  refine ChatDb.hasPersisted_iff.mpr ⟨stored, ?_, hsame⟩
  rcases (sendBuddyMessage_rows h).2 with rfl | hrows
  · exact hstored
  · rw [hrows]
    exact List.mem_cons_of_mem _ hstored

/-- What the server has persisted stays through each committed request. -/
theorem hasPersisted_after (label : ChatLabel)
    (hdb : db.hasPersisted userId clientMessageId messageId = true) :
    (db.after env label).hasPersisted userId clientMessageId messageId = true := by
  cases label with
  | send attempt =>
      simp only [ChatDb.after]
      split
      · rename_i sent message hsend
        exact hasPersisted_send hsend hdb
      · exact hdb
  | acknowledge conversationId readerId throughMessageId now =>
      simp only [ChatDb.after]
      split
      · rename_i marked count hmarked
        obtain ⟨_, boundary, hrows⟩ := acknowledge_rows hmarked
        obtain ⟨stored, hstored, hsame⟩ := ChatDb.hasPersisted_iff.mp hdb
        refine ChatDb.hasPersisted_iff.mpr
          ⟨markRead conversationId readerId boundary now stored, ?_, ?_⟩
        · rw [hrows]
          exact List.mem_map_of_mem hstored
        · unfold markRead
          split <;> exact hsame
      · exact hdb

end Persisted

namespace ChatConversation

/-- The marks of pending messages and the answers of flights come from the state before. -/
structure Inherits (before after : ChatConversation) : Prop where
  marks : ∀ message ∈ after.pendingMessages, ∀ messageId ∈ message.persistedMessageId,
    ∃ old ∈ before.pendingMessages, old.clientMessageId = message.clientMessageId ∧
      old.persistedMessageId = some messageId
  answers : ∀ flight ∈ after.httpFlights, ∀ messageId ∈ flight.answer,
    ∃ old ∈ before.httpFlights, old.clientMessageId = flight.clientMessageId ∧
      old.answer = some messageId

/-- Every message which was pending still is. -/
def Keeps (before after : ChatConversation) : Prop :=
  ∀ message ∈ before.pendingMessages, ∃ kept ∈ after.pendingMessages,
    kept.clientMessageId = message.clientMessageId

section Frame

variable {before middle after : ChatConversation}

theorem Inherits.of_eq (hpending : after.pendingMessages = before.pendingMessages)
    (hflights : after.httpFlights = before.httpFlights) : Inherits before after where
  marks message hmessage _ hmark := ⟨message, hpending ▸ hmessage, rfl, hmark⟩
  answers flight hflight _ hanswer := ⟨flight, hflights ▸ hflight, rfl, hanswer⟩

theorem Inherits.trans (hfirst : Inherits before middle) (hsecond : Inherits middle after) :
    Inherits before after where
  marks message hmessage messageId hmark := by
    obtain ⟨old, hold, hid, holdMark⟩ := hsecond.marks message hmessage messageId hmark
    obtain ⟨older, holder, holderId, holderMark⟩ := hfirst.marks old hold messageId holdMark
    exact ⟨older, holder, holderId.trans hid, holderMark⟩
  answers flight hflight messageId hanswer := by
    obtain ⟨old, hold, hid, holdAnswer⟩ := hsecond.answers flight hflight messageId hanswer
    obtain ⟨older, holder, holderId, holderAnswer⟩ :=
      hfirst.answers old hold messageId holdAnswer
    exact ⟨older, holder, holderId.trans hid, holderAnswer⟩

theorem Keeps.of_eq (hpending : after.pendingMessages = before.pendingMessages) :
    Keeps before after := by
  intro message hmessage
  exact ⟨message, hpending ▸ hmessage, rfl⟩

theorem Keeps.trans (hfirst : Keeps before middle) (hsecond : Keeps middle after) :
    Keeps before after := by
  intro message hmessage
  obtain ⟨kept, hkept, hid⟩ := hfirst message hmessage
  obtain ⟨later, hlater, hlaterId⟩ := hsecond kept hkept
  exact ⟨later, hlater, hlaterId.trans hid⟩

end Frame

/-- The state after keeps the pending messages and knows nothing new of the server. -/
def Carries (before after : ChatConversation) : Prop :=
  Inherits before after ∧ Keeps before after

section Operations

variable (conversation : ChatConversation)

theorem Carries.of_eq {before after : ChatConversation}
    (hpending : after.pendingMessages = before.pendingMessages)
    (hflights : after.httpFlights = before.httpFlights) : Carries before after :=
  ⟨.of_eq hpending hflights, .of_eq hpending⟩

theorem Carries.trans {before middle after : ChatConversation}
    (hfirst : Carries before middle) (hsecond : Carries middle after) :
    Carries before after :=
  ⟨hfirst.1.trans hsecond.1, hfirst.2.trans hsecond.2⟩

theorem Carries.refl : Carries conversation conversation :=
  .of_eq rfl rfl

theorem setStatus_carries (clientMessageId : Nat) (status : PendingSendStatus) :
    Carries conversation (conversation.setStatus clientMessageId status) := by
  refine ⟨⟨?_, fun flight hflight messageId hanswer => ⟨flight, hflight, rfl, hanswer⟩⟩, ?_⟩
  · intro message hmessage messageId hmark
    obtain ⟨old, hold, rfl⟩ := List.mem_map.mp hmessage
    refine ⟨old, hold, ?_⟩
    split at hmark <;> simp_all
  · intro message hmessage
    refine ⟨_, List.mem_map_of_mem hmessage, ?_⟩
    split <;> rfl

theorem sendThroughHttp_carries (clientMessageId : Nat) :
    Carries conversation (conversation.sendThroughHttp clientMessageId) := by
  unfold sendThroughHttp
  split
  · exact .refl conversation
  · split
    · exact .refl conversation
    · rename_i pending hpending
      have hstatus := setStatus_carries conversation clientMessageId .sending
      refine ⟨⟨hstatus.1.marks, ?_⟩, hstatus.2⟩
      intro flight hflight messageId hanswer
      rcases List.mem_cons.mp hflight with rfl | hflight
      · exact absurd hanswer (by simp)
      · exact ⟨flight, hflight, rfl, hanswer⟩

theorem appendLiveMessage_carries (messageId : Uuid) :
    Carries conversation (conversation.appendLiveMessage messageId) := by
  unfold appendLiveMessage
  split <;> exact .of_eq rfl rfl

theorem connect_carries (throws : Bool) :
    Carries conversation (conversation.connect throws) := by
  unfold connect
  split
  · exact .refl conversation
  · split <;> exact .of_eq rfl rfl

theorem resendActive_carries : Carries conversation conversation.resendActive := by
  unfold resendActive
  split
  · exact .refl conversation
  · rename_i clientMessageId _
    exact (Carries.of_eq (by rfl) (by rfl)).trans
      (sendThroughHttp_carries conversation.clearActiveSend clientMessageId)

theorem denyAccess_inherits : Inherits conversation conversation.denyAccess where
  marks _ hmessage := absurd hmessage List.not_mem_nil
  answers flight hflight _ hanswer := ⟨flight, hflight, rfl, hanswer⟩

theorem landFlight_carries (clientMessageId : Nat) :
    Carries conversation (conversation.landFlight clientMessageId) :=
  ⟨⟨fun message hmessage _ hmark => ⟨message, hmessage, rfl, hmark⟩,
    fun flight hflight _ hanswer =>
      ⟨flight, List.mem_of_mem_filter hflight, rfl, hanswer⟩⟩, .of_eq rfl⟩

theorem handleAckTimeout_carries (clientMessageId : Nat) :
    Carries conversation (conversation.handleAckTimeout clientMessageId) := by
  unfold handleAckTimeout
  split
  · exact (Carries.of_eq (by rfl) (by rfl)).trans
      (sendThroughHttp_carries conversation.clearActiveSend clientMessageId)
  · exact .of_eq rfl rfl

theorem dispatchPending_carries (clientMessageId : Nat) (throws : Bool) :
    Carries conversation (conversation.dispatchPending clientMessageId throws) := by
  have hstatus := setStatus_carries conversation clientMessageId .sending
  unfold dispatchPending
  split
  · exact .refl conversation
  · exact sendThroughHttp_carries conversation clientMessageId
  · split
    · split
      · exact hstatus.trans (sendThroughHttp_carries _ clientMessageId)
      · exact hstatus.trans (.of_eq rfl rfl)
    · exact sendThroughHttp_carries conversation clientMessageId

/-- A message which the user has just sent is not marked. -/
theorem sendMessage_carries (body : String) (clientMessageId : Nat) (throws : Bool) :
    Carries conversation (conversation.sendMessage body clientMessageId throws) := by
  unfold sendMessage
  split
  · exact .refl conversation
  · refine Carries.trans ⟨⟨?_, ?_⟩, ?_⟩ (dispatchPending_carries _ clientMessageId throws)
    · intro message hmessage messageId hmark
      rcases List.mem_append.mp hmessage with hold | hnew
      · exact ⟨message, hold, rfl, hmark⟩
      · rw [List.mem_singleton] at hnew
        subst hnew
        exact absurd hmark (by simp)
    · exact fun flight hflight messageId hanswer => ⟨flight, hflight, rfl, hanswer⟩
    · exact fun message hmessage => ⟨message, List.mem_append_left _ hmessage, rfl⟩

theorem retryMessage_carries (clientMessageId : Nat) (throws : Bool) :
    Carries conversation (conversation.retryMessage clientMessageId throws) := by
  unfold retryMessage
  split
  · exact .refl conversation
  · exact dispatchPending_carries conversation clientMessageId throws

theorem retryConnection_carries (throws : Bool) :
    Carries conversation (conversation.retryConnection throws) :=
  (Carries.of_eq (by rfl) (by rfl)).trans (connect_carries _ throws)

/-- Only a policy closure takes pending messages away. -/
theorem handleClose_inherits (code : Nat) (reason : String) :
    Inherits conversation (conversation.handleClose code reason) ∧
      (isPolicyClosure code reason = false →
        Keeps conversation (conversation.handleClose code reason)) := by
  have hresent : Carries conversation
      (ChatConversation.resendActive { conversation with socket := none }) :=
    (Carries.of_eq (by rfl) (by rfl)).trans
      (resendActive_carries { conversation with socket := none })
  simp only [handleClose]
  split
  · exact ⟨.of_eq rfl rfl, fun _ => .of_eq rfl⟩
  · split
    · rename_i hpolicy
      refine ⟨hresent.1.trans (denyAccess_inherits _), fun hother => ?_⟩
      rw [hpolicy] at hother
      exact absurd hother (by decide)
    · split
      · exact ⟨hresent.1.trans (.of_eq rfl rfl), fun _ => hresent.2.trans (.of_eq rfl)⟩
      · exact ⟨hresent.1.trans (.of_eq rfl rfl), fun _ => hresent.2.trans (.of_eq rfl)⟩

/-- Every event but an acceptance during an active send. -/
theorem handleEvent_carries {event : ChatWebSocketEvent}
    (hevent : ∀ messageId, event = .messageAccepted messageId →
      conversation.activeSocketSend = none) :
    Carries conversation (conversation.handleEvent event) := by
  cases event with
  | ready => exact .of_eq rfl rfl
  | messageCreated messageId => exact appendLiveMessage_carries conversation messageId
  | messageAccepted messageId =>
      simp only [handleEvent, hevent messageId rfl]
      exact .refl conversation
  | error code =>
      simp only [handleEvent]
      split
      · exact .refl conversation
      · split
        · exact (Carries.of_eq (by rfl) (by rfl)).trans
            (setStatus_carries conversation.clearActiveSend _ .failed)
        · exact .refl conversation
  | unreadable => exact .refl conversation

/-- An acceptance marks the active send and no other one. -/
theorem handleEvent_accepted {clientMessageId : Nat} (messageId : Uuid)
    (hactive : conversation.activeSocketSend = some clientMessageId) :
    Keeps conversation (conversation.handleEvent (.messageAccepted messageId)) ∧
      (conversation.handleEvent (.messageAccepted messageId)).httpFlights =
        conversation.httpFlights ∧
      ∀ message ∈ (conversation.handleEvent (.messageAccepted messageId)).pendingMessages,
        message ∈ conversation.pendingMessages ∨
          (message.clientMessageId = clientMessageId ∧
            message.persistedMessageId = some messageId) := by
  simp only [handleEvent, hactive]
  refine ⟨?_, rfl, ?_⟩
  · intro message hmessage
    refine ⟨_, List.mem_map_of_mem hmessage, ?_⟩
    split <;> rfl
  · intro message hmessage
    obtain ⟨old, hold, rfl⟩ := List.mem_map.mp hmessage
    split
    · rename_i hid
      exact .inr ⟨hid, rfl⟩
    · exact .inl hold

theorem httpSucceeded_spec (clientMessageId : Nat) (messageId : Uuid) :
    Inherits conversation (conversation.httpSucceeded clientMessageId messageId) ∧
      ∀ message ∈ conversation.pendingMessages, message.clientMessageId ≠ clientMessageId →
        message ∈ (conversation.httpSucceeded clientMessageId messageId).pendingMessages := by
  have hlive := appendLiveMessage_carries conversation messageId
  have hpending : (conversation.appendLiveMessage messageId).pendingMessages =
      conversation.pendingMessages := by
    unfold appendLiveMessage
    split <;> rfl
  refine ⟨hlive.1.trans ⟨?_, ?_⟩, ?_⟩
  · exact fun message hmessage _ hmark =>
      ⟨message, List.mem_of_mem_filter hmessage, rfl, hmark⟩
  · exact fun flight hflight _ hanswer =>
      ⟨flight, List.mem_of_mem_filter hflight, rfl, hanswer⟩
  · intro message hmessage hne
    refine List.mem_filter.mpr ⟨hpending ▸ hmessage, ?_⟩
    simpa using hne

theorem reconcilePending_spec :
    Inherits conversation conversation.reconcilePending ∧
      ∀ message ∈ conversation.pendingMessages, message.persistedMessageId = none →
        message ∈ conversation.reconcilePending.pendingMessages := by
  refine ⟨⟨?_, fun flight hflight _ hanswer => ⟨flight, hflight, rfl, hanswer⟩⟩, ?_⟩
  · exact fun message hmessage _ hmark =>
      ⟨message, List.mem_of_mem_filter hmessage, rfl, hmark⟩
  · intro message hmessage hnone
    refine List.mem_filter.mpr ⟨hmessage, ?_⟩
    simp [hnone]

end Operations

end ChatConversation

/-- The marks of pending messages and the answers of flights are the ids of what the server
persisted under their own client ids. -/
structure ChatWorld.Agrees (userId : Nat) (world : ChatWorld) : Prop where
  marks : ∀ message ∈ world.conversation.pendingMessages,
    ∀ messageId ∈ message.persistedMessageId,
      world.db.hasPersisted userId message.clientMessageId messageId = true
  answers : ∀ flight ∈ world.conversation.httpFlights, ∀ messageId ∈ flight.answer,
    world.db.hasPersisted userId flight.clientMessageId messageId = true

namespace ChatWorld

variable {env : ChatEnvironment} {conversationId userId : Nat} {world after : ChatWorld}

theorem Agrees.of_inherits (hworld : world.Agrees userId)
    (hdb : ∀ clientMessageId messageId,
      world.db.hasPersisted userId clientMessageId messageId = true →
        after.db.hasPersisted userId clientMessageId messageId = true)
    (hinherits : world.conversation.Inherits after.conversation) :
    after.Agrees userId where
  marks message hmessage messageId hmark := by
    obtain ⟨old, hold, hid, holdMark⟩ := hinherits.marks message hmessage messageId hmark
    rw [← hid]
    exact hdb _ _ (hworld.marks old hold messageId holdMark)
  answers flight hflight messageId hanswer := by
    obtain ⟨old, hold, hid, holdAnswer⟩ := hinherits.answers flight hflight messageId hanswer
    rw [← hid]
    exact hdb _ _ (hworld.answers old hold messageId holdAnswer)

/-- What a step leaves of a pending message: it is still pending, or the server has it. -/
def Loses (userId : Nat) (before after : ChatWorld) : Prop :=
  ∃ message ∈ before.conversation.pendingMessages,
    (∀ kept ∈ after.conversation.pendingMessages,
      kept.clientMessageId ≠ message.clientMessageId) ∧
    ∀ messageId, after.db.hasPersisted userId message.clientMessageId messageId = false

theorem not_loses_of_keeps (hkeeps : world.conversation.Keeps after.conversation) :
    ¬ Loses userId world after := by
  rintro ⟨message, hmessage, hgone, _⟩
  obtain ⟨kept, hkept, hid⟩ := hkeeps message hmessage
  exact hgone kept hkept hid

/-- A step of the client which carries the pending messages over. -/
theorem agrees_of_carries (hworld : world.Agrees userId) (hdb : after.db = world.db)
    (hcarries : world.conversation.Carries after.conversation) :
    after.Agrees userId ∧ ¬ Loses userId world after :=
  ⟨hworld.of_inherits (fun _ _ h => hdb ▸ h) hcarries.1, not_loses_of_keeps hcarries.2⟩

/-- An answer to a frame changes no pending message. -/
theorem serveFrame_persisted {db later : ChatDb} {socket served : ChatSocket} {freshId : Uuid}
    {now : Instant} {isLimited : Bool}
    (h : serveFrame env conversationId userId db socket freshId now isLimited =
      some (later, served)) {clientMessageId : Nat} {messageId : Uuid}
    (hdb : db.hasPersisted userId clientMessageId messageId = true) :
    later.hasPersisted userId clientMessageId messageId = true := by
  unfold serveFrame at h
  split at h
  · split at h
    · exact absurd h (by simp)
    · split at h
      · simp only [Option.some.injEq, Prod.mk.injEq] at h
        exact h.1 ▸ hdb
      · split at h <;> simp only [Option.some.injEq, Prod.mk.injEq] at h
        · rename_i hsend
          exact h.1 ▸ hasPersisted_send hsend hdb
        all_goals exact h.1 ▸ hdb
  · exact absurd h (by simp)

/-- The handling of the next event of the socket. -/
theorem agrees_of_receive (hworld : world.Agrees userId) {socket : ChatSocket}
    (hsocket : world.conversation.socket = some socket) {event : ChatWebSocketEvent}
    (hevent : socket.events.head? = some event)
    (hallowed : acceptanceAnswersActive userId world .receive = true)
    (hafter : after = { world with
      conversation := ChatConversation.handleEvent { world.conversation with
        socket := some { socket with events := socket.events.tail } } event }) :
    after.Agrees userId ∧ ¬ Loses userId world after := by
  have hreceived : world.conversation.Carries { world.conversation with
      socket := some { socket with events := socket.events.tail } } := .of_eq rfl rfl
  by_cases haccepted : ∃ messageId clientMessageId, event = .messageAccepted messageId ∧
      world.conversation.activeSocketSend = some clientMessageId
  · obtain ⟨messageId, clientMessageId, rfl, hactive⟩ := haccepted
    have hstored : world.db.hasPersisted userId clientMessageId messageId = true := by
      simpa [acceptanceAnswersActive, hsocket, hevent, hactive] using hallowed
    obtain ⟨hkeeps, hflights, hpending⟩ := ChatConversation.handleEvent_accepted
      { world.conversation with
        socket := some { socket with events := socket.events.tail } } messageId hactive
    subst hafter
    refine ⟨⟨?_, ?_⟩, not_loses_of_keeps (hreceived.2.trans hkeeps)⟩
    · intro message hmessage marked hmark
      rcases hpending message hmessage with hold | ⟨hid, hmarked⟩
      · exact hworld.marks message hold marked hmark
      · rw [hmarked, Option.mem_some_iff] at hmark
        rw [hid, ← hmark]
        exact hstored
    · rw [hflights]
      exact hworld.answers
  · subst hafter
    refine agrees_of_carries hworld rfl (hreceived.trans ?_)
    refine ChatConversation.handleEvent_carries _ fun messageId hmessage => ?_
    cases hactive : world.conversation.activeSocketSend with
    | none => rfl
    | some clientMessageId =>
        exact absurd ⟨messageId, clientMessageId, hmessage, hactive⟩ haccepted

theorem agrees_of_serveHttp (hworld : world.Agrees userId) {clientMessageId : Nat}
    {body : String} {freshId : Uuid} {now : Instant} {later : ChatDb} {message : BuddyMessage}
    (hsend : sendBuddyMessage env world.db (composerAttempt conversationId userId
      clientMessageId body freshId now) = .ok (later, message))
    (hafter : after = { world with
      db := later
      conversation := { world.conversation with
        httpFlights := world.conversation.httpFlights.map fun flight =>
          if flight.clientMessageId = clientMessageId then
            { flight with answer := some message.id }
          else flight } }) :
    after.Agrees userId ∧ ¬ Loses userId world after := by
  subst hafter
  refine ⟨⟨?_, ?_⟩, not_loses_of_keeps (.of_eq rfl)⟩
  · intro pending hpending messageId hmark
    exact hasPersisted_send hsend (hworld.marks pending hpending messageId hmark)
  · intro flight hflight messageId hanswer
    obtain ⟨old, hold, rfl⟩ := List.mem_map.mp hflight
    split at hanswer
    · rename_i hid
      rw [Option.mem_some_iff] at hanswer
      rw [if_pos hid, ← hanswer]
      have hstored := hasPersisted_of_send hsend
      rw [show (composerAttempt conversationId userId clientMessageId body freshId
        now).clientMessageId = old.clientMessageId from hid.symm] at hstored
      exact hstored
    · rename_i hid
      rw [if_neg hid]
      exact hasPersisted_send hsend (hworld.answers old hold messageId hanswer)

/-- A message which the answer of its request takes away is persisted. -/
theorem agrees_of_httpSucceeded (hworld : world.Agrees userId) {flight : HttpFlight}
    {messageId : Uuid} (hflight : flight ∈ world.conversation.httpFlights)
    (hanswer : flight.answer = some messageId)
    (hafter : after = { world with
      conversation := world.conversation.httpSucceeded flight.clientMessageId messageId }) :
    after.Agrees userId ∧ ¬ Loses userId world after := by
  subst hafter
  obtain ⟨hinherits, hkept⟩ :=
    world.conversation.httpSucceeded_spec flight.clientMessageId messageId
  refine ⟨hworld.of_inherits (fun _ _ h => h) hinherits, ?_⟩
  rintro ⟨message, hmessage, hgone, hnever⟩
  by_cases hid : message.clientMessageId = flight.clientMessageId
  · have hstored := hworld.answers flight hflight messageId hanswer
    rw [← hid] at hstored
    exact absurd hstored (by simp [hnever messageId])
  · exact hgone message (hkept message hmessage hid) rfl

/-- A message which is taken for persisted is. -/
theorem agrees_of_reconcile (hworld : world.Agrees userId)
    (hafter : after = { world with conversation := world.conversation.reconcilePending }) :
    after.Agrees userId ∧ ¬ Loses userId world after := by
  subst hafter
  obtain ⟨hinherits, hkept⟩ := world.conversation.reconcilePending_spec
  refine ⟨hworld.of_inherits (fun _ _ h => h) hinherits, ?_⟩
  rintro ⟨message, hmessage, hgone, hnever⟩
  cases hmark : message.persistedMessageId with
  | none => exact hgone message (hkept message hmessage hmark) rfl
  | some messageId =>
      have hstored := hworld.marks message hmessage messageId hmark
      exact absurd hstored (by simp [hnever messageId])

/-- A request that failed leaves its message pending, as a failed one, unless the access is
denied. -/
theorem agrees_of_httpRejected (hworld : world.Agrees userId) (clientMessageId : Nat)
    (status : Option Nat)
    (hafter : after = { world with
      conversation := world.conversation.httpRejected clientMessageId status }) :
    after.Agrees userId ∧ (isAccessFailure status = false → ¬ Loses userId world after) := by
  by_cases haccess : isAccessFailure status = true
  · subst hafter
    refine ⟨hworld.of_inherits (fun _ _ h => h) ?_, fun hkept => ?_⟩
    · simp only [ChatConversation.httpRejected, haccess, if_true]
      exact world.conversation.denyAccess_inherits.trans
        (ChatConversation.landFlight_carries _ clientMessageId).1
    · rw [haccess] at hkept
      cases hkept
  · have hcarries : world.conversation.Carries after.conversation := by
      simp only [hafter, ChatConversation.httpRejected, haccess]
      exact (world.conversation.setStatus_carries clientMessageId .failed).trans
        (ChatConversation.landFlight_carries _ clientMessageId)
    have hdb : after.db = world.db := by rw [hafter]
    exact (agrees_of_carries hworld hdb hcarries).imp_right fun hkept _ => hkept

/-- The labels which persist, answer, mark or drop a message. -/
def settles : ComposerLabel → Bool
  | .serveHttp .. | .httpSucceeded _ | .httpRejected .. | .serveFrame .. | .receive
  | .socketClosed .. | .accessFailed | .reconcile | .commit _ => true
  | _ => false

/-- The other steps are the client's own and carry its messages over. -/
theorem Step.carries {label : ComposerLabel} (hquiet : settles label = false)
    (hstep : Step env conversationId userId world label after) :
    after.db = world.db ∧ world.conversation.Carries after.conversation := by
  simp only [Step] at hstep
  cases label with
  | sendMessage body clientMessageId throws =>
      cases hstep
      exact ⟨rfl, world.conversation.sendMessage_carries body clientMessageId throws⟩
  | retryMessage clientMessageId throws =>
      cases hstep
      exact ⟨rfl, world.conversation.retryMessage_carries clientMessageId throws⟩
  | ackTimeout =>
      obtain ⟨clientMessageId, _, rfl⟩ := Option.map_eq_some_iff.mp hstep
      exact ⟨rfl, world.conversation.handleAckTimeout_carries clientMessageId⟩
  | socketOpened | pushEvent =>
      simp only [next, Option.bind_eq_bind, Option.bind_eq_some_iff, Option.pure_def,
        Option.some.injEq] at hstep
      obtain ⟨socket, _, _, _, rfl⟩ := hstep
      exact ⟨rfl, .of_eq rfl rfl⟩
  | socketClosing =>
      simp only [next, Option.bind_eq_bind, Option.bind_eq_some_iff, Option.pure_def,
        Option.some.injEq] at hstep
      obtain ⟨socket, _, rfl⟩ := hstep
      exact ⟨rfl, .of_eq rfl rfl⟩
  | reconnect throws =>
      simp only [next, Option.bind_eq_bind, Option.bind_eq_some_iff, Option.pure_def,
        Option.some.injEq] at hstep
      obtain ⟨_, _, rfl⟩ := hstep
      exact ⟨rfl, (ChatConversation.Carries.of_eq (by rfl) (by rfl)).trans
        (ChatConversation.connect_carries _ throws)⟩
  | retryConnection throws =>
      cases hstep
      exact ⟨rfl, world.conversation.retryConnection_carries throws⟩
  | serveHistory | historyLoaded =>
      simp only [next, Option.bind_eq_bind, Option.bind_eq_some_iff, Option.pure_def,
        Option.some.injEq] at hstep
      obtain ⟨_, _, rfl⟩ := hstep
      exact ⟨rfl, .of_eq rfl rfl⟩
  | render =>
      cases hstep
      exact ⟨rfl, .of_eq rfl rfl⟩
  | _ => cases hquiet

/-- One step keeps the agreement, and loses no pending message unless it resets. -/
theorem Step.agrees {label : ComposerLabel} (hworld : world.Agrees userId)
    (hallowed : acceptanceAnswersActive userId world label = true)
    (hstep : Step env conversationId userId world label after) :
    after.Agrees userId ∧ (resets label = false → ¬ Loses userId world after) := by
  cases hsettles : settles label with
  | false =>
      obtain ⟨hdb, hcarries⟩ := hstep.carries hsettles
      obtain ⟨hlater, hkept⟩ := agrees_of_carries hworld hdb hcarries
      exact ⟨hlater, fun _ => hkept⟩
  | true =>
      simp only [Step] at hstep
      cases label with
      | serveHttp clientMessageId freshId now =>
          simp only [next, Option.bind_eq_bind, Option.bind_eq_some_iff, Option.pure_def,
            Option.some.injEq] at hstep
          obtain ⟨flight, _, ⟨later, message⟩, hsend, hafter⟩ := hstep
          obtain ⟨hlater, hkept⟩ :=
            agrees_of_serveHttp hworld (ok_of_toOption hsend) hafter.symm
          exact ⟨hlater, fun _ => hkept⟩
      | httpSucceeded clientMessageId =>
          simp only [next, Option.bind_eq_bind, Option.bind_eq_some_iff, Option.pure_def,
            Option.some.injEq] at hstep
          obtain ⟨flight, hflight, messageId, hanswer, hafter⟩ := hstep
          have hid : flight.clientMessageId = clientMessageId := by
            simpa using List.find?_some hflight
          subst hid
          obtain ⟨hlater, hkept⟩ := agrees_of_httpSucceeded hworld
            (List.mem_of_find?_eq_some hflight) hanswer hafter.symm
          exact ⟨hlater, fun _ => hkept⟩
      | httpRejected clientMessageId status =>
          simp only [next, Option.bind_eq_bind, Option.bind_eq_some_iff, Option.pure_def,
            Option.some.injEq] at hstep
          obtain ⟨_, _, hafter⟩ := hstep
          exact agrees_of_httpRejected hworld clientMessageId status hafter.symm
      | serveFrame freshId now isLimited =>
          simp only [next, Option.bind_eq_bind, Option.bind_eq_some_iff, Option.pure_def,
            Option.some.injEq] at hstep
          obtain ⟨socket, _, ⟨later, served⟩, hserved, rfl⟩ := hstep
          exact ⟨hworld.of_inherits (fun _ _ h => serveFrame_persisted hserved h)
            (.of_eq rfl rfl), fun _ => not_loses_of_keeps (.of_eq rfl)⟩
      | receive =>
          simp only [next, Option.bind_eq_bind, Option.bind_eq_some_iff, Option.pure_def,
            Option.some.injEq] at hstep
          obtain ⟨socket, hsocket, _, _, event, hevent, hafter⟩ := hstep
          obtain ⟨hlater, hkept⟩ :=
            agrees_of_receive hworld hsocket hevent hallowed hafter.symm
          exact ⟨hlater, fun _ => hkept⟩
      | socketClosed code reason =>
          simp only [next, Option.bind_eq_bind, Option.bind_eq_some_iff, Option.pure_def,
            Option.some.injEq] at hstep
          obtain ⟨_, _, rfl⟩ := hstep
          obtain ⟨hinherits, hkeeps⟩ := world.conversation.handleClose_inherits code reason
          exact ⟨hworld.of_inherits (fun _ _ h => h) hinherits,
            fun hreset => not_loses_of_keeps (hkeeps hreset)⟩
      | accessFailed =>
          cases hstep
          exact ⟨hworld.of_inherits (fun _ _ h => h) world.conversation.denyAccess_inherits,
            fun hreset => absurd hreset (by decide)⟩
      | reconcile =>
          cases hstep
          obtain ⟨hlater, hkept⟩ := agrees_of_reconcile hworld rfl
          exact ⟨hlater, fun _ => hkept⟩
      | commit chat =>
          cases hstep
          exact ⟨hworld.of_inherits (fun _ _ h => hasPersisted_after chat h) (.of_eq rfl rfl),
            fun _ => not_loses_of_keeps (.of_eq rfl)⟩
      | _ => cases hsettles

theorem Initial.agrees (hinit : Initial world) : world.Agrees userId := by
  obtain ⟨throws, hworld⟩ := hinit
  have hcarries := ChatConversation.initial.connect_carries throws
  rw [← hworld] at hcarries
  refine ⟨fun message hmessage messageId hmark => ?_, fun flight hflight messageId hanswer => ?_⟩
  · obtain ⟨old, hold, _⟩ := hcarries.1.marks message hmessage messageId hmark
    exact absurd hold List.not_mem_nil
  · obtain ⟨old, hold, _⟩ := hcarries.1.answers flight hflight messageId hanswer
    exact absurd hold List.not_mem_nil

/-- While each acceptance which is handled during an active send is the acceptance of that
send, a pending message is marked only with the id under which the server persisted it, and
it leaves the pending list without a reset only when the server has persisted it. -/
theorem composer_never_drops
    (hreach : Reaches Initial (Step env conversationId userId)
      (fun world label => acceptanceAnswersActive userId world label = true) world) :
    (∀ message ∈ world.conversation.pendingMessages,
      ∀ messageId ∈ message.persistedMessageId,
        world.db.hasPersisted userId message.clientMessageId messageId = true) ∧
      ∀ label after, acceptanceAnswersActive userId world label = true →
        Step env conversationId userId world label after → resets label = false →
          ¬ Loses userId world after := by
  have hagrees : world.Agrees userId := by
    refine hreach.invariant (fun _ hinit => hinit.agrees) ?_
    intro state label later hstate hallowed hstep
    exact (hstep.agrees hstate hallowed).1
  refine ⟨hagrees.marks, ?_⟩
  intro label after hallowed hstep hreset
  exact (hstep.agrees hagrees hallowed).2 hreset

/-- Labels which compute a world with a decidable property reach such a world. -/
theorem exists_of_run {allowed : ChatWorld → ComposerLabel → Bool}
    (hreach : Reaches Initial (Step env conversationId userId)
      (fun world label => allowed world label = true) world)
    (labels : List ComposerLabel) (property : ChatWorld → Bool)
    (hrun : (Reaches.run (next env conversationId userId)
      (fun world label => allowed world label = true) world labels).any property = true) :
    ∃ after, Reaches Initial (Step env conversationId userId)
      (fun world label => allowed world label = true) after ∧ property after = true := by
  obtain ⟨after, _, hafter, hproperty⟩ :=
    Reaches.exists_of_run (fun h => h) hreach labels property hrun
  exact ⟨after, hafter, hproperty⟩

namespace Witness

open WireWitness (rfcId epoch)

/-- The hook of user 7 in an empty conversation. -/
def mounted : ChatWorld where
  conversation := ChatConversation.initial.connect false
  db := WireWitness.db
  servedPages := []

def messageId (number : Nat) : Uuid :=
  Fin.ofNat _ (rfcId number)

/-- A message is sent on the connected socket. -/
def sendLabels : List ComposerLabel :=
  [.socketOpened, .pushEvent .ready epoch, .receive, .sendMessage "Hallo" 21 false]

/-- The server answers it in time. -/
def promptLabels : List ComposerLabel :=
  sendLabels ++ [.serveFrame (messageId 3) epoch false, .receive]

def isConfirmed (clientMessageId : Nat) (body : String) (world : ChatWorld) : Bool :=
  world.conversation.pendingMessages =
    [⟨clientMessageId, body, .confirmed, some (messageId 3)⟩]

theorem composer_never_drops_prompt :
    ∃ world, isConfirmed 21 "Hallo" world = true ∧
      world.db.hasPersisted 7 21 (messageId 3) = true := by
  have hmounted : Reaches Initial (Step ChatWitness.env (rfcId 1) 7)
      (fun world label => acceptanceAnswersActive 7 world label = true) mounted :=
    .start ⟨false, rfl⟩
  obtain ⟨world, hreach, hconfirmed⟩ :=
    exists_of_run hmounted promptLabels (isConfirmed 21 "Hallo") (by decide +kernel)
  have hpending := of_decide_eq_true hconfirmed
  refine ⟨world, hconfirmed, ?_⟩
  exact (composer_never_drops hreach).1 ⟨21, "Hallo", .confirmed, some (messageId 3)⟩
    (by simp [hpending]) (messageId 3) rfl

/-- The acknowledgement is late: the message goes over HTTP, a second one is sent on the
socket, and then the server reads the first frame. -/
def lateLabels : List ComposerLabel :=
  sendLabels ++ [.ackTimeout, .serveHttp 21 (messageId 3) epoch, .httpSucceeded 21,
    .sendMessage "Servus" 22 false, .serveFrame (messageId 4) epoch false, .receive, .render]

/-- The second message is confirmed with the id of the first one and is not stored. -/
def isTaken (world : ChatWorld) : Bool :=
  isConfirmed 22 "Servus" world &&
    decide (world.conversation.reconcilePending.pendingMessages = []) &&
    world.db.messages.rows.all fun message => message.clientMessageId ≠ 22

def anyStep (_ : ChatWorld) (_ : ComposerLabel) : Bool :=
  true

/-- The acceptance of the first message takes the second one away. -/
theorem composer_drops_late :
    ∃ world after, Reaches Initial (Step ChatWitness.env (rfcId 1) 7) (fun _ _ => True) world ∧
      Step ChatWitness.env (rfcId 1) 7 world .reconcile after ∧ resets .reconcile = false ∧
      Loses 7 world after := by
  have hmounted : Reaches Initial (Step ChatWitness.env (rfcId 1) 7)
      (fun world label => anyStep world label = true) mounted := .start ⟨false, rfl⟩
  obtain ⟨world, hreach, htaken⟩ :=
    exists_of_run hmounted lateLabels isTaken (by decide +kernel)
  simp only [isTaken, isConfirmed, Bool.and_eq_true, decide_eq_true_eq] at htaken
  obtain ⟨⟨hpending, hgone⟩, hrows⟩ := htaken
  refine ⟨world, _, hreach.mono fun _ _ _ => trivial, rfl, rfl,
    ⟨22, "Servus", .confirmed, some (messageId 3)⟩, by simp [hpending], by simp [hgone], ?_⟩
  intro persisted
  rw [ChatDb.hasPersisted, List.any_eq_false]
  intro message hmessage
  have hne := List.all_eq_true.mp hrows message hmessage
  simp only [ne_eq, decide_eq_true_eq] at hne
  simp [hne]

end Witness

end ChatWorld

end BuddyWeb
