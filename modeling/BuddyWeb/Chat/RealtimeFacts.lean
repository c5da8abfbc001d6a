/-
What the subscription, the transactions and the answers of a realtime socket keep.
-/
import BuddyWeb.Chat.MessageTrace
import BuddyWeb.Chat.Realtime
import BuddyWeb.Lib.Broadcast
import BuddyWeb.Lib.TableHistory

namespace BuddyWeb

def ServerEvent.message? : ServerEvent → Option ChatMessageResponse
  | .message response => some response
  | _ => none

/-- An event which a forwarder writes. -/
def ServerEvent.isForwarded : ServerEvent → Bool
  | .message _ => true
  | .unreadChanged => true
  | _ => false

namespace RealtimeSocket

variable (socket : RealtimeSocket)

/-- What the forwarder of a socket has written. -/
def forwarded : List ServerEvent := socket.events.filter ServerEvent.isForwarded

/-- The messages which a socket has shown. -/
def shown : List ChatMessageResponse := socket.events.filterMap ServerEvent.message?

abbrev concerns (publication : Publication) : Bool :=
  socket.kind.channels.contains publication.conversationId

def isOpen : Bool :=
  match socket.phase with
  | .subscribed => true
  | .accepted => true
  | _ => false

/-- It is open, and its connection to Redis has held since it subscribed. -/
def Undisturbed : Prop := socket.isOpen = true ∧ socket.lossless = true

instance undisturbedDecidable : Decidable socket.Undisturbed :=
  inferInstanceAs (Decidable (_ ∧ _))

/-- The subscription of a socket, perhaps closed. -/
structure SameSubscription (socket current : RealtimeSocket) : Prop where
  userId : current.userId = socket.userId
  kind : current.kind = socket.kind
  handled : current.handled = socket.handled
  queue : current.queue = socket.queue
  subscribedAt : current.subscribedAt = socket.subscribedAt
  lossless : current.lossless = socket.lossless
  phase : current.phase = socket.phase ∧ current.linked = socket.linked ∨
    ∃ closure, current.phase = .closed closure

/-- What a socket gets of the publications. -/
structure Hears (publications : List Publication) : Prop where
  heard : HeardFrom publications socket.subscribedAt socket.concerns socket.Undisturbed
    (socket.handled ++ socket.queue)
  linked : socket.Undisturbed → socket.linked = true
  unsubscribed : socket.phase = .authorized →
    socket.linked = false ∧ socket.handled = [] ∧ socket.queue = []

end RealtimeSocket

namespace RealtimeWorld

variable (world : RealtimeWorld)

/-- What the transactions of sends record. -/
structure CommitFacts : Prop where
  stored : ∀ row ∈ world.chat.db.messages.rows, ∃ old ∈ world.committed,
    row.SameMessage old ∧ row.createdAt = old.createdAt
  drawn : ∀ row ∈ world.committed, row.id ∈ world.chat.drawn
  ids : (world.committed.map (·.id)).Nodup
  pending : ∀ call request message, world.chat.phase call = .inserted request message →
    request.Inserts message ∧ message.id ∈ world.chat.drawn ∧
      ∀ row ∈ world.committed, row.id ≠ message.id
  apart : ∀ call other request message pending unstored, other ≠ call →
    world.chat.phase call = .inserted request message →
      world.chat.phase other = .inserted pending unstored → unstored.id ≠ message.id

/-- A committed row of the sender which has been published unless live delivery is
unavailable. -/
def Accepted (userId : Nat) (kind : SocketKind) (messageId : Uuid)
    (delivery : ChatPublishDisposition) : Prop :=
  ∃ row ∈ world.committed, row.id = messageId ∧ row.senderId = userId ∧
    kind = .conversation row.conversationId ∧ (delivery ≠ .unavailable →
      ∃ publication ∈ world.publications, publication.key = (row.conversationId, messageId))

def ReceiverFacts (socket : RealtimeSocket) : ReceiverPhase → Prop
  | .waiting => True
  | .sending request => request.senderId = socket.userId ∧
      socket.kind = .conversation request.conversationId
  | .committed messageId => world.Accepted socket.userId socket.kind messageId .unavailable
  | .answering messageId delivery => world.Accepted socket.userId socket.kind messageId delivery

structure AnswerFacts (socket : RealtimeSocket) : Prop where
  receiver : world.ReceiverFacts socket socket.receiver
  told : ∀ messageId delivery, .sendAccepted messageId delivery ∈ socket.events →
    world.Accepted socket.userId socket.kind messageId delivery

end RealtimeWorld

section Subscriptions

variable {socket middle current : RealtimeSocket} {publications : List Publication}

namespace RealtimeSocket.SameSubscription

theorem refl : SameSubscription socket socket :=
  ⟨rfl, rfl, rfl, rfl, rfl, rfl, .inl ⟨rfl, rfl⟩⟩

theorem close (h : SameSubscription socket current) (closure : Option SocketClosure) :
    SameSubscription socket (current.close closure) :=
  ⟨h.userId, h.kind, h.handled, h.queue, h.subscribedAt, h.lossless, .inr ⟨closure, rfl⟩⟩

theorem send (h : SameSubscription socket current) (event : ServerEvent) :
    SameSubscription socket (current.send event) :=
  ⟨h.userId, h.kind, h.handled, h.queue, h.subscribedAt, h.lossless, h.phase⟩

theorem atReceiver (h : SameSubscription socket current) (receiver : ReceiverPhase) :
    SameSubscription socket { current with receiver := receiver } :=
  ⟨h.userId, h.kind, h.handled, h.queue, h.subscribedAt, h.lossless, h.phase⟩

theorem receive (frame : ClientFrame) (authenticated : Bool) (rate : RateCheck) :
    SameSubscription socket (socket.receive frame authenticated rate) := by
  unfold RealtimeSocket.receive
  split
  · exact refl.close _
  · exact refl.close _
  · exact refl.close _
  · exact refl.close _
  · exact refl.send _
  · split
    · split
      · exact (refl.send _).close _
      · exact (refl.send _).close _
      · exact refl.atReceiver _
    · exact refl.close _

theorem answered (outcome : Except ChatError BuddyMessage) :
    SameSubscription socket (socket.answered outcome) := by
  unfold RealtimeSocket.answered
  split
  · exact refl.atReceiver _
  · exact (refl.atReceiver _).send _
  · exact (refl.atReceiver _).send _
  · exact refl.close _
  · exact refl.close _

theorem tell (messageId : Uuid) (delivery : ChatPublishDisposition) :
    SameSubscription socket (socket.tell messageId delivery) := by
  unfold RealtimeSocket.tell
  have hreceiver : SameSubscription socket { socket with receiver := .waiting } :=
    refl.atReceiver .waiting
  have htold := hreceiver.send (.sendAccepted messageId delivery)
  dsimp only
  split
  · exact htold.close _
  · exact htold

theorem atForwarder (forwarder : ForwarderPhase) :
    SameSubscription socket { socket with forwarder := forwarder } :=
  ⟨rfl, rfl, rfl, rfl, rfl, rfl, .inl ⟨rfl, rfl⟩⟩

theorem authorize (db : ChatDb) (publication : Publication) (authenticated : Bool) :
    SameSubscription socket (socket.authorize db publication authenticated) := by
  unfold RealtimeSocket.authorize
  split
  · split
    · exact atForwarder _
    · split
      · exact refl.close _
      · exact atForwarder _
  · exact refl.close _

theorem select {wire : WireFormat} (publication : Publication) (found : Option BuddyMessage) :
    SameSubscription socket (socket.select wire publication found) := by
  cases found with
  | none => exact atForwarder _
  | some message => exact atForwarder _

theorem forward (event : ServerEvent) : SameSubscription socket (socket.forward event) :=
  (atForwarder .waiting).send event

theorem undisturbed (h : SameSubscription socket current) (hcurrent : current.Undisturbed) :
    socket.Undisturbed ∧ current.linked = socket.linked := by
  obtain ⟨hopen, hlossless⟩ := hcurrent
  rcases h.phase with ⟨hsame, hlinked⟩ | ⟨closure, hclosed⟩
  · refine ⟨⟨?_, h.lossless.symm.trans hlossless⟩, hlinked⟩
    rwa [RealtimeSocket.isOpen, ← hsame]
  · rw [RealtimeSocket.isOpen, hclosed] at hopen
    cases hopen

/-- A socket hears as before while its subscription is the same. -/
theorem hears (h : SameSubscription socket current) (hhears : socket.Hears publications) :
    current.Hears publications where
  heard := by
    have hconcerns : current.concerns = socket.concerns := by
      funext publication
      rw [RealtimeSocket.concerns, h.kind]
    rw [h.subscribedAt, h.handled, h.queue, hconcerns]
    exact hhears.heard.weaken fun hcurrent => (h.undisturbed hcurrent).1
  linked := by
    intro hcurrent
    obtain ⟨hundisturbed, hlinked⟩ := h.undisturbed hcurrent
    rw [hlinked]
    exact hhears.linked hundisturbed
  unsubscribed := by
    intro hphase
    rcases h.phase with ⟨hsame, hlinked⟩ | ⟨closure, hclosed⟩
    · rw [hlinked, h.handled, h.queue]
      exact hhears.unsubscribed (hsame.symm.trans hphase)
    · rw [hclosed] at hphase
      cases hphase

end RealtimeSocket.SameSubscription

namespace RealtimeSocket.Hears

theorem subscribe (h : socket.Hears publications) (hphase : socket.phase = .authorized)
    (redisUp : Bool) : (socket.subscribe publications.length redisUp).Hears publications := by
  obtain ⟨hlinked, hhandled, hqueue⟩ := h.unsubscribed hphase
  unfold RealtimeSocket.subscribe
  split
  · refine ⟨?_, fun _ => rfl, fun hauthorized => by cases hauthorized⟩
    change HeardFrom publications publications.length _ _ (socket.handled ++ socket.queue)
    rw [hhandled, hqueue]
    exact HeardFrom.join
  · exact (SameSubscription.refl.close _).hears h

/-- A publication reaches the linked sockets of its channel. -/
theorem notify (h : socket.Hears publications) (publication : Publication) :
    (socket.notify publication).Hears (publications ++ [publication]) := by
  unfold RealtimeSocket.notify
  split
  · rename_i hsubscribes
    rw [RealtimeSocket.subscribes, Bool.and_eq_true] at hsubscribes
    refine ⟨?_, h.linked, ?_⟩
    · change HeardFrom _ _ _ _ (socket.handled ++ (socket.queue ++ [publication]))
      rw [← List.append_assoc]
      exact h.heard.broadcast hsubscribes.2
    · intro hphase
      have hlinked := (h.unsubscribed hphase).1
      rw [hsubscribes.1] at hlinked
      cases hlinked
  · rename_i hsubscribes
    refine ⟨h.heard.overheard ?_, h.linked, h.unsubscribed⟩
    rw [RealtimeSocket.subscribes, Bool.and_eq_true, not_and] at hsubscribes
    by_cases hundisturbed : socket.Undisturbed
    · exact .inl (Bool.eq_false_iff.mpr (hsubscribes (h.linked hundisturbed)))
    · exact .inr hundisturbed

/-- The upgrade of a subscribed socket is accepted. -/
theorem accept (h : socket.Hears publications) (hphase : socket.phase = .subscribed) :
    socket.accept.Hears publications where
  heard := h.heard.weaken fun hcurrent => by
    refine ⟨?_, hcurrent.2⟩
    rw [RealtimeSocket.isOpen, hphase]
  linked := by
    intro hcurrent
    refine h.linked ⟨?_, hcurrent.2⟩
    rw [RealtimeSocket.isOpen, hphase]
  unsubscribed := fun hauthorized => by cases hauthorized

theorem take (h : socket.Hears publications) {publication : Publication}
    {rest : List Publication} (hqueue : socket.queue = publication :: rest)
    (hphase : socket.phase ≠ .authorized) :
    (socket.take publication rest).Hears publications where
  heard := by
    change HeardFrom _ _ _ _ ((socket.handled ++ [publication]) ++ rest)
    rw [List.append_assoc, List.singleton_append, ← hqueue]
    exact h.heard
  linked := h.linked
  unsubscribed := fun hauthorized => absurd hauthorized hphase

theorem unlink (h : socket.Hears publications) (hphase : socket.phase ≠ .authorized)
    (kept : Nat) : (socket.unlink kept).Hears publications where
  heard := h.heard.lose ((List.Sublist.refl _).append (List.take_sublist _ _)) (by
    rintro ⟨-, hlossless⟩
    cases hlossless)
  linked := by
    rintro ⟨-, hlossless⟩
    cases hlossless
  unsubscribed := fun hauthorized => absurd hauthorized hphase

theorem relink (h : socket.Hears publications) (hphase : socket.phase ≠ .authorized) :
    { socket with linked := true }.Hears publications where
  heard := h.heard
  linked := fun _ => rfl
  unsubscribed := fun hauthorized => absurd hauthorized hphase

end RealtimeSocket.Hears

end Subscriptions

section Commits

variable {env : ChatEnvironment} {world after : MessageWorld} {label : MessageLabel}

theorem inserted_of_setPhase {base : MessageWorld} {moved call : Nat} {phase : MessagePhase}
    {request : SendRequest} {message : BuddyMessage}
    (h : (base.setPhase moved phase).phase call = .inserted request message)
    (hquiet : ∀ request message, phase ≠ .inserted request message) :
    base.phase call = .inserted request message := by
  by_cases hcall : call = moved
  · rw [hcall, MessageWorld.setPhase_phase_self] at h
    exact absurd h (hquiet request message)
  · rwa [MessageWorld.setPhase_phase_of_ne _ _ hcall] at h

/-- An uncommitted row after a step was there before, or an insert has just made it. -/
theorem MessageStep.inserted_origin (hstep : MessageStep env world label after) {call : Nat}
    {request : SendRequest} {message : BuddyMessage}
    (hphase : after.phase call = .inserted request message) :
    world.phase call = .inserted request message ∨
      request.Inserts message ∧ message.id ∉ world.drawn ∧ message.id ∈ after.drawn ∧
        ∀ other, other ≠ call → after.phase other = world.phase other := by
  cases hstep with
  | @insert moved freshId sent createdAt inserted _ hfresh _ hinsert =>
      by_cases hcall : call = moved
      · rw [hcall, MessageWorld.setPhase_phase_self] at hphase
        obtain ⟨rfl, rfl⟩ := MessagePhase.inserted.inj hphase
        obtain ⟨expiresAt, _, rfl, _⟩ := insertBuddyMessage_eq_some hinsert
        refine Or.inr ⟨⟨rfl, rfl, rfl, rfl, rfl⟩, hfresh, List.mem_cons_self, ?_⟩
        intro other hother
        rw [MessageWorld.setPhase_phase_of_ne _ _ (hcall ▸ hother)]
      · rw [MessageWorld.setPhase_phase_of_ne _ _ hcall] at hphase
        exact Or.inl hphase
  | tick => exact Or.inl hphase
  | refuse => exact Or.inl hphase
  | cleanup => exact Or.inl hphase
  | commitSend => exact Or.inl (inserted_of_setPhase hphase (by simp))
  | commitAcknowledgement => exact Or.inl (inserted_of_setPhase hphase (by simp))
  | _ => exact Or.inl (inserted_of_setPhase hphase (by simp))

/-- A row after a step is the one which the step commits, or a version of an earlier one. -/
theorem MessageStep.stored_origin (hstep : MessageStep env world label after)
    {row : BuddyMessage} (hrow : row ∈ after.db.messages.rows) :
    world.committedRow label = some row ∨ ∃ old ∈ world.db.messages.rows,
      row.SameMessage old ∧ row.createdAt = old.createdAt := by
  have hsame : row ∈ world.db.messages.rows → ∃ old ∈ world.db.messages.rows,
      row.SameMessage old ∧ row.createdAt = old.createdAt := by
    intro hmem
    exact ⟨row, hmem, ⟨rfl, rfl, ⟨rfl, rfl⟩, rfl⟩, rfl⟩
  cases hstep with
  | @commitSend call request inserted messages hphase hmessages =>
      have hrows := (Table.insert?_eq_some_iff.mp hmessages).2
      rcases List.mem_cons.mp (hrows ▸ hrow) with rfl | hmem
      · left
        simp only [MessageWorld.committedRow, hphase]
      · exact Or.inr (hsame hmem)
  | @commitAcknowledgement call ack snapshot ids hphase =>
      obtain ⟨old, hold, rfl⟩ := mem_readRows hrow
      refine Or.inr ⟨old, hold, readRow_sameMessage, ?_⟩
      unfold Acknowledgement.readRow
      split <;> rfl
  | cleanup _ _ hrows =>
      change row ∈ Table.rows _ at hrow
      rw [hrows] at hrow
      exact Or.inr (hsame (List.mem_of_mem_filter hrow))
  | _ => exact Or.inr (hsame hrow)

/-- The row which a step commits was waiting for it. -/
theorem MessageStep.committedRow_eq_some (hstep : MessageStep env world label after)
    {message : BuddyMessage} (h : world.committedRow label = some message) :
    ∃ call request, world.phase call = .inserted request message ∧ after.phase call = .idle := by
  cases hstep with
  | @commitSend call request inserted messages hphase hmessages =>
      simp only [MessageWorld.committedRow, hphase, Option.some.injEq] at h
      rw [h] at hphase
      exact ⟨call, request, hphase, MessageWorld.setPhase_phase_self _ _ _⟩
  | _ => simp [MessageWorld.committedRow] at h

namespace RealtimeWorld.CommitFacts

variable {realtime : RealtimeWorld}

/-- A statement of a chat request. -/
theorem chat (h : realtime.CommitFacts) (hstep : MessageStep env realtime.chat label after) :
    (realtime.withChat label after).CommitFacts := by
  have hmem : ∀ {row}, row ∈ (realtime.withChat label after).committed ↔
      realtime.chat.committedRow label = some row ∨ row ∈ realtime.committed := by
    intro row
    rw [RealtimeWorld.withChat, List.mem_append, Option.mem_toList]
  have hnew : ∀ {row}, realtime.chat.committedRow label = some row →
      row.id ∈ realtime.chat.drawn ∧ ∀ old ∈ realtime.committed, old.id ≠ row.id := by
    intro row hrow
    obtain ⟨call, request, hphase, -⟩ := hstep.committedRow_eq_some hrow
    exact (h.pending call request row hphase).2
  have hdrawn : ∀ {row}, row ∈ (realtime.withChat label after).committed →
      row.id ∈ realtime.chat.drawn := by
    intro row hrow
    rcases hmem.mp hrow with hcommits | hold
    · exact (hnew hcommits).1
    · exact h.drawn row hold
  refine ⟨?_, fun row hrow => hstep.drawn_mono (hdrawn hrow), ?_, ?_, ?_⟩
  · intro row hrow
    rcases hstep.stored_origin hrow with hcommits | ⟨old, hold, hsame, hcreated⟩
    · exact ⟨row, hmem.mpr (.inl hcommits), ⟨rfl, rfl, ⟨rfl, rfl⟩, rfl⟩, rfl⟩
    · obtain ⟨first, hfirst, hfirstSame, hfirstCreated⟩ := h.stored old hold
      exact ⟨first, hmem.mpr (.inr hfirst), hsame.trans hfirstSame, hcreated.trans hfirstCreated⟩
  · change ((_ ++ realtime.committed).map _).Nodup
    cases hcommits : realtime.chat.committedRow label with
    | none => exact h.ids
    | some row =>
        rw [Option.toList_some, List.singleton_append, List.map_cons, List.nodup_cons]
        refine ⟨?_, h.ids⟩
        intro hid
        obtain ⟨old, hold, hsame⟩ := List.mem_map.mp hid
        exact (hnew hcommits).2 old hold hsame
  · intro call request message hphase
    change after.phase call = _ at hphase
    rcases hstep.inserted_origin hphase with hbefore | ⟨hinserts, hfresh, hdraws, -⟩
    · obtain ⟨hinserts, hdraws, hother⟩ := h.pending call request message hbefore
      refine ⟨hinserts, hstep.drawn_mono hdraws, fun row hrow => ?_⟩
      rcases hmem.mp hrow with hcommits | hold
      · obtain ⟨committing, pending, hcommitting, hidle⟩ := hstep.committedRow_eq_some hcommits
        have hne : committing ≠ call := by
          rintro rfl
          rw [hidle] at hphase
          cases hphase
        exact h.apart call committing request message pending row hne hbefore hcommitting
      · exact hother row hold
    · refine ⟨hinserts, hdraws, fun row hrow hid => ?_⟩
      exact hfresh (hid ▸ hdrawn hrow)
  · intro call other request message pending unstored hne hphase hother
    change after.phase call = _ at hphase
    change after.phase other = _ at hother
    rcases hstep.inserted_origin hphase with hbefore | ⟨-, hfresh, -, hkept⟩
    · rcases hstep.inserted_origin hother with hotherBefore | ⟨-, hotherFresh, -, -⟩
      · exact h.apart call other request message pending unstored hne hbefore hotherBefore
      · intro hid
        exact hotherFresh (hid ▸ (h.pending call request message hbefore).2.1)
    · rw [hkept other hne] at hother
      intro hid
      exact hfresh (hid ▸ (h.pending other pending unstored hother).2.1)

/-- The message of an answer is committed. -/
theorem answered (h : realtime.CommitFacts) (hstep : MessageStep env realtime.chat label after)
    {request : SendRequest} {message : BuddyMessage}
    (hanswer : realtime.chat.answer label = some (request, .ok message)) :
    ∃ row ∈ (realtime.withChat label after).committed, row.id = message.id ∧
      row.senderId = request.senderId ∧ row.conversationId = request.conversationId := by
  cases hstep with
  | @commitSend call sent inserted messages hphase hmessages =>
      simp only [MessageWorld.answer, hphase, Option.some.injEq, Prod.mk.injEq,
        Except.ok.injEq] at hanswer
      obtain ⟨rfl, rfl⟩ := hanswer
      have hinserts := (h.pending call sent inserted hphase).1
      refine ⟨inserted, ?_, rfl, hinserts.sender, hinserts.conversation⟩
      rw [RealtimeWorld.withChat, MessageWorld.committedRow, hphase]
      exact List.mem_append_left _ (List.mem_singleton_self _)
  | @readExisting call sent createdAt hphase =>
      simp only [MessageWorld.answer, hphase, Option.some.injEq, Prod.mk.injEq] at hanswer
      obtain ⟨rfl, hread⟩ := hanswer
      obtain ⟨hfind, hrepeats, -⟩ := readExistingMessage_eq_ok_iff.mp hread
      obtain ⟨hmem, hsender, -⟩ := findKey_mem hfind
      obtain ⟨row, hrow, ⟨hid, hconversation, hkey, -⟩, -⟩ := h.stored message hmem
      exact ⟨row, List.mem_append_right _ hrow, hid.symm, hkey.1.symm.trans hsender,
        hconversation.symm.trans hrepeats.1⟩
  | _ => simp [MessageWorld.answer] at hanswer

end RealtimeWorld.CommitFacts

end Commits

section Answers

variable {world after : RealtimeWorld} {socket current : RealtimeSocket} {userId : Nat}
  {kind : SocketKind} {messageId : Uuid} {delivery : ChatPublishDisposition}

namespace RealtimeWorld

theorem Accepted.later (h : world.Accepted userId kind messageId delivery)
    (hcommitted : ∀ row ∈ world.committed, row ∈ after.committed)
    (hpublications : ∀ publication ∈ world.publications, publication ∈ after.publications) :
    after.Accepted userId kind messageId delivery := by
  obtain ⟨row, hrow, hid, hsender, hkind, hpublished⟩ := h
  refine ⟨row, hcommitted row hrow, hid, hsender, hkind, fun hdelivery => ?_⟩
  obtain ⟨publication, hpublication, hkey⟩ := hpublished hdelivery
  exact ⟨publication, hpublications publication hpublication, hkey⟩

namespace AnswerFacts

theorem later (h : world.AnswerFacts socket)
    (hcommitted : ∀ row ∈ world.committed, row ∈ after.committed)
    (hpublications : ∀ publication ∈ world.publications, publication ∈ after.publications) :
    after.AnswerFacts socket := by
  refine ⟨?_, fun messageId delivery htold =>
    (h.told messageId delivery htold).later hcommitted hpublications⟩
  have hreceiver := h.receiver
  cases hphase : socket.receiver with
  | waiting => trivial
  | sending request =>
      rw [hphase] at hreceiver
      exact hreceiver
  | committed messageId =>
      rw [hphase] at hreceiver
      exact Accepted.later hreceiver hcommitted hpublications
  | answering messageId delivery =>
      rw [hphase] at hreceiver
      exact Accepted.later hreceiver hcommitted hpublications

theorem close (h : world.AnswerFacts socket) (closure : Option SocketClosure) :
    world.AnswerFacts (socket.close closure) :=
  ⟨h.receiver, h.told⟩

theorem atReceiver (h : world.AnswerFacts socket) (receiver : ReceiverPhase)
    (hreceiver : world.ReceiverFacts socket receiver) :
    world.AnswerFacts { socket with receiver := receiver } := by
  refine ⟨?_, h.told⟩
  cases receiver with
  | waiting => trivial
  | sending request => exact hreceiver
  | committed messageId => exact hreceiver
  | answering messageId delivery => exact hreceiver

theorem send (h : world.AnswerFacts socket) {event : ServerEvent}
    (hevent : ∀ messageId delivery, event = .sendAccepted messageId delivery →
      world.Accepted socket.userId socket.kind messageId delivery) :
    world.AnswerFacts (socket.send event) := by
  refine ⟨h.receiver, fun messageId delivery htold => ?_⟩
  rcases List.mem_append.mp htold with hold | hnew
  · exact h.told messageId delivery hold
  · exact hevent messageId delivery (List.mem_singleton.mp hnew).symm

theorem receive (h : world.AnswerFacts socket) (frame : ClientFrame) (authenticated : Bool)
    (rate : RateCheck) : world.AnswerFacts (socket.receive frame authenticated rate) := by
  unfold RealtimeSocket.receive
  split
  · exact h.close _
  · exact h.close _
  · exact h.close _
  · exact h.close _
  · exact h.send (by simp)
  · rename_i conversationId clientMessageId body hkind
    split
    · split
      · exact (h.send (by simp)).close _
      · exact (h.send (by simp)).close _
      · exact h.atReceiver _ ⟨rfl, hkind⟩
    · exact h.close _

theorem answered (h : world.AnswerFacts socket) {outcome : Except ChatError BuddyMessage}
    (houtcome : ∀ message, outcome = .ok message →
      world.Accepted socket.userId socket.kind message.id .unavailable) :
    world.AnswerFacts (socket.answered outcome) := by
  unfold RealtimeSocket.answered
  split
  · rename_i message
    exact h.atReceiver _ (houtcome message rfl)
  · exact (h.atReceiver .waiting trivial).send (by simp)
  · exact (h.atReceiver .waiting trivial).send (by simp)
  · exact h.close _
  · exact h.close _

theorem tell (h : world.AnswerFacts socket)
    (haccepted : world.Accepted socket.userId socket.kind messageId delivery) :
    world.AnswerFacts (socket.tell messageId delivery) := by
  have htold : world.AnswerFacts
      ({ socket with receiver := .waiting }.send (.sendAccepted messageId delivery)) := by
    refine (h.atReceiver .waiting trivial).send ?_
    intro toldId toldDelivery hevent
    cases hevent
    exact haccepted
  unfold RealtimeSocket.tell
  dsimp only
  split
  · exact htold.close _
  · exact htold

/-- The forwarder of a socket answers nothing. -/
theorem atForwarder (h : world.AnswerFacts socket) (forwarder : ForwarderPhase) :
    world.AnswerFacts { socket with forwarder := forwarder } :=
  ⟨h.receiver, h.told⟩

theorem authorize (h : world.AnswerFacts socket) (db : ChatDb) (publication : Publication)
    (authenticated : Bool) :
    world.AnswerFacts (socket.authorize db publication authenticated) := by
  unfold RealtimeSocket.authorize
  split
  · split
    · exact h.atForwarder _
    · split
      · exact h.close _
      · exact h.atForwarder _
  · exact h.close _

theorem select (h : world.AnswerFacts socket) {wire : WireFormat} (publication : Publication)
    (found : Option BuddyMessage) :
    world.AnswerFacts (socket.select wire publication found) := by
  cases found with
  | none => exact h.atForwarder _
  | some message => exact h.atForwarder _

theorem forward (h : world.AnswerFacts socket) {event : ServerEvent}
    (hevent : socket.forwarder.event? = some event) :
    world.AnswerFacts (socket.forward event) := by
  refine (h.atForwarder .waiting).send ?_
  rintro messageId delivery rfl
  unfold ForwarderPhase.event? at hevent
  split at hevent <;> cases hevent

theorem subscribe (h : world.AnswerFacts socket) (published : Nat) (redisUp : Bool) :
    world.AnswerFacts (socket.subscribe published redisUp) := by
  unfold RealtimeSocket.subscribe
  split
  · exact ⟨h.receiver, h.told⟩
  · exact h.close _

theorem accept (h : world.AnswerFacts socket) : world.AnswerFacts socket.accept := by
  have hopen : world.AnswerFacts { socket with phase := .accepted } := ⟨h.receiver, h.told⟩
  exact hopen.send (by simp)

theorem notify (h : world.AnswerFacts socket) (publication : Publication) :
    world.AnswerFacts (socket.notify publication) := by
  unfold RealtimeSocket.notify
  split
  · exact ⟨h.receiver, h.told⟩
  · exact h

end AnswerFacts

end RealtimeWorld

end Answers

end BuddyWeb
