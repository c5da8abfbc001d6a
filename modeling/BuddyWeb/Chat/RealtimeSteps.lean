/-
What one step of the realtime transport does with every socket.
-/
import BuddyWeb.Chat.RealtimeFacts

namespace BuddyWeb

/-- What one step does to the forwarder of a socket. -/
inductive ForwarderStep (wire : WireFormat) (world : RealtimeWorld)
    (socket current : RealtimeSocket) : Prop
  | kept (hforwarder : current.forwarder = socket.forwarder)
      (hhandled : current.handled = socket.handled)
      (hforwarded : current.forwarded = socket.forwarded)
  | took {publication : Publication} (hbefore : socket.forwarder = .waiting)
      (hforwarder : current.forwarder = .taken publication)
      (hhandled : current.handled = socket.handled ++ [publication])
      (hforwarded : current.forwarded = socket.forwarded)
  /-- A user who is authenticated is authorized, or signalled at once. -/
  | authorized {publication : Publication} (hbefore : socket.forwarder = .taken publication)
      (hforwarder : (∃ conversationIds, socket.kind = .unread conversationIds ∧
          current.forwarder = .signalling publication) ∨
        ∃ conversationId, socket.kind = .conversation conversationId ∧
          (requireAuthorizedActiveConversation world.chat.db conversationId
            socket.userId).toBool = true ∧ current.forwarder = .authorized publication)
      (hhandled : current.handled = socket.handled)
      (hforwarded : current.forwarded = socket.forwarded)
  | clocked {publication : Publication} (hbefore : socket.forwarder = .authorized publication)
      (hforwarder : current.forwarder = .selecting publication world.chat.now)
      (hhandled : current.handled = socket.handled)
      (hforwarded : current.forwarded = socket.forwarded)
  | selected {publication : Publication} {now : Instant} {conversationId : Nat}
      (hbefore : socket.forwarder = .selecting publication now)
      (hkind : socket.kind = .conversation conversationId)
      (hforwarder : current.forwarder = (socket.select wire publication
        (selectRealtimeMessage world.chat.db conversationId publication.messageId
          now)).forwarder)
      (hhandled : current.handled = socket.handled)
      (hforwarded : current.forwarded = socket.forwarded)
  | wrote {event : ServerEvent} (hbefore : socket.forwarder.event? = some event)
      (hforwarder : current.forwarder = .waiting)
      (hhandled : current.handled = socket.handled)
      (hforwarded : current.forwarded = socket.forwarded ++ [event])

section Steps

variable {env : ChatEnvironment} {wire : WireFormat} {world after : RealtimeWorld}
  {socket current : RealtimeSocket}

/-- What one step does with a socket. -/
structure SocketStep (wire : WireFormat) (world after : RealtimeWorld)
    (socket current : RealtimeSocket) : Prop where
  userId : current.userId = socket.userId
  kind : current.kind = socket.kind
  hears : socket.Hears world.publications → current.Hears after.publications
  answers : world.AnswerFacts socket → after.AnswerFacts current
  forwards : ForwarderStep wire world socket current

/-- The histories of a step which publishes nothing. -/
structure SamePublications (world after : RealtimeWorld) : Prop where
  publications : after.publications = world.publications
  committed : ∀ row ∈ world.committed, row ∈ after.committed

theorem SamePublications.refl : SamePublications world world :=
  ⟨rfl, fun _ hrow => hrow⟩

theorem SamePublications.answers (h : SamePublications world after)
    (hanswers : world.AnswerFacts socket) : after.AnswerFacts socket :=
  hanswers.later h.committed fun _ hpublication => h.publications ▸ hpublication

/-- What the other tasks of a socket do leaves its forwarder. -/
structure SameForwarder (socket current : RealtimeSocket) : Prop where
  forwarder : current.forwarder = socket.forwarder
  handled : current.handled = socket.handled
  forwarded : current.forwarded = socket.forwarded

namespace SameForwarder

theorem refl : SameForwarder socket socket :=
  ⟨rfl, rfl, rfl⟩

theorem close (h : SameForwarder socket current) (closure : Option SocketClosure) :
    SameForwarder socket (current.close closure) :=
  ⟨h.forwarder, h.handled, h.forwarded⟩

theorem atReceiver (h : SameForwarder socket current) (receiver : ReceiverPhase) :
    SameForwarder socket { current with receiver := receiver } :=
  ⟨h.forwarder, h.handled, h.forwarded⟩

theorem send (h : SameForwarder socket current) {event : ServerEvent}
    (hevent : event.isForwarded = false) : SameForwarder socket (current.send event) := by
  refine ⟨h.forwarder, h.handled, ?_⟩
  rw [RealtimeSocket.forwarded, RealtimeSocket.send, List.filter_append,
    List.filter_singleton, hevent]
  exact (List.append_nil _).trans h.forwarded

theorem receive (frame : ClientFrame) (authenticated : Bool) (rate : RateCheck) :
    SameForwarder socket (socket.receive frame authenticated rate) := by
  unfold RealtimeSocket.receive
  split
  · exact refl.close _
  · exact refl.close _
  · exact refl.close _
  · exact refl.close _
  · exact refl.send rfl
  · split
    · split
      · exact (refl.send rfl).close _
      · exact (refl.send rfl).close _
      · exact refl.atReceiver _
    · exact refl.close _

theorem answered (outcome : Except ChatError BuddyMessage) :
    SameForwarder socket (socket.answered outcome) := by
  unfold RealtimeSocket.answered
  split
  · exact refl.atReceiver _
  · exact (refl.atReceiver _).send rfl
  · exact (refl.atReceiver _).send rfl
  · exact refl.close _
  · exact refl.close _

theorem tell (messageId : Uuid) (delivery : ChatPublishDisposition) :
    SameForwarder socket (socket.tell messageId delivery) := by
  have hreceiver : SameForwarder socket { socket with receiver := .waiting } :=
    refl.atReceiver .waiting
  have htold := hreceiver.send
    (rfl : (ServerEvent.sendAccepted messageId delivery).isForwarded = false)
  unfold RealtimeSocket.tell
  dsimp only
  split
  · exact htold.close _
  · exact htold

theorem subscribe (published : Nat) (redisUp : Bool) :
    SameForwarder socket (socket.subscribe published redisUp) := by
  unfold RealtimeSocket.subscribe
  split
  · exact ⟨rfl, rfl, rfl⟩
  · exact refl.close _

theorem accept : SameForwarder socket socket.accept := by
  have hopen : SameForwarder socket { socket with phase := .accepted } := ⟨rfl, rfl, rfl⟩
  exact hopen.send rfl

theorem notify (publication : Publication) :
    SameForwarder socket (socket.notify publication) := by
  unfold RealtimeSocket.notify
  split
  · exact ⟨rfl, rfl, rfl⟩
  · exact refl

theorem step (h : SameForwarder socket current) : ForwarderStep wire world socket current :=
  .kept h.forwarder h.handled h.forwarded

end SameForwarder

namespace SocketStep

/-- A socket whose subscription and forwarder stay. -/
theorem quiet (h : SamePublications world after) (hsame : socket.SameSubscription current)
    (hforwarder : SameForwarder socket current)
    (hanswers : after.AnswerFacts socket → after.AnswerFacts current) :
    SocketStep wire world after socket current where
  userId := hsame.userId
  kind := hsame.kind
  hears := fun hhears => h.publications ▸ hsame.hears hhears
  answers := fun hfacts => hanswers (h.answers hfacts)
  forwards := hforwarder.step

/-- A socket which a step does not move. -/
theorem kept (h : SamePublications world after) : SocketStep wire world after socket socket :=
  quiet h .refl .refl id

theorem subscribe (hphase : socket.phase = .authorized) (redisUp : Bool) :
    SocketStep wire world world socket
      (socket.subscribe world.publications.length redisUp) := by
  have hframe : (socket.subscribe world.publications.length redisUp).userId = socket.userId ∧
      (socket.subscribe world.publications.length redisUp).kind = socket.kind := by
    unfold RealtimeSocket.subscribe
    split
    · exact ⟨rfl, rfl⟩
    · exact ⟨rfl, rfl⟩
  exact ⟨hframe.1, hframe.2, fun hhears => hhears.subscribe hphase redisUp,
    fun hanswers => hanswers.subscribe _ _, (SameForwarder.subscribe _ _).step⟩

theorem accept (hphase : socket.phase = .subscribed) :
    SocketStep wire world world socket socket.accept :=
  ⟨rfl, rfl, fun hhears => hhears.accept hphase, fun hanswers => hanswers.accept,
    SameForwarder.accept.step⟩

theorem take {publication : Publication} {rest : List Publication}
    (hphase : socket.phase ≠ .authorized) (hforwarder : socket.forwarder = .waiting)
    (hqueue : socket.queue = publication :: rest) :
    SocketStep wire world world socket (socket.take publication rest) :=
  ⟨rfl, rfl, fun hhears => hhears.take hqueue hphase,
    fun hanswers => ⟨hanswers.receiver, hanswers.told⟩, .took hforwarder rfl rfl rfl⟩

theorem authorize {publication : Publication}
    (hforwarder : socket.forwarder = .taken publication) (authenticated : Bool) :
    SocketStep wire world world socket
      (socket.authorize world.chat.db publication authenticated) := by
  have hsame : socket.SameSubscription
      (socket.authorize world.chat.db publication authenticated) := .authorize ..
  refine ⟨hsame.userId, hsame.kind, hsame.hears, fun hanswers => hanswers.authorize .., ?_⟩
  unfold RealtimeSocket.authorize
  split
  · split
    · rename_i conversationIds hkind
      exact .authorized hforwarder (.inl ⟨conversationIds, hkind, rfl⟩) rfl rfl
    · rename_i conversationId hkind
      split
      · exact (SameForwarder.refl.close _).step
      · rename_i conversation hauthorized
        refine .authorized hforwarder (.inr ⟨conversationId, hkind, ?_, rfl⟩) rfl rfl
        rw [hauthorized]
        rfl
  · exact (SameForwarder.refl.close _).step

theorem readClock {publication : Publication}
    (hforwarder : socket.forwarder = .authorized publication) :
    SocketStep wire world world socket (socket.readClock publication world.chat.now) :=
  ⟨rfl, rfl, (RealtimeSocket.SameSubscription.atForwarder _).hears,
    fun hanswers => hanswers.atForwarder _, .clocked hforwarder rfl rfl rfl⟩

theorem select {publication : Publication} {now : Instant} {conversationId : Nat}
    (hkind : socket.kind = .conversation conversationId)
    (hforwarder : socket.forwarder = .selecting publication now) :
    SocketStep wire world world socket (socket.select wire publication
      (selectRealtimeMessage world.chat.db conversationId publication.messageId now)) := by
  have hsame : socket.SameSubscription (socket.select wire publication
      (selectRealtimeMessage world.chat.db conversationId publication.messageId now)) :=
    .select ..
  refine ⟨hsame.userId, hsame.kind, hsame.hears, fun hanswers => hanswers.select ..,
    .selected hforwarder hkind rfl hsame.handled ?_⟩
  unfold RealtimeSocket.select
  split
  · rfl
  · rfl

theorem write {event : ServerEvent} (hevent : socket.forwarder.event? = some event) :
    SocketStep wire world world socket (socket.forward event) := by
  have hsame : socket.SameSubscription (socket.forward event) := .forward event
  refine ⟨hsame.userId, hsame.kind, hsame.hears, fun hanswers => hanswers.forward hevent,
    .wrote hevent rfl rfl ?_⟩
  have hforwarded : event.isForwarded = true := by
    unfold ForwarderPhase.event? at hevent
    split at hevent
    · rw [← Option.some.inj hevent]
      rfl
    · rw [← Option.some.inj hevent]
      rfl
    · cases hevent
  rw [RealtimeSocket.forwarded, RealtimeSocket.forward, RealtimeSocket.send,
    List.filter_append, List.filter_singleton, hforwarded]
  rfl

theorem unlink (hphase : socket.phase ≠ .authorized) (kept : Nat) :
    SocketStep wire world world socket (socket.unlink kept) :=
  ⟨rfl, rfl, fun hhears => hhears.unlink hphase kept,
    fun hanswers => ⟨hanswers.receiver, hanswers.told⟩, .kept rfl rfl rfl⟩

theorem relink (hphase : socket.phase ≠ .authorized) :
    SocketStep wire world world socket { socket with linked := true } :=
  ⟨rfl, rfl, fun hhears => hhears.relink hphase,
    fun hanswers => ⟨hanswers.receiver, hanswers.told⟩, .kept rfl rfl rfl⟩

theorem unsubscribe {closure : Option SocketClosure} (hphase : socket.phase = .closed closure) :
    SocketStep wire world world socket { socket with linked := false } :=
  quiet .refl ⟨rfl, rfl, rfl, rfl, rfl, rfl, .inr ⟨closure, hphase⟩⟩ ⟨rfl, rfl, rfl⟩
    fun hanswers => ⟨hanswers.receiver, hanswers.told⟩

theorem notify {publication : Publication}
    (hpublications : after.publications = world.publications ++ [publication])
    (hcommitted : after.committed = world.committed) :
    SocketStep wire world after socket (socket.notify publication) := by
  have hframe : (socket.notify publication).userId = socket.userId ∧
      (socket.notify publication).kind = socket.kind := by
    unfold RealtimeSocket.notify
    split <;> exact ⟨rfl, rfl⟩
  refine ⟨hframe.1, hframe.2, fun hhears => ?_, fun hanswers => ?_,
    (SameForwarder.notify publication).step⟩
  · rw [hpublications]
    exact hhears.notify publication
  · refine (hanswers.later (fun _ hrow => ?_) (fun _ hmem => ?_)).notify publication
    · rwa [hcommitted]
    · rw [hpublications]
      exact List.mem_append_left _ hmem

/-- The receiver of a moved socket goes on to answer. -/
theorem answering (h : SocketStep wire world after socket current) {messageId : Uuid}
    {delivery : ChatPublishDisposition}
    (haccepted : world.AnswerFacts socket →
      after.Accepted socket.userId socket.kind messageId delivery) :
    SocketStep wire world after socket (current.answering messageId delivery) where
  userId := h.userId
  kind := h.kind
  hears := fun hhears =>
    (RealtimeSocket.SameSubscription.refl.atReceiver _).hears (h.hears hhears)
  answers := fun hanswers => by
    refine (h.answers hanswers).atReceiver _ ?_
    change after.Accepted _ _ _ _
    rw [h.userId, h.kind]
    exact haccepted hanswers
  forwards := by
    cases h.forwards with
    | kept hforwarder hhandled hforwarded => exact .kept hforwarder hhandled hforwarded
    | took hbefore hforwarder hhandled hforwarded =>
        exact .took hbefore hforwarder hhandled hforwarded
    | authorized hbefore hforwarder hhandled hforwarded =>
        exact .authorized hbefore hforwarder hhandled hforwarded
    | clocked hbefore hforwarder hhandled hforwarded =>
        exact .clocked hbefore hforwarder hhandled hforwarded
    | selected hbefore hkind hforwarder hhandled hforwarded =>
        exact .selected hbefore hkind hforwarder hhandled hforwarded
    | wrote hbefore hforwarder hhandled hforwarded =>
        exact .wrote hbefore hforwarder hhandled hforwarded

end SocketStep

/-- A move which a world makes is one for every world with its histories. -/
theorem SocketStep.within (h : SocketStep wire world world socket current)
    (hsame : SamePublications world after) : SocketStep wire world after socket current :=
  ⟨h.userId, h.kind, fun hhears => hsame.publications ▸ h.hears hhears,
    fun hanswers => hsame.answers (h.answers hanswers), h.forwards⟩

/-- A move is one for every later world with the same histories. -/
theorem SocketStep.congr {later : RealtimeWorld} (h : SocketStep wire world after socket current)
    (hpublications : later.publications = after.publications)
    (hcommitted : later.committed = after.committed) :
    SocketStep wire world later socket current :=
  ⟨h.userId, h.kind, fun hhears => hpublications ▸ h.hears hhears,
    fun hanswers => (h.answers hanswers).later (fun _ hrow => hcommitted ▸ hrow)
      (fun _ hpublication => hpublications ▸ hpublication), h.forwards⟩

theorem forall₂_withSocket {position : Nat} (hsocket : world.sockets[position]? = some socket)
    (hmove : SocketStep wire world world socket current) :
    List.Forall₂ (SocketStep wire world (world.withSocket position current)) world.sockets
      (world.withSocket position current).sockets := by
  have hsame : SamePublications world (world.withSocket position current) :=
    ⟨rfl, fun _ hrow => hrow⟩
  refine forall₂_set (fun _ _ => .kept hsame) (fun item hitem => ?_)
  rw [hsocket, Option.some.injEq] at hitem
  exact hitem ▸ hmove.within hsame

/-- What the script does with the sockets, and what its result says. -/
theorem exists_publishOnce (hrecorded : ∀ stored ∈ world.keys,
      ∃ publication ∈ world.publications, publication.key = stored.key)
    (conversationId : Nat) (messageId : Uuid) :
    ∃ move : RealtimeSocket → RealtimeSocket,
      (world.publishOnce conversationId messageId).2.sockets = world.sockets.map move ∧
      (world.publishOnce conversationId messageId).2.committed = world.committed ∧
      (∀ socket, SocketStep wire world (world.publishOnce conversationId messageId).2 socket
        (move socket)) ∧
      (∀ publication ∈ world.publications,
        publication ∈ (world.publishOnce conversationId messageId).2.publications) ∧
      ((world.publishOnce conversationId messageId).1 ≠ .unavailable →
        ∃ publication ∈ (world.publishOnce conversationId messageId).2.publications,
          publication.key = (conversationId, messageId)) := by
  unfold RealtimeWorld.publishOnce
  dsimp only
  split
  · rename_i hlive
    refine ⟨id, (List.map_id _).symm, rfl, fun _ => .kept .refl, fun _ h => h, fun _ => ?_⟩
    obtain ⟨stored, hstored, hkey⟩ := List.any_eq_true.mp hlive
    simp only [Bool.and_eq_true, decide_eq_true_eq] at hkey
    obtain ⟨publication, hpublication, hsame⟩ := hrecorded stored hstored
    exact ⟨publication, hpublication, hsame.trans hkey.1⟩
  · split
    · exact ⟨id, (List.map_id _).symm, rfl, fun _ => .kept .refl, fun _ h => h,
        fun hdelivery => absurd rfl hdelivery⟩
    · exact ⟨_, rfl, rfl, fun _ => .notify rfl rfl, fun _ h => List.mem_append_left _ h,
        fun _ => ⟨_, List.mem_append_right _ (List.mem_singleton_self _), rfl⟩⟩

theorem forall₂_publish (hrecorded : ∀ stored ∈ world.keys,
      ∃ publication ∈ world.publications, publication.key = stored.key)
    {position : Nat} (hsocket : world.sockets[position]? = some socket) {conversationId : Nat}
    {messageId : Uuid} (hkind : socket.kind = .conversation conversationId)
    (hreceiver : socket.receiver = .committed messageId) (outcome : EvalOutcome) :
    List.Forall₂ (SocketStep wire world
        (world.publish position socket conversationId messageId outcome)) world.sockets
      (world.publish position socket conversationId messageId outcome).sockets := by
  have hcommitted : ∀ {history : RealtimeWorld}, world.AnswerFacts socket →
      history.committed = world.committed → ∀ delivery, (delivery ≠ .unavailable →
        ∃ publication ∈ history.publications, publication.key = (conversationId, messageId)) →
          history.Accepted socket.userId socket.kind messageId delivery := by
    intro history hanswers hhistory delivery hpublished
    have haccepted := hanswers.receiver
    rw [hreceiver] at haccepted
    obtain ⟨row, hrow, hid, hsender, hrowKind, -⟩ := haccepted
    have hconversation : row.conversationId = conversationId :=
      SocketKind.conversation.inj (hrowKind.symm.trans hkind)
    exact ⟨row, hhistory ▸ hrow, hid, hsender, hrowKind, hconversation.symm ▸ hpublished⟩
  obtain ⟨move, hsockets, hrows, hmoves, hkept, hresult⟩ :=
    @exists_publishOnce wire world hrecorded conversationId messageId
  have hevaluated : ∀ delivery, (delivery ≠ .unavailable →
      ∃ publication ∈ (world.publishOnce conversationId messageId).2.publications,
        publication.key = (conversationId, messageId)) →
      List.Forall₂ (SocketStep wire world (world.publishOnce conversationId messageId).2)
        world.sockets ((world.publishOnce conversationId messageId).2.sockets.modify position
          (·.answering messageId delivery)) := by
    intro delivery hpublished
    rw [hsockets]
    refine forall₂_modify (fun item _ => hmoves item) (fun item hitem => ?_)
    rw [hsocket, Option.some.injEq] at hitem
    subst hitem
    exact (hmoves socket).answering fun hanswers => hcommitted hanswers hrows delivery hpublished
  cases outcome with
  | unreached =>
      refine forall₂_withSocket hsocket (SocketStep.answering (.kept .refl) fun hanswers => ?_)
      exact hcommitted hanswers rfl .unavailable fun hdelivery => absurd rfl hdelivery
  | answered => exact (hevaluated _ hresult).imp fun _ _ hmove => hmove.congr rfl rfl
  | lostReply =>
      exact (hevaluated .unavailable fun hdelivery => absurd rfl hdelivery).imp
        fun _ _ hmove => hmove.congr rfl rfl

/-- What one step does: every socket makes a step of its own, and one may be added. -/
theorem RealtimeStep.sockets (hcommits : world.CommitFacts)
    (hrecorded : ∀ stored ∈ world.keys,
      ∃ publication ∈ world.publications, publication.key = stored.key)
    {label : RealtimeLabel} (hstep : RealtimeStep env wire world label after) :
    ∃ moved added, after.sockets = moved ++ added ∧
      List.Forall₂ (SocketStep wire world after) world.sockets moved ∧
        ∀ socket ∈ added, ∃ userId kind, socket = { userId, kind } := by
  have hgrow : ∀ (label : MessageLabel) (chat : MessageWorld) (row : BuddyMessage),
      row ∈ world.committed → row ∈ (world.withChat label chat).committed :=
    fun _ _ _ hrow => List.mem_append_right _ hrow
  have hset : ∀ {position : Nat} {socket changed : RealtimeSocket},
      world.sockets[position]? = some socket → SocketStep wire world world socket changed →
      ∃ moved added, (world.withSocket position changed).sockets = moved ++ added ∧
        List.Forall₂ (SocketStep wire world (world.withSocket position changed)) world.sockets
          moved ∧ ∀ socket ∈ added, ∃ userId kind, socket = { userId, kind } :=
    fun hsocket hmove => ⟨_, [], (List.append_nil _).symm, forall₂_withSocket hsocket hmove,
      by simp⟩
  cases hstep with
  | @chat label chat hchat =>
      refine ⟨_, [], (List.append_nil _).symm, List.forall₂_same.mpr fun _ _ => ?_, by simp⟩
      exact .kept ⟨rfl, hgrow label chat⟩
  | tables =>
      exact ⟨_, [], (List.append_nil _).symm,
        List.forall₂_same.mpr fun _ _ => .kept ⟨rfl, fun _ hrow => hrow⟩, by simp⟩
  | loseKeys =>
      exact ⟨_, [], (List.append_nil _).symm,
        List.forall₂_same.mpr fun _ _ => .kept ⟨rfl, fun _ hrow => hrow⟩, by simp⟩
  | @connect kind userId =>
      refine ⟨_, [_], rfl, List.forall₂_same.mpr fun _ _ => .kept ⟨rfl, fun _ hrow => hrow⟩, ?_⟩
      intro socket hsocket
      exact ⟨userId, kind, List.mem_singleton.mp hsocket⟩
  | subscribe hsocket hphase => exact hset hsocket (.subscribe hphase _)
  | accept hsocket hphase => exact hset hsocket (.accept hphase)
  | receive hsocket =>
      exact hset hsocket (.quiet .refl (.receive _ _ _) (.receive _ _ _)
        fun hanswers => hanswers.receive _ _ _)
  | @answered position label chat socket request outcome hsocket _ hreceiver hchat hanswer =>
      refine ⟨_, [], (List.append_nil _).symm, forall₂_set
        (fun _ _ => .kept ⟨rfl, hgrow label chat⟩)
        (fun item hitem => ?_), by simp⟩
      rw [hsocket, Option.some.injEq] at hitem
      subst hitem
      refine .quiet ⟨rfl, hgrow label chat⟩ (.answered outcome) (.answered outcome) ?_
      intro hanswers
      refine hanswers.answered fun message hmessage => ?_
      have hsending := hanswers.receiver
      rw [hreceiver] at hsending
      obtain ⟨row, hrow, hid, hsender, hconversation⟩ :=
        hcommits.answered hchat (hmessage ▸ hanswer)
      exact ⟨row, hrow, hid, hsender.trans hsending.1, hconversation ▸ hsending.2,
        fun hdelivery => absurd rfl hdelivery⟩
  | publish hsocket _ hkind hreceiver =>
      exact ⟨_, [], (List.append_nil _).symm,
        forall₂_publish hrecorded hsocket hkind hreceiver _, by simp⟩
  | tell hsocket _ hreceiver =>
      refine hset hsocket (.quiet .refl (.tell _ _) (.tell _ _) fun hanswers => ?_)
      have haccepted := hanswers.receiver
      rw [hreceiver] at haccepted
      exact hanswers.tell haccepted
  | take hsocket hphase hforwarder hqueue =>
      exact hset hsocket (.take (by simp [hphase]) hforwarder hqueue)
  | authorize hsocket _ hforwarder => exact hset hsocket (.authorize hforwarder _)
  | readClock hsocket _ hforwarder => exact hset hsocket (.readClock hforwarder)
  | select hsocket _ hkind hforwarder => exact hset hsocket (.select hkind hforwarder)
  | write hsocket _ hevent => exact hset hsocket (.write hevent)
  | unlink hsocket hphase => exact hset hsocket (.unlink hphase _)
  | relink hsocket hphase => exact hset hsocket (.relink (by simp [hphase]))
  | close hsocket =>
      exact hset hsocket (.quiet .refl (.close .refl _) (.close .refl _)
        fun hanswers => hanswers.close _)
  | unsubscribe hsocket hphase => exact hset hsocket (.unsubscribe hphase)

end Steps

end BuddyWeb
