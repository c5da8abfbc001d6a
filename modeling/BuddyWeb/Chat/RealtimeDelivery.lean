/-
The guarantees of the realtime transport: what a socket gets, what it shows, and what a sender
is told, whatever requests, sockets, failures of Redis and lost connections interleave.
-/
import BuddyWeb.Chat.MessageRetention
import BuddyWeb.Chat.RealtimeReads

namespace BuddyWeb

/-- A notification has led to a message which is shown, or to a read which found nothing. -/
def RealtimeSocket.HasRead (socket : RealtimeSocket) (wire : WireFormat)
    (trace : Nat → RealtimeWorld) (position conversationId time : Nat)
    (publication : Publication) : Prop :=
  ∃ found, ReadBefore trace position socket.userId conversationId publication found time ∧
    ∀ row ∈ found, chatMessageResponse wire socket.userId row ∈ socket.shown

/-- Every socket gets the publications of its conversations since it subscribed, in their
order, and all of them while it is undisturbed, and it reads and shows what it takes.
Publications of one message are a day apart unless Redis has lost its key in between. -/
structure DeliversInOrder (wire : WireFormat) (trace : Nat → RealtimeWorld) (time : Nat) :
    Prop where
  heard : ∀ socket ∈ (trace time).sockets, HeardFrom (trace time).publications
    socket.subscribedAt socket.concerns socket.Undisturbed (socket.handled ++ socket.queue)
  forwards : ∀ position socket, (trace time).sockets[position]? = some socket →
    Forwards wire trace position time socket
  complete : ∀ position (socket : RealtimeSocket) conversationId,
    (trace time).sockets[position]? = some socket →
      socket.kind = .conversation conversationId → socket.Undisturbed →
        ∀ publication ∈ (trace time).publications.drop socket.subscribedAt,
          publication.conversationId = conversationId → publication ∈ socket.queue ∨
            socket.forwarder.publication? = some publication ∨
              socket.HasRead wire trace position conversationId time publication
  apart : (trace time).publications.Pairwise fun first second =>
    first.key = second.key → first.losses = second.losses →
      first.publishedAt.val + publishDedupePeriod ≤ second.publishedAt.val

/-- A shown message was read from a committed row after the user had been authorized, for a
notification which had been taken before. -/
structure ShownFrom (wire : WireFormat) (trace : Nat → RealtimeWorld) (position time : Nat)
    (socket : RealtimeSocket) (message : ChatMessageResponse) (publication : Publication)
    (row : BuddyMessage) (authorized clocked selected : Nat) : Prop where
  kind : socket.kind = .conversation row.conversationId
  handled : publication ∈ socket.handled
  permitted : AuthorizedAt trace position socket.userId row.conversationId publication authorized
  inOrder : authorized < clocked ∧ clocked < selected ∧ selected < time
  stored : row ∈ (trace selected).chat.db.messages.rows
  id : row.id = publication.messageId
  effective : (trace clocked).chat.now < row.expiresAt
  message : message = chatMessageResponse wire socket.userId row

/-- What a socket shows are committed messages of its conversation, in the order of the
notifications and read for them, and none twice while publications are a day apart and Redis
keeps the key. -/
structure ShowsCommitted (wire : WireFormat) (trace : Nat → RealtimeWorld) (time : Nat) :
    Prop where
  committedOnce : ((trace time).committed.map (·.id)).Nodup
  inOrder : ∀ socket ∈ (trace time).sockets, (socket.shown.map (·.id)).Sublist
    (socket.handled.map fun publication => uuidText publication.messageId.val)
  read : ∀ position socket, (trace time).sockets[position]? = some socket →
    ∀ message ∈ socket.shown, ∃ publication row authorized clocked selected,
      ShownFrom wire trace position time socket message publication row authorized clocked
        selected
  committed : ∀ socket ∈ (trace time).sockets, ∀ message ∈ socket.shown,
    ∃ row ∈ (trace time).committed, socket.kind = .conversation row.conversationId ∧
      ∃ readAt expiresAt, message = chatMessageResponse wire socket.userId
        { row with readAt := readAt, expiresAt := expiresAt }
  once : ∀ socket ∈ (trace time).sockets, ∀ messageId : Uuid,
    (∀ first ∈ socket.handled, ∀ second ∈ socket.handled, first.messageId = messageId →
      second.messageId = messageId → first.losses = second.losses ∧
        second.publishedAt.val < first.publishedAt.val + publishDedupePeriod) →
      (socket.shown.map (·.id)).count (uuidText messageId.val) ≤ 1

/-- A sender is told of the acceptance of its own committed message only, and of a live
delivery only after a publication.  Only committed messages are published. -/
structure RealtimeWorld.AnswersTruthfully (world : RealtimeWorld) : Prop where
  told : ∀ socket ∈ world.sockets, ∀ messageId delivery,
    .sendAccepted messageId delivery ∈ socket.events →
      world.Accepted socket.userId socket.kind messageId delivery
  published : ∀ publication ∈ world.publications, ∃ row ∈ world.committed,
    publication.key = (row.conversationId, row.id)

section Shown

variable {wire : WireFormat} {trace : Nat → RealtimeWorld}
  {position conversationId userId time : Nat} {socket : RealtimeSocket}

theorem shown_eq_forwarded : socket.shown = socket.forwarded.filterMap ServerEvent.message? := by
  rw [RealtimeSocket.shown, RealtimeSocket.forwarded, List.filterMap_filter]
  congr 1
  funext event
  cases event <;> rfl

theorem selectRealtimeMessage_eq_some {db : ChatDb} {messageId : Uuid} {now : Instant}
    {row : BuddyMessage} (h : selectRealtimeMessage db conversationId messageId now = some row) :
    row ∈ db.messages.rows ∧ row.conversationId = conversationId ∧ row.id = messageId ∧
      now < row.expiresAt := by
  have hmem := List.mem_of_find?_eq_some h
  have hid := List.find?_some h
  simp only [ChatDb.effectiveMessages, List.mem_filter, Bool.and_eq_true,
    decide_eq_true_eq] at hmem hid
  exact ⟨hmem.1, hmem.2.1, hid, hmem.2.2⟩

/-- The reads of a socket of a conversation and what it has shown of them. -/
theorem ForwardsMessages.exists_reads
    (h : ForwardsMessages trace position conversationId wire time socket) :
    ∃ reads : List (Publication × Option BuddyMessage),
      socket.handled = reads.map Prod.fst ++ socket.forwarder.publication?.toList ∧
      socket.shown = (reads.filterMap fun read =>
        read.2.map (chatMessageResponse wire socket.userId)) ∧
      ∀ read ∈ reads,
        ReadBefore trace position socket.userId conversationId read.1 read.2 time := by
  obtain ⟨-, reads, hhandled, hforwarded, hreads⟩ := h
  refine ⟨reads, hhandled, ?_, hreads⟩
  rw [shown_eq_forwarded, hforwarded, List.filterMap_filterMap]
  congr 1
  funext read
  cases read.2 <;> rfl

/-- A socket of a user shows no messages. -/
theorem SignalsChanges.shown (h : SignalsChanges socket) : socket.shown = [] := by
  obtain ⟨-, count, hsignals, -⟩ := h
  rw [shown_eq_forwarded, hsignals, List.filterMap_eq_nil_iff]
  intro event hevent
  rw [List.eq_of_mem_replicate hevent]
  rfl

/-- What reads have found has the ids of their notifications. -/
theorem found_ids_sublist {reads : List (Publication × Option BuddyMessage)}
    (hreads : ∀ read ∈ reads,
      ReadBefore trace position userId conversationId read.1 read.2 time) :
    ((reads.filterMap fun read => read.2.map (chatMessageResponse wire userId)).map
      (·.id)).Sublist
      (reads.map fun read => uuidText read.1.messageId.val) := by
  induction reads with
  | nil => exact List.Sublist.refl _
  | cons read rest ih =>
      have hrest := ih fun other hother => hreads other (List.mem_cons_of_mem _ hother)
      obtain ⟨publication, found⟩ := read
      cases found with
      | none => exact hrest.cons _
      | some row =>
          obtain ⟨_, _, _, _, hread⟩ := hreads _ List.mem_cons_self
          have hid := (selectRealtimeMessage_eq_some hread.finds).2.2.1
          have hhead : (chatMessageResponse wire userId row).id =
              uuidText publication.messageId.val := by
            rw [← hid]
            rfl
          change ((chatMessageResponse wire userId row).id :: _).Sublist (_ :: _)
          rw [hhead]
          exact hrest.cons_cons _

namespace Forwards

variable (h : Forwards wire trace position time socket)

include h

theorem inOrder : (socket.shown.map (·.id)).Sublist
    (socket.handled.map fun publication => uuidText publication.messageId.val) := by
  unfold Forwards at h
  split at h
  · obtain ⟨reads, hhandled, hshown, hreads⟩ := h.exists_reads
    rw [hshown, hhandled, List.map_append, List.map_map]
    exact (found_ids_sublist hreads).trans (List.sublist_append_left _ _)
  · rw [h.shown]
    exact List.nil_sublist _

/-- Where a shown message comes from. -/
theorem exists_shownFrom {message : ChatMessageResponse} (hmessage : message ∈ socket.shown) :
    ∃ publication row authorized clocked selected,
      ShownFrom wire trace position time socket message publication row authorized clocked
        selected := by
  unfold Forwards at h
  split at h
  · rename_i conversationId hkind
    obtain ⟨reads, hhandled, hshown, hreads⟩ := h.exists_reads
    rw [hshown] at hmessage
    obtain ⟨⟨publication, found⟩, hmem, hresponse⟩ := List.mem_filterMap.mp hmessage
    obtain ⟨row, rfl, hrow⟩ := Option.map_eq_some_iff.mp hresponse
    obtain ⟨authorized, clocked, selected, hless, hread⟩ := hreads _ hmem
    obtain ⟨hstored, rfl, hid, heffective⟩ := selectRealtimeMessage_eq_some hread.finds
    refine ⟨publication, row, authorized, clocked, selected, hkind, ?_, hread.permitted,
      ⟨hread.clockAfter, hread.selectAfter, hless⟩, hstored, hid, heffective, hrow.symm⟩
    rw [hhandled]
    exact List.mem_append_left _ (List.mem_map_of_mem hmem)
  · rw [h.shown] at hmessage
    cases hmessage

/-- A taken notification is being worked on, or has been read. -/
theorem accounted {conversationId : Nat} (hkind : socket.kind = .conversation conversationId)
    {publication : Publication} (hmem : publication ∈ socket.handled) :
    socket.forwarder.publication? = some publication ∨
      socket.HasRead wire trace position conversationId time publication := by
  unfold Forwards at h
  rw [hkind] at h
  obtain ⟨reads, hhandled, hshown, hreads⟩ := h.exists_reads
  rw [hhandled] at hmem
  rcases List.mem_append.mp hmem with hdone | hcurrent
  · obtain ⟨read, hread, rfl⟩ := List.mem_map.mp hdone
    refine Or.inr ⟨read.2, hreads read hread, fun row hrow => ?_⟩
    rw [hshown]
    exact List.mem_filterMap.mpr ⟨read, hread, Option.map_eq_some_iff.mpr ⟨row, hrow, rfl⟩⟩
  · exact Or.inl (Option.mem_toList.mp hcurrent)

end Forwards

end Shown

section Delivery

variable {env : ChatEnvironment} {wire : WireFormat} {world : RealtimeWorld}
  {trace : Nat → RealtimeWorld} {socket : RealtimeSocket}

namespace RealtimeFacts

/-- The publications of one message are a period apart unless its key has been lost. -/
theorem apart (h : RealtimeFacts world) :
    world.publications.Pairwise fun first second => first.key = second.key →
      first.losses = second.losses →
        first.publishedAt.val + publishDedupePeriod ≤ second.publishedAt.val := by
  have hspaced := h.spaced.apart
  rwa [List.pairwise_map] at hspaced

/-- A message is published in its own conversation. -/
theorem key_of_messageId (h : RealtimeFacts world) {first second : Publication}
    (hfirst : first ∈ world.publications) (hsecond : second ∈ world.publications)
    (hid : first.messageId = second.messageId) : first.key = second.key := by
  obtain ⟨row, hrow, hkey⟩ := h.published first hfirst
  obtain ⟨other, hother, hotherKey⟩ := h.published second hsecond
  have hids : row.id = other.id := by
    have hrowId : first.messageId = row.id := congrArg Prod.snd hkey
    have hotherId : second.messageId = other.id := congrArg Prod.snd hotherKey
    rw [← hrowId, ← hotherId, hid]
  have hsame : row = other := List.inj_on_of_nodup_map h.commits.ids hrow hother hids
  rw [hkey, hotherKey, hsame]

theorem handled_sublist (h : RealtimeFacts world) (hsocket : socket ∈ world.sockets) :
    socket.handled.Sublist world.publications :=
  (List.sublist_append_left _ _).trans (((h.hears socket hsocket).heard.inOrder.trans
    List.filter_sublist).trans (List.drop_sublist _ _))

/-- A message is taken once within a period while its key is kept. -/
theorem handled_once (h : RealtimeFacts world) (hsocket : socket ∈ world.sockets)
    {messageId : Uuid}
    (hday : ∀ first ∈ socket.handled, ∀ second ∈ socket.handled, first.messageId = messageId →
      second.messageId = messageId → first.losses = second.losses ∧
        second.publishedAt.val < first.publishedAt.val + publishDedupePeriod) :
    (socket.handled.map fun publication => uuidText publication.messageId.val).count
      (uuidText messageId.val) ≤ 1 := by
  have htaken := h.handled_sublist hsocket
  have hnamed : ∀ {publication : Publication},
      uuidText publication.messageId.val = uuidText messageId.val →
        publication.messageId = messageId := fun htext =>
    Fin.ext (uuidText_injective (Fin.isLt _) messageId.isLt htext)
  refine count_map_le_one (h.apart.sublist htaken) ?_
  intro first hfirst second hsecond hfirstText hsecondText hspaced
  have hfirstId := hnamed hfirstText
  have hsecondId := hnamed hsecondText
  obtain ⟨hlosses, hsoon⟩ := hday first hfirst second hsecond hfirstId hsecondId
  have hkey := h.key_of_messageId (htaken.subset hfirst) (htaken.subset hsecond)
    (hfirstId.trans hsecondId.symm)
  exact absurd (hspaced hkey hlosses) (Int.not_le.mpr hsoon)

end RealtimeFacts

/-- Whatever interleaves, sockets get the publications in order and without loss, and show
what they have read for them. -/
theorem realtime_delivers_in_order (hinit : (trace 0).Initial)
    (htrace : IsTrace (RealtimeStep env wire) trace) (time : Nat) :
    DeliversInOrder wire trace time := by
  have hfacts := RealtimeFacts.reached (reached_of_trace hinit htrace time)
  have hforwards := forwards_of_trace hinit htrace time
  refine ⟨fun socket hsocket => (hfacts.hears socket hsocket).heard, hforwards, ?_,
    hfacts.apart⟩
  intro position socket conversationId hsocket hkind hundisturbed publication hpublication
    hconversation
  have hheard := (hfacts.hears socket (List.mem_of_getElem? hsocket)).heard.complete hundisturbed
  have hmem : publication ∈ socket.handled ++ socket.queue := by
    rw [hheard, List.mem_filter]
    refine ⟨hpublication, ?_⟩
    rw [RealtimeSocket.concerns, hkind, hconversation]
    simp [SocketKind.channels]
  rcases List.mem_append.mp hmem with hhandled | hqueued
  · exact Or.inr ((hforwards position socket hsocket).accounted hkind hhandled)
  · exact Or.inl hqueued

/-- Whatever interleaves, sockets show committed messages to their participants only. -/
theorem realtime_shows_committed (hinit : (trace 0).Initial)
    (htrace : IsTrace (RealtimeStep env wire) trace) (time : Nat) :
    ShowsCommitted wire trace time := by
  have hfacts := RealtimeFacts.reached (reached_of_trace hinit htrace time)
  have hforwards := forwards_of_trace hinit htrace time
  have hplace : ∀ socket ∈ (trace time).sockets, ∃ position,
      Forwards wire trace position time socket := by
    intro socket hsocket
    obtain ⟨position, hposition⟩ := List.mem_iff_getElem?.mp hsocket
    exact ⟨position, hforwards position socket hposition⟩
  refine ⟨hfacts.commits.ids, ?_, ?_, ?_, ?_⟩
  · intro socket hsocket
    obtain ⟨position, hsocketForwards⟩ := hplace socket hsocket
    exact hsocketForwards.inOrder
  · intro position socket hsocket message hmessage
    exact (hforwards position socket hsocket).exists_shownFrom hmessage
  · intro socket hsocket message hmessage
    obtain ⟨position, hsocketForwards⟩ := hplace socket hsocket
    obtain ⟨publication, row, _, _, selected, hshown⟩ :=
      hsocketForwards.exists_shownFrom hmessage
    have hselected := RealtimeFacts.reached (reached_of_trace hinit htrace selected)
    obtain ⟨first, hfirst, ⟨hid, hconversation, hkey, hbody⟩, hcreated⟩ :=
      hselected.commits.stored row hshown.stored
    refine ⟨first, committed_of_trace htrace (Nat.le_of_lt hshown.inOrder.2.2) hfirst, ?_,
      row.readAt, row.expiresAt, ?_⟩
    · rw [hshown.kind, hconversation]
    · rw [hshown.message]
      simp only [chatMessageResponse, hid, hkey.1, hbody, hcreated]
  · intro socket hsocket messageId hday
    obtain ⟨position, hsocketForwards⟩ := hplace socket hsocket
    exact (hsocketForwards.inOrder.count_le _).trans (hfacts.handled_once hsocket hday)

/-- Whatever interleaves, senders are told the truth. -/
theorem realtime_answers_truthfully (h : world.Reached env wire) :
    world.AnswersTruthfully := by
  have hfacts := RealtimeFacts.reached h
  exact ⟨fun socket hsocket => (hfacts.answers socket hsocket).told, hfacts.published⟩

end Delivery

section LiveSend

def idleRealtime : RealtimeWorld := ⟨quietWorld, [], [], [], [], []⟩

def liveMessage : BuddyMessage :=
  ⟨2, 1, 1, 2, "quick", earlyInstant, none, ⟨buddyMessageMaxRetention, instant_maxRetention⟩⟩

/-- Both participants are connected; one sends, Redis loses the key, and the other is shown the
message. -/
theorem live_send_run : ∃ world : RealtimeWorld,
    world.Reached plainChatEnvironment WireWitness.wire ∧ world.publications.length = 1 ∧
      world.sockets.map (fun socket => (socket.userId, socket.events)) =
        [(1, [.ready, .sendAccepted quickId .published]),
          (2, [.ready, .message (chatMessageResponse WireWitness.wire 2 liveMessage)])] ∧
      ∀ socket ∈ world.sockets, socket.Undisturbed := by
  have hstart : RealtimeWorld.Reached plainChatEnvironment WireWitness.wire idleRealtime :=
    .start ⟨⟨rfl, rfl, fun _ => rfl⟩, rfl, rfl, rfl, rfl, rfl⟩
  have hsender := hstart.next trivial
    (.connect (by decide +kernel) : RealtimeStep _ _ _ (.connect (.conversation 1) 1) _)
  have hrecipient := hsender.next trivial
    (.connect (by decide +kernel) : RealtimeStep _ _ _ (.connect (.conversation 1) 2) _)
  have hsubscribed := hrecipient.next trivial
    (.subscribe rfl rfl : RealtimeStep _ _ _ (.subscribe 0 true) _)
  have hboth := hsubscribed.next trivial
    (.subscribe rfl rfl : RealtimeStep _ _ _ (.subscribe 1 true) _)
  have haccepted := hboth.next trivial
    (.accept rfl rfl : RealtimeStep _ _ _ (.accept 0) _)
  have hopen := haccepted.next trivial
    (.accept rfl rfl : RealtimeStep _ _ _ (.accept 1) _)
  have hreceived := hopen.next trivial
    (.receive rfl rfl rfl : RealtimeStep _ _ _ (.receive 0 (.send 2 "quick") true .passed) _)
  have hauthorized := hreceived.next trivial
    (.chat (.authorize rfl (by decide +kernel)) :
      RealtimeStep _ _ _ (.chat (.authorize 1 quickSend)) _)
  have hclock := hauthorized.next trivial
    (.chat (.readClock rfl) : RealtimeStep _ _ _ (.chat (.readClock 1)) _)
  have hrow : insertBuddyMessage plainChatEnvironment quietWorld.db
      (quickSend.attempt quickId earlyInstant) = .ok (some liveMessage) := by rfl
  have hinserted := hclock.next trivial
    (.chat (.insert rfl (by decide) (by
      intro other pending message hphase
      match other with
      | 0 => cases hphase
      | 1 => cases hphase
      | n + 2 => cases hphase) (by exact hrow)) :
      RealtimeStep _ _ _ (.chat (.insert 1 quickId)) _)
  have hcommitted := hinserted.next trivial
    (.answered rfl rfl rfl (.commitSend rfl (by rfl)) rfl :
      RealtimeStep _ _ _ (.answered 0 (.commitSend 1)) _)
  have hpublished := hcommitted.next trivial
    (.publish rfl rfl rfl rfl : RealtimeStep _ _ _ (.publish 0 .answered) _)
  have hlost := hpublished.next trivial
    (.loseKeys : RealtimeStep _ _ _ (.loseKeys [(1, quickId)]) _)
  have htaken := hlost.next trivial
    (.take rfl rfl rfl rfl : RealtimeStep _ _ _ (.take 1) _)
  have htold := htaken.next trivial
    (.tell rfl rfl rfl : RealtimeStep _ _ _ (.tell 0) _)
  have hchecked := htold.next trivial
    (.authorize rfl rfl rfl : RealtimeStep _ _ _ (.authorize 1 true) _)
  have htimed := hchecked.next trivial
    (.readClock rfl rfl rfl : RealtimeStep _ _ _ (.readClock 1) _)
  have hread := htimed.next trivial
    (.select rfl rfl rfl rfl : RealtimeStep _ _ _ (.select 1) _)
  have hwritten := hread.next trivial
    (.write rfl rfl rfl : RealtimeStep _ _ _ (.write 1) _)
  refine ⟨_, hwritten, by decide +kernel, by decide +kernel, by decide +kernel⟩

/-- The run of the live send delivers in order. -/
theorem live_send_delivers : ∃ (trace : Nat → RealtimeWorld) (time : Nat),
    (trace time).publications.length = 1 ∧ DeliversInOrder WireWitness.wire trace time := by
  obtain ⟨world, hreached, hpublications, -⟩ := live_send_run
  obtain ⟨trace, hinit, htrace, last, hlast⟩ := Reaches.exists_trace hreached
  refine ⟨trace, last, ?_, realtime_delivers_in_order hinit htrace last⟩
  rw [hlast last (Nat.le_refl last)]
  exact hpublications

/-- The recipient of the live send has been shown the message. -/
theorem live_send_shown : ∃ (trace : Nat → RealtimeWorld) (time : Nat),
    ((trace time).sockets.map fun socket => socket.shown.length) = [0, 1] ∧
      ShowsCommitted WireWitness.wire trace time := by
  obtain ⟨world, hreached, -, hevents, -⟩ := live_send_run
  obtain ⟨trace, hinit, htrace, last, hlast⟩ := Reaches.exists_trace hreached
  refine ⟨trace, last, ?_, realtime_shows_committed hinit htrace last⟩
  rw [hlast last (Nat.le_refl last)]
  have hshown := congrArg (List.map fun told : Nat × List ServerEvent =>
    (told.2.filterMap ServerEvent.message?).length) hevents
  rwa [List.map_map] at hshown

/-- The sender of the live send has been told of its delivery. -/
theorem live_send_told : ∃ world : RealtimeWorld,
    (∃ socket ∈ world.sockets, .sendAccepted quickId .published ∈ socket.events) ∧
      world.AnswersTruthfully := by
  obtain ⟨world, hreached, -, hevents, -⟩ := live_send_run
  refine ⟨world, ?_, realtime_answers_truthfully hreached⟩
  have htold : (1, [.ready, .sendAccepted quickId .published]) ∈
      world.sockets.map fun socket => (socket.userId, socket.events) := by
    rw [hevents]
    exact List.mem_cons_self
  obtain ⟨socket, hsocket, hsame⟩ := List.mem_map.mp htold
  refine ⟨socket, hsocket, ?_⟩
  rw [(Prod.mk.inj hsame).2]
  exact List.mem_cons_of_mem _ (List.mem_singleton_self _)

end LiveSend

end BuddyWeb
