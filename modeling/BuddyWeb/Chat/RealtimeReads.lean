/-
What the forwarder of a socket has read and written for each notification which it has taken,
at the times of a run.
-/
import BuddyWeb.Chat.RealtimeRuns

namespace BuddyWeb

section Reads

variable (trace : Nat → RealtimeWorld) (position userId conversationId : Nat)

/-- The forwarder at a position has taken a notification, and its user participates in the
active conversation. -/
structure AuthorizedAt (publication : Publication) (time : Nat) : Prop where
  taken : ∃ socket, (trace time).sockets[position]? = some socket ∧
    socket.forwarder = .taken publication
  participant : (requireAuthorizedActiveConversation (trace time).chat.db conversationId
    userId).toBool = true

/-- What the select of a notification has found, with the authorization and the clock before
it. -/
structure ReadAt (publication : Publication) (found : Option BuddyMessage)
    (authorized clocked selected : Nat) : Prop where
  permitted : AuthorizedAt trace position userId conversationId publication authorized
  clockAfter : authorized < clocked
  selectAfter : clocked < selected
  finds : selectRealtimeMessage (trace selected).chat.db conversationId publication.messageId
    (trace clocked).chat.now = found

def ReadBefore (publication : Publication) (found : Option BuddyMessage) (time : Nat) : Prop :=
  ∃ authorized clocked selected, selected < time ∧
    ReadAt trace position userId conversationId publication found authorized clocked selected

variable (wire : WireFormat)

/-- What the forwarder of a conversation has done for its current notification. -/
def ForwarderPhase.Progress (time : Nat) : ForwarderPhase → Prop
  | .waiting => True
  | .taken _ => True
  | .authorized publication => ∃ authorized < time,
      AuthorizedAt trace position userId conversationId publication authorized
  | .selecting publication now => ∃ authorized clocked, authorized < clocked ∧ clocked < time ∧
      AuthorizedAt trace position userId conversationId publication authorized ∧
        (trace clocked).chat.now = now
  | .showing publication message => ∃ row,
      ReadBefore trace position userId conversationId publication (some row) time ∧
        message = chatMessageResponse wire userId row
  | .signalling _ => False

/-- A socket of a conversation has read the message of each notification which it has taken,
but for the current one, and has shown what it found. -/
structure ForwardsMessages (time : Nat) (socket : RealtimeSocket) : Prop where
  progress : socket.forwarder.Progress trace position socket.userId conversationId wire time
  reads : ∃ reads : List (Publication × Option BuddyMessage),
    socket.handled = reads.map Prod.fst ++ socket.forwarder.publication?.toList ∧
      socket.forwarded = (reads.filterMap fun read => read.2.map fun row =>
        .message (chatMessageResponse wire socket.userId row)) ∧
      ∀ read ∈ reads, ReadBefore trace position socket.userId conversationId read.1 read.2 time

end Reads

/-- A socket of a user has signalled each notification which it has taken, but for the current
one. -/
structure SignalsChanges (socket : RealtimeSocket) : Prop where
  progress : socket.forwarder = .waiting ∨ ∃ publication,
    socket.forwarder = .taken publication ∨ socket.forwarder = .signalling publication
  signals : ∃ count, socket.forwarded = List.replicate count .unreadChanged ∧
    socket.handled.length = count + socket.forwarder.publication?.toList.length

def Forwards (wire : WireFormat) (trace : Nat → RealtimeWorld) (position time : Nat)
    (socket : RealtimeSocket) : Prop :=
  match socket.kind with
  | .conversation conversationId =>
      ForwardsMessages trace position conversationId wire time socket
  | .unread _ => SignalsChanges socket

section Progress

variable {wire : WireFormat} {trace : Nat → RealtimeWorld} {position conversationId time : Nat}
  {socket current : RealtimeSocket} {after : RealtimeWorld}

theorem ReadBefore.succ {userId : Nat} {publication : Publication} {found : Option BuddyMessage}
    (h : ReadBefore trace position userId conversationId publication found time) :
    ReadBefore trace position userId conversationId publication found (time + 1) := by
  obtain ⟨authorized, clocked, selected, hless, hread⟩ := h
  exact ⟨authorized, clocked, selected, Nat.lt_succ_of_lt hless, hread⟩

theorem ForwarderPhase.Progress.succ {userId : Nat} {phase : ForwarderPhase}
    (h : phase.Progress trace position userId conversationId wire time) :
    phase.Progress trace position userId conversationId wire (time + 1) := by
  cases phase with
  | waiting => trivial
  | taken publication => trivial
  | authorized publication =>
      obtain ⟨authorized, hless, hauthorized⟩ := h
      exact ⟨authorized, Nat.lt_succ_of_lt hless, hauthorized⟩
  | selecting publication now =>
      obtain ⟨authorized, clocked, horder, hless, hread⟩ := h
      exact ⟨authorized, clocked, horder, Nat.lt_succ_of_lt hless, hread⟩
  | showing publication message =>
      obtain ⟨row, hread, hmessage⟩ := h
      exact ⟨row, hread.succ, hmessage⟩
  | signalling publication => exact h

namespace ForwardsMessages

/-- Nothing is forgotten while time passes. -/
theorem succ (h : ForwardsMessages trace position conversationId wire time socket) :
    ForwardsMessages trace position conversationId wire (time + 1) socket := by
  obtain ⟨hprogress, reads, hhandled, hforwarded, hreads⟩ := h
  exact ⟨hprogress.succ, reads, hhandled, hforwarded, fun read hread => (hreads read hread).succ⟩

/-- The current notification goes on without being done. -/
theorem goesOn (h : ForwardsMessages trace position conversationId wire time socket)
    (huser : current.userId = socket.userId)
    (hprogress : current.forwarder.Progress trace position socket.userId conversationId wire
      (time + 1))
    (hpublication : current.forwarder.publication? = socket.forwarder.publication?)
    (hhandled : current.handled = socket.handled)
    (hforwarded : current.forwarded = socket.forwarded) :
    ForwardsMessages trace position conversationId wire (time + 1) current := by
  obtain ⟨reads, hsplit, hwritten, hreads⟩ := h.reads
  refine ⟨huser ▸ hprogress, reads, ?_, ?_, ?_⟩
  · rw [hhandled, hpublication, hsplit]
  · rw [hforwarded, huser, hwritten]
  · rw [huser]
    exact fun read hread => (hreads read hread).succ

/-- The current notification is done. -/
theorem done (h : ForwardsMessages trace position conversationId wire time socket)
    (huser : current.userId = socket.userId) {publication : Publication}
    {found : Option BuddyMessage}
    (hpublication : socket.forwarder.publication? = some publication)
    (hforwarder : current.forwarder = .waiting)
    (hread : ReadBefore trace position socket.userId conversationId publication found (time + 1))
    (hhandled : current.handled = socket.handled)
    (hforwarded : current.forwarded = socket.forwarded ++ (found.map fun row =>
      ServerEvent.message (chatMessageResponse wire socket.userId row)).toList) :
    ForwardsMessages trace position conversationId wire (time + 1) current := by
  obtain ⟨reads, hsplit, hwritten, hreads⟩ := h.reads
  refine ⟨?_, reads ++ [(publication, found)], ?_, ?_, ?_⟩
  · rw [hforwarder]
    trivial
  · rw [hhandled, hsplit, hpublication, hforwarder, List.map_append]
    exact (List.append_nil _).symm
  · rw [hforwarded, hwritten, huser, List.filterMap_append]
    cases found with
    | none => rfl
    | some row => rfl
  · rw [huser]
    intro read hmem
    rcases List.mem_append.mp hmem with hold | hnew
    · exact (hreads read hold).succ
    · rw [List.mem_singleton.mp hnew]
      exact hread

/-- What a step of the run leaves of a socket of a conversation. -/
theorem step (h : ForwardsMessages trace position conversationId wire time socket)
    (hsocket : (trace time).sockets[position]? = some socket)
    (hkind : socket.kind = .conversation conversationId)
    (hmove : SocketStep wire (trace time) after socket current) :
    ForwardsMessages trace position conversationId wire (time + 1) current := by
  have hprogress := h.progress
  cases hmove.forwards with
  | kept hforwarder hhandled hforwarded =>
      refine h.goesOn hmove.userId ?_ (by rw [hforwarder]) hhandled hforwarded
      rw [hforwarder]
      exact hprogress.succ
  | @took publication hbefore hforwarder hhandled hforwarded =>
      obtain ⟨reads, hsplit, hwritten, hreads⟩ := h.reads
      refine ⟨by rw [hforwarder]; trivial, reads, ?_, ?_, ?_⟩
      · rw [hhandled, hsplit, hbefore, hforwarder]
        exact congrArg (· ++ [publication]) (List.append_nil _)
      · rw [hforwarded, hmove.userId, hwritten]
      · rw [hmove.userId]
        exact fun read hread => (hreads read hread).succ
  | @authorized publication hbefore hforwarder hhandled hforwarded =>
      rcases hforwarder with ⟨conversationIds, hunread, -⟩ | ⟨other, hother, hparticipant,
          hforwarder⟩
      · rw [hkind] at hunread
        cases hunread
      · obtain rfl := SocketKind.conversation.inj (hkind.symm.trans hother)
        refine h.goesOn hmove.userId ?_ (by rw [hforwarder, hbefore]; rfl) hhandled hforwarded
        rw [hforwarder]
        exact ⟨time, Nat.lt_succ_self _, ⟨socket, hsocket, hbefore⟩, hparticipant⟩
  | clocked hbefore hforwarder hhandled hforwarded =>
      rw [hbefore] at hprogress
      obtain ⟨authorized, hless, hauthorized⟩ := hprogress
      refine h.goesOn hmove.userId ?_ (by rw [hforwarder, hbefore]; rfl) hhandled hforwarded
      rw [hforwarder]
      exact ⟨authorized, time, hless, Nat.lt_succ_self _, hauthorized, rfl⟩
  | @selected publication now other hbefore hother hforwarder hhandled hforwarded =>
      obtain rfl := SocketKind.conversation.inj (hkind.symm.trans hother)
      rw [hbefore] at hprogress
      obtain ⟨authorized, clocked, horder, hless, hauthorized, rfl⟩ := hprogress
      have hread : ReadBefore trace position socket.userId conversationId publication
          (selectRealtimeMessage (trace time).chat.db conversationId publication.messageId
            (trace clocked).chat.now) (time + 1) :=
        ⟨authorized, clocked, time, Nat.lt_succ_self _, hauthorized, horder, hless, rfl⟩
      cases hfound : selectRealtimeMessage (trace time).chat.db conversationId
          publication.messageId (trace clocked).chat.now with
      | none =>
          rw [hfound] at hread hforwarder
          refine h.done hmove.userId (by rw [hbefore]; rfl) hforwarder hread hhandled ?_
          exact hforwarded.trans (List.append_nil _).symm
      | some row =>
          rw [hfound] at hread hforwarder
          refine h.goesOn hmove.userId ?_ (by rw [hforwarder, hbefore]; rfl) hhandled hforwarded
          rw [hforwarder]
          exact ⟨row, hread, rfl⟩
  | @wrote event hbefore hforwarder hhandled hforwarded =>
      cases hphase : socket.forwarder with
      | showing publication message =>
          rw [hphase] at hprogress hbefore
          obtain ⟨row, hread, rfl⟩ := hprogress
          refine h.done hmove.userId (by rw [hphase]; rfl) hforwarder hread.succ hhandled ?_
          rw [hforwarded, ← Option.some.inj hbefore]
          rfl
      | signalling publication =>
          rw [hphase] at hprogress
          exact hprogress.elim
      | _ =>
          rw [hphase] at hbefore
          cases hbefore

end ForwardsMessages

/-- What a step leaves of a socket of a user. -/
theorem SignalsChanges.step {world : RealtimeWorld} (h : SignalsChanges socket)
    {conversationIds : List Nat} (hkind : socket.kind = .unread conversationIds)
    (hmove : SocketStep wire world after socket current) : SignalsChanges current := by
  obtain ⟨hprogress, count, hsignals, hcount⟩ := h
  cases hmove.forwards with
  | kept hforwarder hhandled hforwarded =>
      rw [← hforwarder] at hprogress hcount
      exact ⟨hprogress, count, hforwarded.trans hsignals, hhandled ▸ hcount⟩
  | @took publication hbefore hforwarder hhandled hforwarded =>
      refine ⟨.inr ⟨publication, .inl hforwarder⟩, count, hforwarded.trans hsignals, ?_⟩
      rw [hhandled, hforwarder, List.length_append, hcount, hbefore]
      rfl
  | @authorized publication hbefore hforwarder hhandled hforwarded =>
      rcases hforwarder with ⟨-, -, hforwarder⟩ | ⟨conversationId, hconversation, -⟩
      · refine ⟨.inr ⟨publication, .inr hforwarder⟩, count, hforwarded.trans hsignals, ?_⟩
        rw [hhandled, hforwarder, hcount, hbefore]
        rfl
      · rw [hkind] at hconversation
        cases hconversation
  | clocked hbefore =>
      rw [hbefore] at hprogress
      simp at hprogress
  | selected hbefore =>
      rw [hbefore] at hprogress
      simp at hprogress
  | @wrote event hbefore hforwarder hhandled hforwarded =>
      rcases hprogress with hwaiting | ⟨publication, htaken | hsignalling⟩
      · rw [hwaiting] at hbefore
        cases hbefore
      · rw [htaken] at hbefore
        cases hbefore
      · rw [hsignalling] at hbefore hcount
        refine ⟨.inl hforwarder, count + 1, ?_, ?_⟩
        · rw [hforwarded, hsignals, ← Option.some.inj hbefore, List.replicate_succ']
        · rw [hhandled, hforwarder, hcount]
          rfl

namespace Forwards

theorem succ (h : Forwards wire trace position time socket) :
    Forwards wire trace position (time + 1) socket := by
  unfold Forwards at h ⊢
  split at h
  · exact h.succ
  · exact h

theorem step (h : Forwards wire trace position time socket)
    (hsocket : (trace time).sockets[position]? = some socket)
    (hmove : SocketStep wire (trace time) after socket current) :
    Forwards wire trace position (time + 1) current := by
  unfold Forwards at h ⊢
  rw [hmove.kind]
  split at h
  · rename_i conversationId hkind
    exact h.step hsocket hkind hmove
  · rename_i conversationIds hkind
    exact h.step hkind hmove

/-- A new socket has taken nothing. -/
theorem new (userId : Nat) (kind : SocketKind) :
    Forwards wire trace position time { userId, kind } := by
  cases kind with
  | conversation conversationId => exact ⟨trivial, [], rfl, rfl, by simp⟩
  | unread conversationIds => exact ⟨.inl rfl, 0, rfl, rfl⟩

end Forwards

end Progress

section Traces

variable {env : ChatEnvironment} {wire : WireFormat} {trace : Nat → RealtimeWorld}

/-- A state of a run. -/
theorem reached_of_trace (hinit : (trace 0).Initial)
    (htrace : IsTrace (RealtimeStep env wire) trace) (time : Nat) :
    (trace time).Reached env wire :=
  (Reaches.of_trace htrace (Nat.zero_le time)).of_init fun _ hstart => hstart ▸ hinit

/-- A committed row stays in the history of a run. -/
theorem committed_of_trace (htrace : IsTrace (RealtimeStep env wire) trace) {first second : Nat}
    (hle : first ≤ second) {row : BuddyMessage} (hrow : row ∈ (trace first).committed) :
    row ∈ (trace second).committed := by
  induction hle with
  | refl => exact hrow
  | @step time _ ih =>
      rcases htrace time with hsame | ⟨label, hstep⟩
      · rw [hsame]
        exact ih
      · exact hstep.committed ih

/-- What every socket has forwarded at every time of a run. -/
theorem forwards_of_trace (hinit : (trace 0).Initial)
    (htrace : IsTrace (RealtimeStep env wire) trace) (time position : Nat)
    (socket : RealtimeSocket) (hsocket : (trace time).sockets[position]? = some socket) :
    Forwards wire trace position time socket := by
  induction time generalizing socket with
  | zero =>
      rw [hinit.2.2.1] at hsocket
      cases hsocket
  | succ time ih =>
      rcases htrace time with hsame | ⟨label, hstep⟩
      · rw [hsame] at hsocket
        exact (ih socket hsocket).succ
      · have hfacts := RealtimeFacts.reached (reached_of_trace hinit htrace time)
        obtain ⟨moved, added, hsockets, hmoves, hadded⟩ :=
          hstep.sockets hfacts.commits hfacts.recorded
        rw [hsockets] at hsocket
        rcases getElem?_of_forall₂_append hmoves hsocket with ⟨old, hold, hmove⟩ | hnew
        · exact (ih old hold).step hold hmove
        · obtain ⟨userId, kind, rfl⟩ := hadded socket hnew
          exact .new userId kind

end Traces

end BuddyWeb
