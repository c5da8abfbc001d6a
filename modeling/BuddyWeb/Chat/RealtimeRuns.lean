/-
The invariant of the realtime transport, and what the forwarder of a socket has read for each
notification which it has taken, at the times of a run.
-/
import BuddyWeb.Chat.RealtimeSteps

namespace BuddyWeb

/-- What holds between the steps of the realtime transport. -/
structure RealtimeFacts (world : RealtimeWorld) : Prop where
  commits : world.CommitFacts
  hears : ∀ socket ∈ world.sockets, socket.Hears world.publications
  answers : ∀ socket ∈ world.sockets, world.AnswerFacts socket
  published : ∀ publication ∈ world.publications, ∃ row ∈ world.committed,
    publication.key = (row.conversationId, row.id)
  recorded : ∀ stored ∈ world.keys, ∃ publication ∈ world.publications,
    publication.key = stored.key
  spaced : ExpiringKeys.Spaced publishDedupePeriod world.keys world.lost
    (world.publications.map Publication.act) world.chat.now.val

/-- A step which publishes nothing; it may lose keys. -/
structure QuietStep (world after : RealtimeWorld) : Prop where
  publications : after.publications = world.publications
  keys : ∃ lost, after.keys = ExpiringKeys.lose world.keys lost ∧ after.lost = world.lost ++ lost
  now : world.chat.now ≤ after.chat.now
  committed : ∀ row ∈ world.committed, row ∈ after.committed

/-- A step which publishes a message whose key does not live. -/
structure PublishStep (world after : RealtimeWorld) (conversationId : Nat) (messageId : Uuid) :
    Prop where
  dead : ExpiringKeys.isLive world.keys world.chat.now.val (conversationId, messageId) = false
  publications : after.publications = world.publications ++ [⟨conversationId, messageId,
    world.chat.now, ExpiringKeys.losses world.lost (conversationId, messageId)⟩]
  keys : after.keys = ExpiringKeys.store world.keys (conversationId, messageId)
    (world.chat.now.val + publishDedupePeriod)
  lost : after.lost = world.lost
  chat : after.chat = world.chat
  committed : after.committed = world.committed

section Steps

variable {env : ChatEnvironment} {wire : WireFormat} {world after : RealtimeWorld}
  {label : RealtimeLabel}

theorem MessageStep.now_le {world after : MessageWorld} {label : MessageLabel}
    (hstep : MessageStep env world label after) : world.now ≤ after.now := by
  cases hstep with
  | tick hnow => exact hnow
  | _ => exact le_refl _

/-- A step which leaves the keys as they are. -/
theorem QuietStep.of_same_keys (hpublications : after.publications = world.publications)
    (hkeys : after.keys = world.keys) (hlost : after.lost = world.lost)
    (hnow : world.chat.now ≤ after.chat.now)
    (hcommitted : ∀ row ∈ world.committed, row ∈ after.committed) : QuietStep world after := by
  refine ⟨hpublications, ⟨[], ?_, ?_⟩, hnow, hcommitted⟩
  · rw [hkeys, ExpiringKeys.lose_nil]
  · rw [hlost, List.append_nil]

theorem QuietStep.refl : QuietStep world world :=
  .of_same_keys rfl rfl rfl (le_refl _) fun _ hrow => hrow

/-- A later world with the same histories. -/
theorem QuietStep.withSockets (h : QuietStep world after) (sockets : List RealtimeSocket) :
    QuietStep world { after with sockets := sockets } :=
  ⟨h.publications, h.keys, h.now, h.committed⟩

theorem PublishStep.withSockets {conversationId : Nat} {messageId : Uuid}
    (h : PublishStep world after conversationId messageId) (sockets : List RealtimeSocket) :
    PublishStep world { after with sockets := sockets } conversationId messageId :=
  ⟨h.dead, h.publications, h.keys, h.lost, h.chat, h.committed⟩

/-- The script is quiet, or it publishes. -/
theorem publishOnce_cases (world : RealtimeWorld) (conversationId : Nat) (messageId : Uuid) :
    QuietStep world (world.publishOnce conversationId messageId).2 ∧
        (world.publishOnce conversationId messageId).2.chat = world.chat ∧
        (world.publishOnce conversationId messageId).2.committed = world.committed ∨
      PublishStep world (world.publishOnce conversationId messageId).2 conversationId
        messageId := by
  unfold RealtimeWorld.publishOnce
  dsimp only
  split
  · exact Or.inl ⟨.refl, rfl, rfl⟩
  · rename_i hlive
    split
    · exact Or.inl ⟨.refl, rfl, rfl⟩
    · exact Or.inr ⟨Bool.eq_false_iff.mpr hlive, rfl, rfl, rfl, rfl, rfl⟩

theorem publish_cases (world : RealtimeWorld) (position : Nat) (socket : RealtimeSocket)
    (conversationId : Nat) (messageId : Uuid) (outcome : EvalOutcome) :
    QuietStep world (world.publish position socket conversationId messageId outcome) ∧
        (world.publish position socket conversationId messageId outcome).chat = world.chat ∧
        (world.publish position socket conversationId messageId outcome).committed =
          world.committed ∨
      PublishStep world (world.publish position socket conversationId messageId outcome)
        conversationId messageId := by
  cases outcome with
  | unreached => exact Or.inl ⟨QuietStep.refl.withSockets _, rfl, rfl⟩
  | answered =>
      refine (publishOnce_cases world conversationId messageId).imp ?_ (·.withSockets _)
      rintro ⟨hquiet, hchat, hcommitted⟩
      exact ⟨hquiet.withSockets _, hchat, hcommitted⟩
  | lostReply =>
      refine (publishOnce_cases world conversationId messageId).imp ?_ (·.withSockets _)
      rintro ⟨hquiet, hchat, hcommitted⟩
      exact ⟨hquiet.withSockets _, hchat, hcommitted⟩

/-- A step is quiet, or it publishes a message which its sender has committed. -/
theorem RealtimeStep.publishes (hstep : RealtimeStep env wire world label after) :
    QuietStep world after ∨ ∃ socket ∈ world.sockets, ∃ conversationId messageId,
      socket.kind = .conversation conversationId ∧ socket.receiver = .committed messageId ∧
        PublishStep world after conversationId messageId := by
  cases hstep with
  | chat hchat =>
      exact Or.inl (.of_same_keys rfl rfl rfl hchat.now_le
        fun _ hrow => List.mem_append_right _ hrow)
  | answered _ _ _ hchat =>
      exact Or.inl (.of_same_keys rfl rfl rfl hchat.now_le
        fun _ hrow => List.mem_append_right _ hrow)
  | @publish position outcome socket conversationId messageId hsocket _ hkind hreceiver =>
      rcases publish_cases world position socket conversationId messageId outcome with
        ⟨hquiet, -⟩ | hpublishes
      · exact Or.inl hquiet
      · exact Or.inr ⟨socket, List.mem_of_getElem? hsocket, conversationId, messageId, hkind,
          hreceiver, hpublishes⟩
  | loseKeys => exact Or.inl ⟨rfl, ⟨_, rfl, rfl⟩, le_refl _, fun _ hrow => hrow⟩
  | _ => exact Or.inl (.of_same_keys rfl rfl rfl (le_refl _) fun _ hrow => hrow)

/-- A committed row stays in the history. -/
theorem RealtimeStep.committed (hstep : RealtimeStep env wire world label after)
    {row : BuddyMessage} (hrow : row ∈ world.committed) : row ∈ after.committed := by
  rcases hstep.publishes with hquiet | ⟨_, _, _, _, _, _, hpublishes⟩
  · exact hquiet.committed row hrow
  · rwa [hpublishes.committed]

/-- A step commits through the transactions of chat requests only. -/
theorem RealtimeWorld.CommitFacts.step (h : world.CommitFacts)
    (hstep : RealtimeStep env wire world label after) : after.CommitFacts := by
  have hsame : ∀ {later : RealtimeWorld}, later.chat = world.chat →
      later.committed = world.committed → later.CommitFacts := by
    intro later hchat hcommitted
    obtain ⟨hstored, hdrawn, hids, hpending, hapart⟩ := h
    rw [← hcommitted, ← hchat] at hstored hdrawn hpending
    rw [← hcommitted] at hids
    rw [← hchat] at hapart
    exact ⟨hstored, hdrawn, hids, hpending, hapart⟩
  cases hstep with
  | chat hchat => exact h.chat hchat
  | answered _ _ _ hchat =>
      have hafter := h.chat hchat
      exact ⟨hafter.stored, hafter.drawn, hafter.ids, hafter.pending, hafter.apart⟩
  | @publish position outcome socket conversationId messageId =>
      rcases publish_cases world position socket conversationId messageId outcome with
        ⟨-, hchat, hcommitted⟩ | hpublishes
      · exact hsame hchat hcommitted
      · exact hsame hpublishes.chat hpublishes.committed
  | tables => exact ⟨h.stored, h.drawn, h.ids, h.pending, h.apart⟩
  | _ => exact hsame rfl rfl

namespace RealtimeFacts

theorem initial (h : world.Initial) : RealtimeFacts world := by
  obtain ⟨⟨hrows, hdrawn, hphases⟩, hkeys, hsockets, hpublications, -, hcommitted⟩ := h
  refine ⟨⟨?_, ?_, ?_, ?_, ?_⟩, ?_, ?_, ?_, ?_, ?_⟩
  · simp [hrows]
  · simp [hcommitted]
  · simp [hcommitted]
  · simp [hphases]
  · simp [hphases]
  · simp [hsockets]
  · simp [hsockets]
  · simp [hpublications]
  · simp [hkeys]
  · rw [hpublications]
    exact ExpiringKeys.spaced_nil

/-- A publication names a row which its sender has committed. -/
theorem published_step (h : RealtimeFacts world)
    (hstep : RealtimeStep env wire world label after) :
    ∀ publication ∈ after.publications, ∃ row ∈ after.committed,
      publication.key = (row.conversationId, row.id) := by
  have hold : ∀ publication ∈ world.publications, ∃ row ∈ after.committed,
      publication.key = (row.conversationId, row.id) := by
    intro publication hpublication
    obtain ⟨row, hrow, hkey⟩ := h.published publication hpublication
    exact ⟨row, hstep.committed hrow, hkey⟩
  rcases hstep.publishes with hquiet | ⟨socket, hsocket, conversationId, messageId, hkind,
      hreceiver, hpublishes⟩
  · rw [hquiet.publications]
    exact hold
  · rw [hpublishes.publications]
    intro publication hpublication
    rcases List.mem_append.mp hpublication with hearlier | hnew
    · exact hold publication hearlier
    · have haccepted := (h.answers socket hsocket).receiver
      rw [hreceiver] at haccepted
      obtain ⟨row, hrow, hid, -, hrowKind, -⟩ := haccepted
      have hconversation : conversationId = row.conversationId :=
        SocketKind.conversation.inj (hkind.symm.trans hrowKind)
      refine ⟨row, hstep.committed hrow, ?_⟩
      rw [List.mem_singleton.mp hnew, hid, ← hconversation]

/-- A key is stored with a publication. -/
theorem recorded_step (h : RealtimeFacts world)
    (hstep : RealtimeStep env wire world label after) :
    ∀ stored ∈ after.keys, ∃ publication ∈ after.publications,
      publication.key = stored.key := by
  rcases hstep.publishes with hquiet | ⟨_, _, _, _, _, _, hpublishes⟩
  · obtain ⟨lost, hkeys, -⟩ := hquiet.keys
    rw [hkeys, hquiet.publications]
    intro stored hstored
    exact h.recorded stored (List.mem_of_mem_filter hstored)
  · rw [hpublishes.keys, hpublishes.publications]
    intro stored hstored
    rcases List.mem_cons.mp hstored with rfl | hold
    · exact ⟨_, List.mem_append_right _ (List.mem_singleton_self _), rfl⟩
    · obtain ⟨publication, hpublication, hkey⟩ :=
        h.recorded stored (List.mem_of_mem_filter hold)
      exact ⟨publication, List.mem_append_left _ hpublication, hkey⟩

theorem spaced_step (h : RealtimeFacts world)
    (hstep : RealtimeStep env wire world label after) :
    ExpiringKeys.Spaced publishDedupePeriod after.keys after.lost
      (after.publications.map Publication.act) after.chat.now.val := by
  rcases hstep.publishes with hquiet | ⟨_, _, _, _, _, _, hpublishes⟩
  · obtain ⟨lost, hkeys, hlost⟩ := hquiet.keys
    rw [hquiet.publications, hkeys, hlost]
    exact (h.spaced.lose lost).later hquiet.now
  · rw [hpublishes.publications, hpublishes.keys, hpublishes.lost, hpublishes.chat,
      List.map_append]
    exact h.spaced.act hpublishes.dead

theorem step (h : RealtimeFacts world) (hstep : RealtimeStep env wire world label after) :
    RealtimeFacts after := by
  obtain ⟨moved, added, hsockets, hmoves, hadded⟩ := hstep.sockets h.commits h.recorded
  -- Every socket after the step is one of before which has moved, or it is new.
  have hevery : ∀ {holds : RealtimeSocket → Prop}, (∀ socket ∈ world.sockets, ∀ current,
      SocketStep wire world after socket current → holds current) →
      (∀ userId kind, holds { userId, kind }) → ∀ socket ∈ after.sockets, holds socket := by
    intro holds hmoved hnew socket hsocket
    rw [hsockets] at hsocket
    rcases List.mem_append.mp hsocket with hmem | hmem
    · obtain ⟨old, hold, hmove⟩ := exists_left_of_forall₂ hmoves hmem
      exact hmoved old hold socket hmove
    · obtain ⟨userId, kind, rfl⟩ := hadded socket hmem
      exact hnew userId kind
  refine ⟨h.commits.step hstep, ?_, ?_, h.published_step hstep, h.recorded_step hstep,
    h.spaced_step hstep⟩
  · refine hevery (fun socket hsocket current hmove => hmove.hears (h.hears socket hsocket)) ?_
    intro userId kind
    exact ⟨HeardFrom.absent (by rintro ⟨hopen, -⟩; cases hopen),
      (by rintro ⟨hopen, -⟩; cases hopen), fun _ => ⟨rfl, rfl, rfl⟩⟩
  · exact hevery (fun socket hsocket current hmove => hmove.answers (h.answers socket hsocket))
      fun _ _ => ⟨trivial, by simp⟩

theorem reached (h : world.Reached env wire) : RealtimeFacts world := by
  refine Reaches.invariant ?_ ?_ h
  · intro world hinitial
    exact .initial hinitial
  · intro world label after hfacts _ hstep
    exact hfacts.step hstep

end RealtimeFacts

end Steps

end BuddyWeb
