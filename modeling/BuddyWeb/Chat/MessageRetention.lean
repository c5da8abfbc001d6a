/-
Retention and read state over every run: deadlines, first reads by the recipient, and the
unread counts.
-/
import BuddyWeb.Chat.MessageInvariants

namespace BuddyWeb

/-- The count which a summary gives for a conversation. -/
def BuddyUnreadSummary.countOf (summary : BuddyUnreadSummary) (conversationId : Nat) : Nat :=
  ((summary.conversations.find? fun item => item.conversationId = conversationId).map
    (·.unreadCount)).getD 0

/-- The other participant of the match behind the conversation of a message. -/
def ChatDb.IsRecipient (db : ChatDb) (message : BuddyMessage) (readerId : Nat) : Prop :=
  readerId ≠ message.senderId ∧ ∃ conversation ∈ db.conversations.rows,
    conversation.id = message.conversationId ∧ ∃ buddyMatch ∈ db.buddyMatches.rows,
      buddyMatch.id = conversation.matchId ∧ buddyMatch.isActive = true ∧
        buddyMatch.hasParticipant message.senderId = true ∧
          buddyMatch.hasParticipant readerId = true

/-- What one step does to a message which is still there after it: nothing, or the first read
by its recipient's acknowledgement of a boundary at or after it. -/
inductive ReadStep (world : MessageWorld) (label : MessageLabel) (old : BuddyMessage) :
    BuddyMessage → Prop
  | kept : ReadStep world label old old
  | read {call : Nat} {ack : Acknowledgement} {snapshot : List BuddyMessage} {ids : List Uuid}
      {expiresAt : Instant} (hlabel : label = .commitAcknowledgement call)
      (hphase : world.phase call = .marked ack snapshot ids)
      (hrecipient : world.db.IsRecipient old ack.readerId)
      (hconversation : ack.boundary.conversationId = old.conversationId)
      (hposition : old.position ≤ ack.boundary.position) (hunread : old.readAt = none)
      (hdeadline : expiresAt ≤ old.expiresAt) :
      ReadStep world label old { old with readAt := some ack.now, expiresAt := expiresAt }

/-- The summary counts the effective unread incoming messages of each active conversation. -/
structure UnreadSummaryExact (db : ChatDb) (userId : Nat) (now : Instant) : Prop where
  counts : ∀ conversationId, (getBuddyUnreadSummary db userId now).countOf conversationId =
    if (requireAuthorizedActiveConversation db conversationId userId).toBool then
      (db.unreadMessages conversationId userId now).length
    else 0
  total : (getBuddyUnreadSummary db userId now).totalUnreadMessages =
    ((db.conversations.rows.filter fun conversation => db.isParticipant conversation userId).map
      fun conversation => (db.unreadMessages conversation.id userId now).length).sum

/-- The boundary is the newest effective message of its conversation among some rows. -/
def Acknowledgement.IsNewest (ack : Acknowledgement) (rows : List BuddyMessage) : Prop :=
  ∀ message ∈ rows, message.conversationId = ack.conversationId → ack.now < message.expiresAt →
    message.position ≤ ack.boundary.position

structure MessageRetentionSafe (env : ChatEnvironment) (world : MessageWorld) : Prop where
  retention : ∀ message ∈ world.db.messages.rows, message.KeepsRetention
  steps : ∀ label after, MessageStep env world label after →
    ∀ old ∈ world.db.messages.rows, ∀ message ∈ after.db.messages.rows, message.id = old.id →
      ReadStep world label old message
  summary : ∀ userId now, UnreadSummaryExact world.db userId now
  /-- After the acknowledgement of the newest effective message which its update has seen, the
  conversation counts the messages only which were not committed when the update began. -/
  acknowledged : ∀ call ack snapshot ids after, world.phase call = .marked ack snapshot ids →
    ack.IsNewest snapshot → MessageStep env world (.commitAcknowledgement call) after →
      ∀ now, ack.now ≤ now →
        (getBuddyUnreadSummary after.db ack.readerId now).countOf ack.conversationId =
          ((after.db.unreadMessages ack.conversationId ack.readerId now).filter
            fun message => !snapshot.any fun seen => seen.id = message.id).length

section Summary

variable {db : ChatDb} {userId : Nat} {now : Instant}

theorem requireAuthorized_toBool_iff {conversationId : Nat} :
    (requireAuthorizedActiveConversation db conversationId userId).toBool = true ↔
      ∃ conversation ∈ db.conversations.rows, conversation.id = conversationId ∧
        db.isParticipant conversation userId = true := by
  constructor
  · intro h
    obtain ⟨conversation, hconversation⟩ := exists_ok_of_toBool _ h
    have hselect := require_eq_ok_iff.mp hconversation
    have hfilter := Table.select?_filter hselect
    simp only [Bool.and_eq_true, decide_eq_true_eq] at hfilter
    exact ⟨conversation, Table.select?_mem hselect, hfilter⟩
  · rintro ⟨conversation, hmem, hid, hparticipant⟩
    unfold requireAuthorizedActiveConversation
    cases hselect : db.conversations.select? fun conversation =>
        conversation.id = conversationId && db.isParticipant conversation userId with
    | some found => rfl
    | none =>
        have hnone := Table.select?_eq_none hselect conversation hmem
        simp [hid, hparticipant] at hnone

/-- The items of a summary. -/
theorem mem_summary_iff {item : BuddyUnreadConversation} :
    item ∈ (getBuddyUnreadSummary db userId now).conversations ↔
      0 < item.unreadCount ∧
        item.unreadCount = (db.unreadMessages item.conversationId userId now).length ∧
        (requireAuthorizedActiveConversation db item.conversationId userId).toBool = true := by
  simp only [getBuddyUnreadSummary, List.mem_filter, List.mem_map, List.mem_insertionSort,
    decide_eq_true_eq, requireAuthorized_toBool_iff]
  constructor
  · rintro ⟨⟨conversation, ⟨hmem, hparticipant⟩, rfl⟩, hpositive⟩
    exact ⟨hpositive, rfl, conversation, hmem, rfl, hparticipant⟩
  · rintro ⟨hpositive, hcount, conversation, hmem, hid, hparticipant⟩
    refine ⟨⟨conversation, ⟨hmem, hparticipant⟩, ?_⟩, hpositive⟩
    rw [hid, ← hcount]

theorem unreadSummary_counts (db : ChatDb) (userId : Nat) (now : Instant)
    (conversationId : Nat) :
    (getBuddyUnreadSummary db userId now).countOf conversationId =
      if (requireAuthorizedActiveConversation db conversationId userId).toBool then
        (db.unreadMessages conversationId userId now).length
      else 0 := by
  unfold BuddyUnreadSummary.countOf
  cases hfind : (getBuddyUnreadSummary db userId now).conversations.find?
      fun item => item.conversationId = conversationId with
  | some item =>
      have hid := List.find?_some hfind
      rw [decide_eq_true_eq] at hid
      obtain ⟨_, hcount, hauthorized⟩ := mem_summary_iff.mp (List.mem_of_find?_eq_some hfind)
      rw [hid] at hcount hauthorized
      rw [if_pos hauthorized]
      exact hcount
  | none =>
      split
      · rename_i hauthorized
        by_contra hne
        have hpositive : 0 < (db.unreadMessages conversationId userId now).length :=
          Nat.pos_of_ne_zero fun hzero => hne hzero.symm
        have hmem : (⟨conversationId, (db.unreadMessages conversationId userId now).length⟩ :
            BuddyUnreadConversation) ∈ (getBuddyUnreadSummary db userId now).conversations :=
          mem_summary_iff.mpr ⟨hpositive, rfl, hauthorized⟩
        have hnone := List.find?_eq_none.mp hfind _ hmem
        simp at hnone
      · rfl

/-- Counts of zero add nothing. -/
theorem sum_filter_positive (items : List BuddyUnreadConversation) :
    ((items.filter fun item => 0 < item.unreadCount).map (·.unreadCount)).sum =
      (items.map (·.unreadCount)).sum := by
  induction items with
  | nil => rfl
  | cons head tail ih =>
      by_cases hpositive : 0 < head.unreadCount
      · simp [hpositive, ih]
      · have hzero : head.unreadCount = 0 := by omega
        simp [hzero, ih]

theorem unreadSummary_exact (db : ChatDb) (userId : Nat) (now : Instant) :
    UnreadSummaryExact db userId now := by
  refine ⟨unreadSummary_counts db userId now, ?_⟩
  have hperm := List.perm_insertionSort
    (fun first second : BuddyConversation => first.id ≤ second.id)
    (db.conversations.rows.filter fun conversation => db.isParticipant conversation userId)
  rw [← (hperm.map fun conversation =>
    (db.unreadMessages conversation.id userId now).length).sum_eq]
  simp only [getBuddyUnreadSummary]
  rw [sum_filter_positive, List.map_map]
  rfl

end Summary

section Retention

variable {env : ChatEnvironment} {world after : MessageWorld}

/-- A reader who may read a conversation and has not sent its message is the recipient. -/
theorem MessageFacts.isRecipient (h : MessageFacts env world) {message : BuddyMessage}
    (hmessage : message ∈ world.db.messages.rows) {readerId : Nat}
    (hreader : (requireAuthorizedActiveConversation world.db message.conversationId
      readerId).toBool = true) (hne : readerId ≠ message.senderId) :
    world.db.IsRecipient message readerId := by
  obtain ⟨conversation, hmem, hid, hparticipant⟩ := requireAuthorized_toBool_iff.mp hreader
  obtain ⟨other, hotherMem, hotherId, hsender⟩ :=
    requireAuthorized_toBool_iff.mp (h.rows message hmessage).authorized
  rw [Table.eq_of_key hotherMem hmem (hotherId.trans hid.symm)] at hsender
  obtain ⟨first, hfirst, hfirstMatch⟩ := List.any_eq_true.mp hparticipant
  obtain ⟨second, hsecond, hsecondMatch⟩ := List.any_eq_true.mp hsender
  simp only [Bool.and_eq_true, decide_eq_true_eq] at hfirstMatch hsecondMatch
  have hsame : second = first :=
    Table.eq_of_key hsecond hfirst (hsecondMatch.1.1.1.trans hfirstMatch.1.1.1.symm)
  rw [hsame] at hsecondMatch
  exact ⟨hne, conversation, hmem, hid, first, hfirst, hfirstMatch.1.1.1, hfirstMatch.1.1.2,
    hsecondMatch.2, hfirstMatch.2⟩

theorem leastDeadline_le (expiresAt now : Instant) : leastDeadline expiresAt now ≤ expiresAt := by
  change (leastDeadline expiresAt now).val ≤ expiresAt.val
  rw [leastDeadline_val]
  exact min_le_left _ _

/-- The commit of an acknowledgement reads its locked rows for the first time. -/
theorem MessageFacts.readStep (h : MessageFacts env world) {call : Nat} {ack : Acknowledgement}
    {snapshot : List BuddyMessage} {ids : List Uuid}
    (hphase : world.phase call = .marked ack snapshot ids) {old : BuddyMessage}
    (hold : old ∈ world.db.messages.rows) :
    ReadStep world (.commitAcknowledgement call) old (ack.readRow ids old) := by
  by_cases hid : old.id ∈ ids
  · obtain ⟨hmarks, _⟩ := h.locked_row hphase hold hid
    obtain ⟨hconversation, hsender, hunread, _, hposition⟩ :=
      Acknowledgement.marks_iff.mp hmarks
    have hack := h.phases call
    rw [hphase] at hack
    have hauthorized := hack.1.authorized
    rw [← hconversation] at hauthorized
    rw [readRow_of_mem hid]
    exact .read rfl hphase (h.isRecipient hold hauthorized hsender.symm)
      (hack.1.boundary.trans hconversation.symm) hposition hunread (leastDeadline_le _ _)
  · rw [readRow_of_not_mem hid]
    exact .kept

/-- A row which a step keeps as it is. -/
theorem readStep_of_mem {label : MessageLabel} {old message : BuddyMessage}
    (hold : old ∈ world.db.messages.rows) (hmessage : message ∈ world.db.messages.rows)
    (hid : message.id = old.id) : ReadStep world label old message := by
  rw [Table.eq_of_key hmessage hold (congrArg Fin.val hid)]
  exact .kept

/-- Every step reads a message for the first time or keeps it. -/
theorem MessageFacts.read_step (h : MessageFacts env world) {label : MessageLabel}
    (hstep : MessageStep env world label after) :
    ∀ old ∈ world.db.messages.rows, ∀ message ∈ after.db.messages.rows, message.id = old.id →
      ReadStep world label old message := by
  intro old hold message hmessage hid
  cases hstep with
  | tick => exact readStep_of_mem hold hmessage hid
  | authorize => exact readStep_of_mem hold hmessage hid
  | refuse => exact readStep_of_mem hold hmessage hid
  | readClock => exact readStep_of_mem hold hmessage hid
  | insert => exact readStep_of_mem hold hmessage hid
  | conflict => exact readStep_of_mem hold hmessage hid
  | @commitSend call request inserted messages hphase hmessages =>
      have hrows := (Table.insert?_eq_some_iff.mp hmessages).2
      have hfacts := h.phases call
      rw [hphase] at hfacts
      rcases List.mem_cons.mp (hrows ▸ hmessage) with rfl | hmem
      · exact absurd hid.symm (hfacts.2.2 old hold).1
      · exact readStep_of_mem hold hmem hid
  | readExisting => exact readStep_of_mem hold hmessage hid
  | acknowledge => exact readStep_of_mem hold hmessage hid
  | selectBoundary => exact readStep_of_mem hold hmessage hid
  | update => exact readStep_of_mem hold hmessage hid
  | mark => exact readStep_of_mem hold hmessage hid
  | @commitAcknowledgement call ack snapshot ids hphase =>
      obtain ⟨row, hrow, rfl⟩ := mem_readRows hmessage
      rw [readRow_id] at hid
      rw [Table.eq_of_key hrow hold (congrArg Fin.val hid)]
      exact h.readStep hphase hold
  | cleanup _ _ hrows =>
      have hmem : message ∈ world.db.messages.rows := by
        change message ∈ Table.rows _ at hmessage
        rw [hrows] at hmessage
        exact List.mem_of_mem_filter hmessage
      exact readStep_of_mem hold hmem hid
  | stop => exact readStep_of_mem hold hmessage hid

/-- A message which its update could see and the acknowledgement leaves unread lies after the
boundary, or it is not incoming, or it is expired. -/
theorem MessageFacts.unread_unseen (h : MessageFacts env world) {call : Nat}
    {ack : Acknowledgement} {snapshot : List BuddyMessage} {ids : List Uuid}
    (hphase : world.phase call = .marked ack snapshot ids) (hnewest : ack.IsNewest snapshot)
    {now : Instant} (hnow : ack.now ≤ now) {message : BuddyMessage}
    (hmessage : message ∈ ({ world.db with
      messages := ack.readRows ids world.db.messages } : ChatDb).unreadMessages
        ack.conversationId ack.readerId now) :
    ∀ seen ∈ snapshot, seen.id ≠ message.id := by
  intro seen hseen hid
  simp only [ChatDb.unreadMessages, ChatDb.effectiveMessages, List.mem_filter, Bool.and_eq_true,
    decide_eq_true_eq, Option.isNone_iff_eq_none] at hmessage
  obtain ⟨⟨hrow, hconversation, heffective⟩, hsender, hunread⟩ := hmessage
  obtain ⟨old, hold, rfl⟩ := mem_readRows hrow
  have hfree := readRow_unread hunread
  rw [readRow_of_not_mem hfree] at hid hconversation heffective hsender hunread
  have hfacts := h.phases call
  rw [hphase] at hfacts
  obtain ⟨_, hsnapshot, hmarked⟩ := hfacts
  have hsame := (hsnapshot seen hseen).2 old hold hid.symm hunread
  have heffectiveAck : ack.now < old.expiresAt := lt_of_le_of_lt hnow heffective
  have hmarks : ack.marks seen = true := by
    rw [← hsame]
    apply Acknowledgement.marks_iff.mpr
    refine ⟨hconversation, hsender, hunread, heffectiveAck, ?_⟩
    rw [hsame] at hconversation heffectiveAck ⊢
    exact hnewest seen hseen hconversation heffectiveAck
  exact hfree (hmarked.complete seen hseen hmarks old hold hid.symm hunread)

theorem MessageFacts.acknowledged (h : MessageFacts env world) {call : Nat}
    {ack : Acknowledgement} {snapshot : List BuddyMessage} {ids : List Uuid}
    (hphase : world.phase call = .marked ack snapshot ids) (hnewest : ack.IsNewest snapshot)
    (hstep : MessageStep env world (.commitAcknowledgement call) after) {now : Instant}
    (hnow : ack.now ≤ now) :
    (getBuddyUnreadSummary after.db ack.readerId now).countOf ack.conversationId =
      ((after.db.unreadMessages ack.conversationId ack.readerId now).filter
        fun message => !snapshot.any fun seen => seen.id = message.id).length := by
  cases hstep with
  | @commitAcknowledgement _ found foundSnapshot foundIds hfound =>
      rw [hphase] at hfound
      obtain ⟨rfl, rfl, rfl⟩ := MessagePhase.marked.inj hfound
      have hack := h.phases call
      rw [hphase] at hack
      rw [unreadSummary_counts]
      have hauthorized : (requireAuthorizedActiveConversation
          (world.committed call (ack.readRows ids world.db.messages)).db ack.conversationId
            ack.readerId).toBool = true := hack.1.authorized
      rw [if_pos hauthorized, List.filter_eq_self.mpr]
      intro message hmessage
      have hunseen := h.unread_unseen hphase hnewest hnow hmessage
      simpa using hunseen

/-- Whatever sends, acknowledgements and cleanups interleave: every message keeps its
retention, only its recipient reads it, once, and the unread counts are exact. -/
theorem message_retention_safe (env : ChatEnvironment) :
    ∀ world, world.Reached env → MessageRetentionSafe env world := by
  intro world hreached
  have hfacts := MessageFacts.reached hreached
  refine ⟨fun message hmessage => (hfacts.rows message hmessage).retention,
    fun label after hstep => hfacts.read_step hstep,
    fun userId now => unreadSummary_exact world.db userId now, ?_⟩
  intro call ack snapshot ids after hphase hnewest hstep now hnow
  exact hfacts.acknowledged hphase hnewest hstep hnow

end Retention

section LateSend

def plainChatEnvironment : ChatEnvironment := ⟨fun char => char == ' '⟩

def openConversation : BuddyConversation := ⟨1, 1, 1, 0⟩

def exampleSignal : CompatibilitySignalExplanation := ⟨0, 20, 0⟩

def openMatch : BuddyMatch :=
  ⟨1, 1, 2, 1, 2, .active, 1, 1, 0,
    ⟨0, ⟨exampleSignal, exampleSignal, exampleSignal, exampleSignal, exampleSignal⟩⟩, 0, none⟩

def earlyInstant : Instant := ⟨0, instant_zero⟩

def lateInstant : Instant := ⟨1, instant_one⟩

def quietWorld : MessageWorld where
  db := ⟨Table.empty, ⟨[openConversation], by decide⟩, ⟨[openMatch], by decide⟩⟩
  now := earlyInstant
  drawn := []
  phase := fun _ => .idle

def slowSend : SendRequest := ⟨1, 1, 1, "slow"⟩

def quickSend : SendRequest := ⟨1, 1, 2, "quick"⟩

def slowId : Uuid := 1

def quickId : Uuid := 2

def slowMessage : BuddyMessage :=
  ⟨1, 1, 1, 1, "slow", earlyInstant, none, ⟨buddyMessageMaxRetention, instant_maxRetention⟩⟩

def quickMessage : BuddyMessage :=
  ⟨2, 1, 1, 2, "quick", lateInstant, none, ⟨buddyMessageMaxRetention + 1, by decide⟩⟩

def lateDb : ChatDb :=
  ⟨⟨[slowMessage, quickMessage], by decide⟩, ⟨[openConversation], by decide⟩,
    ⟨[openMatch], by decide⟩⟩

def quickAcknowledgement : Acknowledgement := ⟨1, 2, quickMessage, lateInstant⟩

/-- The slow send reads its clock first and commits last, while the other participant
acknowledges the quick send. -/
theorem late_send_run : ∃ world : MessageWorld,
    Reaches (· = quietWorld) (MessageStep plainChatEnvironment) (fun _ _ => True) world ∧
    world.phase 2 = .marked quickAcknowledgement [quickMessage] [quickId] ∧
      world.db = lateDb ∧ world.now = lateInstant ∧ world.drawn = [slowId, quickId] ∧
        ∀ call, call ≠ 2 → world.phase call = .idle := by
  have hstart : Reaches (· = quietWorld) (MessageStep plainChatEnvironment) (fun _ _ => True)
      quietWorld := .start rfl
  have hslow := hstart.next trivial
    (MessageStep.authorize rfl (by decide +kernel) :
      MessageStep plainChatEnvironment quietWorld (.authorize 0 slowSend) _)
  have hslowClock := hslow.next trivial
    (MessageStep.readClock rfl : MessageStep plainChatEnvironment _ (.readClock 0) _)
  have htick := hslowClock.next trivial
    (MessageStep.tick (by decide) : MessageStep plainChatEnvironment _ (.tick lateInstant) _)
  have hquick := htick.next trivial
    (MessageStep.authorize rfl (by decide +kernel) :
      MessageStep plainChatEnvironment _ (.authorize 1 quickSend) _)
  have hquickClock := hquick.next trivial
    (MessageStep.readClock rfl : MessageStep plainChatEnvironment _ (.readClock 1) _)
  have hquickRow : insertBuddyMessage plainChatEnvironment quietWorld.db
      (quickSend.attempt quickId lateInstant) = .ok (some quickMessage) := by rfl
  have hinsert := hquickClock.next trivial
    (MessageStep.insert rfl (by decide) (by
      intro other pending message hphase
      match other with
      | 0 => cases hphase
      | 1 => cases hphase
      | n + 2 => cases hphase) (by exact hquickRow) :
      MessageStep plainChatEnvironment _ (.insert 1 quickId) _)
  have hsent := hinsert.next trivial
    (MessageStep.commitSend rfl (by rfl) : MessageStep plainChatEnvironment _ (.commitSend 1) _)
  have hread := hsent.next trivial
    (MessageStep.acknowledge rfl : MessageStep plainChatEnvironment _ (.acknowledge 2 1 2) _)
  have hboundary := hread.next trivial
    (MessageStep.selectBoundary rfl (by rfl) :
      MessageStep plainChatEnvironment _ (.selectBoundary 2 quickId) _)
  have hupdate := hboundary.next trivial
    (MessageStep.update rfl : MessageStep plainChatEnvironment _ (.update 2) _)
  have hmark := hupdate.next trivial
    (MessageStep.mark rfl (by
      intro id _ other ack snapshot ids hphase
      match other with
      | 0 => cases hphase
      | 1 => cases hphase
      | 2 => cases hphase
      | n + 3 => cases hphase) (by decide +kernel) : MessageStep plainChatEnvironment _ (.mark 2) _)
  have hslowRow : insertBuddyMessage plainChatEnvironment
      { quietWorld.db with messages := ⟨[quickMessage], by decide⟩ }
      (slowSend.attempt slowId earlyInstant) = .ok (some slowMessage) := by rfl
  have hlate := hmark.next trivial
    (MessageStep.insert rfl (by decide) (by
      intro other pending message hphase
      match other with
      | 0 => cases hphase
      | 1 => cases hphase
      | 2 => cases hphase
      | n + 3 => cases hphase) (by exact hslowRow) :
      MessageStep plainChatEnvironment _ (.insert 0 slowId) _)
  have hcommitted := hlate.next trivial
    (MessageStep.commitSend rfl (by rfl) : MessageStep plainChatEnvironment _ (.commitSend 0) _)
  refine ⟨_, hcommitted, by rfl, by rfl, rfl, rfl, fun call hcall => ?_⟩
  match call, hcall with
  | 0, _ => rfl
  | 1, _ => rfl
  | n + 3, _ => rfl

/-- The run of the late send is one of the system. -/
theorem late_send_reached : ∃ world : MessageWorld, world.Reached plainChatEnvironment ∧
    world.phase 2 = .marked quickAcknowledgement [quickMessage] [quickId] ∧
      world.db = lateDb ∧ world.now = lateInstant ∧ world.drawn = [slowId, quickId] ∧
        ∀ call, call ≠ 2 → world.phase call = .idle := by
  obtain ⟨world, hreached, hrest⟩ := late_send_run
  refine ⟨world, hreached.of_init ?_, hrest⟩
  rintro _ rfl
  exact ⟨rfl, rfl, fun _ => rfl⟩

/-- The conversation of a newest effective message which was just acknowledged still counts a
message which committed after the update began. -/
theorem late_send_stays_unread :
    ¬ ∀ (world after : MessageWorld) call ack snapshot ids,
      world.Reached plainChatEnvironment → world.phase call = .marked ack snapshot ids →
        MessageStep plainChatEnvironment world (.commitAcknowledgement call) after →
          ack.IsNewest after.db.messages.rows →
            (getBuddyUnreadSummary after.db ack.readerId after.now).countOf
              ack.conversationId = 0 := by
  intro hclaim
  obtain ⟨world, hreached, hphase, hdb, hnow, _⟩ := late_send_reached
  have hzero : (getBuddyUnreadSummary { world.db with
      messages := quickAcknowledgement.readRows [quickId] world.db.messages } 2 world.now).countOf
        1 = 0 := by
    refine hclaim world _ 2 _ _ _ hreached hphase (.commitAcknowledgement hphase) ?_
    intro message hmessage
    change message ∈ (quickAcknowledgement.readRows [quickId] world.db.messages).rows at hmessage
    rw [hdb] at hmessage
    revert message
    decide +kernel
  rw [hdb, hnow] at hzero
  exact absurd hzero (by decide +kernel)

/-- The run of the slow send is safe. -/
theorem late_send_safe : ∃ world : MessageWorld,
    world.db = lateDb ∧ MessageRetentionSafe plainChatEnvironment world := by
  obtain ⟨world, hreached, _, hdb, _⟩ := late_send_reached
  exact ⟨world, hdb, message_retention_safe plainChatEnvironment world hreached⟩

end LateSend

end BuddyWeb
