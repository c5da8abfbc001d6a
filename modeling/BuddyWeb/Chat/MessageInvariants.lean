/-
What holds of the messages and of every call between its statements.
-/
import BuddyWeb.Chat.MessageWorld

namespace BuddyWeb

/-- The deadline of a message: ninety days while it is unread, and thirty days after its read
instant where that is earlier. -/
def BuddyMessage.KeepsRetention (message : BuddyMessage) : Prop :=
  match message.readAt with
  | none => message.expiresAt.val = message.createdAt.val + buddyMessageMaxRetention
  | some readAt => message.createdAt ≤ readAt ∧
      message.expiresAt.val = min (message.createdAt.val + buddyMessageMaxRetention)
        (readAt.val + buddyMessageReadRetention)

def BuddyMessage.SameKey (first second : BuddyMessage) : Prop :=
  first.senderId = second.senderId ∧ first.clientMessageId = second.clientMessageId

/-- The row which an insert has made of a request. -/
structure SendRequest.Inserts (request : SendRequest) (message : BuddyMessage) : Prop where
  conversation : message.conversationId = request.conversationId
  sender : message.senderId = request.senderId
  clientMessage : message.clientMessageId = request.clientMessageId
  body : message.body = request.body
  unread : message.readAt = none

namespace MessagePhase

/-- The rows which a call has locked. -/
def lockedIds : MessagePhase → List Uuid
  | .marked _ _ ids => ids
  | _ => []

/-- A call has neither the key of an uncommitted row nor a snapshot which shows the row. -/
def Apart (message : BuddyMessage) : MessagePhase → Prop
  | .inserted _ pending => pending.id ≠ message.id ∧ ¬ pending.SameKey message
  | .updating _ snapshot => ∀ seen ∈ snapshot, seen.id ≠ message.id
  | .marked _ snapshot _ => ∀ seen ∈ snapshot, seen.id ≠ message.id
  | _ => True

end MessagePhase

namespace MessageWorld

variable (env : ChatEnvironment) (world : MessageWorld)

/-- A row which a send has made and only acknowledgements have changed. -/
structure StoredRow (message : BuddyMessage) : Prop where
  retention : message.KeepsRetention
  drawn : message.id ∈ world.drawn
  past : message.createdAt ≤ world.now
  valid : validateBuddyMessageBody message.body = .ok message.body
  stored : env.storesBody message.body = true
  authorized : (requireAuthorizedActiveConversation world.db message.conversationId
    message.senderId).toBool = true

/-- A row of a snapshot which is still unread is as the snapshot shows it. -/
def SnapshotFacts (snapshot : List BuddyMessage) : Prop :=
  ∀ seen ∈ snapshot, seen.id ∈ world.drawn ∧
    ∀ row ∈ world.db.messages.rows, row.id = seen.id → row.readAt = none → row = seen

structure AcknowledgementFacts (ack : Acknowledgement) : Prop where
  past : ack.now ≤ world.now
  authorized : (requireAuthorizedActiveConversation world.db ack.conversationId
    ack.readerId).toBool = true
  boundary : ack.boundary.conversationId = ack.conversationId

/-- The locked rows meet the condition of the update, and they are all of its snapshot. -/
structure MarkedFacts (ack : Acknowledgement) (snapshot : List BuddyMessage)
    (ids : List Uuid) : Prop where
  marks : ∀ id ∈ ids, ∃ row ∈ world.db.messages.rows, row.id = id ∧ ack.marks row = true ∧
    row.createdAt ≤ ack.now
  complete : ∀ seen ∈ snapshot, ack.marks seen = true → ∀ row ∈ world.db.messages.rows,
    row.id = seen.id → row.readAt = none → row.id ∈ ids

def PhaseFacts : MessagePhase → Prop
  | .idle => True
  | .authorized request => authorizeSend world.db request = .ok ()
  | .sending request createdAt =>
      authorizeSend world.db request = .ok () ∧ createdAt ≤ world.now
  | .inserted request message => request.Inserts message ∧ world.StoredRow env message ∧
      ∀ row ∈ world.db.messages.rows, row.id ≠ message.id ∧ ¬ row.SameKey message
  | .conflicted _ createdAt => createdAt ≤ world.now
  | .acknowledging _ _ now => now ≤ world.now
  | .bounded ack => world.AcknowledgementFacts ack
  | .updating ack snapshot => world.AcknowledgementFacts ack ∧ world.SnapshotFacts snapshot
  | .marked ack snapshot ids => world.AcknowledgementFacts ack ∧
      world.SnapshotFacts snapshot ∧ world.MarkedFacts ack snapshot ids

end MessageWorld

structure MessageFacts (env : ChatEnvironment) (world : MessageWorld) : Prop where
  rows : ∀ message ∈ world.db.messages.rows, world.StoredRow env message
  keys : ∀ first ∈ world.db.messages.rows, ∀ second ∈ world.db.messages.rows,
    first.SameKey second → first = second
  phases : ∀ call, world.PhaseFacts env (world.phase call)
  apart : ∀ call other request message, other ≠ call →
    world.phase call = .inserted request message → (world.phase other).Apart message
  locks : ∀ call other, other ≠ call →
    ∀ id ∈ (world.phase call).lockedIds, id ∉ (world.phase other).lockedIds

/-- What one step may do to the rows: add one, change read rows, or remove some. -/
structure RowsChange (world after : MessageWorld) (added : Option BuddyMessage) : Prop where
  tables : after.db.conversations = world.db.conversations ∧
    after.db.buddyMatches = world.db.buddyMatches
  now : world.now ≤ after.now
  drawn : ∀ id ∈ world.drawn, id ∈ after.drawn
  kept : ∀ row ∈ after.db.messages.rows, added = some row ∨
    ∃ old ∈ world.db.messages.rows, old.id = row.id ∧ old.SameKey row
  unread : ∀ row ∈ after.db.messages.rows, row.readAt = none → added = some row ∨
    row ∈ world.db.messages.rows

section Frames

variable {env : ChatEnvironment} {world after : MessageWorld} {added : Option BuddyMessage}

theorem requireAuthorized_congr {first second : ChatDb}
    (htables : second.conversations = first.conversations ∧
      second.buddyMatches = first.buddyMatches) (conversationId userId : Nat) :
    requireAuthorizedActiveConversation second conversationId userId =
      requireAuthorizedActiveConversation first conversationId userId := by
  unfold requireAuthorizedActiveConversation ChatDb.isParticipant
  rw [htables.1, htables.2]

theorem authorizeSend_congr {first second : ChatDb}
    (htables : second.conversations = first.conversations ∧
      second.buddyMatches = first.buddyMatches) (request : SendRequest) :
    authorizeSend second request = authorizeSend first request := by
  unfold authorizeSend
  rw [requireAuthorized_congr htables]

namespace RowsChange

theorem storedRow (h : RowsChange world after added) {message : BuddyMessage}
    (hrow : world.StoredRow env message) : after.StoredRow env message where
  retention := hrow.retention
  drawn := h.drawn _ hrow.drawn
  past := le_trans hrow.past h.now
  valid := hrow.valid
  stored := hrow.stored
  authorized := (congrArg Except.toBool (requireAuthorized_congr h.tables _ _)).trans
    hrow.authorized

theorem acknowledgementFacts (h : RowsChange world after added) {ack : Acknowledgement}
    (hack : world.AcknowledgementFacts ack) : after.AcknowledgementFacts ack where
  past := le_trans hack.past h.now
  authorized := (congrArg Except.toBool (requireAuthorized_congr h.tables _ _)).trans
    hack.authorized
  boundary := hack.boundary

theorem snapshotFacts (h : RowsChange world after added) {snapshot : List BuddyMessage}
    (hsnapshot : world.SnapshotFacts snapshot)
    (hadded : ∀ message ∈ added, ∀ seen ∈ snapshot, seen.id ≠ message.id) :
    after.SnapshotFacts snapshot := by
  intro seen hseen
  obtain ⟨hdrawn, hrows⟩ := hsnapshot seen hseen
  refine ⟨h.drawn _ hdrawn, fun row hrow hid hunread => ?_⟩
  rcases h.unread row hrow hunread with hnew | hold
  · exact absurd hid.symm (hadded row hnew seen hseen)
  · exact hrows row hold hid hunread

theorem markedFacts (h : RowsChange world after added) {ack : Acknowledgement}
    {snapshot : List BuddyMessage} {ids : List Uuid}
    (hmarked : world.MarkedFacts ack snapshot ids)
    (hadded : ∀ message ∈ added, ∀ seen ∈ snapshot, seen.id ≠ message.id)
    (hlocked : ∀ row ∈ world.db.messages.rows, row.id ∈ ids → row ∈ after.db.messages.rows) :
    after.MarkedFacts ack snapshot ids := by
  constructor
  · intro id hid
    obtain ⟨row, hrow, hrowId, hrest⟩ := hmarked.marks id hid
    have hkept : row ∈ after.db.messages.rows := by
      apply hlocked row hrow
      rw [hrowId]
      exact hid
    exact ⟨row, hkept, hrowId, hrest⟩
  · intro seen hseen hmarks row hrow hid hunread
    rcases h.unread row hrow hunread with hnew | hold
    · exact absurd hid.symm (hadded row hnew seen hseen)
    · exact hmarked.complete seen hseen hmarks row hold hid hunread

/-- What holds of a call which another step passes by. -/
theorem phaseFacts (h : RowsChange world after added) {phase : MessagePhase}
    (hphase : world.PhaseFacts env phase) (hadded : ∀ message ∈ added, phase.Apart message)
    (hlocked : ∀ row ∈ world.db.messages.rows, row.id ∈ phase.lockedIds →
      row ∈ after.db.messages.rows) : after.PhaseFacts env phase := by
  cases phase with
  | idle => trivial
  | authorized request => exact (authorizeSend_congr h.tables request).trans hphase
  | sending request createdAt =>
      exact ⟨(authorizeSend_congr h.tables request).trans hphase.1, le_trans hphase.2 h.now⟩
  | inserted request message =>
      obtain ⟨hinserts, hstored, hnew⟩ := hphase
      refine ⟨hinserts, h.storedRow hstored, fun row hrow => ?_⟩
      rcases h.kept row hrow with hrowAdded | ⟨old, hold, hid, hkey⟩
      · obtain ⟨hne, hkey⟩ := hadded row hrowAdded
        refine ⟨hne.symm, fun hsame => hkey ?_⟩
        exact ⟨hsame.1.symm, hsame.2.symm⟩
      · obtain ⟨hne, hother⟩ := hnew old hold
        refine ⟨fun hsame => hne (hid.trans hsame), fun hsame => hother ?_⟩
        exact ⟨hkey.1.trans hsame.1, hkey.2.trans hsame.2⟩
  | conflicted request createdAt => exact le_trans hphase h.now
  | acknowledging conversationId readerId now => exact le_trans hphase h.now
  | bounded ack => exact h.acknowledgementFacts hphase
  | updating ack snapshot =>
      exact ⟨h.acknowledgementFacts hphase.1, h.snapshotFacts hphase.2 hadded⟩
  | marked ack snapshot ids =>
      exact ⟨h.acknowledgementFacts hphase.1, h.snapshotFacts hphase.2.1 hadded,
        h.markedFacts hphase.2.2 hadded hlocked⟩

end RowsChange

/-- A step of one call keeps what holds of the others. -/
theorem MessageFacts.of_change (call : Nat) (h : MessageFacts env world)
    (hchange : RowsChange world after added)
    (hrows : ∀ row ∈ after.db.messages.rows, after.StoredRow env row)
    (hkeys : ∀ first ∈ after.db.messages.rows, ∀ second ∈ after.db.messages.rows,
      first.SameKey second → first = second)
    (hothers : ∀ other, other ≠ call → after.phase other = world.phase other)
    (hadded : ∀ other, other ≠ call → ∀ message ∈ added, (world.phase other).Apart message)
    (hlocked : ∀ other, other ≠ call → ∀ row ∈ world.db.messages.rows,
      row.id ∈ (world.phase other).lockedIds → row ∈ after.db.messages.rows)
    (hself : after.PhaseFacts env (after.phase call))
    (hpending : ∀ request message, after.phase call = .inserted request message →
      ∀ other, other ≠ call → (world.phase other).Apart message)
    (hapart : ∀ other, other ≠ call → ∀ request message,
      world.phase other = .inserted request message → (after.phase call).Apart message)
    (hlocks : ∀ other, other ≠ call → ∀ id ∈ (after.phase call).lockedIds,
      id ∉ (world.phase other).lockedIds) : MessageFacts env after := by
  refine ⟨hrows, hkeys, fun other => ?_, fun first second request message hne hphase => ?_,
    fun first second hne id hid => ?_⟩
  · by_cases hother : other = call
    · rw [hother]
      exact hself
    · rw [hothers other hother]
      exact hchange.phaseFacts (h.phases other) (hadded other hother) (hlocked other hother)
  · by_cases hfirst : first = call
    · rw [hfirst] at hphase hne
      rw [hothers second hne]
      exact hpending request message hphase second hne
    · rw [hothers first hfirst] at hphase
      by_cases hsecond : second = call
      · rw [hsecond]
        exact hapart first hfirst request message hphase
      · rw [hothers second hsecond]
        exact h.apart first second request message hne hphase
  · by_cases hfirst : first = call
    · rw [hfirst] at hid hne
      rw [hothers second hne]
      exact hlocks second hne id hid
    · rw [hothers first hfirst] at hid
      by_cases hsecond : second = call
      · rw [hsecond]
        exact fun hlocked => hlocks first hfirst id hlocked hid
      · rw [hothers second hsecond]
        exact h.locks first second hne id hid

/-- A step which only moves a call to another phase. -/
theorem MessageFacts.setPhase {call : Nat} {phase : MessagePhase} (h : MessageFacts env world)
    (hself : world.PhaseFacts env phase)
    (hpending : ∀ request message, phase = .inserted request message →
      ∀ other, other ≠ call → (world.phase other).Apart message)
    (hapart : ∀ other, other ≠ call → ∀ request message,
      world.phase other = .inserted request message → phase.Apart message)
    (hlocks : ∀ other, other ≠ call → ∀ id ∈ phase.lockedIds,
      id ∉ (world.phase other).lockedIds) : MessageFacts env (world.setPhase call phase) := by
  have hchange : RowsChange world (world.setPhase call phase) none :=
    ⟨⟨rfl, rfl⟩, le_refl _, fun _ hid => hid,
      fun row hrow => Or.inr ⟨row, hrow, rfl, rfl, rfl⟩, fun row hrow _ => Or.inr hrow⟩
  have hphase : (world.setPhase call phase).phase call = phase := world.setPhase_phase_self _ _
  apply h.of_change call hchange
  · intro row hrow
    exact hchange.storedRow (h.rows row hrow)
  · exact h.keys
  · intro other hother
    exact world.setPhase_phase_of_ne phase hother
  · intro other _ message hmessage
    exact absurd hmessage (by simp)
  · intro other _ row hrow _
    exact hrow
  · rw [hphase]
    apply hchange.phaseFacts hself
    · intro message hmessage
      exact absurd hmessage (by simp)
    · intro row hrow _
      exact hrow
  · rw [hphase]
    exact hpending
  · rw [hphase]
    exact hapart
  · rw [hphase]
    exact hlocks

/-- A phase without an uncommitted row, a snapshot and locks. -/
theorem MessageFacts.setQuietPhase {call : Nat} {phase : MessagePhase}
    (h : MessageFacts env world) (hself : world.PhaseFacts env phase)
    (hnone : ∀ request message, phase ≠ .inserted request message)
    (hapart : ∀ message, phase.Apart message) (hfree : phase.lockedIds = []) :
    MessageFacts env (world.setPhase call phase) := by
  apply h.setPhase hself
  · intro request message hphase
    exact absurd hphase (hnone request message)
  · intro other _ request message _
    exact hapart message
  · intro other _ id hid
    rw [hfree] at hid
    exact absurd hid (by simp)

/-- A step of the clock or of a cleanup. -/
theorem MessageFacts.of_same_phases (h : MessageFacts env world)
    (hchange : RowsChange world after none) (hphases : after.phase = world.phase)
    (hsub : ∀ row ∈ after.db.messages.rows, row ∈ world.db.messages.rows)
    (hlocked : ∀ call, ∀ row ∈ world.db.messages.rows, row.id ∈ (world.phase call).lockedIds →
      row ∈ after.db.messages.rows) : MessageFacts env after := by
  refine ⟨fun row hrow => ?_, fun first hfirst second hsecond => ?_, fun call => ?_, ?_, ?_⟩
  · exact hchange.storedRow (h.rows row (hsub row hrow))
  · exact h.keys first (hsub first hfirst) second (hsub second hsecond)
  · rw [hphases]
    apply hchange.phaseFacts (h.phases call)
    · intro message hmessage
      exact absurd hmessage (by simp)
    · exact hlocked call
  · rw [hphases]
    exact h.apart
  · rw [hphases]
    exact h.locks

end Frames

section Steps

variable {env : ChatEnvironment} {world after : MessageWorld} {call : Nat}

/-- The row of an insert, whose key is not in use. -/
theorem insertBuddyMessage_eq_some {db : ChatDb} {attempt : SendAttempt} {message : BuddyMessage}
    (h : insertBuddyMessage env db attempt = .ok (some message)) :
    ∃ expiresAt, buddyMessageExpiresAt attempt.now = .ok expiresAt ∧
      message = attempt.message expiresAt ∧
      (requireAuthorizedActiveConversation db attempt.conversationId
        attempt.senderId).toBool = true ∧ env.storesBody attempt.body = true ∧
      db.findKey attempt.senderId attempt.clientMessageId = none := by
  simp only [insertBuddyMessage, except_bind_eq_ok_iff, ensure_eq_ok_iff] at h
  obtain ⟨expiresAt, hexpires, _, hactive, _, hstores, h⟩ := h
  split at h
  · rename_i hnone
    simp only [except_pure_eq_ok_iff, Option.some.injEq] at h
    exact ⟨expiresAt, hexpires, h.symm, hactive, hstores, hnone⟩
  · simp at h

theorem findKey_mem {db : ChatDb} {senderId clientMessageId : Nat} {message : BuddyMessage}
    (h : db.findKey senderId clientMessageId = some message) :
    message ∈ db.messages.rows ∧ message.senderId = senderId ∧
      message.clientMessageId = clientMessageId := by
  have hkey := Table.select?_filter h
  simp only [Bool.and_eq_true, decide_eq_true_eq] at hkey
  exact ⟨Table.select?_mem h, hkey.1, hkey.2⟩

theorem findKey_eq_none {db : ChatDb} {senderId clientMessageId : Nat}
    (h : db.findKey senderId clientMessageId = none) {row : BuddyMessage}
    (hrow : row ∈ db.messages.rows) :
    ¬ (row.senderId = senderId ∧ row.clientMessageId = clientMessageId) := by
  have hkey := Table.select?_eq_none h row hrow
  simpa using hkey

theorem buddyMessageExpiresAt_val {createdAt expiresAt : Instant}
    (h : buddyMessageExpiresAt createdAt = .ok expiresAt) :
    expiresAt.val = createdAt.val + buddyMessageMaxRetention := by
  simp only [buddyMessageExpiresAt, require_eq_ok_iff, Instant.ofMicroseconds?] at h
  split at h
  · rw [← Option.some.inj h]
  · exact absurd h (by simp)

theorem authorizeSend_eq_ok_iff {db : ChatDb} {request : SendRequest} :
    authorizeSend db request = .ok () ↔
      validateBuddyMessageBody request.body = .ok request.body ∧
        (requireAuthorizedActiveConversation db request.conversationId
          request.senderId).toBool = true := by
  simp only [authorizeSend, validateBuddyMessageBody, except_bind_eq_ok_iff, ensure_eq_ok_iff,
    except_pure_eq_ok_iff]
  constructor
  · rintro ⟨_, ⟨_, hblank, _, hlength, _⟩, hactive⟩
    exact ⟨⟨(), hblank, (), hlength, trivial⟩, hactive⟩
  · rintro ⟨⟨_, hblank, _, hlength, _⟩, hactive⟩
    exact ⟨request.body, ⟨(), hblank, (), hlength, rfl⟩, hactive⟩

theorem MessageFacts.insert {freshId : Uuid} {request : SendRequest} {createdAt : Instant}
    {message : BuddyMessage} (h : MessageFacts env world)
    (hphase : world.phase call = .sending request createdAt) (hfresh : freshId ∉ world.drawn)
    (hfree : world.KeyFree request)
    (hinsert : insertBuddyMessage env world.db (request.attempt freshId createdAt) =
      .ok (some message)) :
    MessageFacts env ({ world with drawn := freshId :: world.drawn }.setPhase call
      (.inserted request message)) := by
  obtain ⟨expiresAt, hexpires, rfl, hactive, hstores, hnone⟩ := insertBuddyMessage_eq_some hinsert
  have hsending := h.phases call
  rw [hphase] at hsending
  obtain ⟨hvalid, _⟩ := authorizeSend_eq_ok_iff.mp hsending.1
  have hstored : ({ world with drawn := freshId :: world.drawn } : MessageWorld).StoredRow env
      ((request.attempt freshId createdAt).message expiresAt) :=
    ⟨buddyMessageExpiresAt_val hexpires, List.mem_cons_self, hsending.2, hvalid, hstores, hactive⟩
  have hchange : RowsChange world ({ world with drawn := freshId :: world.drawn }.setPhase call
      (.inserted request ((request.attempt freshId createdAt).message expiresAt))) none :=
    ⟨⟨rfl, rfl⟩, le_refl _, fun _ hid => List.mem_cons_of_mem _ hid,
      fun row hrow => Or.inr ⟨row, hrow, rfl, rfl, rfl⟩, fun row hrow _ => Or.inr hrow⟩
  have hnew : ∀ id ∈ world.drawn, id ≠ freshId := by
    intro id hid hsame
    exact hfresh (hsame ▸ hid)
  have hself := MessageWorld.setPhase_phase_self
    { world with drawn := freshId :: world.drawn } call
    (.inserted request ((request.attempt freshId createdAt).message expiresAt))
  apply h.of_change call hchange
  · intro row hrow
    exact hchange.storedRow (h.rows row hrow)
  · exact h.keys
  · intro other hother
    exact MessageWorld.setPhase_phase_of_ne _ _ hother
  · intro other _ message hmessage
    exact absurd hmessage (by simp)
  · intro other _ row hrow _
    exact hrow
  · rw [hself]
    refine ⟨⟨rfl, rfl, rfl, rfl, rfl⟩, ⟨hstored.retention, hstored.drawn, hstored.past,
      hstored.valid, hstored.stored, hstored.authorized⟩, fun row hrow => ⟨?_, ?_⟩⟩
    · exact hnew _ (h.rows row hrow).drawn
    · intro hkey
      exact findKey_eq_none hnone hrow hkey
  · intro pending message hinserted other hother
    rw [hself] at hinserted
    obtain ⟨_, rfl⟩ := MessagePhase.inserted.inj hinserted
    have hfacts := h.phases other
    cases hotherPhase : world.phase other with
    | inserted otherRequest otherMessage =>
        rw [hotherPhase] at hfacts
        obtain ⟨hinserts, hrow, _⟩ := hfacts
        refine ⟨hnew _ hrow.drawn, fun hkey => ?_⟩
        apply hfree other otherRequest otherMessage hotherPhase
        rw [← hinserts.sender, ← hinserts.clientMessage]
        exact hkey
    | updating ack snapshot =>
        rw [hotherPhase] at hfacts
        intro seen hseen
        exact hnew _ (hfacts.2 seen hseen).1
    | marked ack snapshot ids =>
        rw [hotherPhase] at hfacts
        intro seen hseen
        exact hnew _ (hfacts.2.1 seen hseen).1
    | idle => trivial
    | authorized otherRequest => trivial
    | sending otherRequest otherInstant => trivial
    | conflicted otherRequest otherInstant => trivial
    | acknowledging conversationId readerId now => trivial
    | bounded ack => trivial
  · rw [hself]
    intro other hother otherRequest otherMessage hotherPhase
    have hfacts := h.phases other
    rw [hotherPhase] at hfacts
    obtain ⟨hinserts, hrow, _⟩ := hfacts
    refine ⟨(hnew _ hrow.drawn).symm, fun hkey => ?_⟩
    · apply hfree other otherRequest otherMessage hotherPhase
      rw [← hinserts.sender, ← hinserts.clientMessage]
      exact ⟨hkey.1.symm, hkey.2.symm⟩
  · rw [hself]
    intro other _ id hid
    exact absurd hid (by simp [MessagePhase.lockedIds])

theorem MessageFacts.commitSend {request : SendRequest} {message : BuddyMessage}
    {messages : Table BuddyMessage} (h : MessageFacts env world)
    (hphase : world.phase call = .inserted request message)
    (hmessages : world.db.messages.insert? message = some messages) :
    MessageFacts env (world.committed call messages) := by
  have hfacts := h.phases call
  rw [hphase] at hfacts
  obtain ⟨_, hstored, hnew⟩ := hfacts
  have hrows := (Table.insert?_eq_some_iff.mp hmessages).2
  have hmem : ∀ row ∈ (world.committed call messages).db.messages.rows,
      row = message ∨ row ∈ world.db.messages.rows := by
    intro row hrow
    exact List.mem_cons.mp (hrows ▸ hrow)
  have hchange : RowsChange world (world.committed call messages) (some message) := by
    refine ⟨⟨rfl, rfl⟩, le_refl _, fun _ hid => hid, fun row hrow => ?_, fun row hrow _ => ?_⟩
    · rcases hmem row hrow with rfl | hold
      · exact Or.inl rfl
      · exact Or.inr ⟨row, hold, rfl, rfl, rfl⟩
    · rcases hmem row hrow with rfl | hold
      · exact Or.inl rfl
      · exact Or.inr hold
  have hself : (world.committed call messages).phase call = .idle :=
    MessageWorld.setPhase_phase_self _ _ _
  apply h.of_change call hchange
  · intro row hrow
    rcases hmem row hrow with rfl | hold
    · exact hchange.storedRow hstored
    · exact hchange.storedRow (h.rows row hold)
  · intro first hfirst second hsecond hkey
    rcases hmem first hfirst with rfl | hfirstOld
    · rcases hmem second hsecond with rfl | hsecondOld
      · rfl
      · exact absurd ⟨hkey.1.symm, hkey.2.symm⟩ (hnew second hsecondOld).2
    · rcases hmem second hsecond with rfl | hsecondOld
      · exact absurd hkey (hnew first hfirstOld).2
      · exact h.keys first hfirstOld second hsecondOld hkey
  · intro other hother
    exact MessageWorld.setPhase_phase_of_ne _ _ hother
  · intro other hother added hadded
    obtain rfl := Option.some.inj hadded
    exact h.apart call other request message hother hphase
  · intro other _ row hrow _
    change row ∈ messages.rows
    rw [hrows]
    exact List.mem_cons_of_mem _ hrow
  · rw [hself]
    trivial
  · rw [hself]
    intro _ _ hinserted
    exact absurd hinserted (by simp)
  · rw [hself]
    intro _ _ _ _ _
    trivial
  · rw [hself]
    intro _ _ _ hid
    exact absurd hid (by simp [MessagePhase.lockedIds])

/-- The deadline after the first read of a message. -/
theorem leastDeadline_val (expiresAt now : Instant) :
    (leastDeadline expiresAt now).val =
      min expiresAt.val (now.val + buddyMessageReadRetention) := by
  unfold leastDeadline
  split
  · simp only
    omega
  · omega

/-- The condition of the update. -/
theorem Acknowledgement.marks_iff {ack : Acknowledgement} {message : BuddyMessage} :
    ack.marks message = true ↔ message.conversationId = ack.conversationId ∧
      message.senderId ≠ ack.readerId ∧ message.readAt = none ∧ ack.now < message.expiresAt ∧
        message.position ≤ ack.boundary.position := by
  simp [Acknowledgement.marks, isAcknowledged, and_assoc]

section ReadRow

variable {ack : Acknowledgement} {ids : List Uuid} {message : BuddyMessage}

theorem readRow_of_mem (h : message.id ∈ ids) : ack.readRow ids message =
    { message with
      readAt := some ack.now
      expiresAt := leastDeadline message.expiresAt ack.now } := if_pos h

theorem readRow_of_not_mem (h : message.id ∉ ids) : ack.readRow ids message = message :=
  if_neg h

theorem readRow_id : (ack.readRow ids message).id = message.id := by
  unfold Acknowledgement.readRow
  split <;> rfl

theorem readRow_sameKey : message.SameKey (ack.readRow ids message) := by
  unfold Acknowledgement.readRow
  split <;> exact ⟨rfl, rfl⟩

/-- A row which is unread after an update was not locked by it. -/
theorem readRow_unread (h : (ack.readRow ids message).readAt = none) : message.id ∉ ids := by
  intro hmem
  rw [readRow_of_mem hmem] at h
  exact absurd h (by simp)

theorem mem_readRows {messages : Table BuddyMessage} {row : BuddyMessage}
    (h : row ∈ (ack.readRows ids messages).rows) :
    ∃ old ∈ messages.rows, ack.readRow ids old = row :=
  List.mem_map.mp h

end ReadRow

/-- The first read of an unread message keeps its retention. -/
theorem BuddyMessage.KeepsRetention.read {message : BuddyMessage} {now : Instant}
    (h : message.KeepsRetention) (hunread : message.readAt = none)
    (hpast : message.createdAt ≤ now) : BuddyMessage.KeepsRetention { message with
      readAt := some now
      expiresAt := leastDeadline message.expiresAt now } := by
  simp only [BuddyMessage.KeepsRetention, hunread] at h
  refine ⟨hpast, ?_⟩
  rw [leastDeadline_val, h]

/-- The rows which an update has locked. -/
theorem MessageFacts.locked_row (h : MessageFacts env world) {ack : Acknowledgement}
    {snapshot : List BuddyMessage} {ids : List Uuid}
    (hphase : world.phase call = .marked ack snapshot ids) {row : BuddyMessage}
    (hrow : row ∈ world.db.messages.rows) (hid : row.id ∈ ids) :
    ack.marks row = true ∧ row.createdAt ≤ ack.now := by
  have hfacts := h.phases call
  rw [hphase] at hfacts
  obtain ⟨found, hfound, hfoundId, hmarks⟩ := hfacts.2.2.marks row.id hid
  rw [Table.eq_of_key hrow hfound (congrArg Fin.val hfoundId.symm)]
  exact hmarks

theorem MessageFacts.commitAcknowledgement {ack : Acknowledgement}
    {snapshot : List BuddyMessage} {ids : List Uuid} (h : MessageFacts env world)
    (hphase : world.phase call = .marked ack snapshot ids) :
    MessageFacts env (world.committed call (ack.readRows ids world.db.messages)) := by
  have hchange : RowsChange world
      (world.committed call (ack.readRows ids world.db.messages)) none := by
    refine ⟨⟨rfl, rfl⟩, le_refl _, fun _ hid => hid, fun row hrow => ?_,
      fun row hrow hunread => ?_⟩
    · obtain ⟨old, hold, rfl⟩ := mem_readRows hrow
      exact Or.inr ⟨old, hold, readRow_id.symm, readRow_sameKey⟩
    · obtain ⟨old, hold, rfl⟩ := mem_readRows hrow
      rw [readRow_of_not_mem (readRow_unread hunread)]
      exact Or.inr hold
  have hself : (world.committed call (ack.readRows ids world.db.messages)).phase call = .idle :=
    MessageWorld.setPhase_phase_self _ _ _
  apply h.of_change call hchange
  · intro row hrow
    obtain ⟨old, hold, rfl⟩ := mem_readRows hrow
    have hstored := hchange.storedRow (h.rows old hold)
    by_cases hid : old.id ∈ ids
    · obtain ⟨hmarks, hpast⟩ := h.locked_row hphase hold hid
      obtain ⟨_, _, hunread, _⟩ := Acknowledgement.marks_iff.mp hmarks
      rw [readRow_of_mem hid]
      exact ⟨hstored.retention.read hunread hpast, hstored.drawn, hstored.past, hstored.valid,
        hstored.stored, hstored.authorized⟩
    · rw [readRow_of_not_mem hid]
      exact hstored
  · intro first hfirst second hsecond hkey
    obtain ⟨firstOld, hfirstOld, rfl⟩ := mem_readRows hfirst
    obtain ⟨secondOld, hsecondOld, rfl⟩ := mem_readRows hsecond
    have hfirstKey : firstOld.SameKey (ack.readRow ids firstOld) := readRow_sameKey
    have hsecondKey : secondOld.SameKey (ack.readRow ids secondOld) := readRow_sameKey
    have hsame : firstOld.SameKey secondOld :=
      ⟨(hfirstKey.1.trans hkey.1).trans hsecondKey.1.symm,
        (hfirstKey.2.trans hkey.2).trans hsecondKey.2.symm⟩
    rw [h.keys firstOld hfirstOld secondOld hsecondOld hsame]
  · intro other hother
    exact MessageWorld.setPhase_phase_of_ne _ _ hother
  · intro other _ message hmessage
    exact absurd hmessage (by simp)
  · intro other hother row hrow hid
    have hunlocked : row.id ∉ ids := by
      intro hmine
      have hlocks := h.locks call other hother row.id
      rw [hphase] at hlocks
      exact hlocks hmine hid
    exact List.mem_map.mpr ⟨row, hrow, readRow_of_not_mem hunlocked⟩
  · rw [hself]
    trivial
  · rw [hself]
    intro _ _ hinserted
    exact absurd hinserted (by simp)
  · rw [hself]
    intro _ _ _ _ _
    trivial
  · rw [hself]
    intro _ _ _ hid
    exact absurd hid (by simp [MessagePhase.lockedIds])

/-- The start of an update: its snapshot shows the committed rows. -/
theorem MessageFacts.update {ack : Acknowledgement} (h : MessageFacts env world)
    (hphase : world.phase call = .bounded ack) :
    MessageFacts env (world.setPhase call (.updating ack world.db.messages.rows)) := by
  have hfacts := h.phases call
  rw [hphase] at hfacts
  apply h.setPhase
  · refine ⟨hfacts, fun seen hseen => ⟨(h.rows seen hseen).drawn, fun row hrow hid _ => ?_⟩⟩
    exact Table.eq_of_key hrow hseen (congrArg Fin.val hid)
  · intro _ _ hinserted
    exact absurd hinserted (by simp)
  · intro other _ request message hother seen hseen
    have hpending := h.phases other
    rw [hother] at hpending
    exact (hpending.2.2 seen hseen).1
  · intro _ _ _ hid
    exact absurd hid (by simp [MessagePhase.lockedIds])

theorem mem_markedIds {ack : Acknowledgement} {snapshot rows : List BuddyMessage} {id : Uuid} :
    id ∈ ack.markedIds snapshot rows ↔ ∃ row ∈ rows, row.id = id ∧ ack.marks row = true ∧
      ∃ seen ∈ snapshot, seen.id = row.id ∧ ack.marks seen = true := by
  simp only [Acknowledgement.markedIds, List.mem_map, List.mem_filter, Bool.and_eq_true,
    List.any_eq_true, decide_eq_true_eq]
  constructor
  · rintro ⟨row, ⟨hrow, hmarks, hseen⟩, hid⟩
    exact ⟨row, hrow, hid, hmarks, hseen⟩
  · rintro ⟨row, hrow, hid, hmarks, hseen⟩
    exact ⟨row, ⟨hrow, hmarks, hseen⟩, hid⟩

/-- The rows which an update locks meet its condition, and it locks all of its snapshot. -/
theorem MessageFacts.mark {ack : Acknowledgement} {snapshot : List BuddyMessage}
    (h : MessageFacts env world) (hphase : world.phase call = .updating ack snapshot)
    (hfree : ∀ id ∈ ack.markedIds snapshot world.db.messages.rows, world.Unlocked id)
    (hcheck : ∀ row ∈ world.db.messages.rows,
      row.id ∈ ack.markedIds snapshot world.db.messages.rows → row.createdAt ≤ ack.now) :
    MessageFacts env (world.setPhase call
      (.marked ack snapshot (ack.markedIds snapshot world.db.messages.rows))) := by
  have hfacts := h.phases call
  rw [hphase] at hfacts
  obtain ⟨hack, hsnapshot⟩ := hfacts
  apply h.setPhase
  · refine ⟨hack, hsnapshot, fun id hid => ?_, fun seen hseen hmarks row hrow hid hunread => ?_⟩
    · obtain ⟨row, hrow, hrowId, hmarks, _⟩ := mem_markedIds.mp hid
      refine ⟨row, hrow, hrowId, hmarks, hcheck row hrow ?_⟩
      rw [hrowId]
      exact hid
    · have hsame := (hsnapshot seen hseen).2 row hrow hid hunread
      apply mem_markedIds.mpr
      refine ⟨row, hrow, rfl, ?_, seen, hseen, hid.symm, hmarks⟩
      rw [hsame]
      exact hmarks
  · intro _ _ hinserted
    exact absurd hinserted (by simp)
  · intro other hother request message hpending
    have hapart := h.apart other call request message hother.symm hpending
    rw [hphase] at hapart
    exact hapart
  · intro other _ id hid
    cases hother : world.phase other with
    | marked otherAck otherSnapshot otherIds =>
        exact hfree id hid other otherAck otherSnapshot otherIds hother
    | _ => simp [MessagePhase.lockedIds]

theorem MessageFacts.cleanup {ids : List Uuid} {messages : Table BuddyMessage}
    (h : MessageFacts env world) (hfree : ∀ id ∈ ids, world.Unlocked id)
    (hrows : messages.rows = world.db.messages.rows.filter fun row => row.id ∉ ids) :
    MessageFacts env { world with db := { world.db with messages := messages } } := by
  have hsub : ∀ row ∈ messages.rows, row ∈ world.db.messages.rows := by
    intro row hrow
    rw [hrows] at hrow
    exact List.mem_of_mem_filter hrow
  apply h.of_same_phases
  · exact ⟨⟨rfl, rfl⟩, le_refl _, fun _ hid => hid,
      fun row hrow => Or.inr ⟨row, hsub row hrow, rfl, rfl, rfl⟩,
      fun row hrow _ => Or.inr (hsub row hrow)⟩
  · rfl
  · exact hsub
  · intro call row hrow hid
    change row ∈ messages.rows
    rw [hrows, List.mem_filter]
    refine ⟨hrow, ?_⟩
    rw [decide_eq_true_eq]
    intro hdeleted
    cases hphase : world.phase call with
    | marked ack snapshot locked =>
        rw [hphase] at hid
        exact hfree row.id hdeleted call ack snapshot locked hphase hid
    | _ =>
        rw [hphase] at hid
        exact absurd hid (by simp [MessagePhase.lockedIds])

/-- Every step keeps what holds of a world. -/
theorem MessageFacts.step (h : MessageFacts env world) {label : MessageLabel}
    (hstep : MessageStep env world label after) : MessageFacts env after := by
  cases hstep with
  | tick hnow =>
      apply h.of_same_phases
      · exact ⟨⟨rfl, rfl⟩, hnow, fun _ hid => hid,
          fun row hrow => Or.inr ⟨row, hrow, rfl, rfl, rfl⟩, fun row hrow _ => Or.inr hrow⟩
      · rfl
      · intro row hrow
        exact hrow
      · intro _ row hrow _
        exact hrow
  | authorize _ hauthorized =>
      exact h.setQuietPhase hauthorized (by simp) (fun _ => trivial) rfl
  | refuse => exact h
  | @readClock call request hphase =>
      have hfacts := h.phases call
      rw [hphase] at hfacts
      exact h.setQuietPhase ⟨hfacts, le_refl _⟩ (by simp) (fun _ => trivial) rfl
  | insert hphase hfresh hfree hinsert => exact h.insert hphase hfresh hfree hinsert
  | @conflict call _ request createdAt hphase _ =>
      have hfacts := h.phases call
      rw [hphase] at hfacts
      exact h.setQuietPhase hfacts.2 (by simp) (fun _ => trivial) rfl
  | commitSend hphase hmessages => exact h.commitSend hphase hmessages
  | readExisting => exact h.setQuietPhase trivial (by simp) (fun _ => trivial) rfl
  | acknowledge => exact h.setQuietPhase (le_refl _) (by simp) (fun _ => trivial) rfl
  | @selectBoundary call throughMessageId conversationId readerId now boundary hphase hboundary =>
      have hfacts := h.phases call
      rw [hphase] at hfacts
      have hfilter := Table.select?_filter (require_eq_ok_iff.mp hboundary)
      simp only [Bool.and_eq_true, decide_eq_true_eq] at hfilter
      have hack : world.AcknowledgementFacts ⟨conversationId, readerId, boundary, now⟩ :=
        ⟨hfacts, hfilter.2, hfilter.1.1.2⟩
      exact h.setQuietPhase hack (by simp) (fun _ => trivial) rfl
  | update hphase => exact h.update hphase
  | mark hphase hfree hcheck => exact h.mark hphase hfree hcheck
  | commitAcknowledgement hphase => exact h.commitAcknowledgement hphase
  | cleanup _ hfree hrows => exact h.cleanup hfree hrows
  | stop => exact h.setQuietPhase trivial (by simp) (fun _ => trivial) rfl

theorem MessageFacts.initial (h : world.Initial) : MessageFacts env world := by
  obtain ⟨hrows, _, hidle⟩ := h
  refine ⟨?_, ?_, fun call => ?_, fun call other request message _ hphase => ?_, ?_⟩
  · rw [hrows]
    intro message hmessage
    exact absurd hmessage (by simp)
  · rw [hrows]
    intro first hfirst
    exact absurd hfirst (by simp)
  · rw [hidle call]
    trivial
  · rw [hidle call] at hphase
    exact absurd hphase (by simp)
  · intro call other _ id hid
    rw [hidle call] at hid
    exact absurd hid (by simp [MessagePhase.lockedIds])

theorem MessageFacts.reached (h : world.Reached env) : MessageFacts env world := by
  refine Reaches.invariant ?_ ?_ h
  · intro world hinitial
    exact .initial hinitial
  · intro world label after hfacts _ hstep
    exact hfacts.step hstep

end Steps

end BuddyWeb
