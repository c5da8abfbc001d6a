/-
Sends with a retry key over every run: while the message of a key is effective, each call
with the key returns it or is refused.
-/
import BuddyWeb.Chat.MessageRetention

namespace BuddyWeb

/-- The request of a send which is under way. -/
def MessagePhase.request? : MessagePhase → Option SendRequest
  | .authorized request => some request
  | .sending request _ => some request
  | .inserted request _ => some request
  | .conflicted request _ => some request
  | _ => none

/-- The call whose step a label is. -/
def MessageLabel.call? : MessageLabel → Option Nat
  | .authorize call _ => some call
  | .refuse call _ _ => some call
  | .readClock call => some call
  | .insert call _ => some call
  | .conflict call _ => some call
  | .commitSend call => some call
  | .readExisting call => some call
  | .acknowledge call _ _ => some call
  | .selectBoundary call _ => some call
  | .update call => some call
  | .mark call => some call
  | .commitAcknowledgement call => some call
  | .stop call => some call
  | .tick _ => none
  | .cleanup _ => none

/-- The request uses the key of a message. -/
def SendRequest.UsesKey (request : SendRequest) (message : BuddyMessage) : Prop :=
  message.senderId = request.senderId ∧ message.clientMessageId = request.clientMessageId

/-- The request repeats a message in its conversation. -/
def SendRequest.Repeats (request : SendRequest) (message : BuddyMessage) : Prop :=
  message.conversationId = request.conversationId ∧ message.body = request.body

/-- The rows with an id are effective. -/
def MessageWorld.Effective (world : MessageWorld) (id : Uuid) : Prop :=
  ∀ row ∈ world.db.messages.rows, row.id = id → world.now < row.expiresAt

/-- A later version of a message, which may have been read. -/
def BuddyMessage.SameMessage (first second : BuddyMessage) : Prop :=
  first.id = second.id ∧ first.conversationId = second.conversationId ∧
    first.SameKey second ∧ first.body = second.body

structure SendIdempotent (env : ChatEnvironment) (world : MessageWorld) : Prop where
  unique : ∀ first ∈ world.db.messages.rows, ∀ second ∈ world.db.messages.rows,
    first.SameKey second → first = second
  /-- A returned message is the stored one of the request. -/
  returned : ∀ label after request message, MessageStep env world label after →
    world.answer label = some (request, .ok message) → message ∈ after.db.messages.rows ∧
      request.UsesKey message ∧ request.Repeats message
  /-- As long as a message stays effective, each answer to a call which repeats it with its key
  is this message. -/
  converges : ∀ stored ∈ world.db.messages.rows, ∀ later,
    Reaches (· = world) (MessageStep env) (fun state _ => state.Effective stored.id) later →
      later.Effective stored.id → ∀ label after request result,
        MessageStep env later label after → later.answer label = some (request, result) →
          request.UsesKey stored → request.Repeats stored →
            ∃ message, result = .ok message ∧ message.SameMessage stored
  /-- A call which uses the key of a stored message otherwise is refused. -/
  refused : ∀ label after request result, MessageStep env world label after →
    world.answer label = some (request, result) → ∀ stored ∈ world.db.messages.rows,
      request.UsesKey stored → ¬ request.Repeats stored → ∃ error, result = .error error
  /-- No step of a call whose key is in use changes a row. -/
  unchanged : ∀ label after call request, MessageStep env world label after →
    label.call? = some call → (world.phase call).request? = some request →
      (∃ stored ∈ world.db.messages.rows, request.UsesKey stored) →
        after.db = world.db

section Answers

variable {env : ChatEnvironment} {world after : MessageWorld} {label : MessageLabel}
  {request : SendRequest}

theorem BuddyMessage.SameMessage.trans {first second third : BuddyMessage}
    (h : first.SameMessage second) (hnext : second.SameMessage third) :
    first.SameMessage third := by
  obtain ⟨hid, hconversation, hkey, hbody⟩ := h
  obtain ⟨hnextId, hnextConversation, hnextKey, hnextBody⟩ := hnext
  exact ⟨hid.trans hnextId, hconversation.trans hnextConversation,
    ⟨hkey.1.trans hnextKey.1, hkey.2.trans hnextKey.2⟩, hbody.trans hnextBody⟩

theorem readRow_sameMessage {ack : Acknowledgement} {ids : List Uuid} {message : BuddyMessage} :
    (ack.readRow ids message).SameMessage message := by
  unfold Acknowledgement.readRow
  split <;> exact ⟨rfl, rfl, ⟨rfl, rfl⟩, rfl⟩

/-- The second read finds the one row with the key. -/
theorem MessageFacts.findKey_eq (h : MessageFacts env world) {stored : BuddyMessage}
    (hstored : stored ∈ world.db.messages.rows) (hkey : request.UsesKey stored) :
    world.db.findKey request.senderId request.clientMessageId = some stored := by
  cases hfind : world.db.findKey request.senderId request.clientMessageId with
  | none => exact absurd hkey (findKey_eq_none hfind hstored)
  | some found =>
      obtain ⟨hmem, hsender, hclient⟩ := findKey_mem hfind
      have hsame : found.SameKey stored :=
        ⟨hsender.trans hkey.1.symm, hclient.trans hkey.2.symm⟩
      rw [h.keys found hmem stored hstored hsame]

theorem readExistingMessage_eq_ok_iff {db : ChatDb} {createdAt : Instant}
    {message : BuddyMessage} :
    readExistingMessage db request createdAt = .ok message ↔
      db.findKey request.senderId request.clientMessageId = some message ∧
        request.Repeats message ∧ createdAt < message.expiresAt := by
  simp only [readExistingMessage, except_bind_eq_ok_iff, require_eq_ok_iff, ensure_eq_ok_iff,
    except_pure_eq_ok_iff]
  constructor
  · rintro ⟨found, hfind, _, ⟨hconversation, hbody, heffective⟩, rfl⟩
    exact ⟨hfind, ⟨hconversation, hbody⟩, heffective⟩
  · rintro ⟨hfind, ⟨hconversation, hbody⟩, heffective⟩
    exact ⟨message, hfind, (), ⟨hconversation, hbody, heffective⟩, rfl⟩

/-- A call which repeats a stored message is not refused before its statements. -/
theorem MessageFacts.authorizeSend_eq_ok (h : MessageFacts env world) {stored : BuddyMessage}
    (hstored : stored ∈ world.db.messages.rows) (hkey : request.UsesKey stored)
    (hrepeats : request.Repeats stored) : authorizeSend world.db request = .ok () := by
  obtain ⟨hconversation, hbody⟩ := hrepeats
  have hrow := h.rows stored hstored
  have hvalid := hrow.valid
  have hauthorized := hrow.authorized
  rw [hbody] at hvalid
  rw [hconversation, hkey.1] at hauthorized
  exact authorizeSend_eq_ok_iff.mpr ⟨hvalid, hauthorized⟩

/-- No call has inserted a row with a key which is in use. -/
theorem MessageFacts.not_inserted (h : MessageFacts env world) {call : Nat}
    {message stored : BuddyMessage} (hphase : world.phase call = .inserted request message)
    (hstored : stored ∈ world.db.messages.rows) : ¬ request.UsesKey stored := by
  intro hkey
  have hfacts := h.phases call
  rw [hphase] at hfacts
  obtain ⟨hinserts, _, hnew⟩ := hfacts
  apply (hnew stored hstored).2
  exact ⟨hkey.1.trans hinserts.sender.symm, hkey.2.trans hinserts.clientMessage.symm⟩

/-- The answer to a call which repeats an effective message. -/
theorem MessageFacts.answer_of_repeats (h : MessageFacts env world)
    (hstep : MessageStep env world label after) {result : Except ChatError BuddyMessage}
    (hanswer : world.answer label = some (request, result)) {stored : BuddyMessage}
    (hstored : stored ∈ world.db.messages.rows) (heffective : world.now < stored.expiresAt)
    (hkey : request.UsesKey stored) (hrepeats : request.Repeats stored) :
    result = .ok stored := by
  cases hstep with
  | @refuse call refused error _ hrefused =>
      obtain ⟨rfl, rfl⟩ := Prod.mk.inj (Option.some.inj hanswer)
      rw [h.authorizeSend_eq_ok hstored hkey hrepeats] at hrefused
      exact absurd hrefused (by simp)
  | @commitSend call sent message messages hphase _ =>
      simp only [MessageWorld.answer, hphase, Option.some.injEq, Prod.mk.injEq] at hanswer
      rw [hanswer.1] at hphase
      exact absurd hkey (h.not_inserted hphase hstored)
  | @readExisting call conflicted createdAt hphase =>
      simp only [MessageWorld.answer, hphase, Option.some.injEq, Prod.mk.injEq] at hanswer
      obtain ⟨rfl, rfl⟩ := hanswer
      have hpast := h.phases call
      rw [hphase] at hpast
      exact readExistingMessage_eq_ok_iff.mpr
        ⟨h.findKey_eq hstored hkey, hrepeats, lt_of_le_of_lt hpast heffective⟩
  | _ => exact absurd hanswer (by simp [MessageWorld.answer])

/-- The answer to a call which uses the key of a message otherwise. -/
theorem MessageFacts.answer_of_reuse (h : MessageFacts env world)
    (hstep : MessageStep env world label after) {result : Except ChatError BuddyMessage}
    (hanswer : world.answer label = some (request, result)) {stored : BuddyMessage}
    (hstored : stored ∈ world.db.messages.rows) (hkey : request.UsesKey stored)
    (hother : ¬ request.Repeats stored) : ∃ error, result = .error error := by
  cases hstep with
  | @refuse call refused error _ _ =>
      obtain ⟨_, rfl⟩ := Prod.mk.inj (Option.some.inj hanswer)
      exact ⟨error, rfl⟩
  | @commitSend call sent message messages hphase _ =>
      simp only [MessageWorld.answer, hphase, Option.some.injEq, Prod.mk.injEq] at hanswer
      rw [hanswer.1] at hphase
      exact absurd hkey (h.not_inserted hphase hstored)
  | @readExisting call conflicted createdAt hphase =>
      simp only [MessageWorld.answer, hphase, Option.some.injEq, Prod.mk.injEq] at hanswer
      obtain ⟨rfl, rfl⟩ := hanswer
      cases hread : readExistingMessage world.db conflicted createdAt with
      | error error => exact ⟨error, rfl⟩
      | ok message =>
          obtain ⟨hfound, hrepeats, _⟩ := readExistingMessage_eq_ok_iff.mp hread
          rw [h.findKey_eq hstored hkey, Option.some.injEq] at hfound
          rw [hfound] at hother
          exact absurd hrepeats hother
  | _ => exact absurd hanswer (by simp [MessageWorld.answer])

/-- A returned message is stored after the step. -/
theorem MessageFacts.returned (h : MessageFacts env world)
    (hstep : MessageStep env world label after) {message : BuddyMessage}
    (hanswer : world.answer label = some (request, .ok message)) :
    message ∈ after.db.messages.rows ∧ request.UsesKey message ∧ request.Repeats message := by
  cases hstep with
  | refuse => exact absurd hanswer (by simp [MessageWorld.answer])
  | @commitSend call sent inserted messages hphase hmessages =>
      simp only [MessageWorld.answer, hphase, Option.some.injEq, Prod.mk.injEq,
        Except.ok.injEq] at hanswer
      obtain ⟨rfl, rfl⟩ := hanswer
      have hfacts := h.phases call
      rw [hphase] at hfacts
      obtain ⟨hinserts, _, _⟩ := hfacts
      have hmem : inserted ∈ messages.rows := by
        rw [(Table.insert?_eq_some_iff.mp hmessages).2]
        exact List.mem_cons_self
      exact ⟨hmem, ⟨hinserts.sender, hinserts.clientMessage⟩, hinserts.conversation,
        hinserts.body⟩
  | @readExisting call conflicted createdAt hphase =>
      simp only [MessageWorld.answer, hphase, Option.some.injEq, Prod.mk.injEq] at hanswer
      obtain ⟨rfl, hread⟩ := hanswer
      obtain ⟨hfind, hrepeats, _⟩ := readExistingMessage_eq_ok_iff.mp hread
      obtain ⟨hmem, hkey⟩ := findKey_mem hfind
      exact ⟨hmem, hkey, hrepeats⟩
  | _ => exact absurd hanswer (by simp [MessageWorld.answer])

/-- An effective message stays through a step. -/
theorem MessageStep.keeps_effective (hstep : MessageStep env world label after)
    {message : BuddyMessage} (hmessage : message ∈ world.db.messages.rows)
    (heffective : world.now < message.expiresAt) :
    ∃ kept ∈ after.db.messages.rows, kept.SameMessage message := by
  have hsame : message.SameMessage message := ⟨rfl, rfl, ⟨rfl, rfl⟩, rfl⟩
  cases hstep with
  | @commitSend call sent inserted messages hphase hmessages =>
      refine ⟨message, ?_, hsame⟩
      change message ∈ messages.rows
      rw [(Table.insert?_eq_some_iff.mp hmessages).2]
      exact List.mem_cons_of_mem _ hmessage
  | @commitAcknowledgement call ack snapshot ids hphase =>
      exact ⟨ack.readRow ids message, List.mem_map_of_mem hmessage, readRow_sameMessage⟩
  | @cleanup ids messages hdue hfree hrows =>
      refine ⟨message, ?_, hsame⟩
      change message ∈ messages.rows
      rw [hrows, List.mem_filter, decide_eq_true_eq]
      refine ⟨hmessage, fun hid => ?_⟩
      exact absurd heffective (not_lt.mpr (hdue message hmessage hid))
  | _ => exact ⟨message, hmessage, hsame⟩

/-- An effective message stays through a run. -/
theorem keeps_while_effective {stored : BuddyMessage} {later : MessageWorld}
    (hstored : stored ∈ world.db.messages.rows)
    (hrun : Reaches (· = world) (MessageStep env)
      (fun state _ => state.Effective stored.id) later) :
    ∃ kept ∈ later.db.messages.rows, kept.SameMessage stored := by
  induction hrun with
  | start hinit =>
      rw [hinit]
      exact ⟨stored, hstored, rfl, rfl, ⟨rfl, rfl⟩, rfl⟩
  | next _ heffective hstep ih =>
      obtain ⟨kept, hkept, hsame⟩ := ih
      obtain ⟨newer, hnewer, hnewerSame⟩ :=
        hstep.keeps_effective hkept (heffective kept hkept hsame.1)
      exact ⟨newer, hnewer, hnewerSame.trans hsame⟩

/-- No step of a call whose key is in use changes a row. -/
theorem MessageFacts.unchanged (h : MessageFacts env world) {call : Nat}
    (hstep : MessageStep env world label after) (hcall : label.call? = some call)
    (hrequest : (world.phase call).request? = some request)
    (hused : ∃ stored ∈ world.db.messages.rows, request.UsesKey stored) :
    after.db = world.db := by
  obtain ⟨stored, hstored, hkey⟩ := hused
  cases hstep with
  | @commitSend other sent inserted messages hphase hmessages =>
      obtain rfl := Option.some.inj hcall
      rw [hphase] at hrequest
      obtain rfl := Option.some.inj hrequest
      exact absurd hkey (h.not_inserted hphase hstored)
  | @commitAcknowledgement other ack snapshot ids hphase =>
      obtain rfl := Option.some.inj hcall
      rw [hphase] at hrequest
      exact absurd hrequest (by simp [MessagePhase.request?])
  | cleanup => exact absurd hcall (by simp [MessageLabel.call?])
  | _ => rfl

/-- Whatever sends with retries, acknowledgements and cleanups interleave: one row a key, the
same message for each repetition while it is effective, and a refusal without a change for any
other use of its key. -/
theorem send_idempotent (env : ChatEnvironment) :
    ∀ world, world.Reached env → SendIdempotent env world := by
  intro world hreached
  have hfacts := MessageFacts.reached hreached
  refine ⟨hfacts.keys, fun label after request message hstep hanswer =>
    hfacts.returned hstep hanswer, ?_, fun label after request result hstep hanswer stored hstored
      hkey hother => hfacts.answer_of_reuse hstep hanswer hstored hkey hother,
    fun label after call request hstep hcall hrequest hused =>
      hfacts.unchanged hstep hcall hrequest hused⟩
  intro stored hstored later hrun heffective label after request result hstep hanswer hkey
    hrepeats
  have hlater : MessageFacts env later := by
    refine Reaches.invariant ?_ ?_ hrun
    · intro state hstate
      rw [hstate]
      exact hfacts
    · intro state label after hstate _ hnext
      exact hstate.step hnext
  obtain ⟨kept, hkept, hsame⟩ := keeps_while_effective hstored hrun
  have hkeptKey : request.UsesKey kept :=
    ⟨hsame.2.2.1.1.trans hkey.1, hsame.2.2.1.2.trans hkey.2⟩
  have hkeptRepeats : request.Repeats kept :=
    ⟨hsame.2.1.trans hrepeats.1, hsame.2.2.2.trans hrepeats.2⟩
  have hresult := hlater.answer_of_repeats hstep hanswer hkept (heffective kept hkept hsame.1)
    hkeptKey hkeptRepeats
  exact ⟨kept, hresult, hsame⟩

end Answers

section Retries

/-- Another text under the key of the quick send. -/
def reusedSend : SendRequest := { quickSend with body := "other" }

/-- Either call passes the checks, and its insert meets the row of the key. -/
theorem authorizeSend_retried : authorizeSend lateDb quickSend = .ok () ∧
    authorizeSend lateDb reusedSend = .ok () := by decide +kernel

theorem insert_retried :
    insertBuddyMessage plainChatEnvironment lateDb (quickSend.attempt 3 lateInstant) =
        .ok none ∧
      insertBuddyMessage plainChatEnvironment lateDb (reusedSend.attempt 4 lateInstant) =
        .ok none := by decide +kernel

/-- After the two sends of the late run the quick one is repeated and its key is reused, up to
the second reads of both calls. -/
theorem retried_send_reached : ∃ world : MessageWorld, world.Reached plainChatEnvironment ∧
    world.phase 3 = .conflicted quickSend lateInstant ∧
      world.phase 4 = .conflicted reusedSend lateInstant ∧
        world.db = lateDb ∧ world.now = lateInstant := by
  obtain ⟨⟨db, now, drawn, phase⟩, hreached, _, hdb, hnow, _, hidle⟩ := late_send_reached
  dsimp only at hdb hnow hidle
  subst hdb hnow
  have hretry := hreached.next trivial
    (MessageStep.authorize (hidle 3 (by decide)) authorizeSend_retried.1 :
      MessageStep plainChatEnvironment _ (.authorize 3 quickSend) _)
  have hretryClock := hretry.next trivial
    (MessageStep.readClock rfl : MessageStep plainChatEnvironment _ (.readClock 3) _)
  have hretryConflict := hretryClock.next trivial
    (MessageStep.conflict rfl insert_retried.1 :
      MessageStep plainChatEnvironment _ (.conflict 3 3) _)
  have hreuse := hretryConflict.next trivial
    (MessageStep.authorize (hidle 4 (by decide)) authorizeSend_retried.2 :
      MessageStep plainChatEnvironment _ (.authorize 4 reusedSend) _)
  have hreuseClock := hreuse.next trivial
    (MessageStep.readClock rfl : MessageStep plainChatEnvironment _ (.readClock 4) _)
  have hreuseConflict := hreuseClock.next trivial
    (MessageStep.conflict rfl insert_retried.2 :
      MessageStep plainChatEnvironment _ (.conflict 4 4) _)
  exact ⟨_, hreuseConflict, rfl, rfl, rfl, rfl⟩

/-- The repeated send gets its first message, and the other text is refused. -/
theorem late_send_idempotent : ∃ world : MessageWorld,
    world.db = lateDb ∧ SendIdempotent plainChatEnvironment world ∧
      (∃ message, world.answer (.readExisting 3) = some (quickSend, .ok message) ∧
        message.SameMessage quickMessage) ∧
      ∃ error, world.answer (.readExisting 4) = some (reusedSend, .error error) := by
  obtain ⟨world, hreached, hretry, hreuse, hdb, hnow⟩ := retried_send_reached
  have hsafe := send_idempotent plainChatEnvironment world hreached
  have hstored : quickMessage ∈ world.db.messages.rows := by
    rw [hdb]
    decide
  have heffective : world.Effective quickMessage.id := by
    unfold MessageWorld.Effective
    rw [hdb, hnow]
    decide +kernel
  refine ⟨world, hdb, hsafe, ?_, ?_⟩
  · have hanswer : world.answer (.readExisting 3) =
        some (quickSend, readExistingMessage world.db quickSend lateInstant) := by
      simp only [MessageWorld.answer, hretry]
    obtain ⟨message, hmessage, hsame⟩ := hsafe.converges quickMessage hstored world (.start rfl)
      heffective (.readExisting 3) _ quickSend _ (.readExisting hretry) hanswer ⟨rfl, rfl⟩
      ⟨rfl, rfl⟩
    exact ⟨message, hmessage ▸ hanswer, hsame⟩
  · have hanswer : world.answer (.readExisting 4) =
        some (reusedSend, readExistingMessage world.db reusedSend lateInstant) := by
      simp only [MessageWorld.answer, hreuse]
    obtain ⟨error, herror⟩ := hsafe.refused (.readExisting 4) _ reusedSend _
      (.readExisting hreuse) hanswer quickMessage hstored ⟨rfl, rfl⟩
      fun hrepeats => absurd hrepeats.2 (by decide)
    exact ⟨error, herror ▸ hanswer⟩

end Retries

end BuddyWeb
