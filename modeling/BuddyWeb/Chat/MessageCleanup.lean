/-
The physical cleanup of expired messages, and the answers of chat requests with and
without it.
-/
import BuddyWeb.Chat.MessageRetention

namespace BuddyWeb

def defaultChatCleanupBatchSize : Int := 20

def maxChatCleanupBatchSize : Int := 100

inductive ChatCleanupError
  /-- The job refuses the batch size. -/
  | validation
  /-- The database function refuses the batch size. -/
  | invalidBatchSize
  | invalidTimestamp
  deriving DecidableEq, Repr

/-- One call of the cleanup job. -/
structure CleanupBatch where
  batchSize : Int
  cleanupNow : Option Instant
  statementTimestamp : Instant
  /-- The rows which other transactions hold locked. -/
  locked : List Uuid

/-- The instant up to which the batch looks for due rows. -/
def CleanupBatch.instant (batch : CleanupBatch) : Instant :=
  batch.cleanupNow.getD batch.statementTimestamp

/-- The rows which `SELECT ... FOR UPDATE SKIP LOCKED` finds due. -/
def dueMessages (db : ChatDb) (locked : List Uuid) (batchSize : Nat)
    (cleanupNow : Instant) : List BuddyMessage :=
  ((db.messages.rows.filter fun candidate =>
    decide (candidate.expiresAt ≤ cleanupNow) && decide (candidate.id ∉ locked)).insertionSort
      fun first second => toLex (first.expiresAt, first.id) ≤
        toLex (second.expiresAt, second.id)).take batchSize

/-- The database function with the timestamp of its statement. -/
def cleanupExpiredBuddyMessages (db : ChatDb) (locked : List Uuid)
    (statementTimestamp : Instant) (batchSize : Int) (cleanupNow : Instant) :
    Except ChatCleanupError (ChatDb × List Uuid) := do
  ensure (1 ≤ batchSize ∧ batchSize ≤ 100) .invalidBatchSize
  ensure (cleanupNow ≤ statementTimestamp) .invalidTimestamp
  let ids := (dueMessages db locked batchSize.toNat cleanupNow).map (·.id)
  return ({ db with messages := db.messages.delete fun message => message.id ∈ ids }, ids)

structure ChatCleanupReport where
  selected : Nat
  deleted : Nat
  deriving DecidableEq, Repr

/-- One short transaction of the job. -/
def processChatCleanupBatch (db : ChatDb) (batch : CleanupBatch) :
    Except ChatCleanupError (ChatDb × ChatCleanupReport) := do
  ensure (1 ≤ batch.batchSize ∧ batch.batchSize ≤ maxChatCleanupBatchSize) .validation
  let (after, deletedIds) ← cleanupExpiredBuddyMessages db batch.locked
    batch.statementTimestamp batch.batchSize batch.instant
  return (after, ⟨deletedIds.length, deletedIds.length⟩)

/-- The committed rows after a batch: a failed one is rolled back. -/
def ChatDb.cleanUp (db : ChatDb) (batch : CleanupBatch) : ChatDb :=
  match processChatCleanupBatch db batch with
  | .ok (after, _) => after
  | .error _ => db

def ChatDb.cleanUpAll (db : ChatDb) (batches : List CleanupBatch) : ChatDb :=
  batches.foldl ChatDb.cleanUp db

inductive MessageRequest
  | history (conversationId userId : Nat) (before : Option String) (pageSize : Nat)
  | unread (userId : Nat)
  | realtime (conversationId userId : Nat) (messageId : Uuid)
  | acknowledge (conversationId readerId : Nat) (throughMessageId : Uuid)

inductive MessageAnswer
  | history (page : Except ChatError BuddyMessagePage)
  | unread (summary : BuddyUnreadSummary)
  | realtime (message : Except ChatError (Option BuddyMessage))
  | acknowledge (markedReadCount : Except ChatError Nat)

/-- A request at an instant, and the cleanup batches which end before it begins and between
its two statements. -/
structure MessageEvent where
  before : List CleanupBatch
  request : MessageRequest
  now : Instant
  between : List CleanupBatch

/-- The request alone. -/
def MessageEvent.undisturbed (event : MessageEvent) : MessageEvent :=
  { event with before := [], between := [] }

/-- The rows after an update through a boundary. -/
def ChatDb.read (db : ChatDb) (conversationId readerId : Nat) (boundary : BuddyMessage)
    (now : Instant) : ChatDb :=
  { db with
    messages := db.messages.modify (markRead conversationId readerId boundary now)
      (markRead_key conversationId readerId boundary now) }

/-- The second statement of an acknowledgement, with the boundary which the first one found. -/
def markThrough (db : ChatDb) (conversationId readerId : Nat) (boundary : BuddyMessage)
    (now : Instant) : Except ChatError (ChatDb × Nat) := do
  let marked := db.messages.rows.filter
    (isAcknowledged conversationId readerId boundary now)
  ensure (∀ message ∈ marked, message.createdAt ≤ now) .integrity
  return (db.read conversationId readerId boundary now, marked.length)

theorem acknowledge_eq_statements (db : ChatDb) (conversationId readerId : Nat)
    (throughMessageId : Uuid) (now : Instant) :
    acknowledgeBuddyMessagesRead db conversationId readerId throughMessageId now =
      selectBoundary db conversationId readerId throughMessageId now >>= fun boundary =>
        markThrough db conversationId readerId boundary now :=
  rfl

/-- The rows after a request, and its answer.  Only the last statement of the reads sees
messages. -/
def ChatDb.serve (db : ChatDb) (event : MessageEvent) : ChatDb × MessageAnswer :=
  let first := db.cleanUpAll event.before
  let second := first.cleanUpAll event.between
  match event.request with
  | .history conversationId userId before pageSize =>
      (second, .history
        (listBuddyMessages second conversationId userId before pageSize event.now))
  | .unread userId => (second, .unread (getBuddyUnreadSummary second userId event.now))
  | .realtime conversationId userId messageId =>
      (second, .realtime
        (getRealtimeBuddyMessage second conversationId userId messageId event.now))
  | .acknowledge conversationId readerId throughMessageId =>
      match selectBoundary first conversationId readerId throughMessageId event.now >>=
          fun boundary => markThrough second conversationId readerId boundary event.now with
      | .ok (after, count) => (after, .acknowledge (.ok count))
      | .error error => (second, .acknowledge (.error error))

def ChatDb.answers (db : ChatDb) : List MessageEvent → List MessageAnswer
  | [] => []
  | event :: rest => (db.serve event).2 :: (db.serve event).1.answers rest

/-- No request is at an instant before that of a cleanup batch which precedes it. -/
def Timely : List CleanupBatch → List MessageEvent → Prop
  | _, [] => True
  | past, event :: rest =>
      (∀ batch ∈ past ++ event.before ++ event.between, batch.instant ≤ event.now) ∧
        Timely (past ++ event.before ++ event.between) rest

/-- No batch could have found the row due. -/
def BuddyMessage.outlives (batches : List CleanupBatch) (message : BuddyMessage) : Bool :=
  batches.all fun batch => decide (batch.instant < message.expiresAt)

theorem BuddyMessage.outlives_iff {batches : List CleanupBatch} {message : BuddyMessage} :
    message.outlives batches = true ↔
      ∀ batch ∈ batches, batch.instant < message.expiresAt := by
  simp [outlives, List.all_eq_true]

/-- Two stores are the same apart from messages which the filter leaves out. -/
structure AgreeOn (live : BuddyMessage → Bool) (db cleaned : ChatDb) : Prop where
  conversations : cleaned.conversations = db.conversations
  buddyMatches : cleaned.buddyMatches = db.buddyMatches
  messages : cleaned.messages.rows.filter live = db.messages.rows.filter live

namespace AgreeOn

variable {live narrower : BuddyMessage → Bool} {db cleaned : ChatDb}

theorem mono (h : AgreeOn live db cleaned) (himp : ∀ row, narrower row → live row) :
    AgreeOn narrower db cleaned := by
  have hfilter : ∀ rows : List BuddyMessage,
      rows.filter narrower = (rows.filter live).filter narrower := by
    intro rows
    rw [List.filter_filter]
    apply List.filter_congr
    intro row _
    cases hrow : narrower row with
    | false => simp
    | true => simp [himp row hrow]
  refine ⟨h.conversations, h.buddyMatches, ?_⟩
  rw [hfilter, h.messages, ← hfilter]

end AgreeOn

section Cleanup

theorem mem_dueMessages {db : ChatDb} {locked : List Uuid} {batchSize : Nat}
    {cleanupNow : Instant} {due : BuddyMessage}
    (h : due ∈ dueMessages db locked batchSize cleanupNow) :
    due ∈ db.messages.rows ∧ due.expiresAt ≤ cleanupNow ∧ due.id ∉ locked := by
  have hmem := List.mem_of_mem_take h
  rwa [List.mem_insertionSort, List.mem_filter, Bool.and_eq_true, decide_eq_true_eq,
    decide_eq_true_eq] at hmem

/-- What a batch which ends well has done. -/
theorem processChatCleanupBatch_ok {db after : ChatDb} {batch : CleanupBatch}
    {report : ChatCleanupReport} (h : processChatCleanupBatch db batch = .ok (after, report)) :
    batch.instant ≤ batch.statementTimestamp ∧
      after = { db with messages := db.messages.delete fun message =>
        message.id ∈ (dueMessages db batch.locked batch.batchSize.toNat
          batch.instant).map (·.id) } := by
  simp only [processChatCleanupBatch, cleanupExpiredBuddyMessages, except_bind_eq_ok_iff,
    ensure_eq_ok_iff, except_pure_eq_ok_iff, Prod.mk.injEq] at h
  obtain ⟨_, -, result, ⟨_, -, _, hinstant, rfl⟩, rfl, -⟩ := h
  exact ⟨hinstant, rfl⟩

/-- A batch which skips the locked rows is a cleanup step of the running system. -/
theorem cleanUp_step (env : ChatEnvironment) {world : MessageWorld} {batch : CleanupBatch}
    (hnow : batch.statementTimestamp ≤ world.now)
    (hlocked : ∀ id, id ∉ batch.locked → world.Unlocked id) :
    ∃ ids, MessageStep env world (.cleanup ids)
      { world with db := world.db.cleanUp batch } := by
  rw [ChatDb.cleanUp]
  split
  · rename_i after report hbatch
    obtain ⟨hinstant, hafter⟩ := processChatCleanupBatch_ok hbatch
    rw [hafter]
    refine ⟨(dueMessages world.db batch.locked batch.batchSize.toNat
      batch.instant).map (·.id), .cleanup ?_ ?_ ?_⟩
    · intro row hrow hid
      obtain ⟨due, hdue, hkey⟩ := List.mem_map.mp hid
      have hmem := mem_dueMessages hdue
      have hsame : due = row := Table.eq_of_key hmem.1 hrow (congrArg Fin.val hkey)
      rw [← hsame]
      exact hmem.2.1.trans (hinstant.trans hnow)
    · intro id hid
      obtain ⟨due, hdue, hkey⟩ := List.mem_map.mp hid
      rw [← hkey]
      exact hlocked due.id (mem_dueMessages hdue).2.2
    · simp only [Table.delete]
      apply List.filter_congr
      intro row _
      exact (decide_not ..).symm
  · refine ⟨[], .cleanup ?_ ?_ ?_⟩
    · intro row _ hid
      simp at hid
    · intro id hid
      simp at hid
    · simp

/-- A batch deletes only rows which are due at its instant. -/
theorem cleanUp_rows (db : ChatDb) (batch : CleanupBatch) :
    AgreeOn (fun row => decide (batch.instant < row.expiresAt)) db (db.cleanUp batch) := by
  rw [ChatDb.cleanUp]
  split
  · rename_i after report hbatch
    rw [(processChatCleanupBatch_ok hbatch).2]
    refine ⟨rfl, rfl, ?_⟩
    simp only [Table.delete, List.filter_filter]
    apply List.filter_congr
    intro row hrow
    have hkept : batch.instant < row.expiresAt →
        row.id ∉ (dueMessages db batch.locked batch.batchSize.toNat
          batch.instant).map (·.id) := by
      intro hlive hid
      obtain ⟨due, hdue, hkey⟩ := List.mem_map.mp hid
      have hmem := mem_dueMessages hdue
      have hsame : due = row := Table.eq_of_key hmem.1 hrow (congrArg Fin.val hkey)
      rw [hsame] at hmem
      exact absurd hlive (not_lt.mpr hmem.2.1)
    by_cases hlive : batch.instant < row.expiresAt
    · simp [hlive, hkept hlive]
    · simp [hlive]
  · exact ⟨rfl, rfl, rfl⟩

theorem AgreeOn.cleanUpAll {past : List CleanupBatch} {db cleaned : ChatDb}
    (h : AgreeOn (·.outlives past) db cleaned) (batches : List CleanupBatch) :
    AgreeOn (·.outlives (past ++ batches)) db (cleaned.cleanUpAll batches) := by
  induction batches generalizing past cleaned with
  | nil => rwa [List.append_nil]
  | cons batch rest ih =>
      have hbatch : AgreeOn (·.outlives (past ++ [batch])) db (cleaned.cleanUp batch) := by
        have hwide : AgreeOn (·.outlives (past ++ [batch])) db cleaned := by
          apply h.mono
          intro row hrow
          rw [BuddyMessage.outlives_iff] at hrow ⊢
          exact fun other hother => hrow other (List.mem_append_left _ hother)
        have hstep : AgreeOn (·.outlives (past ++ [batch])) cleaned
            (cleaned.cleanUp batch) := by
          apply (cleanUp_rows cleaned batch).mono
          intro row hrow
          rw [BuddyMessage.outlives_iff] at hrow
          exact decide_eq_true (hrow batch (by simp))
        exact ⟨hstep.conversations.trans hwide.conversations,
          hstep.buddyMatches.trans hwide.buddyMatches, hstep.messages.trans hwide.messages⟩
      have hrest := ih hbatch
      rwa [List.append_assoc, List.singleton_append] at hrest

end Cleanup

section Reads

variable {db cleaned : ChatDb} {now : Instant}

/-- The messages which are effective at an instant. -/
def effectiveAt (now : Instant) (message : BuddyMessage) : Bool :=
  decide (now < message.expiresAt)

theorem AgreeOn.effective {past : List CleanupBatch}
    (h : AgreeOn (·.outlives past) db cleaned)
    (hpast : ∀ batch ∈ past, batch.instant ≤ now) : AgreeOn (effectiveAt now) db cleaned := by
  apply h.mono
  intro row hrow
  rw [BuddyMessage.outlives_iff]
  intro batch hbatch
  exact lt_of_le_of_lt (hpast batch hbatch) (of_decide_eq_true hrow)

/-- A filter of effective rows selects the same rows of both stores. -/
theorem AgreeOn.filter_eq (h : AgreeOn (effectiveAt now) db cleaned)
    {filter : BuddyMessage → Bool} (himp : ∀ row, filter row → effectiveAt now row) :
    cleaned.messages.rows.filter filter = db.messages.rows.filter filter :=
  (h.mono himp).messages

theorem AgreeOn.select?_eq (h : AgreeOn (effectiveAt now) db cleaned)
    {filter : BuddyMessage → Bool} (himp : ∀ row, filter row → effectiveAt now row) :
    cleaned.messages.select? filter = db.messages.select? filter := by
  have hhead : ∀ table : Table BuddyMessage,
      table.select? filter = (table.rows.filter filter).head? := by
    intro table
    rw [Table.select?, List.head?_filter]
  rw [hhead, hhead, h.filter_eq himp]

theorem AgreeOn.isParticipant (h : AgreeOn (effectiveAt now) db cleaned)
    (conversation : BuddyConversation) (userId : Nat) :
    cleaned.isParticipant conversation userId = db.isParticipant conversation userId := by
  rw [ChatDb.isParticipant, ChatDb.isParticipant, h.buddyMatches]

theorem AgreeOn.requireAuthorized (h : AgreeOn (effectiveAt now) db cleaned)
    (conversationId userId : Nat) :
    requireAuthorizedActiveConversation cleaned conversationId userId =
      requireAuthorizedActiveConversation db conversationId userId :=
  requireAuthorized_congr ⟨h.conversations, h.buddyMatches⟩ conversationId userId

theorem AgreeOn.effectiveMessages (h : AgreeOn (effectiveAt now) db cleaned)
    (conversationId : Nat) :
    cleaned.effectiveMessages conversationId now = db.effectiveMessages conversationId now := by
  apply h.filter_eq
  intro row hrow
  exact (Bool.and_eq_true_iff.mp hrow).2

theorem AgreeOn.listBuddyMessages (h : AgreeOn (effectiveAt now) db cleaned)
    (conversationId userId : Nat) (before : Option String) (pageSize : Nat) :
    listBuddyMessages cleaned conversationId userId before pageSize now =
      listBuddyMessages db conversationId userId before pageSize now := by
  simp only [BuddyWeb.listBuddyMessages, h.requireAuthorized, h.effectiveMessages]

theorem AgreeOn.getRealtimeBuddyMessage (h : AgreeOn (effectiveAt now) db cleaned)
    (conversationId userId : Nat) (messageId : Uuid) :
    getRealtimeBuddyMessage cleaned conversationId userId messageId now =
      getRealtimeBuddyMessage db conversationId userId messageId now := by
  simp only [BuddyWeb.getRealtimeBuddyMessage, h.requireAuthorized, h.effectiveMessages]

theorem AgreeOn.getBuddyUnreadSummary (h : AgreeOn (effectiveAt now) db cleaned)
    (userId : Nat) :
    getBuddyUnreadSummary cleaned userId now = getBuddyUnreadSummary db userId now := by
  simp only [BuddyWeb.getBuddyUnreadSummary, h.conversations, h.isParticipant,
    ChatDb.unreadMessages, h.effectiveMessages]

theorem AgreeOn.selectBoundary (h : AgreeOn (effectiveAt now) db cleaned)
    (conversationId readerId : Nat) (throughMessageId : Uuid) :
    selectBoundary cleaned conversationId readerId throughMessageId now =
      selectBoundary db conversationId readerId throughMessageId now := by
  rw [BuddyWeb.selectBoundary, BuddyWeb.selectBoundary, h.requireAuthorized]
  congr 1
  apply h.select?_eq
  intro row hrow
  simp only [Bool.and_eq_true] at hrow
  exact hrow.1.2

end Reads

section Acknowledged

variable {db cleaned : ChatDb} {now : Instant} {conversationId readerId : Nat}
  {boundary : BuddyMessage}

theorem isAcknowledged_effective {row : BuddyMessage}
    (h : isAcknowledged conversationId readerId boundary now row = true) :
    effectiveAt now row = true := by
  simp only [isAcknowledged, Bool.and_eq_true] at h
  exact h.1.2

/-- Reading a row leaves it effective for as long as the request looks back. -/
theorem markRead_outlives {past : List CleanupBatch}
    (hpast : ∀ batch ∈ past, batch.instant ≤ now) (row : BuddyMessage) :
    (markRead conversationId readerId boundary now row).outlives past = row.outlives past := by
  rw [markRead]
  split
  · rename_i hmarked
    have hrow : now < row.expiresAt := of_decide_eq_true (isAcknowledged_effective hmarked)
    have hdeadline : now < leastDeadline row.expiresAt now := by
      have hval := leastDeadline_val row.expiresAt now
      change now.val < (leastDeadline row.expiresAt now).val
      rw [hval]
      have hlt : now.val < row.expiresAt.val := hrow
      simp only [buddyMessageReadRetention, microsecondsPerDay]
      omega
    have hold : row.outlives past = true := BuddyMessage.outlives_iff.mpr
      fun batch hbatch => lt_of_le_of_lt (hpast batch hbatch) hrow
    rw [hold, BuddyMessage.outlives_iff]
    exact fun batch hbatch => lt_of_le_of_lt (hpast batch hbatch) hdeadline
  · rfl

theorem AgreeOn.read {past : List CleanupBatch}
    (h : AgreeOn (·.outlives past) db cleaned)
    (hpast : ∀ batch ∈ past, batch.instant ≤ now) :
    AgreeOn (·.outlives past) (db.read conversationId readerId boundary now)
      (cleaned.read conversationId readerId boundary now) := by
  have hmap : ∀ rows : List BuddyMessage,
      (rows.map (markRead conversationId readerId boundary now)).filter
          (·.outlives past) =
        (rows.filter (·.outlives past)).map
          (markRead conversationId readerId boundary now) := by
    intro rows
    rw [List.filter_map]
    congr 1
    apply List.filter_congr
    intro row _
    exact markRead_outlives hpast row
  refine ⟨h.conversations, h.buddyMatches, ?_⟩
  simp only [ChatDb.read, Table.modify, hmap, h.messages]

/-- Marking through the same boundary counts the same rows, and the stores still agree. -/
theorem AgreeOn.markThrough {past : List CleanupBatch}
    (h : AgreeOn (·.outlives past) db cleaned)
    (hpast : ∀ batch ∈ past, batch.instant ≤ now) :
    (∃ error, markThrough cleaned conversationId readerId boundary now = .error error ∧
        markThrough db conversationId readerId boundary now = .error error) ∨
      ∃ after afterCleaned count,
        markThrough cleaned conversationId readerId boundary now =
          .ok (afterCleaned, count) ∧
        markThrough db conversationId readerId boundary now = .ok (after, count) ∧
        AgreeOn (·.outlives past) after afterCleaned := by
  have hmarked : cleaned.messages.rows.filter
      (isAcknowledged conversationId readerId boundary now) = db.messages.rows.filter
        (isAcknowledged conversationId readerId boundary now) :=
    (h.effective hpast).filter_eq fun row hrow => isAcknowledged_effective hrow
  by_cases hcheck : ∀ message ∈ db.messages.rows.filter
      (isAcknowledged conversationId readerId boundary now), message.createdAt ≤ now
  · right
    refine ⟨db.read conversationId readerId boundary now,
      cleaned.read conversationId readerId boundary now, (db.messages.rows.filter
        (isAcknowledged conversationId readerId boundary now)).length, ?_, ?_, h.read hpast⟩
    · simp only [BuddyWeb.markThrough, hmarked]
      rw [ensure_of_true _ hcheck]
      rfl
    · simp only [BuddyWeb.markThrough]
      rw [ensure_of_true _ hcheck]
      rfl
  · left
    refine ⟨.integrity, ?_, ?_⟩
    · simp only [BuddyWeb.markThrough, hmarked, except_bind_eq_error_iff]
      exact .inl (ensure_eq_error_iff.mpr ⟨hcheck, rfl⟩)
    · simp only [BuddyWeb.markThrough, except_bind_eq_error_iff]
      exact .inl (ensure_eq_error_iff.mpr ⟨hcheck, rfl⟩)

end Acknowledged

/-- One request answers the same with and without the batches around it, and the stores
agree afterwards on what no batch could have found due. -/
theorem AgreeOn.serve {past : List CleanupBatch} {db cleaned : ChatDb} {event : MessageEvent}
    (h : AgreeOn (·.outlives past) db cleaned)
    (hpast : ∀ batch ∈ past ++ event.before ++ event.between, batch.instant ≤ event.now) :
    (cleaned.serve event).2 = (db.serve event.undisturbed).2 ∧
      AgreeOn (·.outlives (past ++ event.before ++ event.between))
        (db.serve event.undisturbed).1 (cleaned.serve event).1 := by
  have hfirst := h.cleanUpAll event.before
  have hsecond := hfirst.cleanUpAll event.between
  have hread := hsecond.effective hpast
  have hboundary := hfirst.effective fun batch hbatch =>
    hpast batch (List.mem_append_left _ hbatch)
  obtain ⟨before, request, now, between⟩ := event
  cases request with
  | history conversationId userId cursor pageSize =>
      exact ⟨congrArg MessageAnswer.history
        (hread.listBuddyMessages conversationId userId cursor pageSize), hsecond⟩
  | unread userId =>
      exact ⟨congrArg MessageAnswer.unread (hread.getBuddyUnreadSummary userId), hsecond⟩
  | realtime conversationId userId messageId =>
      exact ⟨congrArg MessageAnswer.realtime
        (hread.getRealtimeBuddyMessage conversationId userId messageId), hsecond⟩
  | acknowledge conversationId readerId throughMessageId =>
      have hselect := hboundary.selectBoundary conversationId readerId throughMessageId
      simp only [ChatDb.serve, MessageEvent.undisturbed, ChatDb.cleanUpAll, List.foldl_nil]
      simp only [ChatDb.cleanUpAll] at hselect hsecond
      rw [hselect]
      cases BuddyWeb.selectBoundary db conversationId readerId throughMessageId now with
      | error error => exact ⟨rfl, hsecond⟩
      | ok boundary =>
          simp only [bind, Except.bind]
          rcases hsecond.markThrough hpast with
            ⟨error, hcleaned, hplain⟩ | ⟨after, afterCleaned, count, hcleaned, hplain, hafter⟩
          · rw [hcleaned, hplain]
            exact ⟨rfl, hsecond⟩
          · rw [hcleaned, hplain]
            exact ⟨rfl, hafter⟩

theorem AgreeOn.answers {past : List CleanupBatch} {db cleaned : ChatDb}
    {events : List MessageEvent} (h : AgreeOn (·.outlives past) db cleaned)
    (htimely : Timely past events) :
    cleaned.answers events = db.answers (events.map MessageEvent.undisturbed) := by
  induction events generalizing past db cleaned with
  | nil => rfl
  | cons event rest ih =>
      have hserve := h.serve htimely.1
      rw [List.map_cons, ChatDb.answers, ChatDb.answers, hserve.1,
        ih hserve.2 htimely.2]

/-- The requests of any history get the answers which they get without the cleanup, when
none of them is at an instant before that of a batch which precedes it. -/
theorem cleanup_unobservable (db : ChatDb) {events : List MessageEvent}
    (htimely : Timely [] events) :
    db.answers events = db.answers (events.map MessageEvent.undisturbed) := by
  have hself : AgreeOn (·.outlives []) db db := ⟨rfl, rfl, rfl⟩
  exact hself.answers htimely

/-- The job finds the slow message due, and the quick one a microsecond later. -/
def slowDueBatch : CleanupBatch :=
  ⟨defaultChatCleanupBatchSize, none, slowMessage.expiresAt, []⟩

def cleanedEvents : List MessageEvent :=
  [⟨[slowDueBatch], .history 1 2 none defaultChatMessagePageSize, slowMessage.expiresAt, []⟩,
    ⟨[], .unread 2, slowMessage.expiresAt, [slowDueBatch]⟩,
    ⟨[], .acknowledge 1 2 quickId, slowMessage.expiresAt, [slowDueBatch]⟩,
    ⟨[], .realtime 1 2 slowId, slowMessage.expiresAt, []⟩]

theorem cleanup_unobservable_due :
    (lateDb.cleanUp slowDueBatch).messages.rows = [quickMessage] ∧
      lateDb.answers cleanedEvents =
        lateDb.answers (cleanedEvents.map MessageEvent.undisturbed) := by
  constructor
  · decide +kernel
  · apply cleanup_unobservable
    simp [Timely, cleanedEvents, slowDueBatch, CleanupBatch.instant]

end BuddyWeb
