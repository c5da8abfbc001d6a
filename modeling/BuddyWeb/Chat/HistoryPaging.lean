/-
Following the cursors of a chat history while messages are sent and read.
-/
import BuddyWeb.Chat.Messages
import BuddyWeb.Lib.KeysetPaging
import BuddyWeb.Lib.Run

namespace BuddyWeb

/-- A page read: the committed rows, the clock and the page. -/
structure HistoryRead where
  db : ChatDb
  now : Instant
  page : BuddyMessagePage

/-- Page reads which follow the cursors to the last page, with any requests committed
between them. -/
inductive HistoryWalk (env : ChatEnvironment) (conversationId userId : Nat) :
    ChatDb → Option String → List HistoryRead → Prop
  | last {db : ChatDb} {before : Option String} {pageSize : Nat} {now : Instant}
      {page : BuddyMessagePage}
      (hpage : listBuddyMessages db conversationId userId before pageSize now = .ok page)
      (hnext : page.nextBefore = none) :
      HistoryWalk env conversationId userId db before [⟨db, now, page⟩]
  | more {db later : ChatDb} {before : Option String} {pageSize : Nat} {now : Instant}
      {page : BuddyMessagePage} {cursor : String} {reads : List HistoryRead}
      (hpage : listBuddyMessages db conversationId userId before pageSize now = .ok page)
      (hnext : page.nextBefore = some cursor)
      (hlater : Reaches (· = db) (ChatDb.Step env) (fun _ _ => True) later)
      (hrest : HistoryWalk env conversationId userId later (some cursor) reads) :
      HistoryWalk env conversationId userId db before (⟨db, now, page⟩ :: reads)

section Page

variable {db : ChatDb} {conversationId userId pageSize : Nat} {now : Instant}

theorem isBeforeCursor_eq (cursor : Option (Instant × Uuid)) (message : BuddyMessage) :
    isBeforeCursor cursor message =
      decide (OlderThan (cursor.map toLex) message.position) := by
  rcases cursor with _ | ⟨createdAt, id⟩
  · simp [isBeforeCursor, OlderThan]
  · simp [isBeforeCursor, OlderThan, BuddyMessage.position, Prod.Lex.toLex_lt_toLex]

/-- A served page is the keyset page before the decoded cursor. -/
theorem listBuddyMessages_spec {before : Option String} {page : BuddyMessagePage}
    (h : listBuddyMessages db conversationId userId before pageSize now = .ok page) :
    (1 ≤ pageSize ∧ pageSize ≤ maxChatMessagePageSize) ∧
    ∃ cursor, decodeBefore before = .ok cursor ∧
      page.items = (readPage BuddyMessage.position
        (db.effectiveMessages conversationId now) (cursor.map toLex) pageSize).items ∧
      page.nextBefore = ((readPage BuddyMessage.position
        (db.effectiveMessages conversationId now) (cursor.map toLex) pageSize).next).map
          fun position => encodeBuddyMessageCursor (ofLex position).1 (ofLex position).2 := by
  simp only [listBuddyMessages, except_bind_eq_ok_iff, ensure_eq_ok_iff,
    except_pure_eq_ok_iff] at h
  obtain ⟨_, hsize, _, _, cursor, hcursor, rfl⟩ := h
  have hwindow : ((db.effectiveMessages conversationId now).filter
      (isBeforeCursor cursor)).insertionSort
        (fun first second => second.position ≤ first.position) =
      newestFirst BuddyMessage.position (db.effectiveMessages conversationId now)
        (cursor.map toLex) := by
    rw [show isBeforeCursor cursor =
      fun message => decide (OlderThan (cursor.map toLex) message.position) from
        funext (isBeforeCursor_eq cursor)]
    rfl
  refine ⟨hsize, cursor, hcursor, ?_, ?_⟩
  · rw [hwindow]
    rfl
  · rw [hwindow]
    simp only [readPage]
    split
    · rw [Option.map_map]
      rfl
    · rfl

theorem position_nodup (db : ChatDb) (conversationId : Nat) (now : Instant) :
    ((db.effectiveMessages conversationId now).map BuddyMessage.position).Nodup := by
  have hkeys : (db.messages.rows.map BuddyMessage.position).Nodup := by
    refine List.Nodup.of_map (fun position => (ofLex position).2.val) ?_
    rw [List.map_map]
    exact db.messages.nodup
  exact hkeys.sublist (List.filter_sublist.map _)

/-- The cursor of a page decodes to the instant and the id of its oldest row. -/
theorem decode_nextBefore {before : Option String} {page : BuddyMessagePage} {cursor : String}
    (h : listBuddyMessages db conversationId userId before pageSize now = .ok page)
    (hnext : page.nextBefore = some cursor)
    (hinstants : ∀ message ∈ db.messages.rows, 0 ≤ message.createdAt.val) :
    ∃ oldest, page.items.head? = some oldest ∧
      decodeBuddyMessageCursor cursor = .ok (oldest.createdAt, oldest.id) := by
  obtain ⟨_, decoded, _, hitems, hcursor⟩ := listBuddyMessages_spec h
  rw [hnext] at hcursor
  obtain ⟨position, hposition, rfl⟩ := Option.map_eq_some_iff.mp hcursor.symm
  obtain ⟨oldest, hhead, rfl⟩ := next_eq_head hposition
  have hmem := (mem_items (List.mem_of_mem_head? hhead)).1
  refine ⟨oldest, hitems ▸ hhead, ?_⟩
  exact decode_encodeBuddyMessageCursor oldest.id
    (hinstants oldest (List.mem_of_mem_filter hmem))

end Page

section Writes

variable {env : ChatEnvironment} {db after : ChatDb}

/-- An accepted send returns the stored row of an earlier attempt or inserts its own. -/
theorem sendBuddyMessage_cases {attempt : SendAttempt} {message : BuddyMessage}
    (h : sendBuddyMessage env db attempt = .ok (after, message)) :
    (after = db ∧ message ∈ db.messages.rows) ∨
      (after.conversations = db.conversations ∧
        after.messages.rows = message :: db.messages.rows ∧
          ∃ expiresAt, message = attempt.message expiresAt) := by
  simp only [sendBuddyMessage, except_bind_eq_ok_iff, ensure_eq_ok_iff] at h
  obtain ⟨body, _, _, _, expiresAt, _, _, _, h⟩ := h
  split at h
  · simp only [except_bind_eq_ok_iff, require_eq_ok_iff, except_pure_eq_ok_iff,
      Prod.mk.injEq] at h
    obtain ⟨messages, hinsert, rfl, rfl⟩ := h
    exact .inr ⟨rfl, (Table.insert?_eq_some_iff.mp hinsert).2, expiresAt, rfl⟩
  · rename_i existing hselect
    simp only [except_bind_eq_ok_iff, ensure_eq_ok_iff, except_pure_eq_ok_iff,
      Prod.mk.injEq] at h
    obtain ⟨_, _, rfl, rfl⟩ := h
    exact .inl ⟨rfl, Table.select?_mem hselect⟩

/-- The message of an accepted send has the body of the attempt. -/
theorem sendBuddyMessage_body {attempt : SendAttempt} {message : BuddyMessage}
    (h : sendBuddyMessage env db attempt = .ok (after, message)) :
    message.body = attempt.body := by
  simp only [sendBuddyMessage, validateBuddyMessageBody, except_bind_eq_ok_iff,
    ensure_eq_ok_iff, except_pure_eq_ok_iff] at h
  obtain ⟨_, ⟨_, _, _, _, rfl⟩, _, _, _, _, _, _, h⟩ := h
  split at h
  · simp only [except_bind_eq_ok_iff, except_pure_eq_ok_iff, Prod.mk.injEq] at h
    obtain ⟨_, _, _, rfl⟩ := h
    rfl
  · simp only [except_bind_eq_ok_iff, ensure_eq_ok_iff, except_pure_eq_ok_iff,
      Prod.mk.injEq] at h
    obtain ⟨_, hsame, _, rfl⟩ := h
    exact hsame.2.1

/-- The message of an accepted send has the sender and the client id of the attempt. -/
theorem sendBuddyMessage_identity {attempt : SendAttempt} {message : BuddyMessage}
    (h : sendBuddyMessage env db attempt = .ok (after, message)) :
    message.senderId = attempt.senderId ∧
      message.clientMessageId = attempt.clientMessageId := by
  simp only [sendBuddyMessage, except_bind_eq_ok_iff] at h
  obtain ⟨_, _, _, _, _, _, _, _, h⟩ := h
  split at h
  · simp only [except_bind_eq_ok_iff, except_pure_eq_ok_iff, Prod.mk.injEq] at h
    obtain ⟨_, _, _, rfl⟩ := h
    exact ⟨rfl, rfl⟩
  · rename_i existing hselect
    simp only [except_bind_eq_ok_iff, except_pure_eq_ok_iff, Prod.mk.injEq] at h
    obtain ⟨_, _, _, rfl⟩ := h
    simpa using Table.select?_filter hselect

/-- A send keeps every row and adds its own at most. -/
theorem sendBuddyMessage_rows {attempt : SendAttempt} {message : BuddyMessage}
    (h : sendBuddyMessage env db attempt = .ok (after, message)) :
    message ∈ after.messages.rows ∧ (after = db ∨
      after.messages.rows = message :: db.messages.rows) := by
  rcases sendBuddyMessage_cases h with ⟨rfl, hmem⟩ | ⟨_, hrows, _⟩
  · exact ⟨hmem, .inl rfl⟩
  · exact ⟨by simp [hrows], .inr hrows⟩

theorem markRead_position (conversationId readerId : Nat) (boundary : BuddyMessage)
    (now : Instant) (message : BuddyMessage) :
    (markRead conversationId readerId boundary now message).position =
      message.position := by
  unfold markRead
  split <;> rfl

theorem acknowledge_rows {conversationId readerId count : Nat} {throughMessageId : Uuid}
    {now : Instant}
    (h : acknowledgeBuddyMessagesRead db conversationId readerId throughMessageId now =
      .ok (after, count)) :
    after.conversations = db.conversations ∧ ∃ boundary, after.messages.rows =
      db.messages.rows.map (markRead conversationId readerId boundary now) := by
  simp only [acknowledgeBuddyMessagesRead, except_bind_eq_ok_iff, except_pure_eq_ok_iff,
    Prod.mk.injEq] at h
  obtain ⟨boundary, _, _, _, rfl, _⟩ := h
  exact ⟨rfl, boundary, rfl⟩

/-- A message keeps its place in the history through every committed request. -/
theorem ChatDb.Step.position {label : ChatLabel} (hstep : ChatDb.Step env db label after)
    {message : BuddyMessage} (hmessage : message ∈ db.messages.rows) :
    ∃ kept ∈ after.messages.rows, kept.position = message.position := by
  rw [ChatDb.Step] at hstep
  subst hstep
  cases label with
  | send attempt =>
      simp only [ChatDb.after]
      split
      · rename_i sent row hsend
        rcases (sendBuddyMessage_rows hsend).2 with rfl | hrows
        · exact ⟨message, hmessage, rfl⟩
        · exact ⟨message, by simp [hrows, hmessage], rfl⟩
      · exact ⟨message, hmessage, rfl⟩
  | acknowledge conversationId readerId throughMessageId now =>
      simp only [ChatDb.after]
      split
      · rename_i marked count hmarked
        obtain ⟨_, boundary, hrows⟩ := acknowledge_rows hmarked
        exact ⟨_, by rw [hrows]; exact List.mem_map_of_mem hmessage,
          markRead_position conversationId readerId boundary now message⟩
      · exact ⟨message, hmessage, rfl⟩

theorem ChatDb.position_of_reaches {later : ChatDb}
    (hlater : Reaches (· = db) (ChatDb.Step env) (fun _ _ => True) later)
    {message : BuddyMessage} (hmessage : message ∈ db.messages.rows) :
    ∃ kept ∈ later.messages.rows, kept.position = message.position := by
  induction hlater with
  | start hinit =>
      subst hinit
      exact ⟨message, hmessage, rfl⟩
  | next hreach _ hstep ih =>
      obtain ⟨kept, hkept, hposition⟩ := ih
      obtain ⟨newer, hnewer, hsame⟩ := hstep.position hkept
      exact ⟨newer, hnewer, hsame.trans hposition⟩

end Writes

namespace HistoryWalk

variable {env : ChatEnvironment} {conversationId userId : Nat} {db : ChatDb}
  {before : Option String} {reads : List HistoryRead}

/-- The rows which a page read selects from. -/
def rowsOf (conversationId : Nat) (read : HistoryRead) : List BuddyMessage :=
  read.db.effectiveMessages conversationId read.now

/-- Followed cursors decode to the positions which the pages ended at, so that the walk
is a keyset traversal. -/
theorem traversal {cursor : Option (Instant × Uuid)}
    (hwalk : HistoryWalk env conversationId userId db before reads)
    (hcursor : decodeBefore before = .ok cursor)
    (hinstants : ∀ read ∈ reads, ∀ message ∈ read.db.messages.rows,
      0 ≤ message.createdAt.val) :
    ∃ pages, Traversal BuddyMessage.position (cursor.map toLex)
        (reads.map (rowsOf conversationId)) pages ∧
      pages.map (·.items) = reads.map (·.page.items) := by
  induction hwalk generalizing cursor with
  | last hpage hnext =>
      obtain ⟨hsize, decoded, hdecoded, hitems, hnextEq⟩ := listBuddyMessages_spec hpage
      rw [hcursor, Except.ok.injEq] at hdecoded
      subst hdecoded
      rw [hnext] at hnextEq
      have hnone := Option.map_eq_none_iff.mp hnextEq.symm
      exact ⟨_, .last hsize.1 hnone, by simp [rowsOf, hitems]⟩
  | @more db later before pageSize now page text reads hpage hnext hlater hrest ih =>
      obtain ⟨hsize, decoded, hdecoded, hitems, hnextEq⟩ := listBuddyMessages_spec hpage
      rw [hcursor, Except.ok.injEq] at hdecoded
      subst hdecoded
      obtain ⟨oldest, hhead, holdest⟩ := decode_nextBefore hpage hnext
        (hinstants _ List.mem_cons_self)
      rw [hnext] at hnextEq
      obtain ⟨position, hposition, _⟩ := Option.map_eq_some_iff.mp hnextEq.symm
      have hsame : position = oldest.position := by
        obtain ⟨found, hfound, rfl⟩ := next_eq_head hposition
        rw [← hitems, hhead, Option.some_inj] at hfound
        rw [hfound]
      have hbefore : decodeBefore (some text) = .ok (some (oldest.createdAt, oldest.id)) := by
        simp [decodeBefore, holdest, Except.map]
      obtain ⟨pages, hpages, hmap⟩ := ih hbefore
        fun read hread => hinstants read (List.mem_cons_of_mem _ hread)
      refine ⟨_ :: pages, .more hsize.1 hposition ?_, by simp [rowsOf, hitems, hmap]⟩
      rw [hsame]
      exact hpages

/-- A message which every read finds keeps one place in the history. -/
theorem exists_position {id : Uuid}
    (hwalk : HistoryWalk env conversationId userId db before reads)
    (hfound : ∀ read ∈ reads, ∃ message ∈ read.db.messages.rows, message.id = id) :
    ∃ position, (∀ message ∈ db.messages.rows, message.id = id →
        message.position = position) ∧
      ∀ read ∈ reads, ∀ message ∈ read.db.messages.rows, message.id = id →
        message.position = position := by
  have hunique : ∀ (db : ChatDb), ∀ first ∈ db.messages.rows, ∀ second ∈ db.messages.rows,
      first.id = second.id → first = second := by
    intro db first hfirst second hsecond hid
    exact Table.eq_of_key hfirst hsecond (congrArg Fin.val hid)
  induction hwalk with
  | @last db before pageSize now page hpage hnext =>
      obtain ⟨message, hmessage, hid⟩ := hfound _ List.mem_cons_self
      have hsame : ∀ other ∈ db.messages.rows, other.id = id →
          other.position = message.position := by
        intro other hother hotherId
        rw [hunique db other hother message hmessage (hotherId.trans hid.symm)]
      refine ⟨message.position, hsame, ?_⟩
      intro read hread
      rw [List.mem_singleton] at hread
      subst hread
      exact hsame
  | @more db later before pageSize now page text reads hpage hnext hlater hrest ih =>
      obtain ⟨message, hmessage, hid⟩ := hfound _ List.mem_cons_self
      obtain ⟨position, hlaterPosition, hreads⟩ := ih fun read hread =>
        hfound read (List.mem_cons_of_mem _ hread)
      obtain ⟨kept, hkept, hkeptPosition⟩ := ChatDb.position_of_reaches hlater hmessage
      have hkeptId : kept.id = id := by
        have hids := congrArg (fun place => (ofLex place).2) hkeptPosition
        exact hids.trans hid
      have hsame : ∀ other ∈ db.messages.rows, other.id = id →
          other.position = position := by
        intro other hother hotherId
        rw [hunique db other hother message hmessage (hotherId.trans hid.symm),
          ← hkeptPosition]
        exact hlaterPosition kept hkept hkeptId
      refine ⟨position, hsame, ?_⟩
      intro read hread
      rcases List.mem_cons.mp hread with rfl | hread
      · exact hsame
      · exact hreads read hread

theorem page_of_mem {read : HistoryRead}
    (hwalk : HistoryWalk env conversationId userId db before reads)
    (hread : read ∈ reads) :
    ∃ before pageSize,
      listBuddyMessages read.db conversationId userId before pageSize read.now =
        .ok read.page := by
  induction hwalk with
  | last hpage hnext =>
      rw [List.mem_singleton] at hread
      subst hread
      exact ⟨_, _, hpage⟩
  | more hpage hnext hlater hrest ih =>
      rcases List.mem_cons.mp hread with rfl | hread
      · exact ⟨_, _, hpage⟩
      · exact ih hread

theorem item_mem {read : HistoryRead} {item : BuddyMessage}
    (hwalk : HistoryWalk env conversationId userId db before reads)
    (hread : read ∈ reads) (hitem : item ∈ read.page.items) :
    item ∈ read.db.messages.rows := by
  obtain ⟨before, pageSize, hpage⟩ := hwalk.page_of_mem hread
  obtain ⟨_, cursor, _, hitems, _⟩ := listBuddyMessages_spec hpage
  rw [hitems] at hitem
  exact List.mem_of_mem_filter (mem_items hitem).1

end HistoryWalk

/-- Following the cursors from the newest page yields every message which is effective at
each read exactly once, in pages which are strictly older and each chronological, and
every cursor stands for the oldest row of its page. -/
theorem history_paging {env : ChatEnvironment} {conversationId userId : Nat} {db : ChatDb}
    {reads : List HistoryRead}
    (hwalk : HistoryWalk env conversationId userId db none reads)
    (hinstants : ∀ read ∈ reads, ∀ message ∈ read.db.messages.rows,
      0 ≤ message.createdAt.val) :
    (∀ id, (∀ read ∈ reads, ∃ message ∈
        read.db.effectiveMessages conversationId read.now, message.id = id) →
        ((reads.flatMap (·.page.items)).map (·.id)).count id = 1) ∧
      reads.Pairwise (fun newer older => ∀ first ∈ newer.page.items,
        ∀ second ∈ older.page.items, second.position < first.position) ∧
      (∀ read ∈ reads, read.page.items.Pairwise
        fun first second => first.position < second.position) ∧
      ∀ read ∈ reads, ∀ cursor ∈ read.page.nextBefore, ∃ oldest,
        read.page.items.head? = some oldest ∧
          decodeBuddyMessageCursor cursor = .ok (oldest.createdAt, oldest.id) := by
  obtain ⟨pages, htraversal, hpages⟩ := hwalk.traversal rfl hinstants
  have hnodup : ∀ rows ∈ reads.map (HistoryWalk.rowsOf conversationId),
      (rows.map BuddyMessage.position).Nodup := by
    intro rows hrows
    obtain ⟨read, _, rfl⟩ := List.mem_map.mp hrows
    exact position_nodup read.db conversationId read.now
  have hyielded : pages.flatMap (·.items) = reads.flatMap (·.page.items) := by
    rw [List.flatMap_def, hpages, ← List.flatMap_def]
  refine ⟨?_, ?_, ?_, ?_⟩
  · intro id heffective
    obtain ⟨position, _, hposition⟩ := hwalk.exists_position fun read hread => by
      obtain ⟨message, hmessage, hid⟩ := heffective read hread
      exact ⟨message, List.mem_of_mem_filter hmessage, hid⟩
    have hpresent : ∀ rows ∈ reads.map (HistoryWalk.rowsOf conversationId),
        position ∈ rows.map BuddyMessage.position := by
      intro rows hrows
      obtain ⟨read, hread, rfl⟩ := List.mem_map.mp hrows
      obtain ⟨message, hmessage, hid⟩ := heffective read hread
      exact List.mem_map.mpr ⟨message, hmessage,
        hposition read hread message (List.mem_of_mem_filter hmessage) hid⟩
    have hcount := htraversal.countP_eq_one hnodup (by simp [OlderThan]) hpresent
    rw [hyielded] at hcount
    rw [← hcount, List.count, List.countP_map]
    refine List.countP_congr fun item hitem => ?_
    obtain ⟨read, hread, hitem⟩ := List.mem_flatMap.mp hitem
    have hstored := hwalk.item_mem hread hitem
    obtain ⟨message, hmessage, hid⟩ := heffective read hread
    have hmessagePosition := hposition read hread message
      (List.mem_of_mem_filter hmessage) hid
    simp only [Function.comp_apply, beq_iff_eq, decide_eq_true_eq]
    constructor
    · exact hposition read hread item hstored
    · intro hsame
      have hids := congrArg (fun place => (ofLex place).2)
        (hsame.trans hmessagePosition.symm)
      exact hids.trans hid
  · have hpairwise := htraversal.pairwise hnodup
    have hitems : (pages.map (·.items)).Pairwise fun newer older =>
        ∀ first ∈ newer, ∀ second ∈ older,
          BuddyMessage.position second < BuddyMessage.position first :=
      List.pairwise_map.mpr hpairwise
    rw [hpages] at hitems
    exact List.pairwise_map.mp hitems
  · intro read hread
    obtain ⟨before, pageSize, hpage⟩ := hwalk.page_of_mem hread
    obtain ⟨_, cursor, _, hitems, _⟩ := listBuddyMessages_spec hpage
    rw [hitems]
    exact items_pairwise (position_nodup read.db conversationId read.now)
  · intro read hread cursor hcursor
    obtain ⟨before, pageSize, hpage⟩ := hwalk.page_of_mem hread
    exact decode_nextBefore hpage hcursor (hinstants read hread)

namespace ChatWitness

def env : ChatEnvironment where
  isDatabaseSpace := isPySpace

def signal : CompatibilitySignalExplanation := ⟨0, 0, 0⟩

/-- The active match of the users 7 and 8. -/
def buddyMatch : BuddyMatch where
  id := 1
  participantOneUserId := 7
  participantTwoUserId := 8
  participantOneProfileId := 17
  participantTwoProfileId := 18
  status := .active
  acceptedInvitationId := 1
  semesterId := 1
  score := 0
  scoreBreakdown := ⟨0, signal, signal, signal, signal, signal⟩
  activatedAt := 0
  deletedAt := none

def conversation : BuddyConversation := ⟨1, 1, 1, 0⟩

def instant (microseconds : Int) (h : firstInstant ≤ microseconds ∧
    microseconds ≤ lastInstant) : Instant :=
  ⟨microseconds, h⟩

def message (id : Uuid) : BuddyMessage where
  id := id
  conversationId := 1
  senderId := 8
  clientMessageId := id.val
  body := "Hallo"
  createdAt := instant 0 instant_zero
  readAt := none
  expiresAt := instant buddyMessageMaxRetention instant_maxRetention

theorem buddyMatch_keys : ([buddyMatch].map Keyed.key).Nodup := by
  decide

/-- Two messages of one instant. -/
def db : ChatDb where
  messages := ⟨[message 2, message 1], by decide⟩
  conversations := ⟨[conversation], by decide⟩
  buddyMatches := ⟨[buddyMatch], buddyMatch_keys⟩

def reply : SendAttempt where
  conversationId := 1
  senderId := 7
  clientMessageId := 3
  body := "Servus"
  freshId := 3
  now := instant 5 (by decide)

/-- The reply is sent between the two page reads. -/
def reads : List HistoryRead :=
  [⟨db, instant 1 instant_one, ⟨[message 2], some "AQAAAAAAAAAAAAAAAAAAAAAAAAAAAAAAAg"⟩⟩,
    ⟨db.after env (.send reply), instant 6 (by decide), ⟨[message 1], none⟩⟩]

theorem walk : HistoryWalk env 1 7 db none reads := by
  have hfirst : listBuddyMessages db 1 7 none 1 (instant 1 (by decide)) =
      .ok ⟨[message 2], some "AQAAAAAAAAAAAAAAAAAAAAAAAAAAAAAAAg"⟩ := by decide +kernel
  have hsecond : listBuddyMessages (db.after env (.send reply)) 1 7
      (some "AQAAAAAAAAAAAAAAAAAAAAAAAAAAAAAAAg") 1 (instant 6 (by decide)) =
        .ok ⟨[message 1], none⟩ := by decide +kernel
  exact .more hfirst rfl (.next (.start rfl) trivial rfl) (.last hsecond rfl)

theorem history_paging_two_pages :
    ((reads.flatMap (·.page.items)).map (·.id)).count 1 = 1 := by
  have hpaging := history_paging walk (by decide +kernel)
  exact hpaging.1 1 (by decide +kernel)

end ChatWitness

end BuddyWeb
