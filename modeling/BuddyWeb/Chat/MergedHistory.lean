/-
What the conversation view shows: the loaded history pages, then the live messages, and the
incoming message which it acknowledges as the latest.
-/
import BuddyWeb.Chat.MessageTrace
import BuddyWeb.Chat.WireContract
import BuddyWeb.Lib.KeepFirst

namespace BuddyWeb

/-- The pages, which come newest first, in chronological order, then the live messages; a
message which is there already is left out. -/
def mergeChatMessages (pages : Option (List ChatMessagePageResponse))
    (liveMessages : List ChatMessageResponse) : List ChatMessageResponse :=
  keepFirst (·.id) [] ((pages.getD []).reverse.flatMap (·.items) ++ liveMessages)

/-- The last message of the other participant. -/
def latestIncomingMessageId (messages : List ChatMessageResponse) : Option String :=
  (messages.reverse.find? fun message => message.sender = .buddy).map (·.id)

/-- A page as it is written to a participant. -/
def historyPageResponse (wire : WireFormat) (currentUserId pageSize : Nat)
    (page : BuddyMessagePage) : ChatMessagePageResponse where
  items := page.items.map (chatMessageResponse wire currentUserId)
  nextBefore := page.nextBefore
  pageSize := pageSize

/-- Pages which are read by following the cursors, at later and later times of a run.  The
reader may stop before the oldest page. -/
inductive HistoryPages {env : ChatEnvironment} (run : MessageTrace env)
    (conversationId userId : Nat) : Nat → Option String → List BuddyMessagePage → Prop
  | stop {time : Nat} {before : Option String} :
      HistoryPages run conversationId userId time before []
  | last {time later pageSize : Nat} {before : Option String} {now : Instant}
      {page : BuddyMessagePage} (hle : time ≤ later)
      (hpage : listBuddyMessages (run.world later).db conversationId userId before pageSize now =
        .ok page)
      (hnext : page.nextBefore = none) :
      HistoryPages run conversationId userId time before [page]
  | more {time later pageSize : Nat} {before : Option String} {now : Instant}
      {page : BuddyMessagePage} {cursor : String} {pages : List BuddyMessagePage}
      (hle : time ≤ later)
      (hpage : listBuddyMessages (run.world later).db conversationId userId before pageSize now =
        .ok page)
      (hnext : page.nextBefore = some cursor)
      (hrest : HistoryPages run conversationId userId later (some cursor) pages) :
      HistoryPages run conversationId userId time before (page :: pages)

/-- The rows of the pages in chronological order. -/
def pageRows (pages : List BuddyMessagePage) : List BuddyMessage :=
  pages.reverse.flatMap (·.items)

/-- The live messages which no page holds, at their first arrival. -/
def newLiveMessages (pages : List BuddyMessagePage) (live : List BuddyMessage) :
    List BuddyMessage :=
  keepFirst BuddyMessage.id ((pageRows pages).map BuddyMessage.id) live

/-- The view shows each available message once and in the server's order, and acknowledges the
newest incoming one. -/
structure MergedInOrder (wire : WireFormat) (userId : Nat) (rows : List BuddyMessage)
    (merged : List ChatMessageResponse) : Prop where
  shown : ∃ messages : List BuddyMessage,
    merged = messages.map (chatMessageResponse wire userId) ∧
      (messages.map BuddyMessage.id).Nodup ∧ (∀ message ∈ messages, message ∈ rows) ∧
        (∀ row ∈ rows, ∃ message ∈ messages, message.id = row.id) ∧
          messages.Pairwise fun first second => first.position < second.position
  acknowledged : ∀ row ∈ rows, row.senderId ≠ userId → ∃ latest ∈ rows,
    latest.senderId ≠ userId ∧
      latestIncomingMessageId merged = some (uuidText latest.id.val) ∧
        row.position ≤ latest.position

/-- The live messages which no page holds arrive in the server's order, after every row of the
pages. -/
structure LiveInOrder (pages : List BuddyMessagePage) (live : List BuddyMessage) : Prop where
  arrivals : (newLiveMessages pages live).Pairwise fun first second =>
    first.position < second.position
  after_pages : ∀ row ∈ pageRows pages, ∀ message ∈ newLiveMessages pages live,
    row.position < message.position

section Pages

variable {env : ChatEnvironment} {run : MessageTrace env} {conversationId userId time : Nat}
  {before : Option String} {pages : List BuddyMessagePage}

theorem pageRows_cons (page : BuddyMessagePage) (pages : List BuddyMessagePage) :
    pageRows (page :: pages) = pageRows pages ++ page.items := by
  simp [pageRows]

/-- A row of a page is a stored row before its cursor. -/
theorem listBuddyMessages_mem {db : ChatDb} {pageSize : Nat} {now : Instant}
    {page : BuddyMessagePage} {cursor : Option (Instant × Uuid)}
    (hpage : listBuddyMessages db conversationId userId before pageSize now = .ok page)
    (hcursor : decodeBefore before = .ok cursor) {row : BuddyMessage} (hrow : row ∈ page.items) :
    row ∈ db.messages.rows ∧ OlderThan (cursor.map toLex) row.position := by
  obtain ⟨_, decoded, hdecoded, hitems, _⟩ := listBuddyMessages_spec hpage
  rw [hcursor, Except.ok.injEq] at hdecoded
  rw [hitems, ← hdecoded] at hrow
  obtain ⟨hmem, holder⟩ := mem_items hrow
  exact ⟨List.mem_of_mem_filter hmem, holder⟩

/-- The next cursor of a page stands for its oldest row. -/
theorem decode_next (run : MessageTrace env) {later pageSize : Nat} {now : Instant}
    {page : BuddyMessagePage} {cursor : String}
    (hpage : listBuddyMessages (run.world later).db conversationId userId before pageSize now =
      .ok page) (hnext : page.nextBefore = some cursor) :
    ∃ oldest, page.items.head? = some oldest ∧
      decodeBefore (some cursor) = .ok (some (oldest.createdAt, oldest.id)) := by
  obtain ⟨oldest, hhead, hdecode⟩ := decode_nextBefore hpage hnext (run.createdAt_nonneg later)
  refine ⟨oldest, hhead, ?_⟩
  simp [decodeBefore, hdecode, Except.map]

/-- A chronological page starts with its oldest row. -/
theorem position_head_le {items : List BuddyMessage} {oldest row : BuddyMessage}
    (hsorted : items.Pairwise fun first second => first.position < second.position)
    (hhead : items.head? = some oldest) (hrow : row ∈ items) :
    oldest.position ≤ row.position := by
  cases items with
  | nil => exact absurd hrow (by simp)
  | cons head rest =>
      obtain rfl := Option.some.inj hhead
      rcases List.mem_cons.mp hrow with rfl | hrest
      · exact le_refl _
      · exact (List.pairwise_cons.mp hsorted).1 row hrest |>.le

theorem page_sorted {db : ChatDb} {pageSize : Nat} {now : Instant} {page : BuddyMessagePage}
    (hpage : listBuddyMessages db conversationId userId before pageSize now = .ok page) :
    page.items.Pairwise fun first second => first.position < second.position := by
  obtain ⟨_, cursor, _, hitems, _⟩ := listBuddyMessages_spec hpage
  rw [hitems]
  exact items_pairwise (position_nodup db conversationId now)

/-- The rows of the pages are stored rows before the cursor. -/
theorem HistoryPages.mem_rows (h : HistoryPages run conversationId userId time before pages)
    {cursor : Option (Instant × Uuid)} (hcursor : decodeBefore before = .ok cursor) :
    ∀ row ∈ pageRows pages, (∃ later, row ∈ (run.world later).db.messages.rows) ∧
      OlderThan (cursor.map toLex) row.position := by
  induction h generalizing cursor with
  | stop =>
      intro row hrow
      exact absurd hrow (by simp [pageRows])
  | @last time later pageSize before now page _ hpage _ =>
      intro row hrow
      rw [pageRows_cons] at hrow
      obtain ⟨hmem, holder⟩ := listBuddyMessages_mem hpage hcursor (by simpa [pageRows] using hrow)
      exact ⟨⟨later, hmem⟩, holder⟩
  | @more time later pageSize before now page text pages _ hpage hnext _ ih =>
      intro row hrow
      rw [pageRows_cons] at hrow
      obtain ⟨oldest, hhead, hdecode⟩ := decode_next run hpage hnext
      rcases List.mem_append.mp hrow with hrest | hitem
      · obtain ⟨hmem, holder⟩ := ih hdecode row hrest
        have holdest := (listBuddyMessages_mem hpage hcursor (List.mem_of_mem_head? hhead)).2
        exact ⟨hmem, holdest.trans holder⟩
      · obtain ⟨hmem, holder⟩ := listBuddyMessages_mem hpage hcursor hitem
        exact ⟨⟨later, hmem⟩, holder⟩

/-- The rows of the pages are in chronological order. -/
theorem HistoryPages.sorted (h : HistoryPages run conversationId userId time before pages) :
    (pageRows pages).Pairwise fun first second => first.position < second.position := by
  induction h with
  | stop => simp [pageRows]
  | @last time later pageSize before now page _ hpage _ =>
      rw [pageRows_cons]
      simpa [pageRows] using page_sorted hpage
  | @more time later pageSize before now page text pages _ hpage hnext hrest ih =>
      rw [pageRows_cons, List.pairwise_append]
      refine ⟨ih, page_sorted hpage, fun older holder newer hnewer => ?_⟩
      obtain ⟨oldest, hhead, hdecode⟩ := decode_next run hpage hnext
      have hlt := (hrest.mem_rows hdecode older holder).2 _ rfl
      exact lt_of_lt_of_le hlt (position_head_le (page_sorted hpage) hhead hnewer)

end Pages

section Merge

variable {wire : WireFormat} {userId : Nat} {rows messages : List BuddyMessage}

/-- Messages are written with ids of their own. -/
theorem chatMessageResponse_id_eq_iff {first second : BuddyMessage} :
    (chatMessageResponse wire userId first).id = (chatMessageResponse wire userId second).id ↔
      first.id = second.id := by
  constructor
  · intro h
    exact Fin.ext (uuidText_injective first.id.isLt second.id.isLt h)
  · intro h
    simp only [chatMessageResponse, h]

/-- The view shows the rows of the pages and the new live messages. -/
theorem mergeChatMessages_eq (pageSize : Nat) (loaded : Option (List BuddyMessagePage))
    (live : List BuddyMessage)
    (hnodup : ((pageRows (loaded.getD [])).map BuddyMessage.id).Nodup) :
    mergeChatMessages (loaded.map (List.map (historyPageResponse wire userId pageSize)))
        (live.map (chatMessageResponse wire userId)) =
      (pageRows (loaded.getD []) ++ newLiveMessages (loaded.getD []) live).map
        (chatMessageResponse wire userId) := by
  have hpages : ((loaded.map (List.map (historyPageResponse wire userId pageSize))).getD
      []).reverse.flatMap (·.items) =
        (pageRows (loaded.getD [])).map (chatMessageResponse wire userId) := by
    cases loaded with
    | none => rfl
    | some pages =>
        simp only [Option.map_some, Option.getD_some, pageRows, List.map_flatMap,
          ← List.map_reverse, List.flatMap_map, historyPageResponse]
  have hkept : keepFirst BuddyMessage.id [] (pageRows (loaded.getD []) ++ live) =
      pageRows (loaded.getD []) ++ newLiveMessages (loaded.getD []) live := by
    rw [keepFirst_append, keepFirst_eq_self hnodup (by simp), List.append_nil]
    rfl
  rw [mergeChatMessages, hpages, ← List.map_append, ← hkept]
  apply keepFirst_map
  · intro entry _
    simp
  · intro first _ second _
    exact chatMessageResponse_id_eq_iff

/-- Of messages in chronological order the last incoming one is the newest. -/
theorem latestIncoming_of_sorted (wire : WireFormat)
    (hsorted : messages.Pairwise fun first second => first.position < second.position)
    {row : BuddyMessage} (hrow : row ∈ messages) (hincoming : row.senderId ≠ userId) :
    ∃ latest ∈ messages, latest.senderId ≠ userId ∧
      latestIncomingMessageId (messages.map (chatMessageResponse wire userId)) =
        some (uuidText latest.id.val) ∧ row.position ≤ latest.position := by
  have hsender : ∀ message : BuddyMessage,
      (chatMessageResponse wire userId message).sender = .buddy ↔ message.senderId ≠ userId := by
    intro message
    unfold chatMessageResponse
    by_cases hself : message.senderId = userId
    · simp [hself]
    · simp [hself]
  induction messages using List.reverseRecOn with
  | nil => exact absurd hrow (by simp)
  | append_singleton rest last ih =>
      obtain ⟨hrest, _, hlast⟩ := List.pairwise_append.mp hsorted
      by_cases hlastIncoming : last.senderId = userId
      · have hmem : row ∈ rest := by
          rcases List.mem_append.mp hrow with hmem | hsame
          · exact hmem
          · rw [List.mem_singleton.mp hsame] at hincoming
            exact absurd hlastIncoming hincoming
        obtain ⟨latest, hlatest, hlatestIncoming, hid, hle⟩ := ih hrest hmem
        refine ⟨latest, List.mem_append_left _ hlatest, hlatestIncoming, ?_, hle⟩
        rw [← hid]
        simp [latestIncomingMessageId, hsender, hlastIncoming]
      · refine ⟨last, by simp, hlastIncoming, ?_, ?_⟩
        · simp [latestIncomingMessageId, hlastIncoming, chatMessageResponse]
        · rcases List.mem_append.mp hrow with hmem | hsame
          · exact (hlast row hmem last (by simp)).le
          · rw [List.mem_singleton.mp hsame]

/-- Messages with the same ids have the same order. -/
theorem pairwise_position_congr {first second : List BuddyMessage}
    (hids : first.map BuddyMessage.id = second.map BuddyMessage.id)
    (hplaces : ∀ left ∈ first, ∀ right ∈ second, left.id = right.id →
      left.position = right.position)
    (hsorted : second.Pairwise fun left right => left.position < right.position) :
    first.Pairwise fun left right => left.position < right.position := by
  have hpositions : first.map BuddyMessage.position = second.map BuddyMessage.position := by
    apply List.ext_getElem
    · simpa using congrArg List.length hids
    · intro index hfirst hsecond
      rw [List.getElem_map, List.getElem_map]
      apply hplaces _ (List.getElem_mem _) _ (List.getElem_mem _)
      have hget := List.getElem_of_eq hids (by simpa using hfirst)
      simpa using hget
  have hmapped : (second.map BuddyMessage.position).Pairwise (· < ·) :=
    List.pairwise_map.mpr hsorted
  rw [← hpositions] at hmapped
  exact List.pairwise_map.mp hmapped

/-- Messages in one order have different ids. -/
theorem nodup_ids_of_sorted {rows : List BuddyMessage}
    (hplaces : ∀ first ∈ rows, ∀ second ∈ rows, first.id = second.id →
      first.position = second.position)
    (hsorted : rows.Pairwise fun first second => first.position < second.position) :
    (rows.map BuddyMessage.id).Nodup := by
  rw [List.Nodup, List.pairwise_map]
  apply hsorted.imp_of_mem
  intro first second hfirst hsecond hlt hid
  rw [hplaces first hfirst second hsecond hid] at hlt
  exact absurd hlt (lt_irrefl _)

/-- A message of the pages or of the socket is shown with its id. -/
theorem exists_shown_id {pages : List BuddyMessagePage} {live : List BuddyMessage}
    {row : BuddyMessage} (hrow : row ∈ pageRows pages ++ live) :
    ∃ message ∈ pageRows pages ++ newLiveMessages pages live, message.id = row.id := by
  by_cases hpage : row.id ∈ (pageRows pages).map BuddyMessage.id
  · obtain ⟨message, hmessage, hid⟩ := List.mem_map.mp hpage
    exact ⟨message, List.mem_append_left _ hmessage, hid⟩
  · have hmem : row ∈ live := by
      rcases List.mem_append.mp hrow with hrowPage | hmem
      · exact absurd (List.mem_map_of_mem hrowPage) hpage
      · exact hmem
    obtain ⟨message, hmessage, hid⟩ := List.mem_map.mp
      (mem_map_keepFirst.mpr ⟨List.mem_map_of_mem hmem, hpage⟩)
    exact ⟨message, List.mem_append_right _ hmessage, hid⟩

end Merge

/-- The view is in order exactly when the live messages which no page holds arrive in order
after the pages. -/
theorem merged_in_order_iff {env : ChatEnvironment} {run : MessageTrace env}
    {conversationId userId time : Nat} {loaded : Option (List BuddyMessagePage)}
    {live : List BuddyMessage}
    (hpages : HistoryPages run conversationId userId time none (loaded.getD []))
    (hlive : ∀ message ∈ live, ∃ time, message ∈ (run.world time).db.messages.rows ∧
      message.conversationId = conversationId) (wire : WireFormat) (pageSize : Nat) :
    MergedInOrder wire userId (pageRows (loaded.getD []) ++ live)
        (mergeChatMessages (loaded.map (List.map (historyPageResponse wire userId pageSize)))
          (live.map (chatMessageResponse wire userId))) ↔
      LiveInOrder (loaded.getD []) live := by
  have hstored : ∀ row ∈ pageRows (loaded.getD []) ++ live,
      ∃ time, row ∈ (run.world time).db.messages.rows := by
    intro row hrow
    rcases List.mem_append.mp hrow with hpage | hmem
    · exact (hpages.mem_rows rfl row hpage).1
    · obtain ⟨time, hrowTime, _⟩ := hlive row hmem
      exact ⟨time, hrowTime⟩
  have hplace : ∀ first ∈ pageRows (loaded.getD []) ++ live,
      ∀ second ∈ pageRows (loaded.getD []) ++ live, first.id = second.id →
        first.position = second.position := by
    intro first hfirst second hsecond hid
    obtain ⟨firstTime, hfirstRow⟩ := hstored first hfirst
    obtain ⟨secondTime, hsecondRow⟩ := hstored second hsecond
    exact (run.place_of_id hsecondRow hfirstRow hid).2
  have hsorted := hpages.sorted
  have hnodup : ((pageRows (loaded.getD [])).map BuddyMessage.id).Nodup :=
    nodup_ids_of_sorted (fun first hfirst second hsecond => hplace first
      (List.mem_append_left _ hfirst) second (List.mem_append_left _ hsecond)) hsorted
  rw [mergeChatMessages_eq pageSize loaded live hnodup]
  have hkeptIds : ∀ row, (row ∈ pageRows (loaded.getD []) ++
      newLiveMessages (loaded.getD []) live) → row ∈ pageRows (loaded.getD []) ++ live := by
    intro row hrow
    rcases List.mem_append.mp hrow with hpage | hnew
    · exact List.mem_append_left _ hpage
    · exact List.mem_append_right _ (mem_of_mem_keepFirst hnew)
  constructor
  · intro hmerged
    obtain ⟨messages, hsame, _, hmem, _, hordered⟩ := hmerged.shown
    have hids : (pageRows (loaded.getD []) ++ newLiveMessages (loaded.getD []) live).map
        BuddyMessage.id = messages.map BuddyMessage.id := by
      have hinjective : Function.Injective fun id : Uuid => uuidText id.val := by
        intro first second hid
        exact Fin.ext (uuidText_injective first.isLt second.isLt hid)
      have hwritten := congrArg (List.map ChatMessageResponse.id) hsame
      rw [List.map_map, List.map_map] at hwritten
      apply List.map_injective_iff.mpr hinjective
      rw [List.map_map, List.map_map]
      exact hwritten
    have hwhole := pairwise_position_congr hids
      (fun left hleft right hright hid =>
        hplace left (hkeptIds left hleft) right (hmem right hright) hid) hordered
    obtain ⟨_, harrivals, hafter⟩ := List.pairwise_append.mp hwhole
    exact ⟨harrivals, hafter⟩
  · intro horder
    have hwhole : (pageRows (loaded.getD []) ++ newLiveMessages (loaded.getD []) live).Pairwise
        fun first second => first.position < second.position :=
      List.pairwise_append.mpr ⟨hsorted, horder.arrivals, horder.after_pages⟩
    refine ⟨⟨_, rfl, ?_, hkeptIds, fun _ => exists_shown_id, hwhole⟩,
      fun row hrow hincoming => ?_⟩
    · exact nodup_ids_of_sorted (fun first hfirst second hsecond =>
        hplace first (hkeptIds first hfirst) second (hkeptIds second hsecond)) hwhole
    · obtain ⟨message, hmessage, hid⟩ := exists_shown_id hrow
      obtain ⟨messageTime, hmessageRow⟩ := hstored message (hkeptIds message hmessage)
      obtain ⟨rowTime, hrowRow⟩ := hstored row hrow
      obtain ⟨hsender, hposition⟩ := run.place_of_id hrowRow hmessageRow hid
      rw [← hsender] at hincoming
      obtain ⟨latest, hlatest, hlatestIncoming, hlatestId, hle⟩ :=
        latestIncoming_of_sorted wire hwhole hmessage hincoming
      rw [hposition] at hle
      exact ⟨latest, hkeptIds latest hlatest, hlatestIncoming, hlatestId, hle⟩

section OutOfOrder

/-- A trace of the slow send, from the world without messages. -/
theorem exists_late_trace : ∃ (run : MessageTrace plainChatEnvironment) (last : Nat),
    run.world 0 = quietWorld ∧ (run.world last).db = lateDb := by
  obtain ⟨world, hreached, _, hdb, _⟩ := late_send_run
  obtain ⟨trace, hinit, htrace, last, hlast⟩ := hreached.exists_trace
  have hepoch : 0 ≤ (trace 0).now.val := by
    rw [hinit]
    exact le_refl _
  have hinitial : (trace 0).Initial := by
    rw [hinit]
    exact ⟨rfl, rfl, fun _ => rfl⟩
  refine ⟨⟨trace, hinitial, htrace, hepoch⟩, last, hinit, ?_⟩
  change (trace last).db = lateDb
  rw [hlast last (le_refl _), hdb]

def plainWire : WireFormat := ⟨fun _ => true, fun _ => "", fun _ => true, fun _ => none⟩

/-- The page which is read before the first message. -/
def emptyPage : BuddyMessagePage := ⟨[], none⟩

theorem emptyPage_read {run : MessageTrace plainChatEnvironment}
    (hstart : run.world 0 = quietWorld) : HistoryPages run 1 2 0 none [emptyPage] := by
  have hpage : listBuddyMessages (run.world 0).db 1 2 none 50 earlyInstant = .ok emptyPage := by
    rw [hstart]
    rfl
  exact .last (le_refl _) hpage rfl

/-- The two messages of the late run are stored in the conversation. -/
theorem late_messages_stored {run : MessageTrace plainChatEnvironment} {last : Nat}
    (hlast : (run.world last).db = lateDb) {message : BuddyMessage}
    (hmessage : message = slowMessage ∨ message = quickMessage) :
    ∃ time, message ∈ (run.world time).db.messages.rows ∧ message.conversationId = 1 := by
  refine ⟨last, ?_⟩
  rw [hlast]
  rcases hmessage with rfl | rfl <;> decide

def replySend : SendRequest := ⟨1, 2, 1, "reply"⟩

def replyMessage : BuddyMessage :=
  ⟨3, 1, 2, 1, "reply", lateInstant, none, quickMessage.expiresAt⟩

def repliedDb : ChatDb :=
  { lateDb with messages := ⟨[replyMessage, slowMessage, quickMessage], by decide⟩ }

/-- A trace of the late run which goes on with an answer of the other participant. -/
theorem exists_reply_trace : ∃ (run : MessageTrace plainChatEnvironment) (first last : Nat),
    (run.world first).db = lateDb ∧ (run.world last).db = repliedDb := by
  obtain ⟨⟨db, now, drawn, phase⟩, hreached, hmarked, hdb, hnow, hdrawn, hidle⟩ := late_send_run
  dsimp only at hmarked hdb hnow hdrawn hidle
  subst hdb hnow hdrawn
  have hauthorized : authorizeSend lateDb replySend = .ok () := by decide +kernel
  have hfresh : (3 : Uuid) ∉ [slowId, quickId] := by decide
  have hrow : insertBuddyMessage plainChatEnvironment lateDb (replySend.attempt 3 lateInstant) =
      .ok (some replyMessage) := by rfl
  have hstart : Reaches (· = (⟨lateDb, lateInstant, [slowId, quickId], phase⟩ : MessageWorld))
      (MessageStep plainChatEnvironment) (fun _ _ => True) _ := .start rfl
  have hreply := hstart.next trivial
    (MessageStep.authorize (hidle 3 (by decide)) hauthorized :
      MessageStep plainChatEnvironment _ (.authorize 3 replySend) _)
  have hclock := hreply.next trivial
    (MessageStep.readClock rfl : MessageStep plainChatEnvironment _ (.readClock 3) _)
  have hinsert := hclock.next trivial
    (MessageStep.insert rfl hfresh (by
      intro other pending message hphase
      by_cases hother : other = 3
      · rw [hother] at hphase
        cases hphase
      · have hsame : phase other = .inserted pending message := by
          rw [← hphase, MessageWorld.setPhase_phase_of_ne _ _ hother,
            MessageWorld.setPhase_phase_of_ne _ _ hother]
        by_cases hmark : other = 2
        · rw [hmark, hmarked] at hsame
          cases hsame
        · rw [hidle other hmark] at hsame
          cases hsame) (by exact hrow) :
      MessageStep plainChatEnvironment _ (.insert 3 3) _)
  have hcommitted := hinsert.next trivial
    (MessageStep.commitSend rfl (by rfl) : MessageStep plainChatEnvironment _ (.commitSend 3) _)
  obtain ⟨trace, hinit, htrace, first, last, _, hfirst, hlast⟩ :=
    hreached.exists_trace_through hcommitted
  have hepoch : 0 ≤ (trace 0).now.val := by
    rw [hinit]
    exact le_refl _
  have hinitial : (trace 0).Initial := by
    rw [hinit]
    exact ⟨rfl, rfl, fun _ => rfl⟩
  refine ⟨⟨trace, hinitial, htrace, hepoch⟩, first, last, ?_, ?_⟩
  · change (trace first).db = lateDb
    rw [hfirst]
  · change (trace last).db = repliedDb
    rw [hlast last (le_refl _)]
    rfl

/-- The page which is read before the answer. -/
def latePage : BuddyMessagePage := ⟨[slowMessage, quickMessage], none⟩

/-- Of two live messages after a page the first one is on the page, and the other is shown
below it. -/
theorem ordered_arrivals_in_order : MergedInOrder plainWire 2
    (pageRows [latePage] ++ [quickMessage, replyMessage])
    (mergeChatMessages (some [historyPageResponse plainWire 2 50 latePage])
      ([quickMessage, replyMessage].map (chatMessageResponse plainWire 2))) := by
  obtain ⟨run, first, last, hfirst, hlast⟩ := exists_reply_trace
  have hpage : listBuddyMessages (run.world first).db 1 2 none 50 lateInstant = .ok latePage := by
    rw [hfirst]
    rfl
  have hpages : HistoryPages run 1 2 first none ((some [latePage]).getD []) :=
    .last (le_refl _) hpage rfl
  have horder : LiveInOrder [latePage] [quickMessage, replyMessage] :=
    ⟨by decide +kernel, by decide +kernel⟩
  refine (merged_in_order_iff hpages (fun message hmessage => ⟨last, ?_⟩) plainWire 50).mpr horder
  rw [hlast]
  have hcases : message = quickMessage ∨ message = replyMessage := by simpa using hmessage
  rcases hcases with rfl | rfl <;> decide

/-- A slow message, which is published after a quick one, is shown below it and acknowledged as
the latest. -/
theorem late_arrival_acknowledged :
    ¬ ∀ (run : MessageTrace plainChatEnvironment) (wire : WireFormat)
      (conversationId userId time pageSize : Nat) (loaded : Option (List BuddyMessagePage))
      (live : List BuddyMessage),
      HistoryPages run conversationId userId time none (loaded.getD []) →
        (∀ message ∈ live, ∃ time, message ∈ (run.world time).db.messages.rows ∧
          message.conversationId = conversationId) →
          MergedInOrder wire userId (pageRows (loaded.getD []) ++ live)
            (mergeChatMessages (loaded.map (List.map (historyPageResponse wire userId pageSize)))
              (live.map (chatMessageResponse wire userId))) := by
  intro hclaim
  obtain ⟨run, last, hstart, hlast⟩ := exists_late_trace
  have hmerged := hclaim run plainWire 1 2 0 50 (some [emptyPage]) [quickMessage, slowMessage]
    (emptyPage_read hstart) fun message hmessage =>
      late_messages_stored hlast (by simpa [or_comm] using hmessage)
  obtain ⟨latest, hlatest, _, hid, hle⟩ :=
    hmerged.acknowledged quickMessage (by decide) (by decide)
  have hslow : latestIncomingMessageId
      (mergeChatMessages (some [historyPageResponse plainWire 2 50 emptyPage])
        ([quickMessage, slowMessage].map (chatMessageResponse plainWire 2))) =
          some (uuidText slowMessage.id.val) := by
    decide +kernel
  have hsame : latest.id = slowMessage.id := by
    have htexts := Option.some.inj (hid.symm.trans hslow)
    exact Fin.ext (uuidText_injective latest.id.isLt slowMessage.id.isLt htexts)
  have hcases : latest = quickMessage ∨ latest = slowMessage := by
    simpa [pageRows, emptyPage] using hlatest
  rcases hcases with rfl | rfl
  · exact absurd hsame (by decide)
  · exact absurd hle (by decide)

end OutOfOrder

end BuddyWeb
