/-
What the server answers to chat requests, and what the schemas of the web client
accept of it.
-/
import BuddyWeb.Chat.HistoryPaging

namespace BuddyWeb

/-- The code units of a text in UTF-16, as a string length of the client counts them. -/
def utf16Length (text : String) : Nat :=
  (text.toList.map fun char => if char.toNat < 0x10000 then 1 else 2).sum

/-- The white space and line terminators which the client's `trim` removes. -/
def isJsSpace (char : Char) : Bool :=
  let code := char.toNat
  (9 ≤ code && code ≤ 13) || code == 32 || code == 0xA0 || code == 0x1680 ||
    (0x2000 ≤ code && code ≤ 0x200A) || code == 0x2028 || code == 0x2029 ||
    code == 0x202F || code == 0x205F || code == 0x3000 || code == 0xFEFF

def chatMessageMaxCodePoints : Nat := 10000

/-- `Array.from(value).length`. -/
def countChatCodePoints (value : String) : Nat :=
  value.length

/-- The composer's check before it sends. -/
def isValidChatBody (value : String) : Bool :=
  trimEnds isJsSpace value.toList ≠ [] &&
    decide (countChatCodePoints value ≤ chatMessageMaxCodePoints)

/-- `str(UUID)`. -/
def uuidText (id : Nat) : String :=
  let bytes := toBigEndian 16 id
  String.ofList (hexText (bytes.take 4) ++ '-' :: hexText ((bytes.drop 4).take 2) ++
    '-' :: hexText ((bytes.drop 6).take 2) ++ '-' :: hexText ((bytes.drop 8).take 2) ++
    '-' :: hexText (bytes.drop 10))

theorem uuidText_filter (id : Nat) :
    (uuidText id).toList.filter (· ≠ '-') = hexText (toBigEndian 16 id) := by
  have hdash : ∀ chars : List Char,
      ('-' :: chars).filter (· ≠ '-') = chars.filter (· ≠ '-') :=
    fun chars => List.filter_cons_of_neg (by decide)
  have hparts : ∀ bytes : List Byte, bytes.take 4 ++ ((bytes.drop 4).take 2 ++
      ((bytes.drop 6).take 2 ++ ((bytes.drop 8).take 2 ++ bytes.drop 10))) = bytes := by
    intro bytes
    rw [show bytes.drop 10 = (bytes.drop 8).drop 2 by rw [List.drop_drop],
      List.take_append_drop,
      show bytes.drop 8 = (bytes.drop 6).drop 2 by rw [List.drop_drop],
      List.take_append_drop,
      show bytes.drop 6 = (bytes.drop 4).drop 2 by rw [List.drop_drop],
      List.take_append_drop, List.take_append_drop]
  have hhex := congrArg hexText (hparts (toBigEndian 16 id))
  rw [← hhex]
  simp only [uuidText, String.toList_ofList, List.filter_append, hdash, hexText_filter,
    hexText_append, List.append_assoc, List.cons_append]

/-- Different ids are written as different texts. -/
theorem uuidText_injective {first second : Nat} (hfirst : first < 2 ^ 128)
    (hsecond : second < 2 ^ 128) (h : uuidText first = uuidText second) :
    first = second := by
  have hhex := uuidText_filter first
  rw [h, uuidText_filter second] at hhex
  have hbytes : toBigEndian 16 second = toBigEndian 16 first := hexText_injective hhex
  have hfirstNumber : ofBigEndian (toBigEndian 16 first) = first :=
    ofBigEndian_toBigEndian hfirst
  have hsecondNumber : ofBigEndian (toBigEndian 16 second) = second :=
    ofBigEndian_toBigEndian hsecond
  rw [← hfirstNumber, ← hsecondNumber, hbytes]

/-- The RFC 4122 variant with a version from 1 to 8. -/
def IsRfc4122 (id : Nat) : Prop :=
  id < 2 ^ 128 ∧ (1 ≤ id / 2 ^ 76 % 16 ∧ id / 2 ^ 76 % 16 ≤ 8) ∧ id / 2 ^ 62 % 4 = 2

instance (id : Nat) : Decidable (IsRfc4122 id) := by
  unfold IsRfc4122
  infer_instance

/-- How the server writes instants, and how the client checks and reads its texts. -/
structure WireFormat where
  isUuid : String → Bool
  isoFormat : Instant → String
  isDateTime : String → Bool
  dateParse : String → Option Int

/-- What is documented of both sides: the client accepts the server's texts, and the
instants which it reads from them are in order. -/
structure WireFormat.Documented (wire : WireFormat) : Prop where
  uuid_accepted : ∀ id, IsRfc4122 id → wire.isUuid (uuidText id) = true
  dateTime_accepted : ∀ instant, wire.isDateTime (wire.isoFormat instant) = true
  dateParse_mono : ∀ first second, first ≤ second →
    ∀ earlier ∈ wire.dateParse (wire.isoFormat first),
      ∀ later ∈ wire.dateParse (wire.isoFormat second), earlier ≤ later

inductive ChatSender
  | self
  | buddy
  deriving DecidableEq, Repr

/-- A message as it is written to a participant. -/
structure ChatMessageResponse where
  id : String
  sender : ChatSender
  body : String
  createdAt : String
  readAt : Option String
  deriving DecidableEq, Repr

structure ChatMessagePageResponse where
  items : List ChatMessageResponse
  nextBefore : Option String
  pageSize : Nat
  deriving DecidableEq, Repr

structure ChatUnreadConversationResponse where
  conversationId : String
  unreadCount : Nat
  deriving DecidableEq, Repr

structure ChatUnreadSummaryResponse where
  totalUnreadMessages : Nat
  conversations : List ChatUnreadConversationResponse
  deriving DecidableEq, Repr

/-- A response or event.  Fields which both sides fix to a literal are left out. -/
inductive ServerResponse
  | receipt (message : ChatMessageResponse)
  | accepted (messageId : String)
  | page (page : ChatMessagePageResponse)
  | messageCreated (message : ChatMessageResponse)
  | unreadSummary (summary : ChatUnreadSummaryResponse)
  deriving DecidableEq

section Server

variable (wire : WireFormat)

def chatMessageResponse (currentUserId : Nat) (message : BuddyMessage) :
    ChatMessageResponse where
  id := uuidText message.id.val
  sender := if message.senderId = currentUserId then .self else .buddy
  body := message.body
  createdAt := wire.isoFormat message.createdAt
  readAt := message.readAt.map wire.isoFormat

def chatUnreadSummaryResponse (summary : BuddyUnreadSummary) :
    ChatUnreadSummaryResponse where
  totalUnreadMessages := summary.totalUnreadMessages
  conversations := summary.conversations.map fun item =>
    { conversationId := uuidText item.conversationId, unreadCount := item.unreadCount }

inductive ChatRequest
  | write (label : ChatLabel)
  | history (conversationId userId : Nat) (before : Option String) (pageSize : Nat)
      (now : Instant)
  | live (conversationId userId : Nat) (messageId : Uuid) (now : Instant)
  | unread (userId : Nat) (now : Instant)

/-- What a request is answered with.  A send is answered over HTTP or over the socket. -/
def respond (env : ChatEnvironment) (db : ChatDb) :
    ChatRequest → Except ChatError (List ServerResponse)
  | .write (.send attempt) => do
      let (_, message) ← sendBuddyMessage env db attempt
      return [.receipt (chatMessageResponse wire attempt.senderId message),
        .accepted (uuidText message.id.val)]
  | .write (.acknowledge conversationId readerId throughMessageId now) => do
      let _ ← acknowledgeBuddyMessagesRead db conversationId readerId throughMessageId now
      return []
  | .history conversationId userId before pageSize now => do
      let page ← listBuddyMessages db conversationId userId before pageSize now
      return [.page {
        items := page.items.map (chatMessageResponse wire userId)
        nextBefore := page.nextBefore
        pageSize := pageSize }]
  | .live conversationId userId messageId now => do
      let message ← getRealtimeBuddyMessage db conversationId userId messageId now
      return message.toList.map fun message =>
        .messageCreated (chatMessageResponse wire userId message)
  | .unread userId now =>
      .ok [.unreadSummary (chatUnreadSummaryResponse (getBuddyUnreadSummary db userId now))]

end Server

section Client

variable (wire : WireFormat)

def chatMessageSchema (message : ChatMessageResponse) : Bool :=
  wire.isUuid message.id && decide (utf16Length message.body ≤ chatMessageMaxCodePoints) &&
    wire.isDateTime message.createdAt && message.readAt.all wire.isDateTime

/-- A later reading before an earlier one.  An unreadable text compares as not later. -/
def isOutOfOrder (first second : ChatMessageResponse) : Bool :=
  match wire.dateParse first.createdAt, wire.dateParse second.createdAt with
  | some firstInstant, some secondInstant => secondInstant < firstInstant
  | _, _ => false

def chatMessagePageSchema (page : ChatMessagePageResponse) : Bool :=
  page.items.all (chatMessageSchema wire) &&
    page.nextBefore.all (fun next => decide (1 ≤ utf16Length next ∧ utf16Length next ≤ 64)) &&
    decide (1 ≤ page.pageSize ∧ page.pageSize ≤ 100) &&
    decide (page.items.map (·.id)).Nodup &&
    (page.items.zip page.items.tail).all fun (first, second) =>
      !isOutOfOrder wire first second

def chatUnreadSummarySchema (summary : ChatUnreadSummaryResponse) : Bool :=
  summary.conversations.all (fun item =>
      wire.isUuid item.conversationId && decide (1 ≤ item.unreadCount)) &&
    decide (summary.conversations.map (·.conversationId)).Nodup &&
    decide ((summary.conversations.map (·.unreadCount)).sum = summary.totalUnreadMessages)

/-- The client accepts a response when the schema of its kind does. -/
def clientAccepts : ServerResponse → Bool
  | .receipt message => chatMessageSchema wire message
  | .accepted messageId => wire.isUuid messageId
  | .page page => chatMessagePageSchema wire page
  | .messageCreated message => chatMessageSchema wire message
  | .unreadSummary summary => chatUnreadSummarySchema wire summary

end Client

/-- The committed rows after a request. -/
def ChatDb.Serves (env : ChatEnvironment) (db : ChatDb) (request : ChatRequest)
    (after : ChatDb) : Prop :=
  match request with
  | .write label => ChatDb.Step env db label after
  | _ => after = db

/-- No message is stored yet, and the conversations have RFC 4122 ids. -/
def ChatDb.Initial (db : ChatDb) : Prop :=
  db.messages.rows = [] ∧ ∀ conversation ∈ db.conversations.rows, IsRfc4122 conversation.id

/-- A send comes from the composer and gets an RFC 4122 id. -/
def FromComposer : ChatRequest → Prop
  | .write (.send attempt) =>
      isValidChatBody attempt.body = true ∧ IsRfc4122 attempt.freshId.val
  | _ => True

/-- The body of a send has at most ten thousand UTF-16 code units. -/
def BodyFitsClient : ChatRequest → Prop
  | .write (.send attempt) => utf16Length attempt.body ≤ chatMessageMaxCodePoints
  | _ => True

/-- A stored message which the client's schema admits. -/
def BuddyMessage.FitsClient (message : BuddyMessage) : Prop :=
  IsRfc4122 message.id.val ∧ utf16Length message.body ≤ chatMessageMaxCodePoints

structure ChatDb.FitsClient (db : ChatDb) : Prop where
  messages : ∀ message ∈ db.messages.rows, message.FitsClient
  conversations : ∀ conversation ∈ db.conversations.rows, IsRfc4122 conversation.id

section Stored

variable {env : ChatEnvironment} {db after : ChatDb}

theorem ChatDb.Initial.fitsClient (hinit : ChatDb.Initial db) : db.FitsClient where
  messages := by
    intro message hmessage
    rw [hinit.1] at hmessage
    exact absurd hmessage List.not_mem_nil
  conversations := hinit.2

theorem markRead_fitsClient {message : BuddyMessage} (conversationId readerId : Nat)
    (boundary : BuddyMessage) (now : Instant) (h : message.FitsClient) :
    (markRead conversationId readerId boundary now message).FitsClient := by
  unfold markRead
  split <;> exact h

/-- A send with an RFC 4122 id stores or returns a message with such an id. -/
theorem ChatDb.FitsClient.send_id {attempt : SendAttempt} {message : BuddyMessage}
    (hdb : db.FitsClient) (hid : IsRfc4122 attempt.freshId.val)
    (hsend : sendBuddyMessage env db attempt = .ok (after, message)) :
    IsRfc4122 message.id.val := by
  rcases sendBuddyMessage_cases hsend with ⟨_, hmem⟩ | ⟨_, _, _, rfl⟩
  · exact (hdb.messages message hmem).1
  · exact hid

theorem ChatDb.FitsClient.send {attempt : SendAttempt} {message : BuddyMessage}
    (hdb : db.FitsClient) (hid : IsRfc4122 attempt.freshId.val)
    (hbody : utf16Length attempt.body ≤ chatMessageMaxCodePoints)
    (hsend : sendBuddyMessage env db attempt = .ok (after, message)) :
    after.FitsClient := by
  have hmessage : message.FitsClient :=
    ⟨hdb.send_id hid hsend, sendBuddyMessage_body hsend ▸ hbody⟩
  rcases sendBuddyMessage_cases hsend with ⟨rfl, _⟩ | ⟨hconversations, hrows, _⟩
  · exact hdb
  · refine ⟨?_, hconversations ▸ hdb.conversations⟩
    rw [hrows]
    intro stored hstored
    rcases List.mem_cons.mp hstored with rfl | hstored
    · exact hmessage
    · exact hdb.messages stored hstored

/-- The stored messages fit the client after each request from the composer. -/
theorem ChatDb.FitsClient.serves {request : ChatRequest} (hdb : db.FitsClient)
    (hcomposer : FromComposer request) (hfits : BodyFitsClient request)
    (hserves : ChatDb.Serves env db request after) : after.FitsClient := by
  cases request with
  | write label =>
      rw [ChatDb.Serves, ChatDb.Step] at hserves
      subst hserves
      cases label with
      | send attempt =>
          simp only [ChatDb.after]
          split
          · rename_i sent message hsend
            exact hdb.send hcomposer.2 hfits hsend
          · exact hdb
      | acknowledge conversationId readerId throughMessageId now =>
          simp only [ChatDb.after]
          split
          · rename_i marked count hmarked
            obtain ⟨hconversations, boundary, hrows⟩ := acknowledge_rows hmarked
            refine ⟨?_, hconversations ▸ hdb.conversations⟩
            rw [hrows]
            intro stored hstored
            obtain ⟨message, hmessage, rfl⟩ := List.mem_map.mp hstored
            exact markRead_fitsClient conversationId readerId boundary now
              (hdb.messages message hmessage)
          · exact hdb
  | history | live | unread =>
      rw [show after = db from hserves]
      exact hdb

theorem ChatDb.FitsClient.of_reaches
    (hreach : Reaches ChatDb.Initial (ChatDb.Serves env)
      (fun _ request => FromComposer request ∧ BodyFitsClient request) db) :
    db.FitsClient := by
  refine hreach.invariant (fun _ hinit => hinit.fitsClient) ?_
  intro state request later hdb hallowed hserves
  exact hdb.serves hallowed.1 hallowed.2 hserves

end Stored

section Responses

variable {wire : WireFormat} {env : ChatEnvironment} {db : ChatDb}

/-- The client accepts a message exactly when its body has at most ten thousand UTF-16
code units. -/
theorem chatMessageSchema_iff (hwire : wire.Documented) {message : BuddyMessage}
    (hid : IsRfc4122 message.id.val) (userId : Nat) :
    chatMessageSchema wire (chatMessageResponse wire userId message) = true ↔
      utf16Length message.body ≤ chatMessageMaxCodePoints := by
  have hread : (message.readAt.map wire.isoFormat).all wire.isDateTime = true := by
    cases message.readAt with
    | none => rfl
    | some readAt => exact hwire.dateTime_accepted readAt
  simp only [chatMessageSchema, chatMessageResponse, hwire.uuid_accepted _ hid,
    hwire.dateTime_accepted, hread, Bool.true_and, Bool.and_true]
  exact decide_eq_true_iff

theorem chatMessageSchema_of_fitsClient (hwire : wire.Documented) {message : BuddyMessage}
    (h : message.FitsClient) (userId : Nat) :
    chatMessageSchema wire (chatMessageResponse wire userId message) = true :=
  (chatMessageSchema_iff hwire h.1 userId).mpr h.2

theorem utf16Length_encodeBuddyMessageCursor (createdAt : Instant) (messageId : Uuid) :
    utf16Length (encodeBuddyMessageCursor createdAt messageId) = 34 := by
  have hunit : ∀ sextet : Sextet, (urlsafeChar sextet).toNat < 0x10000 := by decide +kernel
  have hlength := sextetsOfBytes_length
    (packCursorHeader cursorVersion createdAt.val ++ messageId.bytes)
  rw [List.length_append, packCursorHeader_length,
    show messageId.bytes.length = 16 from toBigEndian_length 16 messageId.val] at hlength
  rw [utf16Length, encodeBuddyMessageCursor, String.toList_ofList,
    rdropWhile_urlsafeB64encode, List.map_map]
  have hones : (sextetsOfBytes (packCursorHeader cursorVersion createdAt.val ++
      messageId.bytes)).map ((fun char => if char.toNat < 0x10000 then 1 else 2) ∘
        urlsafeChar) = List.replicate 34 1 := by
    rw [List.eq_replicate_iff]
    refine ⟨by rw [List.length_map, hlength], fun unit hunits => ?_⟩
    obtain ⟨sextet, _, rfl⟩ := List.mem_map.mp hunits
    exact if_pos (hunit sextet)
  rw [hones]
  rfl

theorem mem_zip_tail_of_pairwise {α : Type} {relation : α → α → Prop} {entries : List α}
    (h : entries.Pairwise relation) {pair : α × α} (hpair : pair ∈ entries.zip entries.tail) :
    relation pair.1 pair.2 := by
  induction h with
  | nil => simp at hpair
  | @cons head rest hhead hrest ih =>
      cases rest with
      | nil => simp at hpair
      | cons second rest =>
          rcases List.mem_cons.mp hpair with rfl | hpair
          · exact hhead second List.mem_cons_self
          · exact ih hpair

/-- In a page in ascending order no message is read as later than the next one. -/
theorem not_isOutOfOrder (hwire : wire.Documented) {items : List BuddyMessage}
    (hitems : items.Pairwise fun first second => first.position < second.position)
    (userId : Nat) :
    ((items.map (chatMessageResponse wire userId)).zip
      (items.map (chatMessageResponse wire userId)).tail).all
        (fun (first, second) => !isOutOfOrder wire first second) = true := by
  have hordered : (items.map (chatMessageResponse wire userId)).Pairwise
      fun first second => isOutOfOrder wire first second = false := by
    refine List.pairwise_map.mpr (hitems.imp ?_)
    intro first second hposition
    have hinstants : first.createdAt ≤ second.createdAt := by
      rcases Prod.Lex.toLex_lt_toLex.mp hposition with hlt | ⟨heq, _⟩
      · exact hlt.le
      · exact heq.le
    simp only [isOutOfOrder, chatMessageResponse]
    split
    · rename_i earlier later hearlier hlater
      simpa using hwire.dateParse_mono _ _ hinstants earlier hearlier later hlater
    · rfl
  rw [List.all_eq_true]
  intro pair hpair
  have hpairOrder := mem_zip_tail_of_pairwise hordered hpair
  simpa using hpairOrder

theorem chatMessagePageSchema_of_page (hwire : wire.Documented) (hdb : db.FitsClient)
    {conversationId userId pageSize : Nat} {before : Option String} {now : Instant}
    {page : BuddyMessagePage}
    (hpage : listBuddyMessages db conversationId userId before pageSize now = .ok page) :
    chatMessagePageSchema wire
      { items := page.items.map (chatMessageResponse wire userId)
        nextBefore := page.nextBefore
        pageSize := pageSize } = true := by
  obtain ⟨hsize, cursor, _, hitems, hnext⟩ := listBuddyMessages_spec hpage
  have hstored : ∀ item ∈ page.items, item ∈ db.messages.rows := by
    intro item hitem
    rw [hitems] at hitem
    exact List.mem_of_mem_filter (mem_items hitem).1
  have hpairwise : page.items.Pairwise
      fun first second => first.position < second.position := by
    rw [hitems]
    exact items_pairwise (position_nodup db conversationId now)
  have hids : ((page.items.map (chatMessageResponse wire userId)).map (·.id)).Nodup := by
    rw [List.map_map]
    have hnodup : page.items.Nodup :=
      hpairwise.imp fun hlt hsame => hlt.ne (congrArg BuddyMessage.position hsame)
    refine hnodup.map_on fun first hfirst second hsecond hid => ?_
    have hsame := uuidText_injective (hdb.messages first (hstored first hfirst)).1.1
      (hdb.messages second (hstored second hsecond)).1.1 hid
    exact Table.eq_of_key (hstored first hfirst) (hstored second hsecond) hsame
  have hnextLength : page.nextBefore.all
      (fun next => decide (1 ≤ utf16Length next ∧ utf16Length next ≤ 64)) = true := by
    rw [hnext]
    rcases (readPage BuddyMessage.position (db.effectiveMessages conversationId now)
      (cursor.map toLex) pageSize).next with _ | position
    · rfl
    · simp [utf16Length_encodeBuddyMessageCursor]
  have hmessages : (page.items.map (chatMessageResponse wire userId)).all
      (chatMessageSchema wire) = true := by
    rw [List.all_map, List.all_eq_true]
    intro item hitem
    exact chatMessageSchema_of_fitsClient hwire (hdb.messages item (hstored item hitem)) userId
  simp only [chatMessagePageSchema, hmessages, hnextLength, decide_eq_true hids,
    not_isOutOfOrder hwire hpairwise userId, Bool.and_true, Bool.true_and]
  exact decide_eq_true hsize

/-- An unread item counts a stored conversation, and each conversation is counted once. -/
theorem getBuddyUnreadSummary_conversations (db : ChatDb) (userId : Nat) (now : Instant) :
    (∀ item ∈ (getBuddyUnreadSummary db userId now).conversations, 0 < item.unreadCount ∧
        ∃ conversation ∈ db.conversations.rows, conversation.id = item.conversationId) ∧
      ((getBuddyUnreadSummary db userId now).conversations.map (·.conversationId)).Nodup := by
  constructor
  · intro item hitem
    obtain ⟨hcounted, hpositive⟩ := List.mem_filter.mp hitem
    obtain ⟨conversation, hconversation, rfl⟩ := List.mem_map.mp hcounted
    rw [List.mem_insertionSort] at hconversation
    exact ⟨of_decide_eq_true hpositive, conversation, List.mem_of_mem_filter hconversation, rfl⟩
  · refine List.Nodup.sublist (List.filter_sublist.map _) ?_
    rw [List.map_map]
    have hperm := List.perm_insertionSort
      (fun first second : BuddyConversation => first.id ≤ second.id)
      (db.conversations.rows.filter fun conversation => db.isParticipant conversation userId)
    refine (hperm.map BuddyConversation.id).nodup_iff.mpr ?_
    exact List.Nodup.sublist (List.filter_sublist.map _) db.conversations.nodup

theorem chatUnreadSummarySchema_of_summary (hwire : wire.Documented) (hdb : db.FitsClient)
    (userId : Nat) (now : Instant) :
    chatUnreadSummarySchema wire
      (chatUnreadSummaryResponse (getBuddyUnreadSummary db userId now)) = true := by
  obtain ⟨hitems, hnodup⟩ := getBuddyUnreadSummary_conversations db userId now
  have hrfc : ∀ item ∈ (getBuddyUnreadSummary db userId now).conversations,
      IsRfc4122 item.conversationId := by
    intro item hitem
    obtain ⟨_, conversation, hconversation, hid⟩ := hitems item hitem
    rw [← hid]
    exact hdb.conversations conversation hconversation
  have hids : ((chatUnreadSummaryResponse
      (getBuddyUnreadSummary db userId now)).conversations.map (·.conversationId)).Nodup := by
    rw [chatUnreadSummaryResponse, List.map_map]
    refine (List.Nodup.of_map _ hnodup).map_on fun first hfirst second hsecond hid => ?_
    have hsame := uuidText_injective (hrfc first hfirst).1 (hrfc second hsecond).1 hid
    exact List.inj_on_of_nodup_map hnodup hfirst hsecond hsame
  have hcounts : (chatUnreadSummaryResponse
      (getBuddyUnreadSummary db userId now)).conversations.all (fun item =>
        wire.isUuid item.conversationId && decide (1 ≤ item.unreadCount)) = true := by
    rw [chatUnreadSummaryResponse, List.all_map, List.all_eq_true]
    intro item hitem
    simp only [Function.comp_apply, hwire.uuid_accepted _ (hrfc item hitem), Bool.true_and]
    exact decide_eq_true (hitems item hitem).1
  have htotal : ((chatUnreadSummaryResponse
      (getBuddyUnreadSummary db userId now)).conversations.map (·.unreadCount)).sum =
        (chatUnreadSummaryResponse
          (getBuddyUnreadSummary db userId now)).totalUnreadMessages := by
    rw [chatUnreadSummaryResponse, List.map_map]
    rfl
  rw [chatUnreadSummarySchema, hcounts, decide_eq_true hids, decide_eq_true htotal]
  rfl

/-- Each response to a request from the composer is accepted exactly when the body of the
request fits. -/
theorem clientAccepts_respond_iff (hwire : wire.Documented) (hdb : db.FitsClient)
    {request : ChatRequest} {responses : List ServerResponse}
    (hcomposer : FromComposer request)
    (hrespond : respond wire env db request = .ok responses) :
    (∀ response ∈ responses, clientAccepts wire response = true) ↔
      BodyFitsClient request := by
  cases request with
  | write label =>
      cases label with
      | send attempt =>
          simp only [respond, except_bind_eq_ok_iff, except_pure_eq_ok_iff] at hrespond
          obtain ⟨⟨after, message⟩, hsend, rfl⟩ := hrespond
          have hid := hdb.send_id hcomposer.2 hsend
          simp only [List.mem_cons, List.not_mem_nil, or_false, forall_eq_or_imp, forall_eq,
            clientAccepts, chatMessageSchema_iff hwire hid, hwire.uuid_accepted _ hid,
            sendBuddyMessage_body hsend, and_true]
          rfl
      | acknowledge conversationId readerId throughMessageId now =>
          simp only [respond, except_bind_eq_ok_iff, except_pure_eq_ok_iff] at hrespond
          obtain ⟨_, _, rfl⟩ := hrespond
          simp [BodyFitsClient]
  | history conversationId userId before pageSize now =>
      simp only [respond, except_bind_eq_ok_iff, except_pure_eq_ok_iff] at hrespond
      obtain ⟨page, hpage, rfl⟩ := hrespond
      simp [BodyFitsClient, clientAccepts, chatMessagePageSchema_of_page hwire hdb hpage]
  | live conversationId userId messageId now =>
      simp only [respond, getRealtimeBuddyMessage, except_bind_eq_ok_iff,
        except_pure_eq_ok_iff] at hrespond
      obtain ⟨found, ⟨_, _, rfl⟩, rfl⟩ := hrespond
      refine iff_of_true ?_ trivial
      intro response hresponse
      obtain ⟨message, hmessage, rfl⟩ := List.mem_map.mp hresponse
      have heffective := List.mem_of_find?_eq_some (Option.mem_toList.mp hmessage)
      have hstored := hdb.messages message (List.mem_of_mem_filter heffective)
      exact (chatMessageSchema_iff hwire hstored.1 userId).mpr hstored.2
  | unread userId now =>
      simp only [respond, Except.ok.injEq] at hrespond
      subst hrespond
      simp [BodyFitsClient, clientAccepts, chatUnreadSummarySchema_of_summary hwire hdb]

end Responses

/-- While the composer sends only bodies of at most ten thousand UTF-16 code units, the
client accepts each response to a request exactly when the request carries no longer body. -/
theorem chat_wire_contract {wire : WireFormat} (hwire : wire.Documented)
    {env : ChatEnvironment} {db : ChatDb}
    (hreach : Reaches ChatDb.Initial (ChatDb.Serves env)
      (fun _ request => FromComposer request ∧ BodyFitsClient request) db)
    {request : ChatRequest} {responses : List ServerResponse}
    (hcomposer : FromComposer request)
    (hrespond : respond wire env db request = .ok responses) :
    (∀ response ∈ responses, clientAccepts wire response = true) ↔
      BodyFitsClient request :=
  clientAccepts_respond_iff hwire (ChatDb.FitsClient.of_reaches hreach) hcomposer hrespond

namespace WireWitness

open ChatWitness (env buddyMatch instant)

/-- Texts of the one instant at which the messages below are created and read. -/
def wire : WireFormat where
  isUuid _ := true
  isoFormat _ := "1970-01-01T00:00:00Z"
  isDateTime _ := true
  dateParse _ := some 0

theorem wire_documented : wire.Documented where
  uuid_accepted _ _ := rfl
  dateTime_accepted _ := rfl
  dateParse_mono := by simp [wire]

/-- Version 4 ids. -/
def rfcId (number : Nat) : Nat :=
  4 * 2 ^ 76 + 2 ^ 63 + number

def epoch : Instant :=
  instant 0 instant_zero

/-- A conversation without messages. -/
def db : ChatDb where
  messages := .empty
  conversations := ⟨[⟨rfcId 1, 1, 1, 0⟩], by decide⟩
  buddyMatches := ⟨[buddyMatch], ChatWitness.buddyMatch_keys⟩

def attempt (body : String) : SendAttempt where
  conversationId := rfcId 1
  senderId := 7
  clientMessageId := rfcId 2
  body := body
  freshId := Fin.ofNat _ (rfcId 3)
  now := epoch

theorem db_initial : db.Initial :=
  ⟨rfl, by decide +kernel⟩

/-- The rows after the send of a body. -/
def sent (body : String) : ChatDb :=
  db.after env (.send (attempt body))

def history : ChatRequest :=
  .history (rfcId 1) 8 none 50 epoch

theorem chat_wire_contract_short :
    (∀ response ∈ [ServerResponse.page
        ⟨[⟨"00000000-0000-4000-8000-000000000003", .buddy, "Hallo", "1970-01-01T00:00:00Z",
          none⟩], none, 50⟩], clientAccepts wire response = true) ↔ True := by
  have hcomposer : FromComposer (.write (.send (attempt "Hallo"))) :=
    ⟨by decide +kernel, by decide +kernel⟩
  have hfits : utf16Length "Hallo" ≤ chatMessageMaxCodePoints := by decide +kernel
  have hserves : ChatDb.Serves env db (.write (.send (attempt "Hallo"))) (sent "Hallo") := rfl
  have hrespond : respond wire env (sent "Hallo") history = .ok [.page
      ⟨[⟨"00000000-0000-4000-8000-000000000003", .buddy, "Hallo", "1970-01-01T00:00:00Z",
        none⟩], none, 50⟩] := by decide +kernel
  have hhistory : FromComposer history := trivial
  exact chat_wire_contract wire_documented
    (.next (.start db_initial) ⟨hcomposer, hfits⟩ hserves) hhistory hrespond

/-- The body of emoji which the composer and the server count as 5001 characters. -/
def emojiBody : String :=
  String.ofList (List.replicate 5001 '😀')

theorem emojiBody_toList : emojiBody.toList = List.replicate 5001 '😀' :=
  String.toList_ofList

theorem emojiBody_length : emojiBody.length = 5001 := by
  rw [← String.length_toList, emojiBody_toList, List.length_replicate]

theorem utf16Length_emojiBody : utf16Length emojiBody = 10002 := by
  rw [utf16Length, emojiBody_toList, List.map_replicate, List.sum_replicate]
  rfl

theorem trimEnds_emojiBody {isSpace : Char → Bool} (h : isSpace '😀' = false) :
    trimEnds isSpace emojiBody.toList = emojiBody.toList := by
  refine trimEnds_of_forall fun char hchar => ?_
  rw [emojiBody_toList] at hchar
  rw [List.eq_of_mem_replicate hchar, h]
  exact Bool.false_ne_true

theorem emojiBody_ne_empty : emojiBody.toList ≠ [] := by
  intro hnil
  have hlength := congrArg List.length hnil
  rw [String.length_toList, emojiBody_length] at hlength
  exact absurd hlength (by decide)

theorem isValidChatBody_emojiBody : isValidChatBody emojiBody = true := by
  simp only [isValidChatBody, trimEnds_emojiBody (by decide : isJsSpace '😀' = false),
    countChatCodePoints, emojiBody_length, emojiBody_ne_empty, ne_eq, not_false_eq_true,
    decide_true, Bool.true_and]
  decide

theorem validateBuddyMessageBody_emojiBody :
    validateBuddyMessageBody emojiBody = .ok emojiBody := by
  have hstrip : pyStrip emojiBody = emojiBody := by
    rw [pyStrip, trimEnds_emojiBody (by decide), String.ofList_toList]
  have hne : emojiBody ≠ "" := fun hempty => emojiBody_ne_empty (by rw [hempty]; rfl)
  simp [validateBuddyMessageBody, hstrip, hne, emojiBody_length, maxBuddyMessageCodePoints,
    ensure]

theorem storesBody_emojiBody : env.storesBody emojiBody = true := by
  have hany : emojiBody.toList.any (fun char => !env.isDatabaseSpace char) = true := by
    rw [emojiBody_toList, List.any_replicate]
    decide
  have hzero : emojiBody.toList.contains (Char.ofNat 0) = false := by
    rw [emojiBody_toList, List.contains_replicate]
    decide
  rw [ChatEnvironment.storesBody, hany, hzero, emojiBody_length]
  decide

def emojiMessage : BuddyMessage :=
  (attempt emojiBody).message (instant buddyMessageMaxRetention instant_maxRetention)

theorem sendBuddyMessage_emojiBody : sendBuddyMessage env db (attempt emojiBody) =
    .ok ({ db with messages := ⟨[emojiMessage], by simp⟩ }, emojiMessage) := by
  have hactive : (requireAuthorizedActiveConversation db (rfcId 1) 7).toBool = true := by
    decide +kernel
  have hexpires : buddyMessageExpiresAt epoch =
      .ok (instant buddyMessageMaxRetention instant_maxRetention) := by decide +kernel
  simp only [sendBuddyMessage, except_bind_eq_ok_iff, ensure_eq_ok_iff]
  exact ⟨emojiBody, validateBuddyMessageBody_emojiBody, (), hactive, _, hexpires, (),
    storesBody_emojiBody, rfl⟩

/-- The composer and the server take the emoji, and the client refuses the history page. -/
theorem chat_wire_contract_emoji :
    wire.Documented ∧ FromComposer (.write (.send (attempt emojiBody))) ∧
      Reaches ChatDb.Initial (ChatDb.Serves env) (fun _ request => FromComposer request)
        (sent emojiBody) ∧
      ∃ page, respond wire env (sent emojiBody) history = .ok [.page page] ∧
        clientAccepts wire (.page page) = false := by
  have hcomposer : FromComposer (.write (.send (attempt emojiBody))) :=
    ⟨isValidChatBody_emojiBody, by decide +kernel⟩
  have hserves : ChatDb.Serves env db (.write (.send (attempt emojiBody))) (sent emojiBody) :=
    rfl
  have hsent : sent emojiBody = { db with messages := ⟨[emojiMessage], by simp⟩ } := by
    rw [sent, ChatDb.after, sendBuddyMessage_emojiBody]
  refine ⟨wire_documented, hcomposer, .next (.start db_initial) hcomposer hserves,
    ⟨[chatMessageResponse wire 8 emojiMessage], none, 50⟩, ?_, ?_⟩
  · rw [hsent]
    rfl
  · have hlong : chatMessageSchema wire (chatMessageResponse wire 8 emojiMessage) = false := by
      have hbody : utf16Length (chatMessageResponse wire 8 emojiMessage).body = 10002 :=
        utf16Length_emojiBody
      rw [chatMessageSchema, hbody]
      rfl
    rw [clientAccepts, chatMessagePageSchema, List.all_cons, hlong]
    rfl

end WireWitness

end BuddyWeb
