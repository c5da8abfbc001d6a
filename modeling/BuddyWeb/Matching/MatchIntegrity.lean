/-
What invitations, matches, conversations and events agree on, and how a commit of each kind
keeps it.
-/
import BuddyWeb.Matching.InvitationAcceptance
import BuddyWeb.Matching.InvitationMutations
import BuddyWeb.Matching.InvitationSending

namespace BuddyWeb

namespace MatchingInvitation

/-- One change of a stored invitation: an answer, an expiry, or the hiding from its sender. -/
inductive Changes (before after : MatchingInvitation) : Prop
  | answered {target : InvitationStatus} {instant : Int} (htarget : target ≠ .expired)
      (h : before.transition target instant = .ok after) : Changes before after
  | expired {instant : Int} (h : before.expire instant = .ok after) : Changes before after
  | hidden {instant : Int} (hvisible : before.senderHiddenAt = none)
      (h : before.hideFromSender instant = .ok after) : Changes before after

/-- What later versions of an invitation keep: what was sent, and a terminal status with its
timestamps. -/
structure Later (before after : MatchingInvitation) : Prop where
  id : after.id = before.id
  senderId : after.senderId = before.senderId
  recipientId : after.recipientId = before.recipientId
  message : after.message = before.message
  createdAt : after.createdAt = before.createdAt
  expiresAt : after.expiresAt = before.expiresAt
  deletedAt : after.deletedAt = before.deletedAt
  settled : before.status ≠ .pending → after.status = before.status ∧
    after.respondedAt = before.respondedAt ∧ after.cancelledAt = before.cancelledAt ∧
      after.expiredAt = before.expiredAt
  hiddenAt : before.senderHiddenAt.isSome = true → after.senderHiddenAt = before.senderHiddenAt

section Versions

variable {before middle after : MatchingInvitation} {target : InvitationStatus} {instant : Int}

theorem Later.refl : Later before before :=
  ⟨rfl, rfl, rfl, rfl, rfl, rfl, rfl, fun _ => ⟨rfl, rfl, rfl, rfl⟩, fun _ => rfl⟩

theorem Later.trans (h : Later before middle) (hlater : Later middle after) :
    Later before after where
  id := hlater.id.trans h.id
  senderId := hlater.senderId.trans h.senderId
  recipientId := hlater.recipientId.trans h.recipientId
  message := hlater.message.trans h.message
  createdAt := hlater.createdAt.trans h.createdAt
  expiresAt := hlater.expiresAt.trans h.expiresAt
  deletedAt := hlater.deletedAt.trans h.deletedAt
  settled := by
    intro hsettled
    obtain ⟨hstatus, hresponded, hcancelled, hexpired⟩ := h.settled hsettled
    have hmiddle : middle.status ≠ .pending := by
      rw [hstatus]
      exact hsettled
    obtain ⟨hlaterStatus, hlaterResponded, hlaterCancelled, hlaterExpired⟩ :=
      hlater.settled hmiddle
    exact ⟨hlaterStatus.trans hstatus, hlaterResponded.trans hresponded,
      hlaterCancelled.trans hcancelled, hlaterExpired.trans hexpired⟩
  hiddenAt := by
    intro hhidden
    have hmiddle := h.hiddenAt hhidden
    rw [← hmiddle] at hhidden
    exact (hlater.hiddenAt hhidden).trans hmiddle

/-- A pending row has no timestamps of a response. -/
theorem Consistent.unanswered (h : before.Consistent) (hpending : before.status = .pending) :
    before.respondedAt = none ∧ before.cancelledAt = none ∧ before.expiredAt = none ∧
      before.senderHiddenAt = none := by
  have hnone : ∀ {stamp : Option Int}, ¬ stamp.isSome = true → stamp = none := by
    intro stamp hstamp
    simpa using hstamp
  refine ⟨hnone ?_, hnone ?_, hnone ?_, hnone ?_⟩
  · rw [h.responded, hpending]
    simp
  · rw [h.cancelled, hpending]
    simp
  · rw [h.expired, hpending]
    simp
  · intro hhidden
    have haccepted := h.hidden hhidden
    rw [hpending] at haccepted
    cases haccepted

/-- A transition before the deadline keeps the constraints. -/
theorem Consistent.stamped (h : before.Consistent) (hpending : before.status = .pending)
    (hterminal : isTerminalStatus target = true) (hcreated : before.createdAt ≤ instant)
    (hdue : target = .expired → before.expiresAt ≤ instant) :
    (before.stamped target instant).Consistent := by
  obtain ⟨hresponded, hcancelled, hexpired, hhidden⟩ := h.unanswered hpending
  have hdistinct := h.distinct
  have hexpires := h.expiresAt
  cases target with
  | pending => cases hterminal
  | accepted => constructor <;> simp_all [MatchingInvitation.stamped]
  | declined => constructor <;> simp_all [MatchingInvitation.stamped]
  | cancelled => constructor <;> simp_all [MatchingInvitation.stamped]
  | expired => constructor <;> simp_all [MatchingInvitation.stamped]

theorem Later.stamped (hpending : before.status = .pending) (h : before.Consistent) :
    Later before (before.stamped target instant) := by
  have hhidden := (h.unanswered hpending).2.2.2
  cases target <;>
    exact ⟨rfl, rfl, rfl, rfl, rfl, rfl, rfl, fun hsettled => absurd hpending hsettled,
      fun _ => rfl⟩

end Versions

namespace Changes

variable {before after : MatchingInvitation}

/-- A change stamps a pending row, or hides an accepted one. -/
theorem cases (h : Changes before after) :
    (before.status = .pending ∧ ∃ target instant, isTerminalStatus target = true ∧
      before.createdAt ≤ instant ∧ (target = .expired → before.expiresAt ≤ instant) ∧
        before.stamped target instant = after) ∨
    (before.status = .accepted ∧ before.senderHiddenAt = none ∧ ∃ instant,
      before.respondedAt.all (· ≤ instant) = true ∧
        { before with senderHiddenAt := some instant } = after) := by
  cases h with
  | @answered target instant htarget h =>
      obtain ⟨⟨hpending, hterminal⟩, -, hcreated, hafter⟩ := transition_eq_ok_iff.mp h
      exact Or.inl ⟨hpending, target, instant, hterminal, hcreated,
        fun hexpired => absurd hexpired htarget, hafter⟩
  | @expired instant h =>
      obtain ⟨hdue, hpending, hcreated, hafter⟩ := expire_eq_ok_iff.mp h
      exact Or.inl ⟨hpending, .expired, instant, rfl, hcreated, fun _ => hdue, hafter⟩
  | @hidden instant hvisible h =>
      obtain ⟨⟨haccepted, -⟩, hcases⟩ := hideFromSender_eq_ok_iff.mp h
      rcases hcases with ⟨hsome, -⟩ | ⟨-, hresponded, hafter⟩
      · rw [hvisible] at hsome
        cases hsome
      · exact Or.inr ⟨haccepted, hvisible, instant, hresponded, hafter⟩

theorem later (h : Changes before after) (hconsistent : before.Consistent) :
    Later before after := by
  rcases h.cases with ⟨hpending, target, instant, -, -, -, rfl⟩ | ⟨-, hvisible, instant, -, rfl⟩
  · exact .stamped hpending hconsistent
  · exact ⟨rfl, rfl, rfl, rfl, rfl, rfl, rfl, fun _ => ⟨rfl, rfl, rfl, rfl⟩, by simp [hvisible]⟩

theorem consistent (h : Changes before after) (hconsistent : before.Consistent) :
    after.Consistent := by
  rcases h.cases with ⟨hpending, target, instant, hterminal, hcreated, hdue, rfl⟩ |
      ⟨haccepted, -, instant, hresponded, rfl⟩
  · exact hconsistent.stamped hpending hterminal hcreated hdue
  · refine ⟨hconsistent.distinct, hconsistent.expiresAt, hconsistent.responded,
      hconsistent.cancelled, hconsistent.expired, fun _ => haccepted, hconsistent.respondedAt,
      hconsistent.cancelledAt, hconsistent.expiredAt, ?_⟩
    intro hidden hhidden responded hstamp
    obtain rfl := Option.some.inj hhidden
    rw [Option.mem_def.mp hstamp] at hresponded
    simpa using hresponded

theorem settled (h : Changes before after) : after.status ≠ .pending := by
  rcases h.cases with ⟨-, target, instant, hterminal, -, -, rfl⟩ | ⟨haccepted, -, _, -, rfl⟩
  · cases target with
    | pending => cases hterminal
    | _ => simp [stamped]
  · simp [haccepted]

theorem id (h : Changes before after) : after.id = before.id := by
  rcases h.cases with ⟨-, target, instant, -, -, -, rfl⟩ | ⟨-, -, _, -, rfl⟩
  · exact stamped_id ..
  · rfl

end Changes

/-- A version of an invitation after a commit which accepts nothing. -/
def Revised (before after : MatchingInvitation) : Prop :=
  before = after ∨ before.Changes after ∧ (after.status = .accepted → before.status = .accepted)

end MatchingInvitation

/-- A match with the invitation, the conversation and the event of its acceptance. -/
structure Acceptance (invitation : MatchingInvitation) (buddyMatch : BuddyMatch)
    (conversation : BuddyConversation) (event : TransactionalOutbox) : Prop where
  accepted : buddyMatch.acceptedInvitationId = invitation.id
  participants : buddyMatch.participantOneUserId = invitation.senderId ∧
    buddyMatch.participantTwoUserId = invitation.recipientId
  status : invitation.status = .accepted
  respondedAt : invitation.respondedAt = some buddyMatch.activatedAt
  inTime : buddyMatch.activatedAt < invitation.expiresAt
  active : buddyMatch.isActive = true
  live : buddyMatch.deletedAt = none
  talking : conversation = ⟨conversation.id, buddyMatch.id, buddyMatch.semesterId,
    buddyMatch.activatedAt⟩
  announced : event =
    acceptedEvent event.id invitation buddyMatch conversation buddyMatch.activatedAt

/-- The tables describe one history: every match comes from one accepted invitation, with one
conversation and one event, and every invitation has been announced once. -/
structure MatchingDatabase.Agrees (db : MatchingDatabase) : Prop where
  consistent : ∀ invitation ∈ db.invitations.rows, invitation.Consistent
  live : ∀ invitation ∈ db.invitations.rows, invitation.deletedAt = none
  pendingOnce : ∀ first ∈ db.invitations.rows, ∀ second ∈ db.invitations.rows,
    first.status = .pending → second.status = .pending → first.pair = second.pair →
      first = second
  pendingFree : ∀ invitation ∈ db.invitations.rows, invitation.status = .pending →
    ∀ buddyMatch ∈ db.buddyMatches.rows, buddyMatch.pair ≠ invitation.pair
  documented : ∀ buddyMatch ∈ db.buddyMatches.rows, ∃ invitation ∈ db.invitations.rows,
    ∃ conversation ∈ db.conversations.rows, ∃ event ∈ db.outbox.rows,
      Acceptance invitation buddyMatch conversation event
  matched : ∀ invitation ∈ db.invitations.rows, invitation.status = .accepted →
    ∃ buddyMatch ∈ db.buddyMatches.rows, buddyMatch.acceptedInvitationId = invitation.id
  pairOnce : ∀ first ∈ db.buddyMatches.rows, ∀ second ∈ db.buddyMatches.rows,
    first.pair = second.pair → first = second
  talking : ∀ conversation ∈ db.conversations.rows, ∃ buddyMatch ∈ db.buddyMatches.rows,
    conversation.matchId = buddyMatch.id
  conversationOnce : ∀ first ∈ db.conversations.rows, ∀ second ∈ db.conversations.rows,
    first.matchId = second.matchId → first = second
  announced : ∀ invitation ∈ db.invitations.rows, ∃ event ∈ db.outbox.rows,
    event = createdEvent event.id invitation invitation.createdAt
  events : ∀ event ∈ db.outbox.rows, ∃ invitation ∈ db.invitations.rows,
    event.idempotencyKey = .invitationCreated invitation.id ∨
      event.idempotencyKey = .invitationAccepted invitation.id ∧ invitation.status = .accepted
  eventOnce : ∀ first ∈ db.outbox.rows, ∀ second ∈ db.outbox.rows,
    first.idempotencyKey = second.idempotencyKey → first = second

/-- What later tables keep. -/
structure MatchingDatabase.Grows (before after : MatchingDatabase) : Prop where
  invitations : ∀ invitation ∈ before.invitations.rows, ∃ later ∈ after.invitations.rows,
    invitation.Later later
  buddyMatches : ∀ buddyMatch ∈ before.buddyMatches.rows,
    buddyMatch ∈ after.buddyMatches.rows
  conversations : ∀ conversation ∈ before.conversations.rows,
    conversation ∈ after.conversations.rows
  outbox : ∀ event ∈ before.outbox.rows, event ∈ after.outbox.rows

section Revisions

variable {before after : MatchingInvitation}

namespace MatchingInvitation.Revised

theorem later (h : Revised before after) (hconsistent : before.Consistent) :
    Later before after := by
  rcases h with rfl | ⟨hchanges, -⟩
  · exact .refl
  · exact hchanges.later hconsistent

theorem consistent (h : Revised before after) (hconsistent : before.Consistent) :
    after.Consistent := by
  rcases h with rfl | ⟨hchanges, -⟩
  · exact hconsistent
  · exact hchanges.consistent hconsistent

/-- A pending row was pending before. -/
theorem pending (h : Revised before after) (hpending : after.status = .pending) :
    before = after := by
  rcases h with hsame | ⟨hchanges, -⟩
  · exact hsame
  · exact absurd hpending hchanges.settled

theorem accepted (h : Revised before after) (haccepted : after.status = .accepted) :
    before.status = .accepted := by
  rcases h with rfl | ⟨-, hsame⟩
  · exact haccepted
  · exact hsame haccepted

end MatchingInvitation.Revised

/-- An acceptance stays one when its invitation is hidden. -/
theorem Acceptance.later {buddyMatch : BuddyMatch} {conversation : BuddyConversation}
    {event : TransactionalOutbox} (h : Acceptance before buddyMatch conversation event)
    (hlater : before.Later after) : Acceptance after buddyMatch conversation event := by
  have hsettled : before.status ≠ .pending := by
    rw [h.status]
    decide
  obtain ⟨hstatus, hresponded, -, -⟩ := hlater.settled hsettled
  refine ⟨h.accepted.trans hlater.id.symm, ?_, hstatus.trans h.status,
    hresponded.trans h.respondedAt, ?_, h.active, h.live, h.talking, ?_⟩
  · rw [hlater.senderId, hlater.recipientId]
    exact h.participants
  · rw [hlater.expiresAt]
    exact h.inTime
  · rw [h.announced]
    simp only [acceptedEvent, hlater.id, hlater.senderId]

/-- The match of an acceptance has the pair of its invitation. -/
theorem Acceptance.pair {buddyMatch : BuddyMatch} {conversation : BuddyConversation}
    {event : TransactionalOutbox} (h : Acceptance before buddyMatch conversation event) :
    buddyMatch.pair = before.pair := by
  rw [BuddyMatch.pair, MatchingInvitation.pair, h.participants.1, h.participants.2]

/-- The announcement of an invitation announces its later versions. -/
theorem createdEvent_later (h : before.Later after) (id : Nat) :
    createdEvent id after after.createdAt = createdEvent id before before.createdAt := by
  simp only [createdEvent, h.id, h.recipientId, h.createdAt]

theorem MatchingInvitation.Later.pair (h : before.Later after) : after.pair = before.pair := by
  rw [MatchingInvitation.pair, MatchingInvitation.pair, h.senderId, h.recipientId]

end Revisions

/-- Every row of one table is a version of a row of the other, which has the same ids. -/
structure Revises (before after : Table MatchingInvitation) : Prop where
  origin : ∀ row ∈ after.rows, ∃ old ∈ before.rows, old.Revised row
  kept : ∀ old ∈ before.rows, ∃ row ∈ after.rows, old.Revised row

section Commits

variable {db after : MatchingDatabase}

/-- A row with a new value of a column which tells rows apart. -/
theorem insert?_once {ρ : Type} [Keyed ρ] {κ : Type} {table stored : Table ρ} {row : ρ}
    {column : ρ → κ} (h : table.insert? row = some stored)
    (honce : ∀ first ∈ table.rows, ∀ second ∈ table.rows, column first = column second →
      first = second)
    (hnew : ∀ old ∈ table.rows, column old ≠ column row) :
    ∀ first ∈ stored.rows, ∀ second ∈ stored.rows, column first = column second →
      first = second := by
  rw [(Table.insert?_eq_some_iff.mp h).2]
  intro first hfirst second hsecond hsame
  rcases List.mem_cons.mp hfirst with rfl | hfirstOld
  · rcases List.mem_cons.mp hsecond with rfl | hsecondOld
    · rfl
    · exact absurd hsame.symm (hnew second hsecondOld)
  · rcases List.mem_cons.mp hsecond with rfl | hsecondOld
    · exact absurd hsame (hnew first hfirstOld)
    · exact honce first hfirstOld second hsecondOld hsame

/-- Changed rows of a table with different ids. -/
theorem revises_putAll {table : Table MatchingInvitation} {updated : List MatchingInvitation}
    (hkeys : (updated.map (·.id)).Nodup)
    (hrows : ∀ row ∈ updated, ∃ old ∈ table.rows, old.Changes row ∧
      (row.status = .accepted → old.status = .accepted)) :
    Revises table (updated.foldl Table.put table) := by
  constructor
  · intro row hrow
    rcases (Table.mem_putAll_iff hkeys).mp hrow with ⟨hupdated, -⟩ | ⟨hold, -⟩
    · obtain ⟨old, hold, hchanges⟩ := hrows row hupdated
      exact ⟨old, hold, Or.inr hchanges⟩
    · exact ⟨row, hold, Or.inl rfl⟩
  · intro old hold
    by_cases hchanged : ∃ row ∈ updated, row.id = old.id
    · obtain ⟨row, hupdated, hid⟩ := hchanged
      obtain ⟨source, hsource, hchanges⟩ := hrows row hupdated
      have hsame : source = old :=
        Table.eq_of_key hsource hold (hchanges.1.id.symm.trans hid)
      rw [hsame] at hchanges
      exact ⟨row, (Table.mem_putAll_iff hkeys).mpr (Or.inl ⟨hupdated, old, hold, hid.symm⟩),
        Or.inr hchanges⟩
    · refine ⟨old, (Table.mem_putAll_iff hkeys).mpr (Or.inr ⟨hold, ?_⟩), Or.inl rfl⟩
      intro other hother hid
      exact hchanged ⟨other, hother, hid⟩

namespace MatchingDatabase.Agrees

/-- Answers other than acceptances, expiries and hidings keep the agreement. -/
theorem revise (h : db.Agrees) {invitations : Table MatchingInvitation}
    (hrevises : Revises db.invitations invitations) :
    ({ db with invitations := invitations } : MatchingDatabase).Agrees where
  consistent := by
    intro row hrow
    obtain ⟨old, hold, hrevised⟩ := hrevises.origin row hrow
    exact hrevised.consistent (h.consistent old hold)
  live := by
    intro row hrow
    obtain ⟨old, hold, hrevised⟩ := hrevises.origin row hrow
    exact (hrevised.later (h.consistent old hold)).deletedAt.trans (h.live old hold)
  pendingOnce := by
    intro first hfirst second hsecond hfirstPending hsecondPending hpair
    obtain ⟨old, hold, hrevised⟩ := hrevises.origin first hfirst
    obtain ⟨other, hother, hotherRevised⟩ := hrevises.origin second hsecond
    obtain rfl := hrevised.pending hfirstPending
    obtain rfl := hotherRevised.pending hsecondPending
    exact h.pendingOnce _ hold _ hother hfirstPending hsecondPending hpair
  pendingFree := by
    intro row hrow hpending
    obtain ⟨old, hold, hrevised⟩ := hrevises.origin row hrow
    obtain rfl := hrevised.pending hpending
    exact h.pendingFree _ hold hpending
  documented := by
    intro buddyMatch hmatch
    obtain ⟨old, hold, conversation, hconversation, event, hevent, hacceptance⟩ :=
      h.documented buddyMatch hmatch
    obtain ⟨row, hrow, hrevised⟩ := hrevises.kept old hold
    exact ⟨row, hrow, conversation, hconversation, event, hevent,
      hacceptance.later (hrevised.later (h.consistent old hold))⟩
  matched := by
    intro row hrow haccepted
    obtain ⟨old, hold, hrevised⟩ := hrevises.origin row hrow
    obtain ⟨buddyMatch, hmatch, hid⟩ := h.matched old hold (hrevised.accepted haccepted)
    exact ⟨buddyMatch, hmatch, hid.trans (hrevised.later (h.consistent old hold)).id.symm⟩
  pairOnce := h.pairOnce
  talking := h.talking
  conversationOnce := h.conversationOnce
  announced := by
    intro row hrow
    obtain ⟨old, hold, hrevised⟩ := hrevises.origin row hrow
    obtain ⟨event, hevent, hannounced⟩ := h.announced old hold
    refine ⟨event, hevent, ?_⟩
    rw [createdEvent_later (hrevised.later (h.consistent old hold))]
    exact hannounced
  events := by
    intro event hevent
    obtain ⟨old, hold, hkey⟩ := h.events event hevent
    obtain ⟨row, hrow, hrevised⟩ := hrevises.kept old hold
    have hlater := hrevised.later (h.consistent old hold)
    refine ⟨row, hrow, ?_⟩
    rw [hlater.id]
    refine hkey.imp_right fun haccepted => ⟨haccepted.1, ?_⟩
    have hsettled : old.status ≠ .pending := by
      rw [haccepted.2]
      decide
    exact (hlater.settled hsettled).1.trans haccepted.2
  eventOnce := h.eventOnce

/-- An invitation of a pair which has neither a pending one nor a match keeps the agreement. -/
theorem send (h : db.Agrees) {invitation : MatchingInvitation} {event : TransactionalOutbox}
    (hinvitation : db.invitations.insert? invitation = some after.invitations)
    (hevent : db.outbox.insert? event = some after.outbox)
    (hmatches : after.buddyMatches = db.buddyMatches)
    (hconversations : after.conversations = db.conversations)
    (hpending : invitation.status = .pending) (hconsistent : invitation.Consistent)
    (hlive : invitation.deletedAt = none)
    (hfree : ∀ row ∈ db.invitations.rows, row.status = .pending → row.pair ≠ invitation.pair)
    (hunmatched : ∀ buddyMatch ∈ db.buddyMatches.rows, buddyMatch.pair ≠ invitation.pair)
    (hannounces : event = createdEvent event.id invitation invitation.createdAt) :
    after.Agrees := by
  obtain ⟨hfresh, hinvitations⟩ := Table.insert?_eq_some_iff.mp hinvitation
  obtain ⟨-, houtbox⟩ := Table.insert?_eq_some_iff.mp hevent
  have hkey : event.idempotencyKey = .invitationCreated invitation.id := by
    rw [hannounces]
    rfl
  have hrow : ∀ {row}, row ∈ after.invitations.rows ↔
      row = invitation ∨ row ∈ db.invitations.rows := by
    intro row
    rw [hinvitations, List.mem_cons]
  have hnew : ∀ old ∈ db.outbox.rows, old.idempotencyKey ≠ event.idempotencyKey := by
    intro old hold hsame
    obtain ⟨row, hmem, hkeys⟩ := h.events old hold
    rw [hsame, hkey] at hkeys
    rcases hkeys with hcreated | ⟨haccepted, -⟩
    · exact hfresh row hmem (OutboxKey.invitationCreated.inj hcreated).symm
    · cases haccepted
  constructor
  · intro row hmem
    rcases hrow.mp hmem with rfl | hold
    · exact hconsistent
    · exact h.consistent row hold
  · intro row hmem
    rcases hrow.mp hmem with rfl | hold
    · exact hlive
    · exact h.live row hold
  · intro first hfirst second hsecond hfirstPending hsecondPending hpair
    rcases hrow.mp hfirst with rfl | hfirstOld
    · rcases hrow.mp hsecond with rfl | hsecondOld
      · rfl
      · exact absurd hpair.symm (hfree second hsecondOld hsecondPending)
    · rcases hrow.mp hsecond with rfl | hsecondOld
      · exact absurd hpair (hfree first hfirstOld hfirstPending)
      · exact h.pendingOnce first hfirstOld second hsecondOld hfirstPending hsecondPending hpair
  · intro row hmem hrowPending buddyMatch hmatch
    rw [hmatches] at hmatch
    rcases hrow.mp hmem with rfl | hold
    · exact hunmatched buddyMatch hmatch
    · exact h.pendingFree row hold hrowPending buddyMatch hmatch
  · intro buddyMatch hmatch
    rw [hmatches] at hmatch
    obtain ⟨row, hmem, conversation, hconversation, old, hold, hacceptance⟩ :=
      h.documented buddyMatch hmatch
    rw [hconversations, houtbox]
    exact ⟨row, hrow.mpr (Or.inr hmem), conversation, hconversation, old,
      List.mem_cons_of_mem _ hold, hacceptance⟩
  · intro row hmem haccepted
    rw [hmatches]
    rcases hrow.mp hmem with rfl | hold
    · rw [hpending] at haccepted
      cases haccepted
    · exact h.matched row hold haccepted
  · rw [hmatches]
    exact h.pairOnce
  · rw [hmatches, hconversations]
    exact h.talking
  · rw [hconversations]
    exact h.conversationOnce
  · intro row hmem
    rw [houtbox]
    rcases hrow.mp hmem with rfl | hold
    · exact ⟨event, List.mem_cons_self, hannounces⟩
    · obtain ⟨old, holdEvent, hold⟩ := h.announced row hold
      exact ⟨old, List.mem_cons_of_mem _ holdEvent, hold⟩
  · intro old hold
    rw [houtbox] at hold
    rcases List.mem_cons.mp hold with rfl | holdEvent
    · exact ⟨invitation, hrow.mpr (Or.inl rfl), Or.inl hkey⟩
    · obtain ⟨row, hmem, hkeys⟩ := h.events old holdEvent
      exact ⟨row, hrow.mpr (Or.inr hmem), hkeys⟩
  · exact insert?_once hevent h.eventOnce hnew

end MatchingDatabase.Agrees

/-- A commit which accepts a pending invitation and stores its match, conversation and event. -/
structure Accepts (db after : MatchingDatabase) (old accepted : MatchingInvitation)
    (buddyMatch : BuddyMatch) (conversation : BuddyConversation) (event : TransactionalOutbox) :
    Prop where
  held : old ∈ db.invitations.rows
  pending : old.status = .pending
  later : old.Later accepted
  consistent : accepted.Consistent
  acceptance : Acceptance accepted buddyMatch conversation event
  invitations : after.invitations = db.invitations.put accepted
  buddyMatches : db.buddyMatches.insert? buddyMatch = some after.buddyMatches
  conversations : db.conversations.insert? conversation = some after.conversations
  outbox : db.outbox.insert? event = some after.outbox

namespace Accepts

variable {old accepted : MatchingInvitation} {buddyMatch : BuddyMatch}
  {conversation : BuddyConversation} {event : TransactionalOutbox}

theorem settled (h : Accepts db after old accepted buddyMatch conversation event) :
    accepted.status ≠ .pending := by
  rw [h.acceptance.status]
  decide

theorem matchId (h : Accepts db after old accepted buddyMatch conversation event) :
    conversation.matchId = buddyMatch.id := by
  rw [h.acceptance.talking]

theorem idempotencyKey (h : Accepts db after old accepted buddyMatch conversation event) :
    event.idempotencyKey = .invitationAccepted accepted.id := by
  rw [h.acceptance.announced]
  rfl

theorem pair (h : Accepts db after old accepted buddyMatch conversation event) :
    buddyMatch.pair = old.pair := by
  rw [h.acceptance.pair, h.later.pair]

theorem mem_self (h : Accepts db after old accepted buddyMatch conversation event) :
    accepted ∈ after.invitations.rows := by
  rw [h.invitations]
  exact Table.mem_put_self h.held h.later.id

theorem mem_cases (h : Accepts db after old accepted buddyMatch conversation event)
    {row : MatchingInvitation} (hrow : row ∈ after.invitations.rows) :
    row = accepted ∨ row ∈ db.invitations.rows ∧ row ≠ old := by
  rw [h.invitations] at hrow
  exact Table.mem_put_cases h.later.id hrow

theorem kept (h : Accepts db after old accepted buddyMatch conversation event)
    {row : MatchingInvitation} (hrow : row ∈ db.invitations.rows) :
    row = old ∨ row ∈ after.invitations.rows := by
  rw [h.invitations]
  exact Table.mem_put_or_eq h.held h.later.id hrow

theorem mem_buddyMatches (h : Accepts db after old accepted buddyMatch conversation event)
    {row : BuddyMatch} : row ∈ after.buddyMatches.rows ↔
      row = buddyMatch ∨ row ∈ db.buddyMatches.rows := by
  rw [(Table.insert?_eq_some_iff.mp h.buddyMatches).2, List.mem_cons]

theorem mem_conversations (h : Accepts db after old accepted buddyMatch conversation event)
    {row : BuddyConversation} : row ∈ after.conversations.rows ↔
      row = conversation ∨ row ∈ db.conversations.rows := by
  rw [(Table.insert?_eq_some_iff.mp h.conversations).2, List.mem_cons]

theorem mem_outbox (h : Accepts db after old accepted buddyMatch conversation event)
    {row : TransactionalOutbox} : row ∈ after.outbox.rows ↔
      row = event ∨ row ∈ db.outbox.rows := by
  rw [(Table.insert?_eq_some_iff.mp h.outbox).2, List.mem_cons]

/-- The pair had a pending invitation, and thus no match. -/
theorem unmatched (h : Accepts db after old accepted buddyMatch conversation event)
    (hagrees : db.Agrees) : ∀ row ∈ db.buddyMatches.rows, row.pair ≠ buddyMatch.pair := by
  rw [h.pair]
  exact hagrees.pendingFree old h.held h.pending

theorem pendingOnce (h : Accepts db after old accepted buddyMatch conversation event)
    (hagrees : db.Agrees) :
    ∀ first ∈ after.invitations.rows, ∀ second ∈ after.invitations.rows,
      first.status = .pending → second.status = .pending → first.pair = second.pair →
        first = second := by
  intro first hfirst second hsecond hfirstPending hsecondPending
  rcases h.mem_cases hfirst with rfl | ⟨hfirstMem, -⟩
  · exact absurd hfirstPending h.settled
  · rcases h.mem_cases hsecond with rfl | ⟨hsecondMem, -⟩
    · exact absurd hsecondPending h.settled
    · exact hagrees.pendingOnce first hfirstMem second hsecondMem hfirstPending hsecondPending

/-- The accepted invitation was the only pending one of the pair. -/
theorem pendingFree (h : Accepts db after old accepted buddyMatch conversation event)
    (hagrees : db.Agrees) : ∀ row ∈ after.invitations.rows, row.status = .pending →
      ∀ other ∈ after.buddyMatches.rows, other.pair ≠ row.pair := by
  intro row hrow hpending other hother
  rcases h.mem_cases hrow with rfl | ⟨hmem, hne⟩
  · exact absurd hpending h.settled
  · rcases h.mem_buddyMatches.mp hother with rfl | hold
    · rw [h.pair]
      intro hpair
      exact hne (hagrees.pendingOnce row hmem old h.held hpending h.pending hpair.symm)
    · exact hagrees.pendingFree row hmem hpending other hold

theorem documented (h : Accepts db after old accepted buddyMatch conversation event)
    (hagrees : db.Agrees) : ∀ other ∈ after.buddyMatches.rows,
      ∃ row ∈ after.invitations.rows, ∃ talk ∈ after.conversations.rows,
        ∃ told ∈ after.outbox.rows, Acceptance row other talk told := by
  intro other hother
  rcases h.mem_buddyMatches.mp hother with rfl | hold
  · exact ⟨accepted, h.mem_self, conversation, h.mem_conversations.mpr (Or.inl rfl), event,
      h.mem_outbox.mpr (Or.inl rfl), h.acceptance⟩
  · obtain ⟨row, hrow, talk, htalk, told, htold, hacceptance⟩ := hagrees.documented other hold
    refine ⟨row, (h.kept hrow).resolve_left ?_, talk, h.mem_conversations.mpr (Or.inr htalk),
      told, h.mem_outbox.mpr (Or.inr htold), hacceptance⟩
    rintro rfl
    have hstatus := hacceptance.status
    rw [h.pending] at hstatus
    cases hstatus

theorem matched (h : Accepts db after old accepted buddyMatch conversation event)
    (hagrees : db.Agrees) : ∀ row ∈ after.invitations.rows, row.status = .accepted →
      ∃ other ∈ after.buddyMatches.rows, other.acceptedInvitationId = row.id := by
  intro row hrow hstatus
  rcases h.mem_cases hrow with rfl | ⟨hmem, -⟩
  · exact ⟨buddyMatch, h.mem_buddyMatches.mpr (Or.inl rfl), h.acceptance.accepted⟩
  · obtain ⟨other, hother, hid⟩ := hagrees.matched row hmem hstatus
    exact ⟨other, h.mem_buddyMatches.mpr (Or.inr hother), hid⟩

theorem talking (h : Accepts db after old accepted buddyMatch conversation event)
    (hagrees : db.Agrees) : ∀ talk ∈ after.conversations.rows,
      ∃ other ∈ after.buddyMatches.rows, talk.matchId = other.id := by
  intro talk htalk
  rcases h.mem_conversations.mp htalk with rfl | hold
  · exact ⟨buddyMatch, h.mem_buddyMatches.mpr (Or.inl rfl), h.matchId⟩
  · obtain ⟨other, hother, hid⟩ := hagrees.talking talk hold
    exact ⟨other, h.mem_buddyMatches.mpr (Or.inr hother), hid⟩

/-- A conversation of the new match would have had a match of its id before. -/
theorem conversationOnce (h : Accepts db after old accepted buddyMatch conversation event)
    (hagrees : db.Agrees) :
    ∀ first ∈ after.conversations.rows, ∀ second ∈ after.conversations.rows,
      first.matchId = second.matchId → first = second := by
  refine insert?_once h.conversations hagrees.conversationOnce ?_
  intro talk htalk hsame
  obtain ⟨other, hother, hid⟩ := hagrees.talking talk htalk
  exact (Table.insert?_eq_some_iff.mp h.buddyMatches).1 other hother
    (hid.symm.trans (hsame.trans h.matchId))

theorem announced (h : Accepts db after old accepted buddyMatch conversation event)
    (hagrees : db.Agrees) : ∀ row ∈ after.invitations.rows,
      ∃ told ∈ after.outbox.rows, told = createdEvent told.id row row.createdAt := by
  intro row hrow
  rcases h.mem_cases hrow with rfl | ⟨hmem, -⟩
  · obtain ⟨told, htold, hcreated⟩ := hagrees.announced old h.held
    refine ⟨told, h.mem_outbox.mpr (Or.inr htold), ?_⟩
    rw [createdEvent_later h.later]
    exact hcreated
  · obtain ⟨told, htold, hcreated⟩ := hagrees.announced row hmem
    exact ⟨told, h.mem_outbox.mpr (Or.inr htold), hcreated⟩

/-- The accepted invitation keeps the event of its creation, and had none of an acceptance. -/
theorem events (h : Accepts db after old accepted buddyMatch conversation event)
    (hagrees : db.Agrees) : ∀ told ∈ after.outbox.rows, ∃ row ∈ after.invitations.rows,
      told.idempotencyKey = .invitationCreated row.id ∨
        told.idempotencyKey = .invitationAccepted row.id ∧ row.status = .accepted := by
  intro told htold
  rcases h.mem_outbox.mp htold with rfl | hold
  · exact ⟨accepted, h.mem_self, Or.inr ⟨h.idempotencyKey, h.acceptance.status⟩⟩
  · obtain ⟨row, hrow, hkeys⟩ := hagrees.events told hold
    rcases h.kept hrow with rfl | hmem
    · refine ⟨accepted, h.mem_self, ?_⟩
      rw [h.later.id]
      refine hkeys.imp_right fun hboth => ?_
      rw [h.pending] at hboth
      cases hboth.2
    · exact ⟨row, hmem, hkeys⟩

theorem eventOnce (h : Accepts db after old accepted buddyMatch conversation event)
    (hagrees : db.Agrees) : ∀ first ∈ after.outbox.rows, ∀ second ∈ after.outbox.rows,
      first.idempotencyKey = second.idempotencyKey → first = second := by
  refine insert?_once h.outbox hagrees.eventOnce ?_
  intro told htold hsame
  obtain ⟨row, hrow, hkeys⟩ := hagrees.events told htold
  rw [hsame, h.idempotencyKey] at hkeys
  rcases hkeys with hcreated | ⟨hid, hstatus⟩
  · cases hcreated
  · have hids : row.id = old.id := by
      rw [← h.later.id]
      exact (OutboxKey.invitationAccepted.inj hid).symm
    have hrowOld : row = old := Table.eq_of_key hrow h.held hids
    rw [hrowOld, h.pending] at hstatus
    cases hstatus

/-- The acceptance of a pending invitation, with its match, conversation and event, keeps the
agreement. -/
theorem agrees (h : Accepts db after old accepted buddyMatch conversation event)
    (hagrees : db.Agrees) : after.Agrees where
  consistent := by
    intro row hrow
    rcases h.mem_cases hrow with rfl | ⟨hmem, -⟩
    · exact h.consistent
    · exact hagrees.consistent row hmem
  live := by
    intro row hrow
    rcases h.mem_cases hrow with rfl | ⟨hmem, -⟩
    · exact h.later.deletedAt.trans (hagrees.live old h.held)
    · exact hagrees.live row hmem
  pendingOnce := h.pendingOnce hagrees
  pendingFree := h.pendingFree hagrees
  documented := h.documented hagrees
  matched := h.matched hagrees
  pairOnce := insert?_once h.buddyMatches hagrees.pairOnce (h.unmatched hagrees)
  talking := h.talking hagrees
  conversationOnce := h.conversationOnce hagrees
  announced := h.announced hagrees
  events := h.events hagrees
  eventOnce := h.eventOnce hagrees

theorem grows (h : Accepts db after old accepted buddyMatch conversation event) :
    db.Grows after where
  invitations := by
    intro row hrow
    rcases h.kept hrow with rfl | hmem
    · exact ⟨accepted, h.mem_self, h.later⟩
    · exact ⟨row, hmem, .refl⟩
  buddyMatches := fun _ hold => h.mem_buddyMatches.mpr (Or.inr hold)
  conversations := fun _ hold => h.mem_conversations.mpr (Or.inr hold)
  outbox := fun _ hold => h.mem_outbox.mpr (Or.inr hold)

end Accepts

end Commits

end BuddyWeb
