/-
Sends, acceptances, other answers and expiries in any order of their steps: the tables agree in
every state, and a commit only adds to them.
-/
import BuddyWeb.Matching.MatchIntegrity
import BuddyWeb.Matching.PendingCapacity

namespace BuddyWeb

section Staging

variable {db : MatchingDatabase} {instant : Int} {writes : InvitationWrites}

/-- Changed rows of stored invitations, none of which is accepted. -/
structure ChangesRows (db : MatchingDatabase) (updated : List MatchingInvitation) : Prop where
  keys : (updated.map (·.id)).Nodup
  rows : ∀ row ∈ updated, ∃ old ∈ db.invitations.rows, old.Changes row ∧
    (row.status = .accepted → old.status = .accepted)

theorem changesRows_nil : ChangesRows db [] :=
  ⟨List.nodup_nil, by simp⟩

theorem changesRows_singleton {old row : MatchingInvitation} (hold : old ∈ db.invitations.rows)
    (hchanges : old.Changes row) (haccepted : row.status = .accepted → old.status = .accepted) :
    ChangesRows db [row] := by
  refine ⟨List.nodup_singleton _, ?_⟩
  intro other hother
  rw [List.mem_singleton.mp hother]
  exact ⟨old, hold, hchanges, haccepted⟩

theorem expire_status {old row : MatchingInvitation} (h : old.expire instant = .ok row) :
    row.status = .expired := by
  obtain ⟨-, -, -, rfl⟩ := MatchingInvitation.expire_eq_ok_iff.mp h
  rfl

theorem transition_status {old row : MatchingInvitation} {target : InvitationStatus}
    (h : old.transition target instant = .ok row) : row.status = target := by
  obtain ⟨⟨-, hterminal⟩, -, -, rfl⟩ := MatchingInvitation.transition_eq_ok_iff.mp h
  exact stamped_status hterminal

theorem changesRows_expired {old row : MatchingInvitation} (hold : old ∈ db.invitations.rows)
    (h : old.expire instant = .ok row) : ChangesRows db [row] := by
  refine changesRows_singleton hold (.expired h) ?_
  rw [expire_status h]
  intro haccepted
  cases haccepted

theorem changesRows_answered {old row : MatchingInvitation} {target : InvitationStatus}
    (hold : old ∈ db.invitations.rows) (htarget : target = .declined ∨ target = .cancelled)
    (h : old.transition target instant = .ok row) : ChangesRows db [row] := by
  have hstatus := transition_status h
  refine changesRows_singleton hold (.answered ?_ h) ?_
  · rcases htarget with rfl | rfl
    · decide
    · decide
  · intro haccepted
    rw [haccepted] at hstatus
    rcases htarget with rfl | rfl
    · cases hstatus
    · cases hstatus

/-- A stored invitation has a status which it keeps. -/
def MatchingDatabase.Settles (db : MatchingDatabase) (result : InvitationMutationResult) : Prop :=
  ∃ invitation ∈ db.invitations.rows, mutationResult invitation = result ∧
    result.status ≠ .pending

/-- An invitation has been settled before, or staged rows settle it. -/
def InvitationWrites.Settles (writes : InvitationWrites) (db : MatchingDatabase)
    (result : InvitationMutationResult) : Prop :=
  db.Settles result ∨ ∃ row ∈ writes.updated, mutationResult row = result ∧
    result.status ≠ .pending

/-- The expiries of a batch keep the ids of their rows. -/
theorem map_id_of_expire {due updated : List MatchingInvitation}
    (h : due.mapM (MatchingInvitation.expire · instant) = .ok updated) :
    updated.map (·.id) = due.map (·.id) := by
  induction due generalizing updated with
  | nil =>
      rw [List.mapM_nil, except_pure_eq_ok_iff] at h
      rw [← h]
  | cons head tail ih =>
      simp only [List.mapM_cons, except_bind_eq_ok_iff, except_pure_eq_ok_iff] at h
      obtain ⟨expired, hexpired, rest, hrest, rfl⟩ := h
      have hid : expired.id = head.id := (MatchingInvitation.Changes.expired hexpired).id
      rw [List.map_cons, List.map_cons, ih hrest, hid]

theorem dueInvitations_keys (locked : Nat → Bool) (batchSize : Nat) :
    ((dueInvitations db.invitations locked batchSize instant).map (·.id)).Nodup := by
  refine List.Nodup.sublist ((List.take_sublist _ _).map _) ?_
  refine ((List.perm_insertionSort _ _).map _).nodup_iff.mpr ?_
  exact db.invitations.nodup.sublist (List.filter_sublist.map _)

/-- What an expiry batch stages. -/
theorem expireInvitationBatch_rows {locked : Nat → Bool} {batchSize : Nat}
    {expiredIds : List Nat}
    (h : expireInvitationBatch db locked batchSize instant = .ok (expiredIds, writes)) :
    ∃ updated, writes = { updated := updated } ∧ ChangesRows db updated ∧
      (∀ row ∈ updated, locked row.id = false) ∧
        ∀ id ∈ expiredIds, writes.Settles db ⟨id, .expired⟩ := by
  obtain ⟨⟨updated, rfl, hexpired⟩, rfl⟩ := expireInvitationBatch_cases h
  refine ⟨updated, rfl, ⟨?_, ?_⟩, ?_, ?_⟩
  · rw [map_id_of_expire hexpired]
    exact dueInvitations_keys locked batchSize
  · intro row hrow
    obtain ⟨old, hdue, hold⟩ := exists_of_mem_mapM hexpired hrow
    refine ⟨old, (mem_dueInvitations hdue).1, .expired hold, ?_⟩
    rw [expire_status hold]
    intro haccepted
    cases haccepted
  · intro row hrow
    obtain ⟨old, hdue, hold⟩ := exists_of_mem_mapM hexpired hrow
    have hid : row.id = old.id := (MatchingInvitation.Changes.expired hold).id
    rw [hid]
    exact (mem_dueInvitations hdue).2.2.2
  · intro id hid
    rw [← map_id_of_expire hexpired] at hid
    obtain ⟨row, hrow, rfl⟩ := List.mem_map.mp hid
    obtain ⟨old, -, hold⟩ := exists_of_mem_mapM hexpired hrow
    refine Or.inr ⟨row, hrow, ?_, by simp⟩
    rw [mutationResult, expire_status hold]

/-- A change of an owner has loaded its invitation. -/
theorem mutation_loads {mutation : InvitationMutation} {current : VerifiedBuddyPrincipal}
    {invitationId : Nat} {staged : InvitationMutationResult × InvitationWrites}
    (h : mutation.run db current invitationId instant = .ok staged) :
    ∃ old, loadOwnedInvitationForUpdate db mutation.owner current.user.id invitationId =
      .ok old := by
  cases mutation with
  | decline => exact (except_bind_eq_ok_iff.mp h).imp fun _ hload => hload.1
  | cancel => exact (except_bind_eq_ok_iff.mp h).imp fun _ hload => hload.1
  | hide => exact (except_bind_eq_ok_iff.mp h).imp fun _ hload => hload.1

/-- What the change of an owner stages, with what it answers. -/
structure MutationRows (db : MatchingDatabase) (invitationId : Nat)
    (result : InvitationMutationResult) (writes : InvitationWrites) : Prop where
  staged : ∃ updated, writes = { updated := updated } ∧ ChangesRows db updated ∧
    ∀ row ∈ updated, row.id = invitationId
  settles : writes.Settles db result

theorem mutateInvitation_rows {owner : InvitationOwner} {target : InvitationStatus}
    {current : VerifiedBuddyPrincipal} {invitationId : Nat} {result : InvitationMutationResult}
    (htarget : target = .declined ∨ target = .cancelled)
    (h : mutateInvitation db owner target current invitationId instant = .ok (result, writes)) :
    MutationRows db invitationId result writes := by
  have hterminal : target ≠ .pending := by
    rcases htarget with rfl | rfl
    · decide
    · decide
  obtain ⟨invitation, hmem, hid, ⟨rfl, hstatus, rfl⟩ | ⟨changed, hchanged, rfl, rfl⟩⟩ :=
    mutateInvitation_cases h
  · refine ⟨⟨[], rfl, changesRows_nil, by simp⟩, Or.inl ⟨invitation, hmem, rfl, ?_⟩⟩
    rw [← hstatus] at hterminal
    exact hterminal
  · have hrows := changesRows_answered hmem htarget hchanged
    have hstatus := transition_status hchanged
    refine ⟨⟨_, rfl, hrows, ?_⟩, Or.inr ⟨changed, List.mem_singleton_self _, rfl, ?_⟩⟩
    · intro row hrow
      obtain ⟨-, -, -, rfl⟩ := MatchingInvitation.transition_eq_ok_iff.mp hchanged
      rw [List.mem_singleton.mp hrow, MatchingInvitation.stamped_id, hid]
    · rw [← hstatus] at hterminal
      exact hterminal

theorem mutation_rows {mutation : InvitationMutation} {current : VerifiedBuddyPrincipal}
    {invitationId : Nat} {result : InvitationMutationResult}
    (h : mutation.run db current invitationId instant = .ok (result, writes)) :
    MutationRows db invitationId result writes := by
  cases mutation with
  | decline => exact mutateInvitation_rows (Or.inl rfl) h
  | cancel => exact mutateInvitation_rows (Or.inr rfl) h
  | hide =>
      obtain ⟨invitation, hmem, ⟨hid, haccepted, rfl⟩, hcases⟩ :=
        hideAcceptedInvitationFromSender_cases h
      have hsettled : (mutationResult invitation).status ≠ .pending := by
        simp [mutationResult, haccepted]
      refine ⟨?_, Or.inl ⟨invitation, hmem, rfl, hsettled⟩⟩
      rcases hcases with rfl | ⟨hvisible, hidden, hhidden, rfl⟩
      · exact ⟨[], rfl, changesRows_nil, by simp⟩
      · have hchanges := MatchingInvitation.Changes.hidden hvisible hhidden
        refine ⟨_, rfl, changesRows_singleton hmem hchanges fun _ => haccepted, ?_⟩
        intro row hrow
        rw [List.mem_singleton.mp hrow, hchanges.id]
        exact hid

/-- What a send stages. -/
structure SendRows (db : MatchingDatabase)
    (principals : EligibleMatchingPrincipal × EligibleMatchingPrincipal) (instant : Int)
    (updated : List MatchingInvitation) (invitation : MatchingInvitation)
    (event : TransactionalOutbox) : Prop where
  changes : ChangesRows db updated
  stale : ∀ row ∈ updated, ∃ old, pendingOfPair db.invitations principals.1.userId
    principals.2.userId = some old ∧ row.id = old.id
  sender : invitation.senderId = principals.1.userId
  recipient : invitation.recipientId = principals.2.userId
  pending : invitation.status = .pending
  consistent : principals.1.userId ≠ principals.2.userId → invitation.Consistent
  live : invitation.deletedAt = none
  free : ∀ row ∈ db.invitations.rows, row.status = .pending → row.pair = invitation.pair →
    row.id ∈ updated.map (·.id)
  unmatched : db.activePairExists principals.1.userId principals.2.userId = false
  announces : event = createdEvent event.id invitation invitation.createdAt

theorem stageInvitation_rows
    {principals : EligibleMatchingPrincipal × EligibleMatchingPrincipal}
    {message : CanonicalInvitationMessage} {ids : SendIds} {invitation : MatchingInvitation}
    (h : stageInvitation db principals message instant ids = .ok (invitation, writes)) :
    ∃ updated event, SendRows db principals instant updated invitation event ∧
      writes = { updated := updated, created := some invitation, event := some event } := by
  simp only [stageInvitation, MatchingDatabase.stageEvent, except_bind_eq_ok_iff,
    ensure_eq_ok_iff, except_pure_eq_ok_iff, Prod.mk.injEq] at h
  obtain ⟨expired, hexpired, -, hunmatched, -, -, -, hfree, event, ⟨-, -, rfl⟩, rfl, rfl⟩ := h
  have hstale : ChangesRows db expired ∧ ∀ row ∈ expired, ∃ old,
      pendingOfPair db.invitations principals.1.userId principals.2.userId = some old ∧
        row.id = old.id := by
    unfold expireOrRejectPendingPair at hexpired
    split at hexpired
    · rw [← Except.ok.inj hexpired]
      exact ⟨changesRows_nil, by simp⟩
    · rename_i old hold
      simp only [except_bind_eq_ok_iff, mapError_eq_ok_iff, except_pure_eq_ok_iff] at hexpired
      obtain ⟨-, -, stale, hexpire, rfl⟩ := hexpired
      refine ⟨changesRows_expired (Table.select?_mem hold) hexpire, ?_⟩
      intro row hrow
      rw [List.mem_singleton.mp hrow]
      exact ⟨old, hold, (MatchingInvitation.Changes.expired hexpire).id⟩
  refine ⟨expired, _, ⟨hstale.1, hstale.2, rfl, rfl, rfl, ?_, rfl, ?_, hunmatched, rfl⟩, rfl⟩
  · intro hdistinct
    constructor <;> simp [sentInvitation, hdistinct]
  · intro row hrow hpending hpair
    by_contra hkept
    have hmem : row ∈ (db.updateInvitations expired).rows := by
      refine (Table.mem_putAll_iff hstale.1.keys).mpr (Or.inr ⟨hrow, ?_⟩)
      intro other hother hid
      exact hkept (List.mem_map.mpr ⟨other, hother, hid⟩)
    have hunselected := Table.select?_eq_none hfree row hmem
    have hsame : row.pair = canonicalUserPair principals.1.userId principals.2.userId := hpair
    simp [hsame, hpending] at hunselected

/-- The match which an acceptance stages. -/
theorem activateBuddyMatch_match {context : ScoringContext} {id : Nat}
    {invitation : MatchingInvitation} {participants : LockedBuddyParticipants}
    {compatibility : CompatibilityScore} {buddyMatch : BuddyMatch}
    (h : activateBuddyMatch context db id invitation participants compatibility instant =
      .ok buddyMatch) :
    buddyMatch.acceptedInvitationId = invitation.id ∧
      (buddyMatch.participantOneUserId = invitation.senderId ∧
        buddyMatch.participantTwoUserId = invitation.recipientId) ∧
      buddyMatch.isActive = true ∧ buddyMatch.deletedAt = none ∧
        buddyMatch.activatedAt = instant := by
  simp only [activateBuddyMatch, except_bind_eq_ok_iff, except_pure_eq_ok_iff] at h
  obtain ⟨-, -, -, -, -, -, _, -, _, -, -, -, rfl⟩ := h
  exact ⟨rfl, ⟨rfl, rfl⟩, rfl, rfl, rfl⟩

/-- The conversation of a match is new, or there is one already. -/
theorem getOrCreateBuddyConversation_cases {id : Nat} {buddyMatch : BuddyMatch}
    {conversation : BuddyConversation × Option BuddyConversation}
    (h : getOrCreateBuddyConversation db id buddyMatch instant = .ok conversation) :
    (conversation.2 = some conversation.1 ∧
      conversation.1 = ⟨conversation.1.id, buddyMatch.id, buddyMatch.semesterId, instant⟩) ∨
    (conversation.2 = none ∧ conversation.1 ∈ db.conversations.rows ∧
      conversation.1.matchId = buddyMatch.id) := by
  simp only [getOrCreateBuddyConversation, except_bind_eq_ok_iff] at h
  obtain ⟨-, -, h⟩ := h
  split at h
  · rename_i existing hexisting
    rw [except_pure_eq_ok_iff] at h
    rw [← h]
    refine Or.inr ⟨rfl, Table.select?_mem hexisting, ?_⟩
    simpa using Table.select?_filter hexisting
  · rw [except_pure_eq_ok_iff] at h
    rw [← h]
    exact Or.inl ⟨rfl, rfl⟩

theorem loadOwnedInvitation_eq_ok_iff {invitationId recipientId : Nat}
    {invitation : MatchingInvitation} :
    loadOwnedInvitation db invitationId recipientId = .ok invitation ↔
      invitation ∈ db.invitations.rows ∧ invitation.id = invitationId ∧
        invitation.recipientId = recipientId ∧ invitation.deletedAt = none := by
  simp only [loadOwnedInvitation, require_eq_ok_iff]
  constructor
  · intro h
    have hfilter := Table.select?_filter h
    simp only [Bool.and_eq_true, decide_eq_true_eq, Option.isNone_iff_eq_none] at hfilter
    exact ⟨Table.select?_mem h, hfilter.1.1, hfilter.1.2, hfilter.2⟩
  · rintro ⟨hmem, hid, hrecipient, hlive⟩
    apply Table.select?_eq_some_of_unique hmem
    · simp [hid, hrecipient, hlive]
    · intro other hother hfilter
      simp only [Bool.and_eq_true, decide_eq_true_eq] at hfilter
      exact Table.eq_of_key hother hmem (hfilter.1.1.trans hid.symm)

/-- The receipt of an acceptance names a stored match and its conversation. -/
def MatchingDatabase.Acknowledges (db : MatchingDatabase)
    (result : InvitationAcceptanceResult) : Prop :=
  ∃ buddyMatch ∈ db.buddyMatches.rows, ∃ conversation ∈ db.conversations.rows,
    buddyMatch.acceptedInvitationId = result.invitationId ∧ buddyMatch.id = result.matchId ∧
      conversation.matchId = buddyMatch.id ∧ conversation.id = result.conversationId

theorem loadCompletedResult_acknowledges {invitation : MatchingInvitation}
    {result : InvitationAcceptanceResult}
    (h : loadCompletedResult db invitation = .ok result) : db.Acknowledges result := by
  simp only [loadCompletedResult, except_bind_eq_ok_iff, require_eq_ok_iff,
    except_pure_eq_ok_iff] at h
  obtain ⟨buddyMatch, hmatch, conversation, hconversation, rfl⟩ := h
  have hid := Table.select?_filter hmatch
  simp only [Bool.and_eq_true, decide_eq_true_eq] at hid
  have hmatchId := Table.select?_filter hconversation
  exact ⟨buddyMatch, Table.select?_mem hmatch, conversation, Table.select?_mem hconversation,
    hid.1, rfl, of_decide_eq_true hmatchId, rfl⟩

/-- What an acceptance stages of a pending invitation. -/
structure AcceptRows (db : MatchingDatabase) (old : MatchingInvitation) (instant : Int)
    (buddyMatch : BuddyMatch) (conversation : BuddyConversation)
    (created : Option BuddyConversation) (event : TransactionalOutbox) : Prop where
  pending : old.status = .pending
  inTime : instant < old.expiresAt
  sent : old.createdAt ≤ instant
  accepted : buddyMatch.acceptedInvitationId = old.id
  participants : buddyMatch.participantOneUserId = old.senderId ∧
    buddyMatch.participantTwoUserId = old.recipientId
  active : buddyMatch.isActive = true
  live : buddyMatch.deletedAt = none
  activated : buddyMatch.activatedAt = instant
  talking : (created = some conversation ∧
      conversation = ⟨conversation.id, buddyMatch.id, buddyMatch.semesterId, instant⟩) ∨
    (created = none ∧ ∃ existing ∈ db.conversations.rows, existing.matchId = buddyMatch.id)
  announces : event =
    acceptedEvent event.id (old.stamped .accepted instant) buddyMatch conversation instant

/-- An acceptance replays a receipt, or stages the rows of its own. -/
theorem stageAcceptance_rows {context : ScoringContext} {current : VerifiedBuddyPrincipal}
    {invitationId : Nat} {observed : MatchingInvitation} {participants : LockedBuddyParticipants}
    {sender recipient : EligibleMatchingPrincipal} {ids : AcceptIds}
    {result : InvitationAcceptanceResult}
    (h : stageAcceptance context db current invitationId observed participants sender recipient
      instant ids = .ok (result, writes)) :
    ∃ old, loadOwnedInvitation db invitationId current.user.id = .ok old ∧
      (writes = {} ∧ db.Acknowledges result ∨
        ∃ buddyMatch conversation created event,
          AcceptRows db old instant buddyMatch conversation created event ∧
          result = ⟨old.id, buddyMatch.id, conversation.id⟩ ∧
          writes = {
            updated := [old.stamped .accepted instant]
            buddyMatch := some buddyMatch
            conversation := created
            event := some event }) := by
  obtain ⟨old, hload, -, hcases⟩ := stageAcceptance_cases h
  refine ⟨old, hload, ?_⟩
  rcases hcases with ⟨-, hcompleted, hnothing⟩ | ⟨_, _, buddyMatch, conversation, event, hrows,
      hresult, hwrites⟩
  · exact Or.inl ⟨hnothing, loadCompletedResult_acknowledges hcompleted⟩
  · obtain ⟨haccepted, hparticipants, hactive, hlive, hactivated⟩ :=
      activateBuddyMatch_match hrows.activated
    have hsame : old.stamped .accepted instant =
        { old with status := .accepted, respondedAt := some instant } := rfl
    rw [hsame] at haccepted hparticipants
    refine Or.inr ⟨buddyMatch, conversation.1, conversation.2, event, ⟨hrows.pending,
      hrows.before, hrows.created, haccepted, hparticipants, hactive, hlive, hactivated, ?_, ?_⟩,
      hresult, hwrites⟩
    · refine (getOrCreateBuddyConversation_cases hrows.talking).imp_right ?_
      rintro ⟨hnone, hexisting, hmatchId⟩
      exact ⟨hnone, conversation.1, hexisting, hmatchId⟩
    · rw [hrows.announced]
      rfl

end Staging

/-- Staged rows, with the tables on which they build and the locks which keep these so. -/
inductive Prepared (db : MatchingDatabase) (holds : RowLock → Prop) : InvitationWrites → Prop
  | settle {updated : List MatchingInvitation} (hchanges : ChangesRows db updated)
      (hlocked : ∀ row ∈ updated, holds (.invitation row.id)) :
      Prepared db holds { updated := updated }
  | send {updated : List MatchingInvitation} {invitation : MatchingInvitation}
      {event : TransactionalOutbox} (hchanges : ChangesRows db updated)
      (hlocked : ∀ row ∈ updated, holds (.invitation row.id))
      (hpair : holds (.user invitation.pair.1)) (hpending : invitation.status = .pending)
      (hconsistent : invitation.Consistent) (hlive : invitation.deletedAt = none)
      (hfree : ∀ row ∈ db.invitations.rows, row.status = .pending →
        row.pair = invitation.pair → row.id ∈ updated.map (·.id))
      (hunmatched : ∀ buddyMatch ∈ db.buddyMatches.rows, buddyMatch.pair ≠ invitation.pair)
      (hannounces : event = createdEvent event.id invitation invitation.createdAt) :
      Prepared db holds
        { updated := updated, created := some invitation, event := some event }
  | accept {old : MatchingInvitation} {instant : Int} {buddyMatch : BuddyMatch}
      {conversation : BuddyConversation} {created : Option BuddyConversation}
      {event : TransactionalOutbox} (hold : old ∈ db.invitations.rows)
      (hlocked : holds (.invitation old.id))
      (hrows : AcceptRows db old instant buddyMatch conversation created event) :
      Prepared db holds {
        updated := [old.stamped .accepted instant]
        buddyMatch := some buddyMatch
        conversation := created
        event := some event }

/-- Tables after the commit of a transaction which held some locks: it has changed invitations
under their locks, and sent and matched under the locks of a pair or its invitation. -/
structure TouchesLocked (db : MatchingDatabase) (holds : RowLock → Prop)
    (after : MatchingDatabase) : Prop where
  kept : ∀ row ∈ db.invitations.rows, ¬ holds (.invitation row.id) →
    row ∈ after.invitations.rows
  pending : ∀ row ∈ after.invitations.rows, row.status = .pending →
    row ∈ db.invitations.rows ∨ holds (.user row.pair.1)
  buddyMatches : ∀ buddyMatch ∈ after.buddyMatches.rows, buddyMatch ∈ db.buddyMatches.rows ∨
    ∃ old ∈ db.invitations.rows, old.status = .pending ∧ old.pair = buddyMatch.pair ∧
      holds (.invitation old.id)
  conversations : ∀ conversation ∈ db.conversations.rows,
    conversation ∈ after.conversations.rows

section Commits

variable {db after : MatchingDatabase} {holds others later : RowLock → Prop}
  {writes : InvitationWrites}

theorem touchesLocked_refl : TouchesLocked db holds db :=
  ⟨fun _ hrow _ => hrow, fun _ hrow _ => Or.inl hrow, fun _ hmatch => Or.inl hmatch,
    fun _ hconversation => hconversation⟩

/-- Staged rows stay prepared when a transaction without their locks commits. -/
theorem Prepared.keep (h : Prepared db holds writes) (htouches : TouchesLocked db others after)
    (hdisjoint : ∀ lock, holds lock → ¬ others lock) (hheld : ∀ lock, holds lock → later lock) :
    Prepared after later writes := by
  have hchanged : ∀ {updated : List MatchingInvitation}, ChangesRows db updated →
      (∀ row ∈ updated, holds (.invitation row.id)) → ChangesRows after updated := by
    intro updated hchanges hlocked
    refine ⟨hchanges.keys, fun row hrow => ?_⟩
    obtain ⟨old, hold, hchange⟩ := hchanges.rows row hrow
    have hlock := hlocked row hrow
    rw [hchange.1.id] at hlock
    exact ⟨old, htouches.kept old hold (hdisjoint _ hlock), hchange⟩
  cases h with
  | settle hchanges hlocked =>
      exact .settle (hchanged hchanges hlocked) fun row hrow => hheld _ (hlocked row hrow)
  | @send updated invitation event hchanges hlocked hpair hpending hconsistent hlive hfree
      hunmatched hannounces =>
      refine .send (hchanged hchanges hlocked) (fun row hrow => hheld _ (hlocked row hrow))
        (hheld _ hpair) hpending hconsistent hlive ?_ ?_ hannounces
      · intro row hrow hrowPending hsame
        rcases htouches.pending row hrow hrowPending with hold | hsent
        · exact hfree row hold hrowPending hsame
        · rw [hsame] at hsent
          exact absurd hsent (hdisjoint _ hpair)
      · intro buddyMatch hmatch hsame
        rcases htouches.buddyMatches buddyMatch hmatch with hold | ⟨old, hold, holdPending,
            holdPair, hlock⟩
        · exact hunmatched buddyMatch hold hsame
        · have hid := hfree old hold holdPending (holdPair.trans hsame)
          obtain ⟨row, hrow, hrowId⟩ := List.mem_map.mp hid
          have hown := hlocked row hrow
          rw [hrowId] at hown
          exact hdisjoint _ hown hlock
  | @accept old instant buddyMatch conversation created event hold hlocked hrows =>
      refine .accept (htouches.kept old hold (hdisjoint _ hlocked)) (hheld _ hlocked)
        { hrows with talking := hrows.talking.imp_right ?_ }
      rintro ⟨hnone, existing, hexisting, hmatchId⟩
      exact ⟨hnone, existing, htouches.conversations existing hexisting, hmatchId⟩

theorem ChangesRows.revises {updated : List MatchingInvitation} (h : ChangesRows db updated) :
    Revises db.invitations (db.updateInvitations updated) :=
  revises_putAll h.keys h.rows

/-- A row which a change leaves pending has no new version. -/
theorem ChangesRows.pending {updated : List MatchingInvitation} (h : ChangesRows db updated)
    {row : MatchingInvitation} (hrow : row ∈ (db.updateInvitations updated).rows)
    (hpending : row.status = .pending) :
    row ∈ db.invitations.rows ∧ row.id ∉ updated.map (·.id) := by
  rcases (Table.mem_putAll_iff h.keys).mp hrow with ⟨hupdated, -⟩ | ⟨hold, hothers⟩
  · obtain ⟨old, -, hchange, -⟩ := h.rows row hupdated
    exact absurd hpending hchange.settled
  · refine ⟨hold, fun hmem => ?_⟩
    obtain ⟨other, hother, hid⟩ := List.mem_map.mp hmem
    exact hothers other hother hid

/-- A new version is stored. -/
theorem ChangesRows.stored {updated : List MatchingInvitation} (h : ChangesRows db updated)
    {row : MatchingInvitation} (hrow : row ∈ updated) :
    row ∈ (db.updateInvitations updated).rows := by
  obtain ⟨old, hold, hchange, -⟩ := h.rows row hrow
  exact (Table.mem_putAll_iff h.keys).mpr (Or.inl ⟨hrow, old, hold, hchange.id.symm⟩)

/-- A row without a new version stays. -/
theorem ChangesRows.kept {updated : List MatchingInvitation} (h : ChangesRows db updated)
    (hlocked : ∀ row ∈ updated, holds (.invitation row.id)) {row : MatchingInvitation}
    (hrow : row ∈ db.invitations.rows) (hfree : ¬ holds (.invitation row.id)) :
    row ∈ (db.updateInvitations updated).rows := by
  refine (Table.mem_putAll_iff h.keys).mpr (Or.inr ⟨hrow, ?_⟩)
  intro other hother hid
  have hid : other.id = row.id := hid
  have hlock := hlocked other hother
  rw [hid] at hlock
  exact hfree hlock

theorem Revises.grown {invitations : Table MatchingInvitation} (hagrees : db.Agrees)
    (h : Revises db.invitations invitations) {row : MatchingInvitation}
    (hrow : row ∈ db.invitations.rows) : ∃ later ∈ invitations.rows, row.Later later := by
  obtain ⟨later, hlater, hrevised⟩ := h.kept row hrow
  exact ⟨later, hlater, hrevised.later (hagrees.consistent row hrow)⟩

/-- What a commit of prepared rows leaves. -/
structure Commits (db : MatchingDatabase) (holds : RowLock → Prop) (after : MatchingDatabase) :
    Prop where
  agrees : after.Agrees
  grows : db.Grows after
  touches : TouchesLocked db holds after

theorem commits_settled {updated : List MatchingInvitation} (hagrees : db.Agrees)
    (hchanges : ChangesRows db updated) (hlocked : ∀ row ∈ updated, holds (.invitation row.id))
    (hwrite : db.write { updated := updated } = some after) : Commits db holds after := by
  obtain ⟨⟨htables, hinvitations⟩, hmatches, hconversations, houtbox⟩ :=
    MatchingDatabase.write_eq_some_iff.mp hwrite
  have hafter : after = { db with invitations := db.updateInvitations updated } := by
    rcases after with ⟨tables, invitations, buddyMatches, conversations, outbox⟩
    obtain rfl := htables
    obtain rfl := Option.some.inj hinvitations
    obtain rfl := Option.some.inj hmatches
    obtain rfl := Option.some.inj hconversations
    obtain rfl := Option.some.inj houtbox
    rfl
  rw [hafter]
  refine ⟨hagrees.revise hchanges.revises, ⟨?_, ?_, ?_, ?_⟩, ⟨?_, ?_, ?_, ?_⟩⟩
  · exact fun row hrow => hchanges.revises.grown hagrees hrow
  · exact fun _ hmatch => hmatch
  · exact fun _ hconversation => hconversation
  · exact fun _ hevent => hevent
  · exact fun row hrow hfree => hchanges.kept hlocked hrow hfree
  · exact fun row hrow hpending => Or.inl (hchanges.pending hrow hpending).1
  · exact fun _ hmatch => Or.inl hmatch
  · exact fun _ hconversation => hconversation

theorem commits_sent {updated : List MatchingInvitation} {invitation : MatchingInvitation}
    {event : TransactionalOutbox} (hagrees : db.Agrees) (hchanges : ChangesRows db updated)
    (hlocked : ∀ row ∈ updated, holds (.invitation row.id))
    (hpair : holds (.user invitation.pair.1)) (hpending : invitation.status = .pending)
    (hconsistent : invitation.Consistent) (hlive : invitation.deletedAt = none)
    (hfree : ∀ row ∈ db.invitations.rows, row.status = .pending →
      row.pair = invitation.pair → row.id ∈ updated.map (·.id))
    (hunmatched : ∀ buddyMatch ∈ db.buddyMatches.rows, buddyMatch.pair ≠ invitation.pair)
    (hannounces : event = createdEvent event.id invitation invitation.createdAt)
    (hwrite : db.write { updated := updated, created := some invitation, event := some event } =
      some after) : Commits db holds after := by
  obtain ⟨⟨-, hinvitations⟩, hmatches, hconversations, houtbox⟩ :=
    MatchingDatabase.write_eq_some_iff.mp hwrite
  have hmatches : after.buddyMatches = db.buddyMatches := (Option.some.inj hmatches).symm
  have hconversations : after.conversations = db.conversations :=
    (Option.some.inj hconversations).symm
  have hrow : ∀ {row}, row ∈ after.invitations.rows ↔
      row = invitation ∨ row ∈ (db.updateInvitations updated).rows := by
    intro row
    rw [(Table.insert?_eq_some_iff.mp hinvitations).2, List.mem_cons]
  refine ⟨?_, ⟨?_, ?_, ?_, ?_⟩, ⟨?_, ?_, ?_, ?_⟩⟩
  · refine (hagrees.revise hchanges.revises).send hinvitations houtbox hmatches hconversations
      hpending hconsistent hlive ?_ hunmatched hannounces
    intro row hmem hrowPending hsame
    obtain ⟨hold, hunchanged⟩ := hchanges.pending hmem hrowPending
    exact hunchanged (hfree row hold hrowPending hsame)
  · intro row hold
    obtain ⟨later, hlater, hversion⟩ := hchanges.revises.grown hagrees hold
    exact ⟨later, hrow.mpr (Or.inr hlater), hversion⟩
  · rw [hmatches]
    exact fun _ hmatch => hmatch
  · rw [hconversations]
    exact fun _ hconversation => hconversation
  · intro old hold
    rw [(Table.insert?_eq_some_iff.mp houtbox).2]
    exact List.mem_cons_of_mem _ hold
  · exact fun row hold hother => hrow.mpr (Or.inr (hchanges.kept hlocked hold hother))
  · intro row hmem hrowPending
    rcases hrow.mp hmem with rfl | hupdated
    · exact Or.inr hpair
    · exact Or.inl (hchanges.pending hupdated hrowPending).1
  · rw [hmatches]
    exact fun _ hmatch => Or.inl hmatch
  · rw [hconversations]
    exact fun _ hconversation => hconversation

theorem commits_accepted {old : MatchingInvitation} {instant : Int} {buddyMatch : BuddyMatch}
    {conversation : BuddyConversation} {created : Option BuddyConversation}
    {event : TransactionalOutbox} (hagrees : db.Agrees) (hold : old ∈ db.invitations.rows)
    (hlocked : holds (.invitation old.id))
    (hrows : AcceptRows db old instant buddyMatch conversation created event)
    (hwrite : db.write {
      updated := [old.stamped .accepted instant]
      buddyMatch := some buddyMatch
      conversation := created
      event := some event } = some after) :
    Commits db holds after ∧ created = some conversation := by
  obtain ⟨⟨-, hinvitations⟩, hmatches, hconversations, houtbox⟩ :=
    MatchingDatabase.write_eq_some_iff.mp hwrite
  have hinvitations : after.invitations = db.invitations.put (old.stamped .accepted instant) :=
    (Option.some.inj hinvitations).symm
  have hfresh := (Table.insert?_eq_some_iff.mp hmatches).1
  have hlater : old.Later (old.stamped .accepted instant) :=
    .stamped hrows.pending (hagrees.consistent old hold)
  -- A conversation of the match would have brought the match with it.
  obtain ⟨hcreated, htalking⟩ := hrows.talking.resolve_right (by
    rintro ⟨-, existing, hexisting, hmatchId⟩
    obtain ⟨other, hother, hid⟩ := hagrees.talking existing hexisting
    exact hfresh other hother (hid.symm.trans hmatchId))
  rw [hcreated] at hconversations
  have hacceptance : Acceptance (old.stamped .accepted instant) buddyMatch conversation event := by
    refine ⟨hrows.accepted, hrows.participants, rfl, ?_, ?_, hrows.active, hrows.live, ?_, ?_⟩
    · rw [hrows.activated]
      rfl
    · rw [hrows.activated]
      exact hrows.inTime
    · rw [hrows.activated]
      exact htalking
    · rw [hrows.activated]
      exact hrows.announces
  have hconsistent : (old.stamped .accepted instant).Consistent :=
    (hagrees.consistent old hold).stamped hrows.pending rfl hrows.sent (by simp)
  have haccepts : Accepts db after old (old.stamped .accepted instant) buddyMatch conversation
      event :=
    ⟨hold, hrows.pending, hlater, hconsistent, hacceptance, hinvitations, hmatches,
      hconversations, houtbox⟩
  refine ⟨⟨haccepts.agrees hagrees, haccepts.grows, ⟨?_, ?_, ?_, ?_⟩⟩, hcreated⟩
  · intro row hrow hfree
    rcases haccepts.kept hrow with rfl | hmem
    · exact absurd hlocked hfree
    · exact hmem
  · intro row hrow hpending
    rcases haccepts.mem_cases hrow with rfl | ⟨hmem, -⟩
    · cases hpending
    · exact Or.inl hmem
  · intro other hother
    rcases haccepts.mem_buddyMatches.mp hother with rfl | hmem
    · exact Or.inr ⟨old, hold, hrows.pending, haccepts.pair.symm, hlocked⟩
    · exact Or.inl hmem
  · exact haccepts.grows.conversations

/-- A commit of prepared rows keeps the agreement, adds to the tables, and touches only what
its locks cover. -/
theorem Prepared.commits (h : Prepared db holds writes) (hagrees : db.Agrees)
    (hwrite : db.write writes = some after) : Commits db holds after := by
  cases h with
  | settle hchanges hlocked => exact commits_settled hagrees hchanges hlocked hwrite
  | send hchanges hlocked hpair hpending hconsistent hlive hfree hunmatched hannounces =>
      exact commits_sent hagrees hchanges hlocked hpair hpending hconsistent hlive hfree
        hunmatched hannounces hwrite
  | accept hold hlocked hrows => exact (commits_accepted hagrees hold hlocked hrows hwrite).1

end Commits

end BuddyWeb
