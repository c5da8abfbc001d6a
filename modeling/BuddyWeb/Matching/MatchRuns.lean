/-
The invariant of interleaved matching requests over every run of their steps.
-/
import BuddyWeb.Matching.MatchSafety

namespace BuddyWeb

section Pairs

variable {unicode : UnicodeData} {db : MatchingDatabase} {current : VerifiedBuddyPrincipal}

/-- Two users whose pair is locked by the row of its first user. -/
structure HoldsPair (holds : RowLock → Prop) (first second : Nat) : Prop where
  distinct : first ≠ second
  locked : holds (.user (canonicalUserPair first second).1)

theorem HoldsPair.mono {holds later : RowLock → Prop} {first second : Nat}
    (h : HoldsPair holds first second) (hheld : ∀ lock, holds lock → later lock) :
    HoldsPair later first second :=
  ⟨h.distinct, hheld _ h.locked⟩

theorem sessionUser_id {userId : Nat} {user : User}
    (h : db.sessionUser current userId = some user) : user.id = userId := by
  simp only [MatchingDatabase.sessionUser, Option.map_eq_some_iff] at h
  obtain ⟨row, hrow, hsame⟩ := h
  have hid : row.id = userId := Table.get?_key hrow
  split at hsame
  · rename_i hown
    rw [← hsame, ← hown, hid]
  · rw [← hsame, hid]

theorem sendUsers_ids {recipientUserId : Nat} {users : User × User}
    (h : sendUsers db current recipientUserId = .ok users) :
    users.1.id = current.user.id ∧ users.2.id = recipientUserId := by
  simp only [sendUsers, except_bind_eq_ok_iff, require_eq_ok_iff, except_pure_eq_ok_iff,
    Option.filter_eq_some_iff] at h
  obtain ⟨sender, ⟨hsender, -⟩, recipient, ⟨hrecipient, -⟩, -, -, -, -, rfl⟩ := h
  exact ⟨sessionUser_id hsender, sessionUser_id hrecipient⟩

theorem sendPrincipals_ids {users : User × User} {recipientProfileId recipientUserId : Nat}
    {principals : EligibleMatchingPrincipal × EligibleMatchingPrincipal}
    (h : sendPrincipals unicode db current users recipientProfileId recipientUserId =
      .ok principals) :
    principals.1.userId = users.1.id ∧ principals.2.userId = users.2.id := by
  simp only [sendPrincipals, except_bind_eq_ok_iff, except_pure_eq_ok_iff] at h
  obtain ⟨_, _, _, _, sender, hsender, recipient, hrecipient, _, _, rfl⟩ := h
  exact ⟨requireEligibility_userId hsender, requireEligibility_userId hrecipient⟩

theorem sendTarget_ne {recipientProfileId recipientUserId : Nat}
    (h : sendTarget db current recipientProfileId = .ok recipientUserId) :
    recipientUserId ≠ current.user.id := by
  simp only [sendTarget, except_bind_eq_ok_iff, ensure_eq_ok_iff, except_pure_eq_ok_iff] at h
  obtain ⟨record, -, -, hother, rfl⟩ := h
  exact hother

end Pairs

/-- What a receipt says of the tables.  That of a profile update says nothing: later updates
may change the profile again. -/
def MatchingDatabase.Honours (db : MatchingDatabase) : InvitationReceipt → Prop
  | .sent invitationId => ∃ invitation ∈ db.invitations.rows, invitation.id = invitationId
  | .accepted result => db.Acknowledges result
  | .mutated result => db.Settles result
  | .expired invitationIds => ∀ id ∈ invitationIds, db.Settles ⟨id, .expired⟩
  | .profileUpdated => True

/-- Staged rows with which the tables honour a receipt. -/
def InvitationWrites.Backs (writes : InvitationWrites) (db : MatchingDatabase) :
    InvitationReceipt → Prop
  | .sent invitationId => ∃ invitation, writes.created = some invitation ∧
      invitation.id = invitationId
  | .accepted result => db.Acknowledges result ∨ ∃ buddyMatch,
      writes.buddyMatch = some buddyMatch ∧
        buddyMatch.acceptedInvitationId = result.invitationId ∧
        buddyMatch.id = result.matchId ∧ ∀ conversation, writes.conversation = some conversation →
          conversation.id = result.conversationId
  | .mutated result => writes.Settles db result
  | .expired invitationIds => ∀ id ∈ invitationIds, writes.Settles db ⟨id, .expired⟩
  | .profileUpdated => True

section Receipts

variable {db after : MatchingDatabase} {holds : RowLock → Prop} {writes : InvitationWrites}
  {receipt : InvitationReceipt}

theorem MatchingDatabase.Acknowledges.grow {result : InvitationAcceptanceResult}
    (h : db.Acknowledges result) (hgrows : db.Grows after) : after.Acknowledges result := by
  obtain ⟨buddyMatch, hmatch, conversation, hconversation, hids⟩ := h
  exact ⟨buddyMatch, hgrows.buddyMatches buddyMatch hmatch, conversation,
    hgrows.conversations conversation hconversation, hids⟩

theorem MatchingDatabase.Settles.grow {result : InvitationMutationResult}
    (h : db.Settles result) (hgrows : db.Grows after) : after.Settles result := by
  obtain ⟨invitation, hmem, rfl, hsettled⟩ := h
  obtain ⟨later, hlater, hversion⟩ := hgrows.invitations invitation hmem
  refine ⟨later, hlater, ?_, hsettled⟩
  rw [mutationResult, mutationResult, hversion.id, (hversion.settled hsettled).1]

theorem MatchingDatabase.Honours.grow (h : db.Honours receipt) (hgrows : db.Grows after) :
    after.Honours receipt := by
  cases receipt with
  | sent invitationId =>
      obtain ⟨invitation, hmem, hid⟩ := h
      obtain ⟨later, hlater, hversion⟩ := hgrows.invitations invitation hmem
      exact ⟨later, hlater, hversion.id.trans hid⟩
  | accepted result => exact MatchingDatabase.Acknowledges.grow h hgrows
  | mutated result => exact MatchingDatabase.Settles.grow h hgrows
  | expired invitationIds => exact fun id hid => (h id hid).grow hgrows
  | profileUpdated => trivial

theorem InvitationWrites.Backs.grow (h : writes.Backs db receipt) (hgrows : db.Grows after) :
    writes.Backs after receipt := by
  cases receipt with
  | accepted result => exact Or.imp_left (fun hold => hold.grow hgrows) h
  | sent invitationId => exact h
  | mutated result => exact Or.imp_left (fun hold => hold.grow hgrows) h
  | expired invitationIds =>
      exact fun id hid => Or.imp_left (fun hold => hold.grow hgrows) (h id hid)
  | profileUpdated => trivial

/-- A committed acceptance has stored its match with its conversation. -/
theorem Prepared.stores_match (h : Prepared db holds writes) (hagrees : db.Agrees)
    (hwrite : db.write writes = some after) {buddyMatch : BuddyMatch}
    (hmatch : writes.buddyMatch = some buddyMatch) : buddyMatch ∈ after.buddyMatches.rows ∧
      ∃ conversation ∈ after.conversations.rows, writes.conversation = some conversation ∧
        conversation.matchId = buddyMatch.id := by
  cases h with
  | settle => cases hmatch
  | send => cases hmatch
  | @accept old instant stored conversation created event hold hlocked hrows =>
      obtain rfl := Option.some.inj hmatch
      have hcreated := (commits_accepted hagrees hold hlocked hrows hwrite).2
      obtain ⟨-, hmatches, hconversations, -⟩ := MatchingDatabase.write_eq_some_iff.mp hwrite
      refine ⟨(Table.mem_insertOptional hmatches).mpr (Or.inl rfl), conversation,
        (Table.mem_insertOptional hconversations).mpr (Or.inl hcreated), hcreated, ?_⟩
      rcases hrows.talking with ⟨-, htalking⟩ | ⟨hnone, -⟩
      · rw [htalking]
      · rw [hcreated] at hnone
        cases hnone

/-- A committed version of an invitation is stored. -/
theorem Prepared.stores_updated (h : Prepared db holds writes)
    (hwrite : db.write writes = some after) {row : MatchingInvitation}
    (hrow : row ∈ writes.updated) : row ∈ after.invitations.rows := by
  have hinvitations := (MatchingDatabase.write_eq_some_iff.mp hwrite).1.2
  have hput : row ∈ (db.updateInvitations writes.updated).rows := by
    cases h with
    | settle hchanges hlocked => exact hchanges.stored hrow
    | send hchanges => exact hchanges.stored hrow
    | @accept old instant buddyMatch conversation created event hold hlocked hrows =>
        rw [List.mem_singleton.mp hrow]
        exact Table.mem_put_self hold (MatchingInvitation.stamped_id ..)
  exact (Table.mem_insertOptional hinvitations).mpr (Or.inr hput)

/-- What staged rows settle is settled by their commit. -/
theorem Prepared.settles (h : Prepared db holds writes) (hagrees : db.Agrees)
    (hwrite : db.write writes = some after) {result : InvitationMutationResult}
    (hsettles : writes.Settles db result) : after.Settles result := by
  rcases hsettles with hold | ⟨row, hrow, hresult, hsettled⟩
  · exact hold.grow (h.commits hagrees hwrite).grows
  · exact ⟨row, h.stores_updated hwrite hrow, hresult, hsettled⟩

theorem Prepared.honours (h : Prepared db holds writes) (hagrees : db.Agrees)
    (hbacks : writes.Backs db receipt) (hwrite : db.write writes = some after) :
    after.Honours receipt := by
  cases receipt with
  | sent invitationId =>
      obtain ⟨invitation, hcreated, hid⟩ := hbacks
      have hinvitations := (MatchingDatabase.write_eq_some_iff.mp hwrite).1.2
      exact ⟨invitation, (Table.mem_insertOptional hinvitations).mpr (Or.inl hcreated), hid⟩
  | accepted result =>
      rcases hbacks with hold | ⟨buddyMatch, hmatch, hinvitation, hid, hconversation⟩
      · exact MatchingDatabase.Acknowledges.grow hold (h.commits hagrees hwrite).grows
      · obtain ⟨hstored, conversation, htalk, hcreated, hmatchId⟩ :=
          h.stores_match hagrees hwrite hmatch
        exact ⟨buddyMatch, hstored, conversation, htalk, hinvitation, hid, hmatchId,
          hconversation conversation hcreated⟩
  | mutated result => exact h.settles hagrees hwrite hbacks
  | expired invitationIds => exact fun id hid => h.settles hagrees hwrite (hbacks id hid)
  | profileUpdated => trivial

end Receipts

section Students

variable {db : MatchingDatabase} (tables : StudentTables)

theorem grows_refl : db.Grows db :=
  ⟨fun row hrow => ⟨row, hrow, .refl⟩, fun _ hmatch => hmatch, fun _ htalk => htalk,
    fun _ hevent => hevent⟩

/-- Other tables of the students change nothing. -/
theorem MatchingDatabase.Agrees.students (h : db.Agrees) :
    ({ db with toStudentTables := tables } : MatchingDatabase).Agrees :=
  ⟨h.consistent, h.live, h.pendingOnce, h.pendingFree, h.documented, h.matched, h.pairOnce,
    h.talking, h.conversationOnce, h.announced, h.events, h.eventOnce⟩

variable (db)

theorem grows_students : db.Grows { db with toStudentTables := tables } :=
  ⟨fun row hrow => ⟨row, hrow, .refl⟩, fun _ hmatch => hmatch, fun _ htalk => htalk,
    fun _ hevent => hevent⟩

theorem touchesLocked_students {holds : RowLock → Prop} :
    TouchesLocked db holds { db with toStudentTables := tables } :=
  ⟨fun _ hrow _ => hrow, fun _ hrow _ => Or.inl hrow, fun _ hmatch => Or.inl hmatch,
    fun _ htalk => htalk⟩

end Students

/-- What holds of a transaction in each of its phases, with the locks which it holds. -/
def MatchPhase {context : ScoringContext} (db : MatchingDatabase) (holds : RowLock → Prop) :
    InvitationPhase context → Prop
  | .locking waiting (.sendUsers draft) => draft.recipientUserId ≠ draft.current.user.id ∧
      (.user (canonicalUserPair draft.current.user.id draft.recipientUserId).1 ∈ waiting ∨
        holds (.user (canonicalUserPair draft.current.user.id draft.recipientUserId).1))
  | .locking _ (.sendProfiles _ users) => HoldsPair holds users.1.id users.2.id
  | .locking _ (.sendPair _ principals) =>
      HoldsPair holds principals.1.userId principals.2.userId
  | .flushed (.invitations writes) receipt =>
      Prepared db holds writes ∧ writes.Backs db receipt
  | .flushed (.profile _) receipt => db.Honours receipt
  | .succeeded receipt => db.Honours receipt
  | _ => True

namespace InvitationWorld

variable {context : ScoringContext}

abbrev Holds (w : InvitationWorld context) (id : Nat) (lock : RowLock) : Prop :=
  w.locks lock = some id

/-- The tables agree, and no transaction is about to change that. -/
structure MatchFacts (w : InvitationWorld context) : Prop where
  agrees : w.db.Agrees
  phases : ∀ id transaction, w.transactions id = some transaction →
    MatchPhase w.db (w.Holds id) transaction.phase

/-- A step which takes no lock from another transaction. -/
structure Isolates (w after : InvitationWorld context) (id : Nat)
    (phase : InvitationPhase context) : Prop where
  others : ∀ other, other ≠ id → ∀ lock, w.Holds other lock → after.Holds other lock
  phase : MatchPhase after.db (after.Holds id) phase

section Frames

variable {w next : InvitationWorld context} {id : Nat}
  {transaction : InvitationTransaction context} {phase : InvitationPhase context}

theorem keepPhase {db after : MatchingDatabase} {holds others later : RowLock → Prop}
    (h : MatchPhase db holds phase) (htouches : TouchesLocked db others after)
    (hgrows : db.Grows after) (hdisjoint : ∀ lock, holds lock → ¬ others lock)
    (hheld : ∀ lock, holds lock → later lock) : MatchPhase after later phase := by
  cases phase with
  | locking waiting stage =>
      cases stage with
      | sendUsers draft => exact ⟨h.1, h.2.imp_right (hheld _)⟩
      | sendProfiles draft users => exact HoldsPair.mono h hheld
      | sendPair draft principals => exact HoldsPair.mono h hheld
      | _ => trivial
  | flushed rows receipt =>
      cases rows with
      | invitations writes => exact ⟨h.1.keep htouches hdisjoint hheld, h.2.grow hgrows⟩
      | profile record => exact MatchingDatabase.Honours.grow h hgrows
  | succeeded receipt => exact MatchingDatabase.Honours.grow h hgrows
  | _ => trivial

/-- More locks on the same tables. -/
theorem holdPhase {db : MatchingDatabase} {holds later : RowLock → Prop}
    (h : MatchPhase db holds phase) (hheld : ∀ lock, holds lock → later lock) :
    MatchPhase db later phase :=
  keepPhase h (@touchesLocked_refl db fun _ => False) grows_refl (fun _ _ hnone => hnone) hheld

/-- A step of one transaction before its commit. -/
theorem MatchFacts.of_advances (h : w.MatchFacts)
    (hstep : Advances w next id transaction (w.Isolates next id)) : next.MatchFacts := by
  obtain ⟨hdb, phase, hmoves, hisolates⟩ := hstep
  refine ⟨hdb ▸ h.agrees, fun other state hstate => ?_⟩
  by_cases hother : other = id
  · rw [hother, hmoves.self] at hstate
    rw [hother, ← Option.some.inj hstate]
    exact hisolates.phase
  · rw [hmoves.of_ne hother] at hstate
    rw [hdb]
    exact holdPhase (h.phases other state hstate) (hisolates.others other hother)

theorem setPhase_isolates (h : MatchPhase w.db (w.Holds id) phase) :
    Advances w (w.setPhase id transaction phase) id transaction
      (w.Isolates (w.setPhase id transaction phase) id) :=
  setPhase_advances ⟨fun _ _ _ hlock => hlock, h⟩

theorem finish_others (w : InvitationWorld context) (transaction : InvitationTransaction context)
    (phase : InvitationPhase context) {other : Nat} (hother : other ≠ id) {lock : RowLock}
    (hlock : w.Holds other lock) : (w.finish id transaction phase).Holds other lock := by
  have hne : w.locks lock ≠ some id := by
    intro hsame
    rw [hlock] at hsame
    exact hother (Option.some.inj hsame)
  change (if w.locks lock = some id then none else w.locks lock) = some other
  rw [if_neg hne, hlock]

theorem reject_isolates : Advances w (w.finish id transaction .rejected) id transaction
    (w.Isolates (w.finish id transaction .rejected) id) :=
  finish_advances rfl ⟨fun _ hother _ hlock => finish_others w transaction _ hother hlock, trivial⟩

theorem proceed_isolates {ε α : Type} {outcome : Except ε α}
    {value : α → InvitationWorld context}
    (hvalue : ∀ found, outcome = .ok found →
      Advances w (value found) id transaction (w.Isolates (value found) id)) :
    Advances w (w.proceed id transaction outcome value) id transaction
      (w.Isolates (w.proceed id transaction outcome value) id) := by
  rcases proceed_cases w id transaction outcome value with ⟨found, hfound, hproceed⟩ | hproceed
  · rw [hproceed]
    exact hvalue found hfound
  · rw [hproceed]
    exact reject_isolates

/-- A free lock is held by nobody else. -/
theorem not_holds_of_isFree {lock : RowLock} (hfree : w.isFree id lock = true) {other : Nat}
    (hother : other ≠ id) : ¬ w.Holds other lock := by
  intro hlock
  have hlock : w.locks lock = some other := hlock
  rcases isFree_cases hfree with hnone | hown
  · rw [hnone] at hlock
    cases hlock
  · rw [hown] at hlock
    exact hother (Option.some.inj hlock).symm

/-- Free locks of invitations are taken, and the other locks stay. -/
theorem takeInvitations_holds (rows : List MatchingInvitation) (w : InvitationWorld context)
    (hfree : ∀ row ∈ rows, w.isFree id (.invitation row.id) = true) :
    (∀ row ∈ rows, (rows.foldl (fun w invitation =>
        w.takeLock id (.invitation invitation.id)) w).Holds id (.invitation row.id)) ∧
      ∀ holder lock, w.Holds holder lock → (rows.foldl (fun w invitation =>
        w.takeLock id (.invitation invitation.id)) w).Holds holder lock := by
  induction rows generalizing w with
  | nil => exact ⟨by simp, fun _ _ hlock => hlock⟩
  | cons head tail ih =>
      have hheads : ∀ holder lock, w.Holds holder lock →
          (w.takeLock id (.invitation head.id)).Holds holder lock := by
        intro holder lock hlock
        by_cases hsame : lock = .invitation head.id
        · by_cases hown : holder = id
          · rw [hsame, hown]
            exact takeLock_locks_self ..
          · rw [hsame] at hlock
            exact absurd hlock
              (not_holds_of_isFree (hfree head List.mem_cons_self) hown)
        · exact (takeLock_locks_of_ne w id hsame).trans hlock
      have htail : ∀ row ∈ tail,
          (w.takeLock id (.invitation head.id)).isFree id (.invitation row.id) = true := by
        intro row hrow
        by_cases hsame : (RowLock.invitation row.id) = .invitation head.id
        · rw [hsame, isFree, takeLock_locks_self]
          simp
        · rw [isFree, takeLock_locks_of_ne w id hsame]
          exact hfree row (List.mem_cons_of_mem _ hrow)
      obtain ⟨htaken, hkept⟩ := ih (w.takeLock id (.invitation head.id)) htail
      refine ⟨?_, fun holder lock hlock => hkept holder lock (hheads holder lock hlock)⟩
      intro row hrow
      rcases List.mem_cons.mp hrow with rfl | hmem
      · exact hkept id _ (takeLock_locks_self w id _)
      · exact htaken row hmem

/-- Rows are flushed under free locks. -/
theorem flush_isolates {writes : InvitationWrites} {receipt : InvitationReceipt}
    (hfree : ∀ row ∈ writes.updated, w.isFree id (.invitation row.id) = true)
    (h : ∀ holds : RowLock → Prop, (∀ lock, w.Holds id lock → holds lock) →
      (∀ row ∈ writes.updated, holds (.invitation row.id)) → Prepared w.db holds writes)
    (hbacks : writes.Backs w.db receipt) :
    Advances w (w.flush id transaction writes receipt) id transaction
      (w.Isolates (w.flush id transaction writes receipt) id) := by
  obtain ⟨htaken, hkept⟩ := takeInvitations_holds writes.updated w hfree
  refine flush_advances ⟨fun other _ lock hlock => hkept other lock hlock, ?_⟩
  rw [flush_db]
  exact ⟨h _ (fun lock hlock => hkept id lock hlock) htaken, hbacks⟩

end Frames

section Steps

variable {w after : InvitationWorld context} {id : Nat}
  {transaction : InvitationTransaction context}

/-- Nobody has locked the row which a stage loads. -/
theorem isFree_of_awaits {row : Option MatchingInvitation} {invitation : MatchingInvitation}
    (hawaits : ¬ w.awaits id row = true) (hrow : row = some invitation) :
    w.isFree id (.invitation invitation.id) = true := by
  rw [hrow] at hawaits
  simpa [awaits] using hawaits

/-- The flush of a send under the locks of its pair. -/
theorem send_isolates (hagrees : w.db.Agrees) {draft : SendDraft}
    {principals : EligibleMatchingPrincipal × EligibleMatchingPrincipal}
    (hpair : HoldsPair (w.Holds id) principals.1.userId principals.2.userId)
    (hawaits : ¬ w.awaits id (pendingOfPair w.db.invitations principals.1.userId
      principals.2.userId) = true)
    {staged : MatchingInvitation × InvitationWrites}
    (hstaged : stageInvitation w.db principals draft.message draft.instant draft.ids =
      .ok staged) :
    Advances w (w.flush id transaction staged.2 (.sent staged.1.id)) id transaction
      (w.Isolates (w.flush id transaction staged.2 (.sent staged.1.id)) id) := by
  obtain ⟨updated, event, hrows, hwrites⟩ := stageInvitation_rows hstaged
  have hsent : staged.1.pair = canonicalUserPair principals.1.userId principals.2.userId := by
    rw [MatchingInvitation.pair, hrows.sender, hrows.recipient]
  rw [hwrites]
  refine flush_isolates ?_ ?_ ⟨staged.1, rfl, rfl⟩
  · intro row hrow
    obtain ⟨old, hold, hid⟩ := hrows.stale row hrow
    rw [hid]
    exact isFree_of_awaits hawaits hold
  · intro holds hheld htaken
    refine .send hrows.changes htaken ?_ hrows.pending (hrows.consistent hpair.distinct)
      hrows.live hrows.free ?_ hrows.announces
    · rw [hsent]
      exact hheld _ hpair.locked
    · intro buddyMatch hmatch hsame
      obtain ⟨_, _, _, _, _, _, hacceptance⟩ := hagrees.documented buddyMatch hmatch
      have hnone := hrows.unmatched
      rw [MatchingDatabase.activePairExists, List.any_eq_false] at hnone
      apply hnone buddyMatch hmatch
      rw [hsent] at hsame
      simp [hacceptance.active, hsame]

theorem accept_isolates {draft : AcceptDraft} {participants : LockedBuddyParticipants}
    {sender recipient : EligibleMatchingPrincipal}
    (hawaits : ¬ w.awaits id (loadOwnedInvitation w.db draft.invitationId
      draft.current.user.id).toOption = true)
    {staged : InvitationAcceptanceResult × InvitationWrites}
    (hstaged : stageAcceptance context w.db draft.current draft.invitationId draft.observed
      participants sender recipient w.now draft.ids = .ok staged) :
    Advances w (w.flush id transaction staged.2 (.accepted staged.1)) id transaction
      (w.Isolates (w.flush id transaction staged.2 (.accepted staged.1)) id) := by
  obtain ⟨old, hload, hcases⟩ := stageAcceptance_rows hstaged
  rcases hcases with ⟨hnothing, hdone⟩ | ⟨buddyMatch, conversation, created, event, hrows,
      hresult, hwrites⟩
  · rw [hnothing]
    refine flush_isolates (by simp) ?_ (Or.inl hdone)
    intro holds _ htaken
    exact .settle changesRows_nil htaken
  · have hfree : w.isFree id (.invitation old.id) = true := by
      refine isFree_of_awaits hawaits ?_
      rw [hload]
      rfl
    rw [hwrites]
    refine flush_isolates ?_ ?_ (Or.inr ⟨buddyMatch, rfl, ?_, ?_, ?_⟩)
    · intro row hrow
      rw [List.mem_singleton.mp hrow, MatchingInvitation.stamped_id]
      exact hfree
    · intro holds _ htaken
      have hlocked := htaken _ (List.mem_singleton_self _)
      rw [MatchingInvitation.stamped_id] at hlocked
      exact .accept (loadOwnedInvitation_eq_ok_iff.mp hload).1 hlocked hrows
    · rw [hresult, hrows.accepted]
    · rw [hresult]
    · intro talk htalk
      rw [hresult]
      rcases hrows.talking with ⟨hcreated, -⟩ | ⟨hnone, -⟩
      · have hsame : some talk = some conversation := htalk.symm.trans hcreated
        rw [Option.some.inj hsame]
      · have hsame : some talk = none := htalk.symm.trans hnone
        cases hsame

theorem mutate_isolates {mutation : InvitationMutation} {current : VerifiedBuddyPrincipal}
    {invitationId : Nat}
    (hawaits : ¬ w.awaits id (loadOwnedInvitationForUpdate w.db mutation.owner current.user.id
      invitationId).toOption = true) {staged : InvitationMutationResult × InvitationWrites}
    (hstaged : mutation.run w.db current invitationId w.now = .ok staged) :
    Advances w (w.flush id transaction staged.2 (.mutated staged.1)) id transaction
      (w.Isolates (w.flush id transaction staged.2 (.mutated staged.1)) id) := by
  obtain ⟨old, hload⟩ := mutation_loads hstaged
  obtain ⟨⟨updated, hwrites, hchanges, hids⟩, hsettles⟩ := mutation_rows hstaged
  rw [hwrites] at hsettles ⊢
  refine flush_isolates ?_ (fun holds _ htaken => .settle hchanges htaken) hsettles
  intro row hrow
  have hid : row.id = old.id := by
    rw [hids row hrow]
    exact (loadOwnedInvitationForUpdate_eq_ok_iff.mp hload).2.1.symm
  rw [hid]
  refine isFree_of_awaits hawaits ?_
  rw [hload]
  rfl

theorem expire_isolates {batchSize : Nat} {staged : List Nat × InvitationWrites}
    (hstaged : expireInvitationBatch w.db
      (fun invitationId => !w.isFree id (.invitation invitationId)) batchSize w.now =
        .ok staged) :
    Advances w (w.flush id transaction staged.2 (.expired staged.1)) id transaction
      (w.Isolates (w.flush id transaction staged.2 (.expired staged.1)) id) := by
  obtain ⟨updated, hwrites, hchanges, hunlocked, hsettles⟩ := expireInvitationBatch_rows hstaged
  rw [hwrites] at hsettles ⊢
  refine flush_isolates ?_ (fun holds _ htaken => .settle hchanges htaken) hsettles
  intro row hrow
  simpa using hunlocked row hrow

theorem runStage_isolates (hagrees : w.db.Agrees) {stage : InvitationStage context}
    (h : MatchPhase w.db (w.Holds id) (.locking [] stage))
    (hstep : w.runStage id transaction stage = some after) :
    Advances w after id transaction (w.Isolates after id) := by
  cases stage with
  | sendUsers draft =>
      obtain ⟨hdistinct, hlocked⟩ := h
      have hlocked := hlocked.resolve_left (by simp)
      rw [← Option.some.inj hstep]
      refine proceed_isolates fun users husers => setPhase_isolates ?_
      obtain ⟨hsender, hrecipient⟩ := sendUsers_ids husers
      refine ⟨?_, ?_⟩
      · rw [hsender, hrecipient]
        exact hdistinct.symm
      · rw [hsender, hrecipient]
        exact hlocked
  | sendProfiles draft users =>
      rw [← Option.some.inj hstep]
      refine proceed_isolates fun principals hprincipals => setPhase_isolates ?_
      obtain ⟨hsender, hrecipient⟩ := sendPrincipals_ids hprincipals
      have hpair : HoldsPair (w.Holds id) users.1.id users.2.id := h
      rw [← hsender, ← hrecipient] at hpair
      exact hpair
  | sendPair draft principals =>
      simp only [runStage] at hstep
      split at hstep
      · cases hstep
      · rename_i hawaits
        rw [← Option.some.inj hstep]
        exact proceed_isolates fun staged hstaged => send_isolates hagrees h hawaits hstaged
  | acceptUsers draft =>
      rw [← Option.some.inj hstep]
      exact proceed_isolates fun users _ => setPhase_isolates trivial
  | acceptProfiles draft users =>
      rw [← Option.some.inj hstep]
      exact proceed_isolates fun eligible _ => setPhase_isolates trivial
  | acceptInvitation draft participants sender recipient =>
      simp only [runStage] at hstep
      split at hstep
      · cases hstep
      · rename_i hawaits
        rw [← Option.some.inj hstep]
        exact proceed_isolates fun staged hstaged => accept_isolates hawaits hstaged
  | mutate mutation current invitationId =>
      simp only [runStage] at hstep
      split at hstep
      · cases hstep
      · rename_i hawaits
        rw [← Option.some.inj hstep]
        exact proceed_isolates fun staged hstaged => mutate_isolates hawaits hstaged
  | expire batchSize =>
      rw [← Option.some.inj hstep]
      exact proceed_isolates fun staged hstaged => expire_isolates hstaged
  | updateUser draft =>
      simp only [runStage] at hstep
      split at hstep
      · rw [← Option.some.inj hstep]
        exact setPhase_isolates trivial
      · rw [← Option.some.inj hstep]
        exact reject_isolates
  | updateProfile draft =>
      rw [← Option.some.inj hstep]
      exact proceed_isolates fun record _ => setPhase_isolates trivial

/-- A request of an accepted invitation is answered with the receipt of its acceptance. -/
theorem observeInvitation_acknowledges {db : MatchingDatabase}
    {current : VerifiedBuddyPrincipal} {invitationId : Nat} {instant : Int}
    {result : InvitationAcceptanceResult}
    (h : observeInvitation db current invitationId instant = .ok (.inl result)) :
    db.Acknowledges result := by
  simp only [observeInvitation, except_bind_eq_ok_iff] at h
  obtain ⟨observed, -, h⟩ := h
  split at h
  · simp only [except_bind_eq_ok_iff, except_pure_eq_ok_iff, Sum.inl.injEq] at h
    obtain ⟨completed, hcompleted, rfl⟩ := h
    exact loadCompletedResult_acknowledges hcompleted
  · simp [except_bind_eq_ok_iff] at h

theorem firstPhase_matches (request : InvitationRequest context) :
    MatchPhase w.db (w.Holds id) (w.firstPhase request) := by
  cases request with
  | send current recipientProfileId message ids =>
      unfold firstPhase
      dsimp only
      split
      · rename_i draft hdraft
        simp only [except_bind_eq_ok_iff, except_pure_eq_ok_iff] at hdraft
        obtain ⟨_, _, recipientUserId, htarget, rfl⟩ := hdraft
        exact ⟨sendTarget_ne htarget, Or.inl List.mem_cons_self⟩
      · trivial
  | accept current invitationId ids =>
      unfold firstPhase
      dsimp only
      split
      · rename_i result hresult
        exact observeInvitation_acknowledges hresult
      · trivial
      · trivial
  | mutate mutation current invitationId => trivial
  | expire batchSize => trivial
  | updateProfile draft =>
      unfold firstPhase
      dsimp only
      split <;> trivial

theorem takeLock_isolates {lock : RowLock} {waiting : List RowLock}
    {stage : InvitationStage context} (hfree : w.isFree id lock = true)
    (h : MatchPhase w.db (w.Holds id) (.locking (lock :: waiting) stage)) :
    Advances w ((w.takeLock id lock).setPhase id transaction (.locking waiting stage)) id
      transaction
      (w.Isolates ((w.takeLock id lock).setPhase id transaction (.locking waiting stage))
        id) := by
  have hkept : ∀ holder other, w.Holds holder other → (w.takeLock id lock).Holds holder other := by
    intro holder other hother
    by_cases hsame : other = lock
    · by_cases hown : holder = id
      · rw [hsame, hown]
        exact takeLock_locks_self ..
      · rw [hsame] at hother
        exact absurd hother (not_holds_of_isFree hfree hown)
    · exact (takeLock_locks_of_ne w id hsame).trans hother
  refine ⟨rfl, _, takeLock_moves hfree, fun other _ held hheld => hkept other held hheld, ?_⟩
  cases stage with
  | sendUsers draft =>
      refine ⟨h.1, ?_⟩
      rcases h.2 with hwaiting | hlocked
      · rcases List.mem_cons.mp hwaiting with hlock | hlater
        · rw [hlock]
          exact Or.inr (takeLock_locks_self w id lock)
        · exact Or.inl hlater
      · exact Or.inr (hkept id _ hlocked)
  | sendProfiles draft users => exact HoldsPair.mono h (hkept id)
  | sendPair draft principals => exact HoldsPair.mono h (hkept id)
  | _ => trivial

theorem advance_isolates (hagrees : w.db.Agrees)
    (h : MatchPhase w.db (w.Holds id) transaction.phase)
    (hstep : w.advance id transaction = some after) :
    Advances w after id transaction (w.Isolates after id) := by
  unfold advance at hstep
  split at hstep
  · rw [← Option.some.inj hstep]
    exact setPhase_isolates (firstPhase_matches transaction.request)
  · rename_i lock waiting stage hphase
    rw [hphase] at h
    split at hstep
    · rename_i hfree
      rw [← Option.some.inj hstep]
      exact takeLock_isolates hfree h
    · cases hstep
  · rename_i stage hphase
    rw [hphase] at h
    exact runStage_isolates hagrees h hstep
  · cases hstep

/-- A commit under the locks of its transaction. -/
theorem MatchFacts.commit (h : w.MatchFacts)
    (hself : MatchPhase w.db (w.Holds id) transaction.phase)
    (hstep : w.commit id transaction = some after) :
    after.MatchFacts ∧ w.db.Grows after.db := by
  unfold InvitationWorld.commit at hstep
  split at hstep
  · rename_i rows receipt hphase
    rw [hphase] at hself
    obtain ⟨db, hdb, rfl⟩ := Option.map_eq_some_iff.mp hstep
    have hmoves := commit_moves w id transaction receipt db
    have hdone : db.Agrees ∧ w.db.Grows db ∧ TouchesLocked w.db (w.Holds id) db ∧
        db.Honours receipt := by
      cases rows with
      | invitations writes =>
          obtain ⟨hprepared, hbacks⟩ := hself
          have hcommits := hprepared.commits h.agrees hdb
          exact ⟨hcommits.agrees, hcommits.grows, hcommits.touches,
            hprepared.honours h.agrees hbacks hdb⟩
      | profile record =>
          obtain ⟨tables, -, rfl⟩ := Option.map_eq_some_iff.mp hdb
          exact ⟨h.agrees.students tables, grows_students w.db tables,
            touchesLocked_students w.db tables, hself.grow (grows_students w.db tables)⟩
    obtain ⟨hagrees, hgrows, htouches, hhonours⟩ := hdone
    refine ⟨⟨hagrees, fun other state hstate => ?_⟩, hgrows⟩
    by_cases hother : other = id
    · rw [hother, hmoves.self] at hstate
      rw [← Option.some.inj hstate]
      exact hhonours
    · rw [hmoves.of_ne hother] at hstate
      refine keepPhase (h.phases other state hstate) htouches hgrows ?_ ?_
      · intro lock hlock hown
        have hsame : some other = some id := hlock.symm.trans hown
        exact hother (Option.some.inj hsame)
      · exact fun lock hlock => finish_others w transaction (.succeeded receipt) hother hlock
  · cases hstep

theorem Initial.matchFacts (h : w.Initial) : w.MatchFacts := by
  obtain ⟨hinvitations, hmatches, hconversations, houtbox, -, htransactions⟩ := h
  constructor
  · constructor <;> simp [hinvitations, hmatches, hconversations, houtbox]
  · intro id transaction htransaction
    rw [htransactions] at htransaction
    cases htransaction

theorem MatchFacts.step (h : w.MatchFacts) {label : InvitationLabel context}
    (hstep : w.Step label after) : after.MatchFacts ∧ w.db.Grows after.db := by
  have hadvance : ∀ {id : Nat} {transaction : InvitationTransaction context},
      Advances w after id transaction (w.Isolates after id) →
        after.MatchFacts ∧ w.db.Grows after.db := by
    intro id transaction hadvances
    refine ⟨h.of_advances hadvances, ?_⟩
    rw [hadvances.1]
    exact grows_refl
  unfold Step at hstep
  cases label with
  | start id request =>
      simp only [InvitationWorld.next] at hstep
      split at hstep
      · rw [← Option.some.inj hstep]
        refine ⟨⟨h.agrees, fun other state hstate => ?_⟩, grows_refl⟩
        by_cases hother : other = id
        · rw [hother] at hstate
          have hstarted := (Function.update_self ..).symm.trans hstate
          rw [← Option.some.inj hstarted]
          trivial
        · exact h.phases other state ((Function.update_of_ne hother ..).symm.trans hstate)
      · cases hstep
  | advance id =>
      obtain ⟨transaction, htransaction, hmoved⟩ := Option.bind_eq_some_iff.mp hstep
      exact hadvance (advance_isolates h.agrees (h.phases id transaction htransaction) hmoved)
  | commit id =>
      obtain ⟨transaction, htransaction, hcommit⟩ := Option.bind_eq_some_iff.mp hstep
      exact h.commit (h.phases id transaction htransaction) hcommit
  | rollback id =>
      obtain ⟨transaction, -, hrollback⟩ := Option.bind_eq_some_iff.mp hstep
      split at hrollback
      · cases hrollback
      · rw [← Option.some.inj hrollback]
        rw [← Option.some.inj hrollback] at hadvance
        exact hadvance reject_isolates
  | tick instant =>
      rw [← Option.some.inj hstep]
      exact ⟨⟨h.agrees, h.phases⟩, grows_refl⟩
  | students tables =>
      rw [← Option.some.inj hstep]
      refine ⟨⟨h.agrees.students tables, fun id transaction htransaction => ?_⟩,
        grows_students w.db tables⟩
      exact keepPhase (h.phases id transaction htransaction)
        (@touchesLocked_students w.db tables fun _ => False)
        (grows_students w.db tables) (fun _ _ hnone => hnone) fun _ hlock => hlock

theorem Reached.matchFacts {allowed : InvitationWorld context → InvitationLabel context → Prop}
    (h : w.Reached allowed) : w.MatchFacts :=
  Reaches.invariant (fun _ hinit => hinit.matchFacts)
    (fun _ _ _ hfacts _ hstep => (hfacts.step hstep).1) h

theorem grows_trans {db middle later : MatchingDatabase} (h : db.Grows middle)
    (hlater : middle.Grows later) : db.Grows later := by
  refine ⟨?_, fun row hrow => hlater.buddyMatches row (h.buddyMatches row hrow),
    fun row hrow => hlater.conversations row (h.conversations row hrow),
    fun row hrow => hlater.outbox row (h.outbox row hrow)⟩
  intro row hrow
  obtain ⟨version, hversion, hfirst⟩ := h.invitations row hrow
  obtain ⟨last, hlast, hsecond⟩ := hlater.invitations version hversion
  exact ⟨last, hlast, hfirst.trans hsecond⟩

/-- The tables of a later state. -/
theorem MatchFacts.grown {allowed : InvitationWorld context → InvitationLabel context → Prop}
    (h : w.MatchFacts) (hlater : Reaches (· = w) Step allowed after) :
    after.MatchFacts ∧ w.db.Grows after.db := by
  induction hlater with
  | start hstate =>
      rw [hstate]
      exact ⟨h, grows_refl⟩
  | next _ _ hstep ih =>
      obtain ⟨hfacts, hgrown⟩ := ih.1.step hstep
      exact ⟨hfacts, grows_trans ih.2 hgrown⟩

end Steps

end InvitationWorld

section Replays

variable {db after : MatchingDatabase} {invitation : MatchingInvitation}

/-- A match is found by the invitation of its acceptance alone. -/
theorem MatchingDatabase.Agrees.match_unique (h : db.Agrees) {first second : BuddyMatch}
    (hfirst : first ∈ db.buddyMatches.rows) (hsecond : second ∈ db.buddyMatches.rows)
    (hsame : first.acceptedInvitationId = second.acceptedInvitationId) : first = second := by
  obtain ⟨row, hrow, _, _, _, _, hacceptance⟩ := h.documented first hfirst
  obtain ⟨other, hother, _, _, _, _, hotherAcceptance⟩ := h.documented second hsecond
  have hid : row.id = other.id :=
    hacceptance.accepted.symm.trans (hsame.trans hotherAcceptance.accepted)
  have hrows : row = other := Table.eq_of_key hrow hother hid
  apply h.pairOnce first hfirst second hsecond
  rw [hacceptance.pair, hotherAcceptance.pair, hrows]

/-- A request of the recipient of an accepted invitation is answered with its match and
conversation. -/
theorem MatchingDatabase.Agrees.replay (h : db.Agrees) (hmem : invitation ∈ db.invitations.rows)
    (haccepted : invitation.status = .accepted) {buddyMatch : BuddyMatch}
    {conversation : BuddyConversation} (hmatch : buddyMatch ∈ db.buddyMatches.rows)
    (hconversation : conversation ∈ db.conversations.rows)
    (hid : buddyMatch.acceptedInvitationId = invitation.id)
    (hmatchId : conversation.matchId = buddyMatch.id) {current : VerifiedBuddyPrincipal}
    (hrecipient : current.user.id = invitation.recipientId) (instant : Int) :
    observeInvitation db current invitation.id instant =
      .ok (.inl ⟨invitation.id, buddyMatch.id, conversation.id⟩) := by
  have hload : loadOwnedInvitation db invitation.id current.user.id = .ok invitation :=
    loadOwnedInvitation_eq_ok_iff.mpr ⟨hmem, rfl, hrecipient.symm, h.live invitation hmem⟩
  obtain ⟨_, _, _, _, _, _, hacceptance⟩ := h.documented buddyMatch hmatch
  have hselected : db.buddyMatches.select? (fun row =>
      row.acceptedInvitationId = invitation.id && row.deletedAt.isNone) = some buddyMatch := by
    apply Table.select?_eq_some_of_unique hmatch
    · simp [hid, hacceptance.live]
    · intro other hother hfilter
      simp only [Bool.and_eq_true, decide_eq_true_eq] at hfilter
      exact h.match_unique hother hmatch (hfilter.1.trans hid.symm)
  have htalking : db.conversations.select? (fun row => row.matchId = buddyMatch.id) =
      some conversation := by
    apply Table.select?_eq_some_of_unique hconversation
    · simp [hmatchId]
    · intro other hother hfilter
      exact h.conversationOnce other hother conversation hconversation
        ((of_decide_eq_true hfilter).trans hmatchId.symm)
  rw [observeInvitation, except_bind_eq_ok_iff]
  refine ⟨invitation, hload, ?_⟩
  rw [if_pos haccepted]
  simp [loadCompletedResult, hselected, htalking, require, bind, Except.bind, pure, Except.pure]

end Replays

namespace InvitationWorld

variable {context : ScoringContext}

/-- What a later state keeps of an earlier one: its rows, what its requests were told, and what
the repetition of an acceptance is told. -/
structure KeepsHistory (w later : InvitationWorld context) : Prop where
  grows : w.db.Grows later.db
  receipts : ∀ id request receipt, w.transactions id = some ⟨request, .succeeded receipt⟩ →
    later.db.Honours receipt
  replays : ∀ invitation ∈ w.db.invitations.rows, invitation.status = .accepted →
    ∃ result : InvitationAcceptanceResult, ∀ current : VerifiedBuddyPrincipal,
      current.user.id = invitation.recipientId → ∀ instant,
        observeInvitation w.db current invitation.id instant = .ok (.inl result) ∧
          observeInvitation later.db current invitation.id instant = .ok (.inl result)

section Theorems

variable {w later : InvitationWorld context}

/-- Whatever requests interleave, the tables describe one history. -/
theorem matching_tables_agree (h : w.Reached fun _ _ => True) : w.db.Agrees :=
  h.matchFacts.agrees

/-- Whatever requests interleave, invitations are settled once, nothing else is changed or
lost, and receipts stay true. -/
theorem matching_history_kept (h : w.Reached fun _ _ => True)
    (hlater : Reaches (· = w) Step (fun _ _ => True) later) : w.KeepsHistory later := by
  have hfacts := h.matchFacts
  obtain ⟨hlaterFacts, hgrown⟩ := hfacts.grown hlater
  refine ⟨hgrown, ?_, ?_⟩
  · intro id request receipt htransaction
    have hhonours : w.db.Honours receipt := hfacts.phases id _ htransaction
    exact hhonours.grow hgrown
  · intro invitation hmem haccepted
    obtain ⟨buddyMatch, hmatch, hid⟩ := hfacts.agrees.matched invitation hmem haccepted
    obtain ⟨_, _, conversation, hconversation, _, _, hacceptance⟩ :=
      hfacts.agrees.documented buddyMatch hmatch
    have hmatchId : conversation.matchId = buddyMatch.id := by
      rw [hacceptance.talking]
    obtain ⟨version, hversion, hlaterVersion⟩ := hgrown.invitations invitation hmem
    have hstatus : version.status = .accepted := by
      refine (hlaterVersion.settled ?_).1.trans haccepted
      rw [haccepted]
      decide
    refine ⟨⟨invitation.id, buddyMatch.id, conversation.id⟩, fun current hrecipient instant =>
      ⟨hfacts.agrees.replay hmem haccepted hmatch hconversation hid hmatchId hrecipient instant,
        ?_⟩⟩
    rw [← hlaterVersion.id] at hid ⊢
    exact hlaterFacts.agrees.replay hversion hstatus (hgrown.buddyMatches _ hmatch)
      (hgrown.conversations _ hconversation) hid hmatchId
      (hrecipient.trans hlaterVersion.recipientId.symm) instant

end Theorems

end InvitationWorld

namespace MatchWitness

open InvitationWorld CapacityWitness

def recipient : VerifiedBuddyPrincipal :=
  ⟨EligibilityWitness.buddy, (ScoreWitness.profileRow EligibilityWitness.buddy .international
    [ScoreWitness.chess, ScoreWitness.art]).profile⟩

/-- One acceptance, from its start to its commit. -/
def acceptLabels : List (InvitationLabel ScoreWitness.context) :=
  .start 1 (.accept recipient 1 ⟨3, 4, 5⟩) :: List.replicate 8 (.advance 1) ++ [.commit 1]

/-- A send and its acceptance. -/
theorem accepted_run : ∃ w : InvitationWorld ScoreWitness.context,
    w.Reached (fun _ _ => True) ∧ w.db.buddyMatches.rows.length = 1 := by
  have hrun : (Reaches.run InvitationWorld.next (fun _ _ => True) quiet
      (sendLabels ++ acceptLabels)).any (fun w => w.db.buddyMatches.rows.length = 1) = true := by
    decide +kernel
  obtain ⟨w, -, hreached, hcount⟩ := Reaches.exists_of_run (fun hnext => hnext)
    (.start quiet_initial) _ _ hrun
  exact ⟨w, hreached, of_decide_eq_true hcount⟩

/-- The tables after the acceptance agree. -/
theorem accepted_run_agrees : ∃ w : InvitationWorld ScoreWitness.context,
    w.db.buddyMatches.rows.length = 1 ∧ w.db.Agrees := by
  obtain ⟨w, hreached, hcount⟩ := accepted_run
  exact ⟨w, hcount, matching_tables_agree hreached⟩

/-- The sender hides the accepted invitation. -/
def hideLabels : List (InvitationLabel ScoreWitness.context) :=
  [.start 2 (.mutate .hide sender 1), .advance 2, .advance 2, .commit 2]

/-- The hide has been answered. -/
def hasHidden (w : InvitationWorld ScoreWitness.context) : Bool :=
  match w.transactions 2 with
  | some ⟨_, .succeeded (.mutated result)⟩ => decide (result = ⟨1, .accepted⟩)
  | _ => false

/-- The accepted invitation and what its sender was told stay while the clock goes on. -/
theorem accepted_run_kept : ∃ w later : InvitationWorld ScoreWitness.context,
    later.now = w.now + 1 ∧ w.KeepsHistory later ∧
      ∃ row ∈ later.db.invitations.rows, row.id = 1 ∧ row.status = .accepted := by
  have hrun : (Reaches.run InvitationWorld.next (fun _ _ => True) quiet
      (sendLabels ++ acceptLabels ++ hideLabels)).any hasHidden = true := by
    decide +kernel
  obtain ⟨w, -, hreached, hhidden⟩ := Reaches.exists_of_run (fun hnext => hnext)
    (.start quiet_initial) _ _ hrun
  have hlater : Reaches (· = w) Step (fun _ _ => True) { w with now := w.now + 1 } :=
    .next (.start rfl) trivial (rfl : w.next (.tick (w.now + 1)) = some _)
  have hkept := matching_history_kept hreached hlater
  refine ⟨w, _, rfl, hkept, ?_⟩
  unfold hasHidden at hhidden
  split at hhidden
  · rename_i request result htransaction
    obtain ⟨row, hrow, hresult, -⟩ := hkept.receipts 2 request _ htransaction
    rw [of_decide_eq_true hhidden] at hresult
    exact ⟨row, hrow, congrArg InvitationMutationResult.invitationId hresult,
      congrArg InvitationMutationResult.status hresult⟩
  · cases hhidden

end MatchWitness

end BuddyWeb
