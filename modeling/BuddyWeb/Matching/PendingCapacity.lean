/-
The bound on the usable invitations of a sender, under interleaved requests.
-/
import BuddyWeb.Matching.InvitationSteps
import BuddyWeb.Matching.ScoreAgreement

namespace BuddyWeb

section Counting

/-- The pending count as a count. -/
theorem pendingCount_eq_countP (db : MatchingDatabase) (senderId : Nat) (instant : Int) :
    pendingCount db senderId instant = db.invitations.rows.countP fun invitation =>
      invitation.senderId = senderId && invitation.effectivePending instant :=
  List.countP_eq_length_filter.symm

/-- A usable invitation was usable before. -/
theorem effectivePending_mono {invitation : MatchingInvitation} {first second : Int}
    (hle : first ≤ second) (h : invitation.effectivePending second = true) :
    invitation.effectivePending first = true := by
  simp only [MatchingInvitation.effectivePending, Bool.and_eq_true, decide_eq_true_eq] at h ⊢
  exact ⟨h.1, lt_of_le_of_lt hle h.2⟩

/-- Time only takes invitations away from the pending ones. -/
theorem pendingCount_anti (db : MatchingDatabase) (senderId : Nat) {first second : Int}
    (hle : first ≤ second) : pendingCount db senderId second ≤ pendingCount db senderId first := by
  rw [pendingCount_eq_countP, pendingCount_eq_countP]
  apply List.countP_mono_left
  intro invitation _ h
  rw [Bool.and_eq_true] at h ⊢
  exact ⟨h.1, effectivePending_mono hle h.2⟩

/-- Rows which a filter refuses only take rows away from it. -/
theorem countP_updated_le {filter : MatchingInvitation → Bool}
    (updated : List MatchingInvitation) (hupdated : ∀ row ∈ updated, filter row = false)
    (table : Table MatchingInvitation) :
    (updated.foldl Table.put table).rows.countP filter ≤ table.rows.countP filter := by
  induction updated generalizing table with
  | nil => exact Nat.le_refl _
  | cons row rest ih =>
      have hrest := ih (fun other hother => hupdated other (List.mem_cons_of_mem row hother))
        (table.put row)
      have hrow := hupdated row List.mem_cons_self
      apply le_trans hrest
      apply Table.countP_put_le
      intro _ _ _ hfilter
      rw [hrow] at hfilter
      exact absurd hfilter (by simp)

/-- The rows which a transaction changes are no longer pending. -/
def InvitationWrites.SettlesUpdated (writes : InvitationWrites) : Prop :=
  ∀ row ∈ writes.updated, row.status ≠ .pending

theorem pendingCount_of_write {db after : MatchingDatabase} {writes : InvitationWrites}
    (hsettled : writes.SettlesUpdated) (hwrite : db.write writes = some after) (senderId : Nat)
    (instant : Int) :
    pendingCount after senderId instant ≤
      pendingCount db senderId instant +
        (if writes.created.any (·.senderId = senderId) then 1 else 0) := by
  have hinvitations := (MatchingDatabase.write_eq_some_iff.mp hwrite).1.2
  rw [pendingCount_eq_countP, pendingCount_eq_countP]
  have hupdated : (db.updateInvitations writes.updated).rows.countP (fun invitation =>
        invitation.senderId = senderId && invitation.effectivePending instant) ≤
      db.invitations.rows.countP fun invitation =>
        invitation.senderId = senderId && invitation.effectivePending instant := by
    apply countP_updated_le
    intro row hrow
    simp [MatchingInvitation.effectivePending, hsettled row hrow]
  cases hcreated : writes.created with
  | none =>
      rw [hcreated] at hinvitations
      have hrows := Option.some.inj hinvitations
      rw [← hrows]
      exact le_trans hupdated (Nat.le_add_right _ _)
  | some created =>
      rw [hcreated] at hinvitations
      rw [(Table.insert?_eq_some_iff.mp hinvitations).2, List.countP_cons]
      apply Nat.add_le_add hupdated
      by_cases hsender : created.senderId = senderId
      · simp only [Option.any_some, hsender, decide_true, if_true]
        split
        · exact Nat.le_refl 1
        · exact Nat.zero_le 1
      · simp [hsender]

end Counting

section Staging

variable {db : MatchingDatabase} {instant : Int} {writes : InvitationWrites}

theorem stamped_status {invitation : MatchingInvitation} {target : InvitationStatus}
    (hterminal : isTerminalStatus target = true) :
    (invitation.stamped target instant).status = target := by
  cases target with
  | pending => exact absurd hterminal (by simp [isTerminalStatus])
  | _ => rfl

theorem transition_settles {invitation after : MatchingInvitation} {target : InvitationStatus}
    (h : invitation.transition target instant = .ok after) : after.status ≠ .pending := by
  have hcases := MatchingInvitation.transition_eq_ok_iff.mp h
  rw [← hcases.2.2.2, stamped_status hcases.1.2]
  intro hpending
  rw [hpending] at hcases
  exact absurd hcases.1.2 (by simp [isTerminalStatus])

theorem expire_settles {invitation after : MatchingInvitation}
    (h : invitation.expire instant = .ok after) : after.status ≠ .pending := by
  have hcases := MatchingInvitation.expire_eq_ok_iff.mp h
  rw [← hcases.2.2.2]
  simp [MatchingInvitation.stamped]

theorem stageInvitation_room {principals : EligibleMatchingPrincipal × EligibleMatchingPrincipal}
    {message : CanonicalInvitationMessage} {ids : SendIds}
    {staged : MatchingInvitation × InvitationWrites}
    (h : stageInvitation db principals message instant ids = .ok staged) :
    pendingCount db principals.1.userId instant < maxOutgoingPendingInvitations := by
  simp only [stageInvitation, except_bind_eq_ok_iff, ensure_eq_ok_iff] at h
  obtain ⟨_, _, _, _, _, hroom, _⟩ := h
  exact hroom

/-- What a send stages: a pending invitation of a sender who has room for it. -/
theorem stageInvitation_facts {principals : EligibleMatchingPrincipal × EligibleMatchingPrincipal}
    {message : CanonicalInvitationMessage} {ids : SendIds} {invitation : MatchingInvitation}
    (h : stageInvitation db principals message instant ids = .ok (invitation, writes)) :
    writes.SettlesUpdated ∧ ∀ row ∈ writes.created, row.senderId = principals.1.userId ∧
      row.createdAt = instant ∧
      pendingCount db row.senderId instant < maxOutgoingPendingInvitations := by
  simp only [stageInvitation, except_bind_eq_ok_iff, ensure_eq_ok_iff, except_pure_eq_ok_iff,
    Prod.mk.injEq] at h
  obtain ⟨expired, hexpired, _, _, _, hroom, _, _, _, _, _, hwrites⟩ := h
  subst hwrites
  constructor
  · intro row hrow
    unfold expireOrRejectPendingPair at hexpired
    split at hexpired
    · have hnil := Except.ok.inj hexpired
      simp [← hnil] at hrow
    · simp only [except_bind_eq_ok_iff, mapError_eq_ok_iff, except_pure_eq_ok_iff] at hexpired
      obtain ⟨_, _, stale, hstale, hlist⟩ := hexpired
      simp only [← hlist, List.mem_singleton] at hrow
      rw [hrow]
      exact expire_settles hstale
  · intro row hrow
    have hsame := Option.some.inj hrow
    rw [← hsame]
    exact ⟨rfl, rfl, hroom⟩

theorem stageAcceptance_facts {context : ScoringContext} {current : VerifiedBuddyPrincipal}
    {invitationId : Nat} {observed : MatchingInvitation} {participants : LockedBuddyParticipants}
    {sender recipient : EligibleMatchingPrincipal} {ids : AcceptIds}
    {result : InvitationAcceptanceResult}
    (h : stageAcceptance context db current invitationId observed participants sender recipient
      instant ids = .ok (result, writes)) :
    writes.SettlesUpdated ∧ writes.created = none := by
  obtain ⟨invitation, _, _, hcases⟩ := stageAcceptance_cases h
  rcases hcases with ⟨_, _, hnothing⟩ | ⟨_, _, _, _, _, _, _, hrows⟩
  · rw [hnothing]
    exact ⟨fun row hrow => absurd hrow (by simp), rfl⟩
  · rw [hrows]
    refine ⟨fun row hrow => ?_, rfl⟩
    rw [List.mem_singleton.mp hrow]
    simp [MatchingInvitation.stamped]

theorem mutation_facts {mutation : InvitationMutation} {current : VerifiedBuddyPrincipal}
    {invitationId : Nat} {result : InvitationMutationResult}
    (h : mutation.run db current invitationId instant = .ok (result, writes)) :
    writes.SettlesUpdated ∧ writes.created = none := by
  have hnone : (({} : InvitationWrites)).SettlesUpdated ∧ ({} : InvitationWrites).created = none :=
    ⟨fun row hrow => absurd hrow (by simp), rfl⟩
  have hone : ∀ {row : MatchingInvitation}, row.status ≠ .pending →
      ({ updated := [row] } : InvitationWrites).SettlesUpdated ∧
        ({ updated := [row] } : InvitationWrites).created = none := by
    intro row hstatus
    refine ⟨fun other hother => ?_, rfl⟩
    rw [List.mem_singleton.mp hother]
    exact hstatus
  cases mutation with
  | decline =>
      obtain ⟨_, _, _, ⟨hwrites, -⟩ | ⟨changed, hchanged, hwrites, -⟩⟩ :=
        mutateInvitation_cases h
      · exact hwrites ▸ hnone
      · exact hwrites ▸ hone (transition_settles hchanged)
  | cancel =>
      obtain ⟨_, _, _, ⟨hwrites, -⟩ | ⟨changed, hchanged, hwrites, -⟩⟩ :=
        mutateInvitation_cases h
      · exact hwrites ▸ hnone
      · exact hwrites ▸ hone (transition_settles hchanged)
  | hide =>
      obtain ⟨_, _, _, hwrites | ⟨_, hidden, hhidden, hwrites⟩⟩ :=
        hideAcceptedInvitationFromSender_cases h
      · exact hwrites ▸ hnone
      · have hcases := MatchingInvitation.hideFromSender_eq_ok_iff.mp hhidden
        have hstatus : hidden.status = .accepted := by
          rcases hcases.2 with ⟨_, hsame⟩ | ⟨_, _, hsame⟩
          · rw [← hsame]
            exact hcases.1.1
          · rw [← hsame]
            exact hcases.1.1
        exact hwrites ▸ hone (by simp [hstatus])

theorem expiry_facts {locked : Nat → Bool} {batchSize : Nat} {expiredIds : List Nat}
    (h : expireInvitationBatch db locked batchSize instant = .ok (expiredIds, writes)) :
    writes.SettlesUpdated ∧ writes.created = none := by
  obtain ⟨⟨updated, hwrites, hupdated⟩, _⟩ := expireInvitationBatch_cases h
  rw [hwrites]
  refine ⟨fun row hrow => ?_, rfl⟩
  obtain ⟨due, _, hexpired⟩ := exists_of_mem_mapM hupdated hrow
  exact expire_settles hexpired

end Staging

section Principals

variable {unicode : UnicodeData} {db : MatchingDatabase} {current : VerifiedBuddyPrincipal}

/-- The sender among the locked rows is the user of the request. -/
theorem sendUsers_sender {recipientUserId : Nat} {users : User × User}
    (h : sendUsers db current recipientUserId = .ok users) : users.1.id = current.user.id := by
  simp only [sendUsers, except_bind_eq_ok_iff, require_eq_ok_iff, except_pure_eq_ok_iff,
    Option.filter_eq_some_iff] at h
  obtain ⟨sender, ⟨hsender, _⟩, _, _, _, _, _, _, husers⟩ := h
  rw [← husers]
  simp only [MatchingDatabase.sessionUser, Option.map_eq_some_iff] at hsender
  obtain ⟨row, hrow, hsame⟩ := hsender
  have hid : row.id = current.user.id := Table.get?_key hrow
  rw [if_pos hid] at hsame
  rw [← hsame]

theorem requireEligibility_userId {ρ : Type} {user : User} {record : ProfileRecord} {reason : ρ}
    {principal : EligibleMatchingPrincipal}
    (h : requireEligibility unicode db user record reason = .ok principal) :
    principal.userId = user.id := by
  simp only [requireEligibility, mapError_eq_ok_iff, getEligibleMatchingPrincipal,
    except_bind_eq_ok_iff, except_pure_eq_ok_iff] at h
  obtain ⟨_, _, _, _, _, _, _, _, hprincipal⟩ := h
  rw [← hprincipal]

theorem sendPrincipals_sender {users : User × User} {recipientProfileId recipientUserId : Nat}
    {principals : EligibleMatchingPrincipal × EligibleMatchingPrincipal}
    (h : sendPrincipals unicode db current users recipientProfileId recipientUserId =
      .ok principals) : principals.1.userId = users.1.id := by
  simp only [sendPrincipals, except_bind_eq_ok_iff, except_pure_eq_ok_iff] at h
  obtain ⟨_, _, _, _, sender, hsender, _, _, _, _, hprincipals⟩ := h
  rw [← hprincipals]
  exact requireEligibility_userId hsender

end Principals

namespace InvitationWorld

variable {context : ScoringContext}

/-- A transaction past its user locks holds the row of its sender. -/
structure HoldsSender (w : InvitationWorld context) (id : Nat) (draft : SendDraft) : Prop where
  past : draft.instant ≤ w.now
  locked : w.locks (.user draft.current.user.id) = some id

/-- Uncommitted rows leave room for themselves under the lock of their sender. -/
structure LeavesRoom (w : InvitationWorld context) (id : Nat) (writes : InvitationWrites) :
    Prop where
  settled : writes.SettlesUpdated
  created : ∀ row ∈ writes.created, w.locks (.user row.senderId) = some id ∧
    row.createdAt ≤ w.now ∧
    pendingCount w.db row.senderId row.createdAt < maxOutgoingPendingInvitations

/-- What holds of a transaction in each of its phases. -/
def PhaseFacts (w : InvitationWorld context) (id : Nat) : InvitationPhase context → Prop
  | .locking waiting (.sendUsers draft) => draft.instant ≤ w.now ∧
      (.user draft.current.user.id ∈ waiting ∨
        w.locks (.user draft.current.user.id) = some id)
  | .locking _ (.sendProfiles draft users) =>
      w.HoldsSender id draft ∧ users.1.id = draft.current.user.id
  | .locking _ (.sendPair draft principals) =>
      w.HoldsSender id draft ∧ principals.1.userId = draft.current.user.id
  | .flushed (.invitations writes) _ => w.LeavesRoom id writes
  | _ => True

/-- The invariant: no sender is over the bound, and none gets there by a commit. -/
structure CapacityFacts (w : InvitationWorld context) : Prop where
  bound : ∀ senderId, pendingCount w.db senderId w.now ≤ maxOutgoingPendingInvitations
  phases : ∀ id transaction, w.transactions id = some transaction →
    w.PhaseFacts id transaction.phase

section Frames

variable {w after : InvitationWorld context} {id : Nat}

/-- A later state in which a transaction keeps its locks, and in which the senders that it
has locked have no more pending invitations. -/
structure Keeps (w after : InvitationWorld context) (id : Nat) : Prop where
  now : w.now ≤ after.now
  locks : ∀ userId, w.locks (.user userId) = some id → after.locks (.user userId) = some id
  pending : ∀ userId, w.locks (.user userId) = some id → ∀ instant,
    pendingCount after.db userId instant ≤ pendingCount w.db userId instant

theorem HoldsSender.keep {draft : SendDraft} (h : w.HoldsSender id draft)
    (hkeeps : Keeps w after id) : after.HoldsSender id draft where
  past := le_trans h.past hkeeps.now
  locked := hkeeps.locks _ h.locked

theorem LeavesRoom.keep {writes : InvitationWrites} (h : w.LeavesRoom id writes)
    (hkeeps : Keeps w after id) : after.LeavesRoom id writes where
  settled := h.settled
  created row hrow := by
    obtain ⟨hlock, hpast, hroom⟩ := h.created row hrow
    have hcount := hkeeps.pending row.senderId hlock row.createdAt
    exact ⟨hkeeps.locks _ hlock, le_trans hpast hkeeps.now, lt_of_le_of_lt hcount hroom⟩

theorem PhaseFacts.keep {phase : InvitationPhase context} (h : w.PhaseFacts id phase)
    (hkeeps : Keeps w after id) : after.PhaseFacts id phase := by
  cases phase with
  | locking waiting stage =>
      cases stage with
      | sendUsers draft =>
          refine ⟨le_trans h.1 hkeeps.now, ?_⟩
          rcases h.2 with hwaiting | hlocked
          · exact Or.inl hwaiting
          · exact Or.inr (hkeeps.locks _ hlocked)
      | sendProfiles draft users => exact ⟨h.1.keep hkeeps, h.2⟩
      | sendPair draft principals => exact ⟨h.1.keep hkeeps, h.2⟩
      | _ => trivial
  | flushed rows receipt =>
      cases rows with
      | invitations writes => exact LeavesRoom.keep h hkeeps
      | profile record => trivial
  | _ => trivial

/-- A step of one transaction, which leaves room and lets the locked senders of the others
gain nothing. -/
theorem CapacityFacts.of_moves {transaction : InvitationTransaction context}
    {phase : InvitationPhase context} (h : w.CapacityFacts)
    (hmoves : Moves w after id transaction phase) (hphase : after.PhaseFacts id phase)
    (hbound : ∀ senderId,
      pendingCount after.db senderId w.now ≤ maxOutgoingPendingInvitations)
    (hpending : ∀ other, other ≠ id → ∀ userId, w.locks (.user userId) = some other →
      ∀ instant, pendingCount after.db userId instant ≤ pendingCount w.db userId instant) :
    after.CapacityFacts := by
  constructor
  · intro senderId
    rw [hmoves.now]
    exact hbound senderId
  · intro other state hstate
    by_cases hother : other = id
    · rw [hother, hmoves.self] at hstate
      rw [hother, ← Option.some.inj hstate]
      exact hphase
    · rw [hmoves.of_ne hother] at hstate
      apply (h.phases other state hstate).keep
      constructor
      · exact le_of_eq hmoves.now.symm
      · intro userId hlock
        exact hmoves.others other hother _ rfl hlock
      · exact hpending other hother

/-- A step before the commit keeps what holds of the other transactions. -/
theorem CapacityFacts.of_advances {transaction : InvitationTransaction context}
    (h : w.CapacityFacts)
    (hstep : Advances w after id transaction fun phase => after.PhaseFacts id phase) :
    after.CapacityFacts := by
  obtain ⟨hdb, phase, hmoves, hphase⟩ := hstep
  apply h.of_moves hmoves hphase
  · intro senderId
    rw [hdb]
    exact h.bound senderId
  · intro other _ userId _ instant
    rw [hdb]

end Frames

section Steps

variable {w after : InvitationWorld context} {id : Nat}
  {transaction : InvitationTransaction context}

theorem setPhase_facts {phase : InvitationPhase context} (h : w.PhaseFacts id phase) :
    Advances w (w.setPhase id transaction phase) id transaction fun next =>
      (w.setPhase id transaction phase).PhaseFacts id next := by
  apply setPhase_advances
  apply h.keep
  exact ⟨le_refl _, fun _ hlock => hlock, fun _ _ _ => Nat.le_refl _⟩

theorem flush_facts {writes : InvitationWrites} {receipt : InvitationReceipt}
    (h : w.LeavesRoom id writes) :
    Advances w (w.flush id transaction writes receipt) id transaction fun next =>
      (w.flush id transaction writes receipt).PhaseFacts id next := by
  apply flush_advances
  have hmoves := flush_moves w id transaction writes receipt
  have hphase : w.PhaseFacts id (.flushed (.invitations writes) receipt) := h
  apply hphase.keep
  constructor
  · exact le_of_eq hmoves.now.symm
  · intro userId hlock
    exact hmoves.held rfl _ rfl hlock
  · intro userId _ instant
    rw [flush_db]

theorem proceed_facts {ε α : Type} {outcome : Except ε α} {next : α → InvitationWorld context}
    (hnext : ∀ value, outcome = .ok value →
      Advances w (next value) id transaction fun phase => (next value).PhaseFacts id phase) :
    Advances w (w.proceed id transaction outcome next) id transaction fun phase =>
      (w.proceed id transaction outcome next).PhaseFacts id phase := by
  rcases proceed_cases w id transaction outcome next with ⟨value, hvalue, hproceed⟩ | hproceed
  · rw [hproceed]
    exact hnext value hvalue
  · rw [hproceed]
    exact finish_advances rfl trivial

theorem LeavesRoom.of_none {writes : InvitationWrites}
    (h : writes.SettlesUpdated ∧ writes.created = none) : w.LeavesRoom id writes where
  settled := h.1
  created row hrow := by
    rw [h.2] at hrow
    exact absurd hrow (by simp)

/-- The send which has passed its check leaves room for its invitation. -/
theorem HoldsSender.leavesRoom {draft : SendDraft}
    {principals : EligibleMatchingPrincipal × EligibleMatchingPrincipal}
    {staged : MatchingInvitation × InvitationWrites} (h : w.HoldsSender id draft)
    (hsender : principals.1.userId = draft.current.user.id)
    (hstaged : stageInvitation w.db principals draft.message draft.instant draft.ids =
      .ok staged) : w.LeavesRoom id staged.2 := by
  have hfacts := stageInvitation_facts hstaged
  refine ⟨hfacts.1, fun row hrow => ?_⟩
  obtain ⟨huser, hinstant, hroom⟩ := hfacts.2 row hrow
  rw [hinstant]
  refine ⟨?_, h.past, hroom⟩
  rw [huser, hsender]
  exact h.locked

theorem runStage_facts {stage : InvitationStage context}
    (h : w.PhaseFacts id (.locking [] stage))
    (hstep : w.runStage id transaction stage = some after) :
    Advances w after id transaction fun phase => after.PhaseFacts id phase := by
  cases stage with
  | sendUsers draft =>
      rw [← Option.some.inj hstep]
      have hlocked := h.2.resolve_left (by simp)
      apply proceed_facts
      intro users husers
      apply setPhase_facts
      exact ⟨⟨h.1, hlocked⟩, sendUsers_sender husers⟩
  | sendProfiles draft users =>
      rw [← Option.some.inj hstep]
      apply proceed_facts
      intro principals hprincipals
      apply setPhase_facts
      exact ⟨h.1, (sendPrincipals_sender hprincipals).trans h.2⟩
  | sendPair draft principals =>
      simp only [runStage] at hstep
      split at hstep
      · exact absurd hstep (by simp)
      · rw [← Option.some.inj hstep]
        apply proceed_facts
        intro staged hstaged
        exact flush_facts (h.1.leavesRoom h.2 hstaged)
  | acceptUsers draft =>
      rw [← Option.some.inj hstep]
      apply proceed_facts
      intro users _
      exact setPhase_facts trivial
  | acceptProfiles draft users =>
      rw [← Option.some.inj hstep]
      apply proceed_facts
      intro eligible _
      exact setPhase_facts trivial
  | acceptInvitation draft participants sender recipient =>
      simp only [runStage] at hstep
      split at hstep
      · exact absurd hstep (by simp)
      · rw [← Option.some.inj hstep]
        apply proceed_facts
        intro staged hstaged
        exact flush_facts (LeavesRoom.of_none (stageAcceptance_facts hstaged))
  | mutate mutation current invitationId =>
      simp only [runStage] at hstep
      split at hstep
      · exact absurd hstep (by simp)
      · rw [← Option.some.inj hstep]
        apply proceed_facts
        intro staged hstaged
        exact flush_facts (LeavesRoom.of_none (mutation_facts hstaged))
  | expire batchSize =>
      rw [← Option.some.inj hstep]
      apply proceed_facts
      intro staged hstaged
      exact flush_facts (LeavesRoom.of_none (expiry_facts hstaged))
  | updateUser draft =>
      simp only [runStage] at hstep
      split at hstep
      · rw [← Option.some.inj hstep]
        exact setPhase_facts trivial
      · rw [← Option.some.inj hstep]
        exact finish_advances rfl trivial
  | updateProfile draft =>
      rw [← Option.some.inj hstep]
      apply proceed_facts
      intro record _
      exact setPhase_facts trivial

/-- A request starts to wait for the lock of its sender. -/
theorem firstPhase_facts (w : InvitationWorld context) (id : Nat)
    (request : InvitationRequest context) : w.PhaseFacts id (w.firstPhase request) := by
  cases request with
  | send current recipientProfileId message ids =>
      unfold firstPhase
      dsimp only
      split
      · rename_i draft hdraft
        simp only [except_bind_eq_ok_iff, except_pure_eq_ok_iff] at hdraft
        obtain ⟨_, _, _, _, hdraft⟩ := hdraft
        rw [← hdraft]
        exact ⟨le_refl _, Or.inl (mem_pairLocks_left _ _ _)⟩
      · trivial
  | accept current invitationId ids =>
      unfold firstPhase
      dsimp only
      split <;> trivial
  | mutate mutation current invitationId => trivial
  | expire batchSize => trivial
  | updateProfile draft =>
      unfold firstPhase
      dsimp only
      split <;> trivial

/-- Taking a lock keeps what holds of a waiting transaction. -/
theorem takeLock_facts {lock : RowLock} {waiting : List RowLock}
    {stage : InvitationStage context} (hfree : w.isFree id lock = true)
    (h : w.PhaseFacts id (.locking (lock :: waiting) stage)) :
    Advances w ((w.takeLock id lock).setPhase id transaction (.locking waiting stage)) id
      transaction fun phase =>
        ((w.takeLock id lock).setPhase id transaction (.locking waiting stage)).PhaseFacts id
          phase := by
  have hmoves : Moves w ((w.takeLock id lock).setPhase id transaction (.locking waiting stage))
      id transaction (.locking waiting stage) := takeLock_moves hfree
  refine ⟨rfl, _, hmoves, ?_⟩
  have hkeeps : Keeps w ((w.takeLock id lock).setPhase id transaction (.locking waiting stage))
      id :=
    ⟨le_refl _, fun userId hlock => hmoves.held rfl _ rfl hlock, fun _ _ _ => Nat.le_refl _⟩
  cases stage with
  | sendUsers draft =>
      have hkept := h.keep hkeeps
      refine ⟨hkept.1, ?_⟩
      rcases hkept.2 with hwaiting | hlocked
      · rcases List.mem_cons.mp hwaiting with hlock | hlater
        · rw [hlock]
          exact Or.inr (takeLock_locks_self w id lock)
        · exact Or.inl hlater
      · exact Or.inr hlocked
  | _ => exact h.keep hkeeps

theorem advance_facts (h : w.PhaseFacts id transaction.phase)
    (hstep : w.advance id transaction = some after) :
    Advances w after id transaction fun phase => after.PhaseFacts id phase := by
  unfold advance at hstep
  split at hstep
  · rw [← Option.some.inj hstep]
    exact setPhase_facts (firstPhase_facts w id transaction.request)
  · rename_i lock waiting stage hphase
    rw [hphase] at h
    split at hstep
    · rename_i hfree
      rw [← Option.some.inj hstep]
      exact takeLock_facts hfree h
    · exact absurd hstep (by simp)
  · rename_i stage hphase
    rw [hphase] at h
    exact runStage_facts h hstep
  · exact absurd hstep (by simp)

/-- Committed rows count under the lock of their sender, which no other transaction holds. -/
theorem commit_facts (h : w.CapacityFacts) (hself : w.PhaseFacts id transaction.phase)
    (hstep : w.commit id transaction = some after) : after.CapacityFacts := by
  unfold commit at hstep
  split at hstep
  · rename_i rows receipt hphase
    rw [hphase] at hself
    obtain ⟨db, hdb, hafter⟩ := Option.map_eq_some_iff.mp hstep
    rw [← hafter]
    apply h.of_moves (commit_moves w id transaction receipt db) trivial
    · intro senderId
      cases rows with
      | profile record =>
          obtain ⟨tables, _, hsame⟩ := Option.map_eq_some_iff.mp hdb
          rw [← hsame]
          exact h.bound senderId
      | invitations writes =>
          have hcount := pendingCount_of_write hself.settled hdb senderId w.now
          by_cases hcreated : writes.created.any (·.senderId = senderId) = true
          · rw [if_pos hcreated] at hcount
            obtain ⟨row, hrow, hsender⟩ := (Option.any_eq_true _ _).mp hcreated
            obtain ⟨_, hpast, hroom⟩ := hself.created row hrow
            rw [of_decide_eq_true hsender] at hroom
            have hlater := pendingCount_anti w.db senderId hpast
            exact le_trans hcount (lt_of_le_of_lt hlater hroom)
          · rw [if_neg hcreated, Nat.add_zero] at hcount
            exact le_trans hcount (h.bound senderId)
    · intro other hother userId hlock instant
      cases rows with
      | profile record =>
          obtain ⟨tables, _, hsame⟩ := Option.map_eq_some_iff.mp hdb
          rw [← hsame]
          exact Nat.le_refl _
      | invitations writes =>
          have hcount := pendingCount_of_write hself.settled hdb userId instant
          have hcreated : ¬ writes.created.any (·.senderId = userId) = true := by
            intro hany
            obtain ⟨row, hrow, hsender⟩ := (Option.any_eq_true _ _).mp hany
            have howner := (hself.created row hrow).1
            rw [of_decide_eq_true hsender, hlock] at howner
            exact hother (Option.some.inj howner)
          rwa [if_neg hcreated, Nat.add_zero] at hcount
  · exact absurd hstep (by simp)

end Steps

/-- The clock does not go back. -/
def TimeForward (w : InvitationWorld context) : InvitationLabel context → Prop
  | .tick instant => w.now ≤ instant
  | _ => True

instance (w : InvitationWorld context) (label : InvitationLabel context) :
    Decidable (w.TimeForward label) :=
  match label with
  | .tick instant => inferInstanceAs (Decidable (w.now ≤ instant))
  | .start _ _ => isTrue trivial
  | .advance _ => isTrue trivial
  | .commit _ => isTrue trivial
  | .rollback _ => isTrue trivial
  | .students _ => isTrue trivial

section Runs

variable {w after : InvitationWorld context} {label : InvitationLabel context}

theorem Initial.capacityFacts (h : w.Initial) : w.CapacityFacts := by
  constructor
  · intro senderId
    rw [pendingCount_eq_countP, h.invitations]
    exact Nat.zero_le _
  · intro id transaction htransaction
    rw [h.transactions id] at htransaction
    exact absurd htransaction (by simp)

theorem CapacityFacts.step (h : w.CapacityFacts) (hforward : w.TimeForward label)
    (hstep : w.Step label after) : after.CapacityFacts := by
  unfold Step at hstep
  cases label with
  | start id request =>
      simp only [next] at hstep
      split at hstep
      · rw [← Option.some.inj hstep]
        refine ⟨h.bound, fun other state hstate => ?_⟩
        by_cases hother : other = id
        · rw [hother] at hstate
          have hstarted := (Function.update_self ..).symm.trans hstate
          rw [← Option.some.inj hstarted]
          trivial
        · have hsame := (Function.update_of_ne hother ..).symm.trans hstate
          apply (h.phases other state hsame).keep
          exact ⟨le_refl _, fun _ hlock => hlock, fun _ _ _ => Nat.le_refl _⟩
      · exact absurd hstep (by simp)
  | advance id =>
      obtain ⟨transaction, htransaction, hadvance⟩ := Option.bind_eq_some_iff.mp hstep
      exact h.of_advances (advance_facts (h.phases id transaction htransaction) hadvance)
  | commit id =>
      obtain ⟨transaction, htransaction, hcommit⟩ := Option.bind_eq_some_iff.mp hstep
      exact commit_facts h (h.phases id transaction htransaction) hcommit
  | rollback id =>
      obtain ⟨transaction, _, hrollback⟩ := Option.bind_eq_some_iff.mp hstep
      split at hrollback
      · exact absurd hrollback (by simp)
      · rw [← Option.some.inj hrollback]
        exact h.of_advances (finish_advances rfl trivial)
  | tick instant =>
      rw [← Option.some.inj hstep]
      constructor
      · intro senderId
        exact le_trans (pendingCount_anti w.db senderId hforward) (h.bound senderId)
      · intro id transaction htransaction
        apply (h.phases id transaction htransaction).keep
        exact ⟨hforward, fun _ hlock => hlock, fun _ _ _ => Nat.le_refl _⟩
  | students tables =>
      rw [← Option.some.inj hstep]
      refine ⟨h.bound, fun id transaction htransaction => ?_⟩
      apply (h.phases id transaction htransaction).keep
      exact ⟨le_refl _, fun _ hlock => hlock, fun _ _ _ => Nat.le_refl _⟩

theorem Reached.capacityFacts (h : w.Reached TimeForward) : w.CapacityFacts :=
  Reaches.invariant (fun _ hinit => hinit.capacityFacts)
    (fun _ _ _ hfacts hforward hstep => hfacts.step hforward hstep) h

theorem advance_running {id : Nat} {transaction : InvitationTransaction context}
    (hstep : w.advance id transaction = some after) : transaction.phase.finished = false := by
  unfold advance at hstep
  split at hstep
  · rename_i hphase
    rw [hphase]
    rfl
  · rename_i hphase
    rw [hphase]
    rfl
  · rename_i hphase
    rw [hphase]
    rfl
  · exact absurd hstep (by simp)

/-- What a step does to the transactions and to the invitations and events. -/
inductive StepEffect (w after : InvitationWorld context) : InvitationLabel context → Prop
  | started {id : Nat} {request : InvitationRequest context} (hnew : w.transactions id = none)
      (htransactions : after.transactions =
        Function.update w.transactions id (some ⟨request, .started⟩))
      (hdb : after.db = w.db) : StepEffect w after (.start id request)
  | moved {label : InvitationLabel context} {id : Nat}
      {transaction : InvitationTransaction context} {phase : InvitationPhase context}
      (htransaction : w.transactions id = some transaction)
      (hrunning : transaction.phase.finished = false)
      (hmoves : Moves w after id transaction phase) (hdb : after.db = w.db) :
      StepEffect w after label
  | committed {id : Nat} {transaction : InvitationTransaction context}
      {receipt : InvitationReceipt} (htransaction : w.transactions id = some transaction)
      (hrunning : transaction.phase.finished = false)
      (hmoves : Moves w after id transaction (.succeeded receipt)) :
      StepEffect w after (.commit id)
  | outside {label : InvitationLabel context} (htransactions : after.transactions = w.transactions)
      (hinvitations : after.db.invitations = w.db.invitations)
      (houtbox : after.db.outbox = w.db.outbox) : StepEffect w after label

theorem CapacityFacts.stepEffect (h : w.CapacityFacts) (hstep : w.Step label after) :
    StepEffect w after label := by
  unfold Step at hstep
  cases label with
  | start id request =>
      simp only [next] at hstep
      split at hstep
      · rename_i hstart
        rw [Bool.and_eq_true, Option.isNone_iff_eq_none] at hstart
        rw [← Option.some.inj hstep]
        exact .started hstart.1 rfl rfl
      · exact absurd hstep (by simp)
  | advance id =>
      obtain ⟨transaction, htransaction, hadvance⟩ := Option.bind_eq_some_iff.mp hstep
      obtain ⟨hdb, phase, hmoves, _⟩ :=
        advance_facts (h.phases id transaction htransaction) hadvance
      exact .moved htransaction (advance_running hadvance) hmoves hdb
  | commit id =>
      obtain ⟨transaction, htransaction, hcommit⟩ := Option.bind_eq_some_iff.mp hstep
      unfold commit at hcommit
      split at hcommit
      · rename_i rows receipt hphase
        obtain ⟨db, _, hafter⟩ := Option.map_eq_some_iff.mp hcommit
        rw [← hafter]
        have hrunning : transaction.phase.finished = false := by
          rw [hphase]
          rfl
        exact .committed htransaction hrunning (commit_moves w id transaction receipt db)
      · exact absurd hcommit (by simp)
  | rollback id =>
      obtain ⟨transaction, htransaction, hrollback⟩ := Option.bind_eq_some_iff.mp hstep
      split at hrollback
      · exact absurd hrollback (by simp)
      · rename_i hrunning
        rw [← Option.some.inj hrollback]
        exact .moved htransaction (by simpa using hrunning) (finish_moves w id transaction rfl) rfl
  | tick instant =>
      rw [← Option.some.inj hstep]
      exact .outside rfl rfl rfl
  | students tables =>
      rw [← Option.some.inj hstep]
      exact .outside rfl rfl rfl

/-- A finished transaction takes no further step. -/
theorem StepEffect.keeps_finished {id : Nat} {transaction : InvitationTransaction context}
    (h : StepEffect w after label) (htransaction : w.transactions id = some transaction)
    (hfinished : transaction.phase.finished = true) :
    after.transactions id = some transaction := by
  have hother : ∀ {other : Nat} {state : InvitationTransaction context},
      w.transactions other = some state → state.phase.finished = false → id ≠ other := by
    intro other state hstate hrunning hsame
    rw [← hsame, htransaction] at hstate
    rw [← Option.some.inj hstate, hfinished] at hrunning
    exact absurd hrunning (by simp)
  cases h with
  | @started other _ hnew htransactions _ =>
      have hne : id ≠ other := by
        intro hsame
        rw [← hsame, htransaction] at hnew
        exact absurd hnew (by simp)
      rw [htransactions, Function.update_of_ne hne]
      exact htransaction
  | moved hstate hrunning hmoves _ =>
      rw [hmoves.of_ne (hother hstate hrunning)]
      exact htransaction
  | committed hstate hrunning hmoves =>
      rw [hmoves.of_ne (hother hstate hrunning)]
      exact htransaction
  | outside htransactions _ _ =>
      rw [htransactions]
      exact htransaction

/-- Only a commit changes the invitations or the events, and its transaction has succeeded. -/
theorem StepEffect.commit_of_change (h : StepEffect w after label)
    (hchange : after.db.invitations ≠ w.db.invitations ∨ after.db.outbox ≠ w.db.outbox) :
    ∃ id request receipt, label = .commit id ∧
      after.transactions id = some ⟨request, .succeeded receipt⟩ := by
  have hsame : ∀ db : MatchingDatabase, db = w.db →
      ¬ (db.invitations ≠ w.db.invitations ∨ db.outbox ≠ w.db.outbox) := by
    intro db hdb
    simp [hdb]
  cases h with
  | started _ _ hdb => exact absurd hchange (hsame _ hdb)
  | moved _ _ _ hdb => exact absurd hchange (hsame _ hdb)
  | @committed id transaction receipt _ _ hmoves =>
      exact ⟨id, transaction.request, receipt, rfl, hmoves.self⟩
  | outside _ hinvitations houtbox =>
      exact absurd hchange (by simp [hinvitations, houtbox])

/-- A send whose sender is at the bound is rejected, and leaves the tables. -/
theorem CapacityFacts.rejects_send {id : Nat} {request : InvitationRequest context}
    {draft : SendDraft}
    {principals : EligibleMatchingPrincipal × EligibleMatchingPrincipal} (h : w.CapacityFacts)
    (htransaction : w.transactions id = some ⟨request, .locking [] (.sendPair draft principals)⟩)
    (hfull : maxOutgoingPendingInvitations ≤
      pendingCount w.db draft.current.user.id w.now)
    (hstep : w.Step (.advance id) after) :
    after.db = w.db ∧ after.transactions id = some ⟨request, .rejected⟩ := by
  obtain ⟨transaction, hsame, hadvance⟩ := Option.bind_eq_some_iff.mp hstep
  rw [htransaction] at hsame
  rw [← Option.some.inj hsame] at hadvance
  obtain ⟨hholds, hsender⟩ := h.phases id _ htransaction
  simp only [advance, runStage] at hadvance
  split at hadvance
  · exact absurd hadvance (by simp)
  · rw [← Option.some.inj hadvance]
    rcases proceed_cases w id ⟨request, .locking [] (.sendPair draft principals)⟩
        (stageInvitation w.db principals draft.message draft.instant draft.ids)
        (fun staged => w.flush id ⟨request, .locking [] (.sendPair draft principals)⟩ staged.2
          (.sent staged.1.id)) with ⟨staged, hstaged, _⟩ | hrejected
    · have hroom := stageInvitation_room hstaged
      have hearlier := pendingCount_anti w.db draft.current.user.id hholds.past
      rw [hsender] at hroom
      exact absurd hroom (Nat.not_lt.mpr (le_trans hfull hearlier))
    · rw [hrejected]
      exact ⟨rfl, (finish_moves w id _ rfl).self⟩

/-- At every time a sender has at most thirty usable invitations outside.  A send beyond that
is rejected for good and changes nothing, since only a commit writes. -/
theorem outgoing_pending_bounded (hreached : w.Reached TimeForward) :
    (∀ senderId instant, w.now ≤ instant →
        pendingCount w.db senderId instant ≤ maxOutgoingPendingInvitations) ∧
      (∀ id request draft principals after,
        w.transactions id = some ⟨request, .locking [] (.sendPair draft principals)⟩ →
        maxOutgoingPendingInvitations ≤ pendingCount w.db draft.current.user.id w.now →
        w.Step (.advance id) after →
        after.db = w.db ∧ ∀ later, Reaches (· = after) Step TimeForward later →
          later.transactions id = some ⟨request, .rejected⟩) ∧
      ∀ label after, w.Step label after →
        after.db.invitations ≠ w.db.invitations ∨ after.db.outbox ≠ w.db.outbox →
        ∃ id request receipt, label = .commit id ∧
          after.transactions id = some ⟨request, .succeeded receipt⟩ := by
  have hfacts := hreached.capacityFacts
  refine ⟨fun senderId instant hlater => ?_, fun id request draft principals after
    htransaction hfull hstep => ?_, fun label after hstep hchange => ?_⟩
  · exact le_trans (pendingCount_anti w.db senderId hlater) (hfacts.bound senderId)
  · obtain ⟨hdb, hrejected⟩ := hfacts.rejects_send htransaction hfull hstep
    refine ⟨hdb, fun later hlater => ?_⟩
    have hforward : w.TimeForward (.advance id) := trivial
    have hafter := hfacts.step hforward hstep
    have hboth : later.CapacityFacts ∧ later.transactions id = some ⟨request, .rejected⟩ := by
      apply hlater.invariant
      · intro state hstate
        rw [hstate]
        exact ⟨hafter, hrejected⟩
      · intro state label next hstate hforward hnext
        exact ⟨hstate.1.step hforward hnext,
          (hstate.1.stepEffect hnext).keeps_finished hstate.2 rfl⟩
    exact hboth.2
  · exact (hfacts.stepEffect hstep).commit_of_change hchange

end Runs

end InvitationWorld

namespace CapacityWitness

open InvitationWorld

/-- The sample students before any invitation. -/
def quiet : InvitationWorld ScoreWitness.context where
  db := { ScoreWitness.database with invitations := .empty }
  now := ScoreWitness.instant
  locks := fun _ => none
  transactions := fun _ => none

theorem quiet_initial : quiet.Initial :=
  ⟨rfl, rfl, rfl, rfl, fun _ => rfl, fun _ => rfl⟩

def sender : VerifiedBuddyPrincipal :=
  ⟨WriteRunsWitness.student, (ScoreWitness.profileRow WriteRunsWitness.student .vietnamese
    [ScoreWitness.tennis, ScoreWitness.chess]).profile⟩

/-- One send, from its start to its commit. -/
def sendLabels : List (InvitationLabel ScoreWitness.context) :=
  .start 0 (.send sender 18 "Hello" ⟨1, 2⟩) :: List.replicate 8 (.advance 0) ++ [.commit 0]

def recipients : List User :=
  (List.range 31).map fun index => { WriteRunsWitness.student with id := index + 8 }

def crowdRows : List ProfileRecord :=
  ScoreWitness.profileRow WriteRunsWitness.student .vietnamese
      [ScoreWitness.tennis, ScoreWitness.chess] ::
    recipients.map fun user => ScoreWitness.profileRow user .international [ScoreWitness.chess]

/-- The sender and more students than may be invited at once, before any invitation. -/
def crowded : InvitationWorld ScoreWitness.context where
  db := {
    catalog := EligibilityWitness.catalog
    users := ⟨WriteRunsWitness.student :: recipients, by decide +kernel⟩
    profiles := ⟨crowdRows, by decide +kernel⟩
    photos := ⟨(List.range 32).map fun index => EligibilityWitness.avatar (index + 17),
      by decide +kernel⟩
    profiles_user := by decide +kernel
    customs_proficiency := by decide +kernel
    invitations := .empty
    buddyMatches := .empty
    conversations := .empty
    outbox := .empty }
  now := ScoreWitness.instant
  locks := fun _ => none
  transactions := fun _ => none

theorem crowded_initial : crowded.Initial :=
  ⟨rfl, rfl, rfl, rfl, fun _ => rfl, fun _ => rfl⟩

/-- A send to one of the students, until it holds the locks of its pair. -/
def lockLabels (index : Nat) : List (InvitationLabel ScoreWitness.context) :=
  .start index (.send sender (index + 18) "Hello" ⟨index, index⟩) ::
    List.replicate 7 (.advance index)

def fullLabels : List (InvitationLabel ScoreWitness.context) :=
  ((List.range 30).flatMap fun index => lockLabels index ++ [.advance index, .commit index]) ++
    lockLabels 30

/-- The last send stands before the check of the bound, which its sender has reached. -/
def standsAtBound (w : InvitationWorld ScoreWitness.context) : Bool :=
  match w.transactions 30 with
  | some ⟨request, .locking [] (.sendPair draft principals)⟩ =>
      decide (pendingCount w.db 7 w.now = 30) &&
        decide (maxOutgoingPendingInvitations ≤
          pendingCount w.db draft.current.user.id w.now) &&
        (w.advance 30 ⟨request, .locking [] (.sendPair draft principals)⟩).isSome
  | _ => false

/-- The commit of the first send stores its invitation. -/
def storesFirst (w : InvitationWorld ScoreWitness.context) : Bool :=
  w.db.invitations.rows.isEmpty &&
    (w.next (.commit 0)).any fun after => !after.db.invitations.rows.isEmpty

/-- Thirty sends are answered, and a further one is rejected for good. -/
theorem outgoing_pending_bounded_sent :
    (∃ w after : InvitationWorld ScoreWitness.context, pendingCount w.db 7 w.now = 30 ∧
      w.Step (.advance 30) after ∧ after.db = w.db ∧
      (∀ senderId instant, w.now ≤ instant →
        pendingCount w.db senderId instant ≤ maxOutgoingPendingInvitations) ∧
      ∃ request, ∀ later, Reaches (· = after) Step TimeForward later →
        later.transactions 30 = some ⟨request, .rejected⟩) ∧
    ∃ w after : InvitationWorld ScoreWitness.context, w.Step (.commit 0) after ∧
      after.db.invitations ≠ w.db.invitations ∧ ∃ id request receipt,
        after.transactions id = some ⟨request, .succeeded receipt⟩ := by
  constructor
  · have hrun : (Reaches.run InvitationWorld.next TimeForward crowded fullLabels).any
        standsAtBound = true := by decide +kernel
    obtain ⟨w, -, hreached, hstands⟩ := Reaches.exists_of_run (fun hnext => hnext)
      (.start crowded_initial) _ _ hrun
    obtain ⟨hbound, hrejects, -⟩ := outgoing_pending_bounded hreached
    unfold standsAtBound at hstands
    split at hstands
    · rename_i request draft principals htransaction
      simp only [Bool.and_eq_true, decide_eq_true_eq] at hstands
      obtain ⟨⟨hcount, hfull⟩, hadvances⟩ := hstands
      obtain ⟨after, hafter⟩ := Option.isSome_iff_exists.mp hadvances
      have hstep : w.Step (.advance 30) after :=
        Option.bind_eq_some_iff.mpr ⟨_, htransaction, hafter⟩
      obtain ⟨hdb, hrejected⟩ := hrejects 30 request draft principals after htransaction hfull hstep
      exact ⟨w, after, hcount, hstep, hdb, hbound, request, hrejected⟩
    · cases hstands
  · have hrun : (Reaches.run InvitationWorld.next TimeForward quiet sendLabels.dropLast).any
        storesFirst = true := by decide +kernel
    obtain ⟨w, -, hreached, hstores⟩ := Reaches.exists_of_run (fun hnext => hnext)
      (.start quiet_initial) _ _ hrun
    obtain ⟨-, -, hcommits⟩ := outgoing_pending_bounded hreached
    obtain ⟨hempty, hstored⟩ := Bool.and_eq_true_iff.mp hstores
    obtain ⟨after, hstep, hfilled⟩ := (Option.any_eq_true _ _).mp hstored
    have hchange : after.db.invitations ≠ w.db.invitations := by
      intro hsame
      rw [hsame, hempty] at hfilled
      cases hfilled
    obtain ⟨id, request, receipt, -, hanswered⟩ := hcommits _ after hstep (Or.inl hchange)
    exact ⟨w, after, hstep, hchange, id, request, receipt, hanswered⟩

end CapacityWitness

end BuddyWeb
