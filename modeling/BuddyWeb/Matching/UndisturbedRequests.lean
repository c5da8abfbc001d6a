/-
A request which no other one disturbs: its steps come to what its function computes.
-/
import BuddyWeb.Matching.InvitationSteps

namespace BuddyWeb

namespace InvitationWorld

variable {context : ScoringContext} {start w : InvitationWorld context} {id : Nat}
  {request : InvitationRequest context}

/-- A state of a run in which one transaction alone has come to a phase. -/
structure Alone (start : InvitationWorld context) (id : Nat) (request : InvitationRequest context)
    (phase : InvitationPhase context) (w : InvitationWorld context) : Prop where
  reached : Reaches (· = start) Step (fun _ _ => True) w
  db : w.db = start.db
  now : w.now = start.now
  free : ∀ lock, w.isFree id lock = true
  transaction : w.transactions id = some ⟨request, phase⟩

/-- A run answers a request as its function does, with its receipt and tables or a rejection
which changes nothing. -/
def Answers {ε α : Type} (start : InvitationWorld context) (id : Nat)
    (request : InvitationRequest context) (told : α → InvitationReceipt × MatchingDatabase) :
    Except ε α → Prop
  | .ok answer => ∃ later, Reaches (· = start) Step (fun _ _ => True) later ∧
      later.db = (told answer).2 ∧
        later.transactions id = some ⟨request, .succeeded (told answer).1⟩
  | .error _ => ∃ later, Reaches (· = start) Step (fun _ _ => True) later ∧
      later.db = start.db ∧ later.transactions id = some ⟨request, .rejected⟩

section Steps

variable {phase next : InvitationPhase context} {after : InvitationWorld context}

theorem takeLock_free (h : ∀ lock, w.isFree id lock = true) (taken lock : RowLock) :
    (w.takeLock id taken).isFree id lock = true := by
  by_cases hsame : lock = taken
  · rw [hsame, isFree, takeLock_locks_self]
    simp
  · rw [isFree, takeLock_locks_of_ne w id hsame]
    exact h lock

theorem takeInvitations_free (rows : List MatchingInvitation)
    (h : ∀ lock, w.isFree id lock = true) (lock : RowLock) :
    (rows.foldl (fun w invitation => w.takeLock id (.invitation invitation.id)) w).isFree id
      lock = true := by
  induction rows generalizing w with
  | nil => exact h lock
  | cons row rest ih => exact ih (takeLock_free h _)

namespace Alone

/-- A step of the transaction is one of the system. -/
theorem step (h : Alone start id request phase w)
    (hstep : w.advance id ⟨request, phase⟩ = some after) :
    Reaches (· = start) Step (fun _ _ => True) after := by
  have hnext : w.Step (.advance id) after :=
    Option.bind_eq_some_iff.mpr ⟨_, h.transaction, hstep⟩
  exact h.reached.next trivial hnext

theorem advance (h : Alone start id request phase w)
    (hstep : w.advance id ⟨request, phase⟩ = some after)
    (hmoves : Moves w after id ⟨request, phase⟩ next) (hdb : after.db = w.db)
    (hfree : ∀ lock, after.isFree id lock = true) : Alone start id request next after where
  reached := h.step hstep
  db := hdb.trans h.db
  now := hmoves.now.trans h.now
  free := hfree
  transaction := hmoves.self

theorem setPhase (h : Alone start id request phase w)
    (hstep : w.advance id ⟨request, phase⟩ = some (w.setPhase id ⟨request, phase⟩ next)) :
    Alone start id request next (w.setPhase id ⟨request, phase⟩ next) :=
  h.advance hstep (setPhase_moves ..) rfl h.free

/-- The transaction gets all its locks. -/
theorem locks {waiting : List RowLock} {stage : InvitationStage context}
    (h : Alone start id request (.locking waiting stage) w) :
    ∃ held, Alone start id request (.locking [] stage) held := by
  induction waiting generalizing w with
  | nil => exact ⟨w, h⟩
  | cons lock rest ih =>
      have hfree := h.free lock
      have hmoves : Moves w ((w.takeLock id lock).setPhase id
          ⟨request, .locking (lock :: rest) stage⟩ (.locking rest stage)) id
          ⟨request, .locking (lock :: rest) stage⟩ (.locking rest stage) := takeLock_moves hfree
      refine ih (h.advance ?_ hmoves rfl (takeLock_free h.free lock))
      simp only [InvitationWorld.advance]
      rw [if_pos hfree]

theorem flush (h : Alone start id request phase w) {writes : InvitationWrites}
    {receipt : InvitationReceipt}
    (hstep : w.advance id ⟨request, phase⟩ =
      some (w.flush id ⟨request, phase⟩ writes receipt)) :
    Alone start id request (.flushed (.invitations writes) receipt)
      (w.flush id ⟨request, phase⟩ writes receipt) :=
  h.advance hstep (flush_moves ..) (flush_db ..) (takeInvitations_free _ h.free)

/-- Nobody else has locked a row. -/
theorem awaits_eq_false (h : Alone start id request phase w) (row : Option MatchingInvitation) :
    w.awaits id row = false := by
  cases row with
  | none => rfl
  | some invitation => simp [awaits, h.free]

section Answers

variable {ε α β : Type} {told : α → InvitationReceipt × MatchingDatabase}

/-- A rejection of the transaction. -/
theorem rejected (h : Alone start id request phase w) {error : ε}
    (hstep : w.advance id ⟨request, phase⟩ = some after) (hdb : after.db = w.db)
    (hmoves : Moves w after id ⟨request, phase⟩ .rejected) :
    start.Answers id request told (.error error) :=
  ⟨after, h.step hstep, hdb.trans h.db, hmoves.self⟩

/-- A stage goes on with what it computes, or the request is rejected. -/
theorem bind (h : Alone start id request phase w) {outcome : Except ε β}
    {value : β → InvitationWorld context} {rest : β → Except ε α}
    (hstep : w.advance id ⟨request, phase⟩ =
      some (w.proceed id ⟨request, phase⟩ outcome value))
    (hrest : ∀ found, w.advance id ⟨request, phase⟩ = some (value found) →
      start.Answers id request told (rest found)) :
    start.Answers id request told (outcome >>= rest) := by
  cases outcome with
  | error error => exact h.rejected hstep rfl (finish_moves w id _ rfl)
  | ok found => exact hrest found hstep

/-- Staged rows are written, or the transaction is rolled back. -/
theorem commit {writes : InvitationWrites} {receipt : InvitationReceipt} {error : ε}
    (h : Alone start id request (.flushed (.invitations writes) receipt) w)
    {answer : MatchingDatabase → α} (hanswer : ∀ db, told (answer db) = (receipt, db)) :
    start.Answers id request told
      (require (start.db.write writes) error >>= fun db => pure (answer db)) := by
  cases hwrite : start.db.write writes with
  | none =>
      have hrollback : w.Step (.rollback id) (w.finish id
          ⟨request, .flushed (.invitations writes) receipt⟩ .rejected) := by
        refine Option.bind_eq_some_iff.mpr ⟨_, h.transaction, ?_⟩
        rfl
      exact ⟨_, h.reached.next trivial hrollback, h.db, (finish_moves w id _ rfl).self⟩
  | some db =>
      have hcommit : w.Step (.commit id) { w.finish id
          ⟨request, .flushed (.invitations writes) receipt⟩ (.succeeded receipt) with
            db := db } := by
        refine Option.bind_eq_some_iff.mpr ⟨_, h.transaction, ?_⟩
        rw [← h.db] at hwrite
        simp only [InvitationWorld.commit, MatchingDatabase.commitRows, hwrite]
        rfl
      refine ⟨_, h.reached.next trivial hcommit, ?_, ?_⟩
      · rw [hanswer]
      · rw [hanswer]
        exact (commit_moves w id _ receipt db).self

end Answers

end Alone

end Steps

/-- A request starts where nothing is locked. -/
theorem start_alone (request : InvitationRequest context)
    (hfree : ∀ lock, start.locks lock = none) (hnew : start.transactions id = none)
    (hloaded : request.loadedFrom start.db = true) :
    ∃ w, Alone start id request .started w := by
  have hstep : start.Step (.start id request) { start with
      transactions := Function.update start.transactions id (some ⟨request, .started⟩) } := by
    simp [Step, next, hnew, hloaded]
  refine ⟨_, .next (.start rfl) trivial hstep, rfl, rfl, ?_, Function.update_self ..⟩
  intro lock
  simp [isFree, hfree lock]

theorem first_step {phase : InvitationPhase context} (h : w.firstPhase request = phase) :
    w.advance id ⟨request, .started⟩ = some (w.setPhase id ⟨request, .started⟩ phase) := by
  rw [← h]
  rfl

/-- What a send stages when nobody else has locked the invitation of its pair. -/
theorem sendPair_step {draft : SendDraft}
    {principals : EligibleMatchingPrincipal × EligibleMatchingPrincipal}
    (hawaits : w.awaits id (pendingOfPair w.db.invitations principals.1.userId
      principals.2.userId) = false) :
    w.advance id ⟨request, .locking [] (.sendPair draft principals)⟩ =
      some (w.proceed id ⟨request, .locking [] (.sendPair draft principals)⟩
        (stageInvitation w.db principals draft.message draft.instant draft.ids)
        fun staged => w.flush id ⟨request, .locking [] (.sendPair draft principals)⟩ staged.2
          (.sent staged.1.id)) := by
  simp [advance, runStage, hawaits]

theorem acceptInvitation_step {draft : AcceptDraft} {participants : LockedBuddyParticipants}
    {sender recipient : EligibleMatchingPrincipal}
    (hawaits : w.awaits id (loadOwnedInvitation w.db draft.invitationId
      draft.current.user.id).toOption = false) :
    w.advance id
        ⟨request, .locking [] (.acceptInvitation draft participants sender recipient)⟩ =
      some (w.proceed id
        ⟨request, .locking [] (.acceptInvitation draft participants sender recipient)⟩
        (stageAcceptance context w.db draft.current draft.invitationId draft.observed
          participants sender recipient w.now draft.ids)
        fun staged => w.flush id
          ⟨request, .locking [] (.acceptInvitation draft participants sender recipient)⟩
          staged.2 (.accepted staged.1)) := by
  simp [advance, runStage, hawaits]

section Requests

variable {current : VerifiedBuddyPrincipal} (hfree : ∀ lock, start.locks lock = none)
  (hnew : start.transactions id = none)
  (hloaded : start.db.verifiedPrincipalOf current.user.id = some current)

include hfree hnew hloaded

/-- The steps of an undisturbed send come to what `sendMatchingInvitation` computes. -/
theorem sendMatchingInvitation_undisturbed (recipientProfileId : Nat) (message : String)
    (ids : SendIds) :
    start.Answers id (.send current recipientProfileId message ids)
      (fun sent : MatchingInvitation × MatchingDatabase => (.sent sent.1.id, sent.2))
      (sendMatchingInvitation context.unicode start.db current recipientProfileId message
        start.now ids) := by
  have hrequest : (.send current recipientProfileId message ids :
      InvitationRequest context).loadedFrom start.db = true := by
    simp [InvitationRequest.loadedFrom, hloaded]
  obtain ⟨w, hstarted⟩ := start_alone _ hfree hnew hrequest
  unfold sendMatchingInvitation
  cases hmessage : canonicalizeInvitationMessage message with
  | error error =>
      have hphase : w.firstPhase (.send current recipientProfileId message ids) = .rejected := by
        simp only [firstPhase, hmessage]
        rfl
      exact hstarted.rejected (first_step hphase) rfl
        (setPhase_moves ..)
  | ok text =>
      cases htarget : sendTarget start.db current recipientProfileId with
      | error error =>
          have hphase : w.firstPhase (.send current recipientProfileId message ids) =
              .rejected := by
            simp only [firstPhase, hstarted.db, hmessage, htarget]
            rfl
          exact hstarted.rejected (first_step hphase) rfl
            (setPhase_moves ..)
      | ok recipientUserId =>
          have hphase : w.firstPhase (.send current recipientProfileId message ids) =
              .locking (pairLocks .user current.user.id recipientUserId) (.sendUsers
                ⟨current, text, start.now, recipientProfileId, recipientUserId, ids⟩) := by
            simp only [firstPhase, hstarted.db, hstarted.now, hmessage, htarget]
            rfl
          obtain ⟨users, husers⟩ :=
            (hstarted.setPhase (first_step hphase)).locks
          change start.Answers id _ _ (sendUsers start.db current recipientUserId >>= _)
          rw [← husers.db]
          refine husers.bind rfl fun found hstep => ?_
          obtain ⟨profiles, hprofiles⟩ := (husers.setPhase hstep).locks
          rw [husers.db, ← hprofiles.db]
          refine hprofiles.bind rfl fun principals hstep => ?_
          obtain ⟨pair, hpair⟩ : ∃ pair, Alone start id _ _ pair := ⟨_, hprofiles.setPhase hstep⟩
          rw [hprofiles.db, ← hpair.db]
          refine hpair.bind (sendPair_step (hpair.awaits_eq_false _)) fun staged hstep => ?_
          rw [hpair.db]
          exact (hpair.flush hstep).commit fun _ => rfl

/-- The steps of an undisturbed acceptance come to what `acceptMatchingInvitation` computes. -/
theorem acceptMatchingInvitation_undisturbed (invitationId : Nat) (ids : AcceptIds) :
    start.Answers id (.accept current invitationId ids)
      (fun accepted : InvitationAcceptanceResult × MatchingDatabase =>
        (.accepted accepted.1, accepted.2))
      (acceptMatchingInvitation context start.db current invitationId start.now ids) := by
  have hrequest : (.accept current invitationId ids :
      InvitationRequest context).loadedFrom start.db = true := by
    simp [InvitationRequest.loadedFrom, hloaded]
  obtain ⟨w, hstarted⟩ := start_alone _ hfree hnew hrequest
  unfold acceptMatchingInvitation
  cases hobserved : observeInvitation start.db current invitationId start.now with
  | error error =>
      have hphase : w.firstPhase (.accept current invitationId ids) = .rejected := by
        simp only [firstPhase, hstarted.db, hstarted.now, hobserved]
      exact hstarted.rejected (first_step hphase) rfl (setPhase_moves ..)
  | ok outcome =>
      cases outcome with
      | inl result =>
          have hphase : w.firstPhase (.accept current invitationId ids) =
              .succeeded (.accepted result) := by
            simp only [firstPhase, hstarted.db, hstarted.now, hobserved]
          have hreplayed := hstarted.setPhase (first_step hphase)
          exact ⟨_, hreplayed.reached, hreplayed.db, hreplayed.transaction⟩
      | inr observed =>
          have hphase : w.firstPhase (.accept current invitationId ids) =
              .locking (pairLocks .user observed.senderId observed.recipientId)
                (.acceptUsers ⟨current, invitationId, observed, ids⟩) := by
            simp only [firstPhase, hstarted.db, hstarted.now, hobserved]
          obtain ⟨users, husers⟩ := (hstarted.setPhase (first_step hphase)).locks
          change start.Answers id _ _ (lockCurrentBuddyUsers start.db current observed >>= _)
          rw [← husers.db]
          refine husers.bind rfl fun found hstep => ?_
          obtain ⟨profiles, hprofiles⟩ := (husers.setPhase hstep).locks
          rw [husers.db, ← hprofiles.db]
          refine hprofiles.bind rfl fun eligible hstep => ?_
          obtain ⟨pair, hpair⟩ : ∃ pair, Alone start id _ _ pair := ⟨_, hprofiles.setPhase hstep⟩
          rw [hprofiles.db, ← hpair.db, ← hpair.now]
          refine hpair.bind (acceptInvitation_step (hpair.awaits_eq_false _)) fun staged hstep => ?_
          rw [hpair.db]
          exact (hpair.flush hstep).commit fun _ => rfl

end Requests

end InvitationWorld

end BuddyWeb
