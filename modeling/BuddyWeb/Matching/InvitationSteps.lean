/-
What one step of a matching request leaves as it is: the other transactions, the locks
which they hold, and before the commit the tables.
-/
import BuddyWeb.Matching.InvitationWorld

namespace BuddyWeb

/-- The rows of the participants are locked in canonical order; invitations are locked one
by one. -/
def RowLock.ofParticipant : RowLock → Bool
  | .invitation _ => false
  | _ => true

theorem mem_pairLocks_left (row : Nat → RowLock) (first second : Nat) :
    row first ∈ pairLocks row first second := by
  unfold pairLocks canonicalUserPair
  by_cases h : first < second
  · simp [h]
  · simp [h]

namespace InvitationWorld

variable {context : ScoringContext} {w after : InvitationWorld context} {id : Nat}
  {transaction : InvitationTransaction context} {phase : InvitationPhase context}

/-- A step of one transaction, which the others and their locks do not notice. -/
structure Moves (w after : InvitationWorld context) (id : Nat)
    (transaction : InvitationTransaction context) (phase : InvitationPhase context) :
    Prop where
  transactions : after.transactions =
    Function.update w.transactions id (some { transaction with phase := phase })
  now : after.now = w.now
  others : ∀ other, other ≠ id → ∀ lock, lock.ofParticipant = true →
    w.locks lock = some other → after.locks lock = some other
  held : phase.finished = false → ∀ lock, lock.ofParticipant = true →
    w.locks lock = some id → after.locks lock = some id

theorem Moves.self (h : Moves w after id transaction phase) :
    after.transactions id = some { transaction with phase := phase } := by
  rw [h.transactions]
  exact Function.update_self ..

theorem Moves.of_ne (h : Moves w after id transaction phase) {other : Nat}
    (hother : other ≠ id) : after.transactions other = w.transactions other := by
  rw [h.transactions]
  exact Function.update_of_ne hother ..

theorem setPhase_moves (w : InvitationWorld context) (id : Nat)
    (transaction : InvitationTransaction context) (phase : InvitationPhase context) :
    Moves w (w.setPhase id transaction phase) id transaction phase where
  transactions := rfl
  now := rfl
  others _ _ _ _ hlock := hlock
  held _ _ _ hlock := hlock

theorem finish_moves (w : InvitationWorld context) (id : Nat)
    (transaction : InvitationTransaction context) {phase : InvitationPhase context}
    (hfinished : phase.finished = true) :
    Moves w (w.finish id transaction phase) id transaction phase where
  transactions := rfl
  now := rfl
  others other hother lock _ hlock := by
    have hne : some other ≠ some id := by
      intro hsame
      exact hother (Option.some.inj hsame)
    change (if w.locks lock = some id then none else w.locks lock) = some other
    rw [hlock, if_neg hne]
  held hrunning := by
    rw [hfinished] at hrunning
    exact absurd hrunning (by simp)

/-- A commit ends its transaction. -/
theorem commit_moves (w : InvitationWorld context) (id : Nat)
    (transaction : InvitationTransaction context) (receipt : InvitationReceipt)
    (db : MatchingDatabase) :
    Moves w { w.finish id transaction (.succeeded receipt) with db := db } id transaction
      (.succeeded receipt) := by
  have hfinish : Moves w (w.finish id transaction (.succeeded receipt)) id transaction
      (.succeeded receipt) := finish_moves w id transaction rfl
  exact ⟨hfinish.transactions, hfinish.now, hfinish.others, hfinish.held⟩

theorem takeLock_locks_self (w : InvitationWorld context) (id : Nat) (lock : RowLock) :
    (w.takeLock id lock).locks lock = some id :=
  Function.update_self ..

theorem takeLock_locks_of_ne (w : InvitationWorld context) (id : Nat) {lock other : RowLock}
    (hne : other ≠ lock) : (w.takeLock id lock).locks other = w.locks other :=
  Function.update_of_ne hne ..

theorem isFree_cases {lock : RowLock} (h : w.isFree id lock = true) :
    w.locks lock = none ∨ w.locks lock = some id := by
  simpa [isFree] using h

/-- A free lock is taken from nobody. -/
theorem takeLock_moves {lock : RowLock} (hfree : w.isFree id lock = true) :
    Moves w ((w.takeLock id lock).setPhase id transaction phase) id transaction phase where
  transactions := rfl
  now := rfl
  others other hother lock' _ hlock := by
    change (w.takeLock id lock).locks lock' = some other
    by_cases hsame : lock' = lock
    · rw [hsame] at hlock
      rcases isFree_cases hfree with hnone | hself
      · exact absurd (hnone.symm.trans hlock) (by simp)
      · exact absurd (Option.some.inj (hlock.symm.trans hself)) hother
    · rw [takeLock_locks_of_ne w id hsame]
      exact hlock
  held _ lock' _ hlock := by
    change (w.takeLock id lock).locks lock' = some id
    by_cases hsame : lock' = lock
    · rw [hsame]
      exact takeLock_locks_self w id lock
    · rw [takeLock_locks_of_ne w id hsame]
      exact hlock

/-- The locks of invitations are other locks than those of the participants. -/
theorem takeInvitations_locks (rows : List MatchingInvitation) (id : Nat)
    (w : InvitationWorld context) {lock : RowLock} (hlock : lock.ofParticipant = true) :
    (rows.foldl (fun w invitation => w.takeLock id (.invitation invitation.id)) w).locks lock =
      w.locks lock := by
  induction rows generalizing w with
  | nil => rfl
  | cons row rest ih =>
      have hne : lock ≠ .invitation row.id := by
        intro hsame
        rw [hsame] at hlock
        exact absurd hlock (by simp [RowLock.ofParticipant])
      rw [List.foldl_cons, ih, takeLock_locks_of_ne w id hne]

theorem takeInvitations_same (rows : List MatchingInvitation) (id : Nat)
    (w : InvitationWorld context) :
    (rows.foldl (fun w invitation => w.takeLock id (.invitation invitation.id)) w).db = w.db ∧
      (rows.foldl (fun w invitation => w.takeLock id (.invitation invitation.id)) w).now =
        w.now ∧
      (rows.foldl (fun w invitation =>
        w.takeLock id (.invitation invitation.id)) w).transactions = w.transactions := by
  induction rows generalizing w with
  | nil => exact ⟨rfl, rfl, rfl⟩
  | cons row rest ih => exact ih (w.takeLock id (.invitation row.id))

theorem flush_moves (w : InvitationWorld context) (id : Nat)
    (transaction : InvitationTransaction context) (writes : InvitationWrites)
    (receipt : InvitationReceipt) :
    Moves w (w.flush id transaction writes receipt) id transaction
      (.flushed (.invitations writes) receipt) where
  transactions := by
    have hsame := (takeInvitations_same writes.updated id w).2.2
    unfold flush setPhase
    rw [hsame]
  now := (takeInvitations_same writes.updated id w).2.1
  others other _ lock hparticipant hlock :=
    (takeInvitations_locks writes.updated id w hparticipant).trans hlock
  held _ lock hparticipant hlock :=
    (takeInvitations_locks writes.updated id w hparticipant).trans hlock

theorem flush_db (w : InvitationWorld context) (id : Nat)
    (transaction : InvitationTransaction context) (writes : InvitationWrites)
    (receipt : InvitationReceipt) : (w.flush id transaction writes receipt).db = w.db :=
  (takeInvitations_same writes.updated id w).1

/-- A stage goes on with its value, or the transaction is rejected. -/
theorem proceed_cases {ε α : Type} (w : InvitationWorld context) (id : Nat)
    (transaction : InvitationTransaction context) (outcome : Except ε α)
    (next : α → InvitationWorld context) :
    (∃ value, outcome = .ok value ∧ w.proceed id transaction outcome next = next value) ∨
      w.proceed id transaction outcome next = w.finish id transaction .rejected := by
  cases outcome with
  | error error => exact Or.inr rfl
  | ok value => exact Or.inl ⟨value, rfl, rfl⟩

/-- What a step with a property of its outcome has to show: that it moves one transaction and
leaves the tables. -/
def Advances (w after : InvitationWorld context) (id : Nat)
    (transaction : InvitationTransaction context)
    (goal : InvitationPhase context → Prop) : Prop :=
  after.db = w.db ∧ ∃ phase, Moves w after id transaction phase ∧ goal phase

theorem setPhase_advances {goal : InvitationPhase context → Prop} (hgoal : goal phase) :
    Advances w (w.setPhase id transaction phase) id transaction goal :=
  ⟨rfl, phase, setPhase_moves w id transaction phase, hgoal⟩

theorem finish_advances {goal : InvitationPhase context → Prop}
    (hfinished : phase.finished = true) (hgoal : goal phase) :
    Advances w (w.finish id transaction phase) id transaction goal :=
  ⟨rfl, phase, finish_moves w id transaction hfinished, hgoal⟩

theorem flush_advances {goal : InvitationPhase context → Prop} {writes : InvitationWrites}
    {receipt : InvitationReceipt} (hgoal : goal (.flushed (.invitations writes) receipt)) :
    Advances w (w.flush id transaction writes receipt) id transaction goal :=
  ⟨flush_db w id transaction writes receipt, _, flush_moves w id transaction writes receipt,
    hgoal⟩

end InvitationWorld

end BuddyWeb
