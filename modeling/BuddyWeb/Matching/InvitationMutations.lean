/-
The owner's changes of an invitation, decline, cancel and hide, and the expiry batch.
-/
import BuddyWeb.Matching.MatchingTables

namespace BuddyWeb

inductive InvitationMutationReason
  | notFound
  | expired
  | invalidState
  deriving DecidableEq, Repr

abbrev MutationError : Type := InvitationError InvitationMutationReason

structure InvitationMutationResult where
  invitationId : Nat
  status : InvitationStatus
  deriving DecidableEq, Repr

inductive InvitationOwner
  | recipient
  | sender
  deriving DecidableEq, Repr

def InvitationOwner.userId (owner : InvitationOwner) (invitation : MatchingInvitation) : Nat :=
  match owner with
  | .recipient => invitation.recipientId
  | .sender => invitation.senderId

def mutationResult (invitation : MatchingInvitation) : InvitationMutationResult where
  invitationId := invitation.id
  status := invitation.status

section Mutations

variable (db : MatchingDatabase)

def loadOwnedInvitationForUpdate (owner : InvitationOwner) (ownerUserId invitationId : Nat) :
    Except MutationError MatchingInvitation :=
  require (db.invitations.select? fun invitation =>
    invitation.id = invitationId && owner.userId invitation = ownerUserId &&
      invitation.deletedAt.isNone) (.rejected .notFound)

/-- Bring a usable invitation of its owner to a status which it keeps when it has it. -/
def mutateInvitation (owner : InvitationOwner) (target : InvitationStatus)
    (current : VerifiedBuddyPrincipal) (invitationId : Nat) (instant : Int) :
    Except MutationError (InvitationMutationResult × InvitationWrites) := do
  let invitation ← loadOwnedInvitationForUpdate db owner current.user.id invitationId
  if invitation.status = target then
    return (mutationResult invitation, {})
  ensure (invitation.effectiveStatus instant ≠ .expired) (.rejected .expired)
  ensure (invitation.status = .pending) (.rejected .invalidState)
  let changed ← (invitation.transition target instant).mapError .transition
  return (mutationResult changed, { updated := [changed] })

def declineMatchingInvitation (current : VerifiedBuddyPrincipal) (invitationId : Nat)
    (instant : Int) : Except MutationError (InvitationMutationResult × InvitationWrites) :=
  mutateInvitation db .recipient .declined current invitationId instant

def cancelMatchingInvitation (current : VerifiedBuddyPrincipal) (invitationId : Nat)
    (instant : Int) : Except MutationError (InvitationMutationResult × InvitationWrites) :=
  mutateInvitation db .sender .cancelled current invitationId instant

def hideAcceptedInvitationFromSender (current : VerifiedBuddyPrincipal)
    (invitationId : Nat) (instant : Int) :
    Except MutationError (InvitationMutationResult × InvitationWrites) := do
  let invitation ← loadOwnedInvitationForUpdate db .sender current.user.id invitationId
  ensure (invitation.status = .accepted) (.rejected .invalidState)
  let hidden ← (invitation.hideFromSender instant).mapError .transition
  return (mutationResult invitation, {
    updated := if invitation.senderHiddenAt.isSome then [] else [hidden] })

end Mutations

section Expiry

def maxInvitationExpiryBatchSize : Nat := 100

def expiryBatchSizeMessage : String :=
  "Invitation expiry batch size is outside the supported range."

/-- The order in which due invitations are expired. -/
def expiresBefore (first second : MatchingInvitation) : Bool :=
  first.expiresAt < second.expiresAt ||
    first.expiresAt = second.expiresAt && first.id ≤ second.id

/-- The due invitations of a batch, without those which another transaction has locked. -/
def dueInvitations (invitations : Table MatchingInvitation) (locked : Nat → Bool)
    (batchSize : Nat) (instant : Int) : List MatchingInvitation :=
  ((invitations.rows.filter fun invitation =>
    invitation.expiredPending instant && !locked invitation.id).insertionSort
      fun first second => expiresBefore first second).take batchSize

/-- Why the expiry job raises. -/
inductive InvitationExpiryError
  | validation (message : String)
  | transition (error : InvitationTransitionError)
  | integrity
  deriving DecidableEq, Repr

def expireInvitationBatch (db : MatchingDatabase) (locked : Nat → Bool) (batchSize : Nat)
    (instant : Int) : Except InvitationExpiryError (List Nat × InvitationWrites) := do
  ensure (1 ≤ batchSize ∧ batchSize ≤ maxInvitationExpiryBatchSize)
    (.validation expiryBatchSizeMessage)
  let rows := dueInvitations db.invitations locked batchSize instant
  let expired ← (rows.mapM (MatchingInvitation.expire · instant)).mapError .transition
  return (rows.map (·.id), { updated := expired })

end Expiry

section Specifications

variable {db : MatchingDatabase} {owner : InvitationOwner} {ownerUserId invitationId : Nat}
  {instant : Int} {invitation : MatchingInvitation}

theorem loadOwnedInvitationForUpdate_eq_ok_iff :
    loadOwnedInvitationForUpdate db owner ownerUserId invitationId = .ok invitation ↔
      invitation ∈ db.invitations.rows ∧ invitation.id = invitationId ∧
        owner.userId invitation = ownerUserId ∧ invitation.deletedAt = none := by
  simp only [loadOwnedInvitationForUpdate, require_eq_ok_iff]
  constructor
  · intro h
    have hfilter := Table.select?_filter h
    simp only [Bool.and_eq_true, decide_eq_true_eq, Option.isNone_iff_eq_none] at hfilter
    exact ⟨Table.select?_mem h, hfilter.1.1, hfilter.1.2, hfilter.2⟩
  · rintro ⟨hmem, hid, howner, hlive⟩
    apply Table.select?_eq_some_of_unique hmem
    · simp [hid, howner, hlive]
    · intro other hother hfilter
      simp only [Bool.and_eq_true, decide_eq_true_eq] at hfilter
      exact Table.eq_of_key hother hmem (hfilter.1.1.trans hid.symm)

/-- A change finds its status stored, or writes one transition of a usable row of the owner. -/
theorem mutateInvitation_cases {target : InvitationStatus} {current : VerifiedBuddyPrincipal}
    {result : InvitationMutationResult} {writes : InvitationWrites}
    (h : mutateInvitation db owner target current invitationId instant =
      .ok (result, writes)) :
    ∃ invitation ∈ db.invitations.rows, invitation.id = invitationId ∧
      ((writes = {} ∧ invitation.status = target ∧ result = mutationResult invitation) ∨
        ∃ changed, invitation.transition target instant = .ok changed ∧
          writes = { updated := [changed] } ∧ result = mutationResult changed) := by
  simp only [mutateInvitation, except_bind_eq_ok_iff,
    loadOwnedInvitationForUpdate_eq_ok_iff] at h
  obtain ⟨invitation, ⟨hmem, hid, _⟩, h⟩ := h
  refine ⟨invitation, hmem, hid, ?_⟩
  split at h
  · rename_i hstatus
    rw [except_pure_eq_ok_iff, Prod.mk.injEq] at h
    exact Or.inl ⟨h.2.symm, hstatus, h.1.symm⟩
  · simp only [except_bind_eq_ok_iff, mapError_eq_ok_iff, except_pure_eq_ok_iff,
      Prod.mk.injEq] at h
    obtain ⟨_, _, _, _, changed, hchanged, hresult, hwrites⟩ := h
    exact Or.inr ⟨changed, hchanged, hwrites.symm, hresult.symm⟩

/-- Hiding finds an accepted row, which is hidden or becomes so. -/
theorem hideAcceptedInvitationFromSender_cases {current : VerifiedBuddyPrincipal}
    {result : InvitationMutationResult} {writes : InvitationWrites}
    (h : hideAcceptedInvitationFromSender db current invitationId instant =
      .ok (result, writes)) :
    ∃ invitation ∈ db.invitations.rows, (invitation.id = invitationId ∧
        invitation.status = .accepted ∧ result = mutationResult invitation) ∧
      (writes = {} ∨ invitation.senderHiddenAt = none ∧
        ∃ hidden, invitation.hideFromSender instant = .ok hidden ∧
          writes = { updated := [hidden] }) := by
  simp only [hideAcceptedInvitationFromSender, except_bind_eq_ok_iff, mapError_eq_ok_iff,
    loadOwnedInvitationForUpdate_eq_ok_iff, except_pure_eq_ok_iff, Prod.mk.injEq] at h
  obtain ⟨invitation, ⟨hmem, hid, _⟩, _, haccepted, hidden, hhidden, hresult, hwrites⟩ := h
  refine ⟨invitation, hmem, ⟨hid, ?_, hresult.symm⟩, ?_⟩
  · exact ensure_eq_ok_iff.mp haccepted
  by_cases hsome : invitation.senderHiddenAt.isSome = true
  · rw [if_pos hsome] at hwrites
    exact Or.inl hwrites.symm
  · rw [if_neg hsome] at hwrites
    exact Or.inr ⟨by simpa using hsome, hidden, hhidden, hwrites.symm⟩

theorem mem_dueInvitations {invitations : Table MatchingInvitation} {locked : Nat → Bool}
    {batchSize : Nat} (h : invitation ∈ dueInvitations invitations locked batchSize instant) :
    invitation ∈ invitations.rows ∧ invitation.status = .pending ∧
      invitation.expiresAt ≤ instant ∧ locked invitation.id = false := by
  have hmem := List.mem_of_mem_take h
  rw [List.mem_insertionSort, List.mem_filter] at hmem
  simpa [MatchingInvitation.expiredPending, and_assoc] using hmem

/-- Every row which a batch writes is an expired row which was due and not locked. -/
theorem expireInvitationBatch_cases {locked : Nat → Bool} {batchSize : Nat}
    {expiredIds : List Nat} {writes : InvitationWrites}
    (h : expireInvitationBatch db locked batchSize instant = .ok (expiredIds, writes)) :
    (∃ updated, writes = { updated := updated } ∧
      (dueInvitations db.invitations locked batchSize instant).mapM
        (MatchingInvitation.expire · instant) = .ok updated) ∧
      expiredIds = (dueInvitations db.invitations locked batchSize instant).map (·.id) := by
  simp only [expireInvitationBatch, except_bind_eq_ok_iff, mapError_eq_ok_iff,
    except_pure_eq_ok_iff, Prod.mk.injEq] at h
  obtain ⟨_, _, updated, hupdated, hids, hwrites⟩ := h
  exact ⟨⟨updated, hwrites.symm, hupdated⟩, hids.symm⟩

end Specifications

end BuddyWeb
