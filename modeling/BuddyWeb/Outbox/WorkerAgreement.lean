/-
The worker of the backend and the database functions of the Edge worker as two statements
of one transition system, and the texts on which they differ.
-/
import BuddyWeb.Outbox.EdgeFunctions

namespace BuddyWeb

variable {π : Type}

/-- A worker id which both workers take as it is. -/
structure SharedWorkerId (workerId : String) : Prop where
  stripped : pyStrip workerId = workerId
  nonempty : workerId ≠ ""
  length_le : workerId.length ≤ 100
  no_return : '\r' ∉ workerId.toList
  no_newline : '\n' ∉ workerId.toList

/-- A provider id or an error code which both workers record as it is. -/
def SharedResult : DeliveryResult → Prop
  | .delivered providerMessageId =>
      btrim providerMessageId = providerMessageId ∧ providerMessageId ≠ "" ∧
        providerMessageId.length ≤ 200 ∧ '\r' ∉ providerMessageId.toList ∧
          '\n' ∉ providerMessageId.toList
  | .undelivered failure =>
      failure.errorCode ≠ "" ∧ failure.errorCode.length ≤ 100 ∧
        ∀ char ∈ failure.errorCode.toList, isErrorCodeCharacter char = true

/-- The two workers do the same on every table: they lease the same rows in the same way,
and record the result with the same label. -/
structure WorkersAgree (π : Type) (workerId : String) (result : DeliveryResult) : Prop where
  claims : ∀ (table : Table (TransactionalEmail π)) (locked : Nat → Bool) (batchSize now : Int),
    (claimTransactionalOutbox table locked workerId batchSize now).toOption =
      (claimTransactionalEmailOutbox table locked workerId batchSize now).toOption.map
        fun claimed => (claimed.1.map (·.id), claimed.2)
  outcomes : ∀ (table : Table (TransactionalEmail π)) (outboxId : Nat) (now : Int),
    (recordDelivery table outboxId workerId result now).toOption =
      (recordEdgeDelivery table outboxId workerId result now).toOption

section Texts

theorem validateIdentifier_eq_ok_iff {ε : Type} {value normalized : String} {maximum : Nat}
    {error : ε} : validateIdentifier value maximum error = .ok normalized ↔
      pyStrip value = normalized ∧ normalized ≠ "" ∧ normalized.length ≤ maximum ∧
        '\r' ∉ normalized.toList ∧ '\n' ∉ normalized.toList := by
  simp only [validateIdentifier, except_bind_eq_ok_iff, ensure_eq_ok_iff,
    except_pure_eq_ok_iff]
  constructor
  · rintro ⟨_, hbounds, rfl⟩
    exact ⟨rfl, hbounds⟩
  · rintro ⟨rfl, hbounds⟩
    exact ⟨(), hbounds, rfl⟩

theorem isBoundedText_iff {value : String} {maximum : Nat} :
    isBoundedText value maximum = true ↔
      1 ≤ (btrim value).length ∧ (btrim value).length ≤ maximum ∧ '\r' ∉ value.toList ∧
        '\n' ∉ value.toList := by
  simp only [isBoundedText, Bool.and_eq_true, decide_eq_true_eq, Bool.not_eq_true',
    List.any_eq_false, Bool.or_eq_true, beq_iff_eq, not_or]
  constructor
  · rintro ⟨⟨hlow, hhigh⟩, hline⟩
    exact ⟨hlow, hhigh, fun h => (hline _ h).1 rfl, fun h => (hline _ h).2 rfl⟩
  · rintro ⟨hlow, hhigh, hreturn, hnewline⟩
    refine ⟨⟨hlow, hhigh⟩, fun char hchar => ⟨?_, ?_⟩⟩
    · intro hsame
      exact hreturn (hsame ▸ hchar)
    · intro hsame
      exact hnewline (hsame ▸ hchar)

theorem one_le_length_iff {value : String} : 1 ≤ value.length ↔ value ≠ "" := by
  rw [Nat.one_le_iff_ne_zero]
  exact not_congr String.length_eq_zero_iff

/-- A text of error code characters has no space to trim. -/
theorem btrim_errorCode {errorCode : String}
    (h : ∀ char ∈ errorCode.toList, isErrorCodeCharacter char = true) :
    btrim errorCode = errorCode := by
  have hspace : ∀ char ∈ errorCode.toList, ¬ decide (char = ' ') = true := by
    intro char hchar hsame
    have hclass := h char hchar
    rw [of_decide_eq_true hsame] at hclass
    exact absurd hclass (by decide)
  rw [btrim, trimEnds_of_forall hspace, String.ofList_toList]

theorem isEdgeErrorCode_iff {errorCode : String} :
    isEdgeErrorCode errorCode = true ↔ errorCode ≠ "" ∧ errorCode.length ≤ 100 ∧
      ∀ char ∈ errorCode.toList, isErrorCodeCharacter char = true := by
  simp only [isEdgeErrorCode, Bool.and_eq_true, decide_eq_true_eq, List.all_eq_true]
  constructor
  · rintro ⟨⟨⟨_, hhigh⟩, hne⟩, hall⟩
    rw [btrim_errorCode hall] at hhigh
    exact ⟨hne, hhigh, hall⟩
  · rintro ⟨hne, hhigh, hall⟩
    rw [btrim_errorCode hall]
    exact ⟨⟨⟨one_le_length_iff.mpr hne, hhigh⟩, hne⟩, hall⟩

namespace SharedWorkerId

variable {workerId : String}

theorem btrim_eq (h : SharedWorkerId workerId) : btrim workerId = workerId :=
  btrim_eq_self h.stripped

theorem validate (h : SharedWorkerId workerId) {ε : Type} (error : ε) :
    validateIdentifier workerId 100 error = .ok workerId :=
  validateIdentifier_eq_ok_iff.mpr
    ⟨h.stripped, h.nonempty, h.length_le, h.no_return, h.no_newline⟩

theorem isBounded (h : SharedWorkerId workerId) : isBoundedText workerId 100 = true := by
  rw [isBoundedText_iff, h.btrim_eq, one_le_length_iff]
  exact ⟨h.nonempty, h.length_le, h.no_return, h.no_newline⟩

end SharedWorkerId

end Texts

namespace TransactionalEmail

/-- Both claim queries select the same rows. -/
theorem isCandidate_eq_isReady (row : TransactionalEmail π) (now : Int) :
    row.isCandidate now = row.isReady now := by
  unfold isCandidate isReady isOpen
  cases row.leaseExpiresAt <;> simp

/-- The two expressions of the retry delay, before and after the attempt is counted. -/
theorem retryDelay_succ (attempts : Nat) :
    retryDelay (attempts + 1) = min (2 ^ max attempts 0) 60 * outboxMinute := by
  rw [retryDelay, Nat.add_sub_cancel, Nat.max_eq_left (Nat.zero_le attempts), maxRetryDelay,
    outboxMinute]
  omega

/-- A failure changes an owned row in the same way in both workers. -/
theorem finalized_failure (row : TransactionalEmail π) (failure : DeliveryFailure) (now : Int)
    (hcode : btrim failure.errorCode = failure.errorCode) (hopen : row.failedAt = none) :
    row.finalized none (some failure) now =
      .ok (row.failedAttempt failure.retryable failure.errorCode now,
        if (row.failedAttempt failure.retryable failure.errorCode now).failedAt.isNone
          then .retry else .failed) := by
  unfold finalized failedAttempt
  cases hretry : failure.retryable && decide (row.attempts + 1 < 5) with
  | true =>
      have hlimit : (failure.retryable &&
          decide ((row.attempted now).attempts < maxDeliveryAttempts)) = true := hretry
      simp only [hlimit, if_true, hcode]
      simp only [attempted, retryDelay_succ, hopen]
      rfl
  | false =>
      have hlimit : (failure.retryable &&
          decide ((row.attempted now).attempts < maxDeliveryAttempts)) = false := hretry
      simp only [hlimit, Bool.false_eq_true, if_false, hcode]
      rfl

theorem finalized_delivered (row : TransactionalEmail π) (providerMessageId : String)
    (now : Int) (hid : btrim providerMessageId = providerMessageId) :
    row.finalized (some providerMessageId) none now =
      .ok (row.completed providerMessageId now, .sent) := by
  simp [finalized, completed, attempted, hid, require, bind, Except.bind, pure, Except.pure]

end TransactionalEmail

/-- The database functions select the row which the backend locks and checks. -/
theorem select?_isEdgeOwned (table : Table (TransactionalEmail π)) (outboxId : Nat)
    (workerId : String) :
    table.select? (·.isEdgeOwned outboxId workerId) =
      (table.get? outboxId).filter (·.isOwned (btrim workerId)) := by
  rw [← Table.select?_key_eq_filter]
  congr 1
  funext row
  simp [TransactionalEmail.isEdgeOwned, TransactionalEmail.isOwned, TransactionalEmail.isOpen,
    Bool.and_assoc]

section Agreement

variable {workerId : String} {result : DeliveryResult}

/-- Both workers lease the same rows for a worker id which both take as it is. -/
theorem claims_agree (hworker : SharedWorkerId workerId)
    (table : Table (TransactionalEmail π)) (locked : Nat → Bool) (batchSize now : Int) :
    (claimTransactionalOutbox table locked workerId batchSize now).toOption =
      (claimTransactionalEmailOutbox table locked workerId batchSize now).toOption.map
        fun claimed => (claimed.1.map (·.id), claimed.2) := by
  have hready : (fun row : TransactionalEmail π => row.isCandidate now && !locked row.id) =
      fun row => row.isReady now && !locked row.id := by
    funext row
    rw [TransactionalEmail.isCandidate_eq_isReady]
  simp only [claimTransactionalOutbox, claimArguments, claimTransactionalEmailOutbox,
    hworker.validate, hworker.btrim_eq, ensure_of_true _ hworker.isBounded, hready, readyBatch,
    maxOutboxBatchSize]
  by_cases hsize : 1 ≤ batchSize ∧ batchSize ≤ 100
  · simp [ensure, hsize, bind, Except.bind, pure, Except.pure, Except.toOption,
      TransactionalEmail.edgeJob, Function.comp_def]
  · simp [ensure, hsize, bind, Except.bind, Except.toOption]

/-- Both workers record the same result for a worker id and a result which both take as
they are. -/
theorem outcomes_agree (hworker : SharedWorkerId workerId) (hresult : SharedResult result)
    (table : Table (TransactionalEmail π)) (outboxId : Nat) (now : Int) :
    (recordDelivery table outboxId workerId result now).toOption =
      (recordEdgeDelivery table outboxId workerId result now).toOption := by
  have hopen : ∀ row, (table.get? outboxId).filter (·.isOwned workerId) = some row →
      row.failedAt = none := by
    intro row hrow
    have howned := (Option.filter_eq_some_iff.mp hrow).2
    simp only [TransactionalEmail.isOwned, TransactionalEmail.isOpen, Bool.and_eq_true,
      Option.isNone_iff_eq_none] at howned
    exact howned.1.2
  cases result with
  | delivered providerMessageId =>
      obtain ⟨htrim, hne, hlength, hreturn, hnewline⟩ := hresult
      have hbounded : isBoundedText providerMessageId 200 = true := by
        rw [isBoundedText_iff, htrim, one_le_length_iff]
        exact ⟨hne, hlength, hreturn, hnewline⟩
      simp only [recordDelivery, recordEdgeDelivery, finalizeDelivery,
        completeTransactionalEmailOutbox, updateReturning, select?_isEdgeOwned,
        hworker.btrim_eq, ensure_of_true _ hworker.isBounded, ensure_of_true _ hbounded]
      cases (table.get? outboxId).filter (·.isOwned workerId) with
      | none => rfl
      | some row =>
          simp only [row.finalized_delivered _ _ htrim]
          rfl
  | undelivered failure =>
      obtain ⟨hne, hlength, hcharacters⟩ := hresult
      have hcode := isEdgeErrorCode_iff.mpr ⟨hne, hlength, hcharacters⟩
      simp only [recordDelivery, recordEdgeDelivery, finalizeDelivery,
        failTransactionalEmailOutbox, updateReturning, select?_isEdgeOwned,
        hworker.btrim_eq, ensure_of_true _ hworker.isBounded, ensure_of_true _ hcode]
      cases hrow : (table.get? outboxId).filter (·.isOwned workerId) with
      | none => rfl
      | some row =>
          simp only [row.finalized_failure failure now (btrim_errorCode hcharacters)
            (hopen row hrow)]
          rfl

/-- A queued row, and its table. -/
def queuedEmail (payload : π) : TransactionalEmail π where
  id := 1
  eventType := "EMAIL_VERIFICATION_REQUESTED"
  aggregateId := 1
  recipientUserId := some 1
  recipientEmail := "student@student.vgu.edu.vn"
  idempotencyKey := "EMAIL_VERIFICATION_REQUESTED/1"
  payload := payload
  attempts := 0
  nextAttemptAt := 0
  leaseOwner := none
  leaseExpiresAt := none
  sentAt := none
  failedAt := none
  providerMessageId := none
  lastErrorCode := none
  deletedAt := none
  updatedAt := 0

def singleEmail (row : TransactionalEmail π) : Table (TransactionalEmail π) := ⟨[row], by simp⟩

/-- The arguments which the database functions accept. -/
def edgeAccepts (workerId : String) : DeliveryResult → Prop
  | .delivered providerMessageId =>
      isBoundedText workerId 100 = true ∧ isBoundedText providerMessageId 200 = true
  | .undelivered failure =>
      isBoundedText workerId 100 = true ∧ isEdgeErrorCode failure.errorCode = true

theorem recordEdgeDelivery_toOption_isSome_iff {table : Table (TransactionalEmail π)}
    {outboxId : Nat} {now : Int} :
    (recordEdgeDelivery table outboxId workerId result now).toOption.isSome = true ↔
      edgeAccepts workerId result := by
  cases result with
  | delivered providerMessageId =>
      simp only [recordEdgeDelivery, completeTransactionalEmailOutbox, ensure, edgeAccepts]
      split <;> split <;> simp_all [bind, Except.bind, pure, Except.pure, Except.toOption]
  | undelivered failure =>
      simp only [recordEdgeDelivery, failTransactionalEmailOutbox, ensure, edgeAccepts]
      split <;> split <;> simp_all [bind, Except.bind, pure, Except.pure, Except.toOption]

/-- Where the workers agree, the database functions accept what the backend records. -/
theorem WorkersAgree.accepted (h : WorkersAgree π workerId result) :
    edgeAccepts workerId result := by
  have hskipped : (recordDelivery (Table.empty (ρ := TransactionalEmail π)) 0 workerId result
      0).toOption.isSome = true := by
    cases result <;> rfl
  rw [h.outcomes] at hskipped
  exact recordEdgeDelivery_toOption_isSome_iff.mp hskipped

/-- The lease of a queued row carries the same owner. -/
theorem WorkersAgree.owner_eq [Inhabited π] (h : WorkersAgree π workerId result)
    (hbounded : isBoundedText workerId 100 = true) :
    validateIdentifier workerId 100 () = .ok (btrim workerId) := by
  have hclaim := h.claims (singleEmail (queuedEmail default)) (fun _ => false) 1 0
  have hedge : (claimTransactionalEmailOutbox (singleEmail (queuedEmail (default : π)))
      (fun _ => false) workerId 1 0).toOption =
      some ([(queuedEmail default).edgeJob],
        singleEmail ((queuedEmail default).leased (btrim workerId) 0)) := by
    simp only [claimTransactionalEmailOutbox, ensure_of_true _ hbounded]
    rfl
  rw [hedge] at hclaim
  simp only [claimTransactionalOutbox, claimArguments, Option.map_some] at hclaim
  have hclaimed := ok_of_toOption hclaim
  simp only [except_bind_eq_ok_iff, except_pure_eq_ok_iff, validateIdentifier_eq_ok_iff]
    at hclaimed
  obtain ⟨owner, ⟨normalized, hnormalized, _, _, rfl⟩, hrows⟩ := hclaimed
  have htable := congrArg (fun claimed => claimed.2.rows) hrows
  have howner : normalized = btrim workerId := by
    have hrow : ((queuedEmail (default : π)).leased normalized 0).leaseOwner =
        ((queuedEmail (default : π)).leased (btrim workerId) 0).leaseOwner :=
      congrArg TransactionalEmail.leaseOwner (List.head_eq_of_cons_eq htable)
    exact Option.some.inj hrow
  rw [validateIdentifier_eq_ok_iff, ← howner]
  exact hnormalized

/-- Who owns a leased row. -/
theorem owned_singleEmail (payload : π) (owner workerId : String) :
    ((singleEmail ((queuedEmail payload).leased owner 0)).get? 1).filter (·.isOwned workerId) =
      if owner = workerId then some ((queuedEmail payload).leased owner 0) else none := by
  have hget : (singleEmail ((queuedEmail payload).leased owner 0)).get? 1 =
      some ((queuedEmail payload).leased owner 0) := rfl
  rw [hget, Option.filter_some]
  simp [TransactionalEmail.isOwned, TransactionalEmail.leased, TransactionalEmail.isOpen,
    queuedEmail]

/-- An accepted result settles the row of the Edge worker. -/
theorem recordEdgeDelivery_owned {table : Table (TransactionalEmail π)} {outboxId : Nat}
    {now : Int} {row : TransactionalEmail π} {after : Table (TransactionalEmail π)}
    {outcome : DeliveryOutcome}
    (hrow : (table.get? outboxId).filter (·.isOwned (btrim workerId)) = some row)
    (hrecord : recordEdgeDelivery table outboxId workerId result now = .ok (after, outcome)) :
    outcome ≠ .skipped ∧
      ∀ providerMessageId, result = .delivered providerMessageId →
        after = table.put (row.completed providerMessageId now) := by
  cases result with
  | delivered providerMessageId =>
      simp only [recordEdgeDelivery, completeTransactionalEmailOutbox, updateReturning,
        select?_isEdgeOwned, hrow, except_bind_eq_ok_iff, ensure_eq_ok_iff,
        except_pure_eq_ok_iff, Prod.mk.injEq] at hrecord
      obtain ⟨_, _, _, _, rfl, rfl⟩ := hrecord
      exact ⟨by simp, fun _ hsame => by rw [DeliveryResult.delivered.inj hsame]⟩
  | undelivered failure =>
      simp only [recordEdgeDelivery, failTransactionalEmailOutbox, updateReturning,
        select?_isEdgeOwned, hrow, except_bind_eq_ok_iff, ensure_eq_ok_iff,
        except_pure_eq_ok_iff, Prod.mk.injEq] at hrecord
      obtain ⟨_, _, _, _, rfl, rfl⟩ := hrecord
      refine ⟨?_, fun _ hsame => by simp at hsame⟩
      split <;> simp

/-- What the workers agree on is recorded. -/
theorem WorkersAgree.recorded (h : WorkersAgree π workerId result)
    (table : Table (TransactionalEmail π)) (outboxId : Nat) (now : Int) :
    ∃ recorded, recordDelivery table outboxId workerId result now = .ok recorded ∧
      recordEdgeDelivery table outboxId workerId result now = .ok recorded := by
  have hsome : (recordEdgeDelivery table outboxId workerId result now).toOption.isSome = true :=
    recordEdgeDelivery_toOption_isSome_iff.mpr h.accepted
  obtain ⟨recorded, hrecorded⟩ := Option.isSome_iff_exists.mp hsome
  exact ⟨recorded, ok_of_toOption ((h.outcomes table outboxId now).trans hrecorded),
    ok_of_toOption hrecorded⟩

/-- A row leased by the Edge worker can be settled by the backend only when the id needs no
trimming. -/
theorem WorkersAgree.btrim_eq [Inhabited π] (h : WorkersAgree π workerId result) :
    btrim workerId = workerId := by
  by_contra hne
  have hedge := owned_singleEmail (default : π) (btrim workerId) (btrim workerId)
  have hbackend := owned_singleEmail (default : π) (btrim workerId) workerId
  rw [if_pos rfl] at hedge
  rw [if_neg hne] at hbackend
  obtain ⟨⟨after, outcome⟩, hrecord, hrecordEdge⟩ := h.recorded
    (singleEmail ((queuedEmail default).leased (btrim workerId) 0)) 1 0
  apply (recordEdgeDelivery_owned hedge hrecordEdge).1
  cases result <;>
    simp only [recordDelivery, finalizeDelivery, hbackend, Except.ok.injEq,
      Prod.mk.injEq] at hrecord <;>
    exact hrecord.2.symm

/-- The backend stores a provider id as it is, the database functions store it trimmed. -/
theorem WorkersAgree.providerMessageId_eq [Inhabited π] {providerMessageId : String}
    (h : WorkersAgree π workerId (.delivered providerMessageId)) :
    btrim providerMessageId = providerMessageId := by
  have hedge := owned_singleEmail (default : π) workerId (btrim workerId)
  have hbackend := owned_singleEmail (default : π) workerId workerId
  rw [if_pos h.btrim_eq.symm] at hedge
  rw [if_pos rfl] at hbackend
  obtain ⟨⟨after, outcome⟩, hrecord, hrecordEdge⟩ := h.recorded
    (singleEmail ((queuedEmail default).leased workerId 0)) 1 0
  have hstored := (recordEdgeDelivery_owned hedge hrecordEdge).2 providerMessageId rfl
  simp only [recordDelivery, finalizeDelivery, hbackend, TransactionalEmail.finalized, require]
    at hrecord
  have hrows := congrArg (fun recorded => recorded.1.rows) (Except.ok.inj hrecord)
  rw [hstored] at hrows
  have hrow := List.head_eq_of_cons_eq hrows
  have hid := congrArg TransactionalEmail.providerMessageId hrow
  exact (Option.some.inj hid).symm

/-- The workers agree on every table exactly for the worker ids and the results which both
take as they are. -/
theorem workers_agree_iff [Inhabited π] (workerId : String) (result : DeliveryResult) :
    WorkersAgree π workerId result ↔ SharedWorkerId workerId ∧ SharedResult result := by
  constructor
  · intro h
    have haccepted := h.accepted
    have hbounded : isBoundedText workerId 100 = true := by
      cases result with
      | delivered _ => exact haccepted.1
      | undelivered _ => exact haccepted.1
    have howner := validateIdentifier_eq_ok_iff.mp (h.owner_eq hbounded)
    rw [h.btrim_eq] at howner
    obtain ⟨hstrip, hne, hlength, hreturn, hnewline⟩ := howner
    refine ⟨⟨hstrip, hne, hlength, hreturn, hnewline⟩, ?_⟩
    cases result with
    | delivered providerMessageId =>
        have htrim := h.providerMessageId_eq
        have htext := isBoundedText_iff.mp haccepted.2
        rw [htrim, one_le_length_iff] at htext
        exact ⟨htrim, htext⟩
    | undelivered failure => exact isEdgeErrorCode_iff.mp haccepted.2
  · rintro ⟨hworker, hresult⟩
    exact ⟨claims_agree hworker, outcomes_agree hworker hresult⟩

/-- A worker of the backend whose id has a space in front leases a row and cannot settle it;
the Edge worker settles it. -/
theorem untrimmed_worker_disagrees :
    ¬ ∀ (workerId : String) (result : DeliveryResult), WorkersAgree Unit workerId result := by
  intro h
  have htrim := (h " email-worker" (.delivered "provider-1")).btrim_eq
  exact absurd htrim (by decide)

end Agreement

end BuddyWeb
