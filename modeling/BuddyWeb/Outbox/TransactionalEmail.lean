/-
Transactional e-mails in the outbox table: how the worker of the backend leases a batch,
loads an e-mail, and records the outcome of its delivery.
-/
import BuddyWeb.Lib.Outcome
import BuddyWeb.Lib.PyText
import BuddyWeb.Lib.Table
import Mathlib.Data.List.Sort
import Mathlib.Data.Prod.Lex
import Mathlib.Order.Basic

namespace BuddyWeb

/-- A minute in microseconds. -/
def outboxMinute : Int := 60000000

def outboxLeaseTtl : Int := 5 * outboxMinute

def maxDeliveryAttempts : Nat := 5

def maxOutboxBatchSize : Int := 100

def maxRetryDelay : Int := 60 * outboxMinute

/-- One event of the outbox. -/
structure TransactionalEmail (π : Type) where
  id : Nat
  eventType : String
  aggregateId : Nat
  recipientUserId : Option Nat
  recipientEmail : String
  idempotencyKey : String
  payload : π
  attempts : Nat
  nextAttemptAt : Int
  leaseOwner : Option String
  leaseExpiresAt : Option Int
  sentAt : Option Int
  failedAt : Option Int
  providerMessageId : Option String
  lastErrorCode : Option String
  deletedAt : Option Int
  updatedAt : Int
  deriving DecidableEq, Repr

variable {π : Type}

instance : Keyed (TransactionalEmail π) := ⟨TransactionalEmail.id⟩

@[simp]
theorem TransactionalEmail.key_eq (row : TransactionalEmail π) : Keyed.key row = row.id := rfl

inductive OutboxValidationError
  | workerId
  | batchSize
  deriving DecidableEq, Repr

/-- The identifier without the space around it. -/
def validateIdentifier {ε : Type} (value : String) (maximum : Nat) (error : ε) :
    Except ε String := do
  let normalized := pyStrip value
  ensure (normalized ≠ "" ∧ normalized.length ≤ maximum ∧ '\r' ∉ normalized.toList ∧
    '\n' ∉ normalized.toList) error
  return normalized

namespace TransactionalEmail

/-- Neither sent, nor failed, nor deleted. -/
def isOpen (row : TransactionalEmail π) : Bool :=
  row.deletedAt.isNone && row.sentAt.isNone && row.failedAt.isNone

/-- The filter of the claim query. -/
def isReady (row : TransactionalEmail π) (now : Int) : Bool :=
  row.isOpen && decide (row.nextAttemptAt ≤ now) &&
    row.leaseExpiresAt.all fun expires => expires ≤ now

/-- The row as a claim leaves it. -/
def leased (row : TransactionalEmail π) (owner : String) (now : Int) :
    TransactionalEmail π :=
  { row with
    leaseOwner := some owner
    leaseExpiresAt := some (now + outboxLeaseTtl)
    updatedAt := now }

end TransactionalEmail

/-- The order in which ready rows are taken. -/
def deliveryOrder (row : TransactionalEmail π) : Int ×ₗ Nat :=
  toLex (row.nextAttemptAt, row.id)

/-- The ready rows which no other transaction has locked, up to the size of a batch. -/
def readyBatch (rows : List (TransactionalEmail π)) (locked : Nat → Bool) (now : Int)
    (batchSize : Nat) : List (TransactionalEmail π) :=
  ((rows.filter fun row => row.isReady now && !locked row.id).insertionSort
    fun first second => deliveryOrder first ≤ deliveryOrder second).take batchSize

/-- The table after the lease of some rows. -/
def leaseRows (table : Table (TransactionalEmail π)) (ids : List Nat) (owner : String)
    (now : Int) : Table (TransactionalEmail π) :=
  table.modify (fun row => if row.id ∈ ids then row.leased owner now else row)
    fun row => by
      simp only [TransactionalEmail.key_eq]
      split <;> rfl

/-- The checks of a claim before its query. -/
def claimArguments (workerId : String) (batchSize : Int) :
    Except OutboxValidationError String := do
  let normalizedWorkerId ← validateIdentifier workerId 100 .workerId
  ensure (1 ≤ batchSize ∧ batchSize ≤ maxOutboxBatchSize) .batchSize
  return normalizedWorkerId

/-- Lease one ready batch, which skips the rows locked by others. -/
def claimTransactionalOutbox (table : Table (TransactionalEmail π)) (locked : Nat → Bool)
    (workerId : String) (batchSize : Int) (now : Int) :
    Except OutboxValidationError (List Nat × Table (TransactionalEmail π)) := do
  let normalizedWorkerId ← claimArguments workerId batchSize
  let claimed := readyBatch table.rows locked now batchSize.toNat
  return (claimed.map (·.id), leaseRows table (claimed.map (·.id)) normalizedWorkerId now)

/-- A loaded row may be delivered: it is open and its lease is the worker's and runs. -/
def TransactionalEmail.isDeliverable (row : TransactionalEmail π) (workerId : String)
    (now : Int) : Bool :=
  row.isOpen && row.leaseOwner == some workerId &&
    row.leaseExpiresAt.any fun expires => now < expires

/-- What the worker renders and sends. -/
structure EmailWorkItem (π : Type) where
  outboxId : Nat
  eventType : String
  recipientEmail : String
  idempotencyKey : String
  payload : π
  deriving DecidableEq, Repr

/-- The work item of a row, with the recipient and the payload which its resolver gives. -/
def TransactionalEmail.workItem (row : TransactionalEmail π) (recipientEmail : String)
    (payload : π) : EmailWorkItem π where
  outboxId := row.id
  eventType := row.eventType
  recipientEmail := recipientEmail
  idempotencyKey := row.idempotencyKey
  payload := payload

/-- Why a delivery failed, as the outcome records it. -/
inductive DeliveryFailure
  | delivery (retryable : Bool) (errorCode : String)
  | template (errorCode : String)
  deriving DecidableEq, Repr

namespace DeliveryFailure

def errorCode : DeliveryFailure → String
  | delivery _ errorCode => errorCode
  | template errorCode => errorCode

def retryable : DeliveryFailure → Bool
  | delivery retryable _ => retryable
  | template _ => false

end DeliveryFailure

/-- What loading, rendering or sending raised. -/
inductive DeliveryException
  | emailDelivery (retryable : Bool) (errorCode : String)
  | emailTemplate (errorCode : String)
  | other
  deriving DecidableEq, Repr

/-- The failure which the worker records for an exception. -/
def DeliveryException.failure : DeliveryException → DeliveryFailure
  | emailDelivery retryable errorCode => .delivery retryable errorCode
  | emailTemplate errorCode => .template errorCode
  | other => .delivery true "worker_unavailable"

inductive DeliveryOutcome
  | sent
  | retry
  | failed
  | skipped
  deriving DecidableEq, Repr

/-- A success without a provider message id. -/
inductive FinalizeError
  | providerMessageIdRequired
  deriving DecidableEq, Repr

/-- The delay before the next attempt. -/
def retryDelay (attempts : Nat) : Int :=
  min (2 ^ (attempts - 1) * outboxMinute) maxRetryDelay

namespace TransactionalEmail

/-- The row may be settled by a worker: it is open and leased to it. -/
def isOwned (row : TransactionalEmail π) (workerId : String) : Bool :=
  row.isOpen && row.leaseOwner == some workerId

/-- What each outcome counts and clears. -/
def attempted (row : TransactionalEmail π) (now : Int) : TransactionalEmail π :=
  { row with
    attempts := row.attempts + 1
    leaseOwner := none
    leaseExpiresAt := none
    updatedAt := now }

/-- An owned row after its outcome. -/
def finalized (row : TransactionalEmail π) (providerMessageId : Option String)
    (failure : Option DeliveryFailure) (now : Int) :
    Except FinalizeError (TransactionalEmail π × DeliveryOutcome) :=
  let attempted := row.attempted now
  match failure with
  | none => do
      let providerMessageId ← require providerMessageId .providerMessageIdRequired
      return ({ attempted with
        sentAt := some now
        providerMessageId := some providerMessageId
        lastErrorCode := none }, .sent)
  | some failure =>
      let recorded := { attempted with lastErrorCode := some failure.errorCode }
      if failure.retryable && decide (recorded.attempts < maxDeliveryAttempts) then
        return ({ recorded with nextAttemptAt := now + retryDelay recorded.attempts }, .retry)
      else
        return ({ recorded with failedAt := some now }, .failed)

end TransactionalEmail

/-- Record the outcome of a delivery, unless the row is settled or another's. -/
def finalizeDelivery (table : Table (TransactionalEmail π)) (outboxId : Nat)
    (workerId : String) (providerMessageId : Option String)
    (failure : Option DeliveryFailure) (now : Int) :
    Except FinalizeError (Table (TransactionalEmail π) × DeliveryOutcome) :=
  match (table.get? outboxId).filter (·.isOwned workerId) with
  | none => .ok (table, .skipped)
  | some row => do
      let (settled, outcome) ← row.finalized providerMessageId failure now
      return (table.put settled, outcome)

end BuddyWeb
