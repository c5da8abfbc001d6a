/-
The database functions through which the Edge worker leases e-mails and records the
outcome of a delivery.
-/
import BuddyWeb.Outbox.TransactionalEmail

namespace BuddyWeb

variable {π : Type}

/-- Which argument a database function refuses. -/
inductive EdgeFunctionError
  | workerId
  | batchSize
  | providerMessageId
  | errorCode
  deriving DecidableEq, Repr

/-- A text without line breaks whose trimmed length is within a bound. -/
def isBoundedText (value : String) (maximum : Nat) : Bool :=
  decide (1 ≤ (btrim value).length) && decide ((btrim value).length ≤ maximum) &&
    !value.toList.any fun char => char == '\r' || char == '\n'

def isErrorCodeCharacter (char : Char) : Bool :=
  ('a' ≤ char && char ≤ 'z') || ('0' ≤ char && char ≤ '9') || char == '_'

/-- The length check and the pattern of an error code. -/
def isEdgeErrorCode (errorCode : String) : Bool :=
  decide (1 ≤ (btrim errorCode).length) && decide ((btrim errorCode).length ≤ 100) &&
    decide (errorCode ≠ "") && errorCode.toList.all isErrorCodeCharacter

/-- What the claim function returns of a row. -/
structure OutboxJob (π : Type) where
  id : Nat
  eventType : String
  recipientEmail : String
  idempotencyKey : String
  payload : π
  deriving DecidableEq, Repr

namespace TransactionalEmail

def edgeJob (row : TransactionalEmail π) : OutboxJob π where
  id := row.id
  eventType := row.eventType
  recipientEmail := row.recipientEmail
  idempotencyKey := row.idempotencyKey
  payload := row.payload

/-- The condition of the `ready` query. -/
def isCandidate (row : TransactionalEmail π) (now : Int) : Bool :=
  row.deletedAt.isNone && row.sentAt.isNone && row.failedAt.isNone &&
    decide (row.nextAttemptAt ≤ now) &&
      (row.leaseExpiresAt.isNone || row.leaseExpiresAt.any fun expires => expires ≤ now)

/-- The condition of the updates which record an outcome. -/
def isEdgeOwned (row : TransactionalEmail π) (outboxId : Nat) (workerId : String) : Bool :=
  row.id == outboxId && row.deletedAt.isNone && row.sentAt.isNone && row.failedAt.isNone &&
    row.leaseOwner == some (btrim workerId)

/-- The row which the completion writes. -/
def completed (row : TransactionalEmail π) (providerMessageId : String) (now : Int) :
    TransactionalEmail π :=
  { row with
    attempts := row.attempts + 1
    leaseOwner := none
    leaseExpiresAt := none
    sentAt := some now
    providerMessageId := some (btrim providerMessageId)
    lastErrorCode := none
    updatedAt := now }

/-- The row which a failure writes: every expression reads the row before the update. -/
def failedAttempt (row : TransactionalEmail π) (retryable : Bool) (errorCode : String)
    (now : Int) : TransactionalEmail π :=
  { row with
    attempts := row.attempts + 1
    leaseOwner := none
    leaseExpiresAt := none
    nextAttemptAt :=
      if retryable && decide (row.attempts + 1 < 5) then
        now + min (2 ^ max row.attempts 0) 60 * outboxMinute
      else row.nextAttemptAt
    failedAt := if retryable && decide (row.attempts + 1 < 5) then none else some now
    lastErrorCode := some (btrim errorCode)
    updatedAt := now }

end TransactionalEmail

def claimTransactionalEmailOutbox (table : Table (TransactionalEmail π))
    (locked : Nat → Bool) (workerId : String) (batchSize : Int) (now : Int) :
    Except EdgeFunctionError (List (OutboxJob π) × Table (TransactionalEmail π)) := do
  ensure (isBoundedText workerId 100) .workerId
  ensure (1 ≤ batchSize ∧ batchSize ≤ 100) .batchSize
  let ready := ((table.rows.filter fun row => row.isCandidate now && !locked row.id).insertionSort
    fun first second => deliveryOrder first ≤ deliveryOrder second).take batchSize.toNat
  return (ready.map (·.edgeJob),
    leaseRows table (ready.map (·.id)) (btrim workerId) now)

/-- An update of the one row which a condition selects, with the outcome it returns. -/
def updateReturning (table : Table (TransactionalEmail π)) (filter : TransactionalEmail π → Bool)
    (change : TransactionalEmail π → TransactionalEmail π)
    (returning : TransactionalEmail π → DeliveryOutcome) :
    Table (TransactionalEmail π) × DeliveryOutcome :=
  match table.select? filter with
  | some row => (table.put (change row), returning (change row))
  | none => (table, .skipped)

def completeTransactionalEmailOutbox (table : Table (TransactionalEmail π)) (outboxId : Nat)
    (workerId : String) (providerMessageId : String) (now : Int) :
    Except EdgeFunctionError (Table (TransactionalEmail π) × DeliveryOutcome) := do
  ensure (isBoundedText workerId 100) .workerId
  ensure (isBoundedText providerMessageId 200) .providerMessageId
  return updateReturning table (·.isEdgeOwned outboxId workerId)
    (·.completed providerMessageId now) fun _ => .sent

def failTransactionalEmailOutbox (table : Table (TransactionalEmail π)) (outboxId : Nat)
    (workerId : String) (retryable : Bool) (errorCode : String) (now : Int) :
    Except EdgeFunctionError (Table (TransactionalEmail π) × DeliveryOutcome) := do
  ensure (isBoundedText workerId 100) .workerId
  ensure (isEdgeErrorCode errorCode) .errorCode
  return updateReturning table (·.isEdgeOwned outboxId workerId)
    (·.failedAttempt retryable errorCode now)
    fun row => if row.failedAt.isNone then .retry else .failed

/-- How a delivery ended, before either worker records it. -/
inductive DeliveryResult
  | delivered (providerMessageId : String)
  | undelivered (failure : DeliveryFailure)
  deriving DecidableEq, Repr

/-- The outcome as the worker of the backend records it. -/
def recordDelivery (table : Table (TransactionalEmail π)) (outboxId : Nat) (workerId : String)
    (result : DeliveryResult) (now : Int) :
    Except FinalizeError (Table (TransactionalEmail π) × DeliveryOutcome) :=
  match result with
  | .delivered providerMessageId =>
      finalizeDelivery table outboxId workerId (some providerMessageId) none now
  | .undelivered failure => finalizeDelivery table outboxId workerId none (some failure) now

/-- The outcome as the Edge worker records it. -/
def recordEdgeDelivery (table : Table (TransactionalEmail π)) (outboxId : Nat)
    (workerId : String) (result : DeliveryResult) (now : Int) :
    Except EdgeFunctionError (Table (TransactionalEmail π) × DeliveryOutcome) :=
  match result with
  | .delivered providerMessageId =>
      completeTransactionalEmailOutbox table outboxId workerId providerMessageId now
  | .undelivered failure =>
      failTransactionalEmailOutbox table outboxId workerId failure.retryable failure.errorCode
        now

end BuddyWeb
