/-
Any number of workers on one outbox: every transaction, provider call, crash and clock
advance is a step of its own, and the row locks stand between them.
-/
import BuddyWeb.Lib.Run
import BuddyWeb.Outbox.TransactionalEmail
import Mathlib.Logic.Function.Basic

namespace BuddyWeb

/-- Where a worker is in its batch. -/
inductive WorkerPhase (π : Type)
  | idle
  /-- The claim has read the clock. -/
  | claiming (owner : String) (batchSize : Nat) (now : Int)
  /-- The claim has locked its rows. -/
  | selected (owner : String) (now : Int) (rows : List (TransactionalEmail π))
  | delivering (queue : List Nat)
  | reading (outboxId : Nat) (row : Option (TransactionalEmail π)) (queue : List Nat)
  | loaded (item : EmailWorkItem π) (queue : List Nat)
  | sending (item : EmailWorkItem π) (queue : List Nat)
  | answered (outboxId : Nat) (providerMessageId : Option String)
      (failure : Option DeliveryFailure) (queue : List Nat)
  /-- The row is locked for its outcome. -/
  | finalizing (row : TransactionalEmail π) (providerMessageId : Option String)
      (failure : Option DeliveryFailure) (queue : List Nat)

variable {ω π : Type}

/-- The e-mail whose loading, rendering or sending may raise, with the rest of the batch. -/
def WorkerPhase.underway : WorkerPhase π → Option (Nat × List Nat)
  | delivering (outboxId :: queue) => some (outboxId, queue)
  | reading outboxId _ queue => some (outboxId, queue)
  | loaded item queue => some (item.outboxId, queue)
  | sending item queue => some (item.outboxId, queue)
  | _ => none

/-- What an application transaction enqueues. -/
structure EmailDraft (π : Type) where
  id : Nat
  eventType : String
  aggregateId : Nat
  recipientUserId : Option Nat
  recipientEmail : String
  idempotencyKey : String
  payload : π

/-- The row of a new e-mail. -/
def EmailDraft.row (draft : EmailDraft π) (now : Int) : TransactionalEmail π where
  id := draft.id
  eventType := draft.eventType
  aggregateId := draft.aggregateId
  recipientUserId := draft.recipientUserId
  recipientEmail := draft.recipientEmail
  idempotencyKey := draft.idempotencyKey
  payload := draft.payload
  attempts := 0
  nextAttemptAt := now
  leaseOwner := none
  leaseExpiresAt := none
  sentAt := none
  failedAt := none
  providerMessageId := none
  lastErrorCode := none
  deletedAt := none
  updatedAt := now

structure OutboxWorld (ω π : Type) where
  table : Table (TransactionalEmail π)
  now : Int
  locks : Nat → Option ω
  phase : ω → WorkerPhase π
  /-- The claims so far, the newest first. -/
  claims : List (Nat × ω)
  /-- The provider calls so far, with their idempotency keys. -/
  sends : List (Nat × String)
  /-- The e-mails whose outcomes were recorded. -/
  outcomes : List Nat

namespace OutboxWorld

variable [DecidableEq ω]

def setPhase (world : OutboxWorld ω π) (worker : ω) (phase : WorkerPhase π) :
    OutboxWorld ω π :=
  { world with phase := Function.update world.phase worker phase }

@[simp]
theorem setPhase_phase_self (world : OutboxWorld ω π) (worker : ω) (phase : WorkerPhase π) :
    (world.setPhase worker phase).phase worker = phase :=
  Function.update_self _ _ _

theorem setPhase_phase_of_ne (world : OutboxWorld ω π) {worker other : ω}
    (phase : WorkerPhase π) (hother : other ≠ worker) :
    (world.setPhase worker phase).phase other = world.phase other :=
  Function.update_of_ne hother _ _

/-- The locks after the end of a worker's transaction. -/
def unlocked (world : OutboxWorld ω π) (worker : ω) : Nat → Option ω :=
  fun outboxId => if world.locks outboxId = some worker then none else world.locks outboxId

/-- The locks after a worker has locked some rows. -/
def locked (world : OutboxWorld ω π) (worker : ω) (ids : List Nat) : Nat → Option ω :=
  fun outboxId => if outboxId ∈ ids then some worker else world.locks outboxId

/-- The worker whose claim of a row is the newest. -/
def holder (world : OutboxWorld ω π) (outboxId : Nat) : Option ω :=
  (world.claims.find? fun claim => claim.1 == outboxId).map (·.2)

end OutboxWorld

inductive OutboxLabel (ω π : Type)
  | tick (now : Int)
  | enqueue (draft : EmailDraft π)
  | begin (worker : ω) (batchSize : Int)
  | select (worker : ω) (skipped : Nat → Bool)
  | commitClaim (worker : ω)
  | read (worker : ω)
  | check (worker : ω) (recipientEmail : String) (payload : π)
  | send (worker : ω)
  | answer (worker : ω) (providerMessageId : String)
  | raise (worker : ω) (exception : DeliveryException)
  | lock (worker : ω)
  | record (worker : ω)
  | finish (worker : ω)
  | stop (worker : ω)

/-- One step of a worker with its id, of the application or of the clock. -/
inductive OutboxStep [DecidableEq ω] (workerId : ω → String) :
    OutboxWorld ω π → OutboxLabel ω π → OutboxWorld ω π → Prop
  | tick {world} {now} (hnow : world.now ≤ now) :
      OutboxStep workerId world (.tick now) { world with now := now }
  | enqueue {world} {draft} {table}
      (hkey : ∀ row ∈ world.table.rows, row.idempotencyKey ≠ draft.idempotencyKey)
      (hinsert : world.table.insert? (draft.row world.now) = some table) :
      OutboxStep workerId world (.enqueue draft) { world with table := table }
  | begin {world} {worker} {batchSize} {owner} (hphase : world.phase worker = .idle)
      (harguments : claimArguments (workerId worker) batchSize = .ok owner) :
      OutboxStep workerId world (.begin worker batchSize)
        (world.setPhase worker (.claiming owner batchSize.toNat world.now))
  | select {world} {worker} {skipped} {owner} {batchSize} {now}
      {rows : List (TransactionalEmail π)}
      (hphase : world.phase worker = .claiming owner batchSize now)
      (hrows : rows = readyBatch world.table.rows
        (fun outboxId => (world.locks outboxId).isSome || skipped outboxId) now batchSize) :
      OutboxStep workerId world (.select worker skipped)
        ({ world with
            locks := world.locked worker (rows.map TransactionalEmail.id) }.setPhase worker
          (.selected owner now rows))
  | commitClaim {world} {worker} {owner} {now} {rows : List (TransactionalEmail π)}
      (hphase : world.phase worker = .selected owner now rows) :
      OutboxStep workerId world (.commitClaim worker)
        ({ world with
          table := leaseRows world.table (rows.map TransactionalEmail.id) owner now
          locks := world.unlocked worker
          claims := rows.map (fun row : TransactionalEmail π => (row.id, worker)) ++
            world.claims }.setPhase worker (.delivering (rows.map TransactionalEmail.id)))
  | read {world} {worker} {outboxId} {queue}
      (hphase : world.phase worker = .delivering (outboxId :: queue)) :
      OutboxStep workerId world (.read worker)
        (world.setPhase worker (.reading outboxId (world.table.get? outboxId) queue))
  | checkLoaded {world} {worker} {recipientEmail} {payload} {outboxId}
      {row : TransactionalEmail π} {queue}
      (hphase : world.phase worker = .reading outboxId (some row) queue)
      (hdeliverable : row.isDeliverable (workerId worker) world.now = true) :
      OutboxStep workerId world (.check worker recipientEmail payload)
        (world.setPhase worker (.loaded (row.workItem recipientEmail payload) queue))
  | checkSkipped {world} {worker} {recipientEmail} {payload} {outboxId}
      {row : Option (TransactionalEmail π)} {queue}
      (hphase : world.phase worker = .reading outboxId row queue)
      (hskipped : (row.any fun row => row.isDeliverable (workerId worker) world.now) = false) :
      OutboxStep workerId world (.check worker recipientEmail payload)
        (world.setPhase worker (.delivering queue))
  | send {world} {worker} {item} {queue} (hphase : world.phase worker = .loaded item queue) :
      OutboxStep workerId world (.send worker)
        ({ world with sends := (item.outboxId, item.idempotencyKey) :: world.sends }.setPhase
          worker (.sending item queue))
  | answer {world} {worker} {providerMessageId} {item} {queue}
      (hphase : world.phase worker = .sending item queue) :
      OutboxStep workerId world (.answer worker providerMessageId)
        (world.setPhase worker (.answered item.outboxId (some providerMessageId) none queue))
  | raise {world} {worker} {exception} {outboxId} {queue}
      (hphase : (world.phase worker).underway = some (outboxId, queue)) :
      OutboxStep workerId world (.raise worker exception)
        (world.setPhase worker (.answered outboxId none (some exception.failure) queue))
  | lockOwned {world} {worker} {outboxId} {providerMessageId} {failure} {queue} {row}
      (hphase : world.phase worker = .answered outboxId providerMessageId failure queue)
      (hfree : world.locks outboxId = none)
      (hrow : (world.table.get? outboxId).filter (·.isOwned (workerId worker)) = some row) :
      OutboxStep workerId world (.lock worker)
        ({ world with locks := world.locked worker [outboxId] }.setPhase worker
          (.finalizing row providerMessageId failure queue))
  | lockSkipped {world} {worker} {outboxId} {providerMessageId} {failure} {queue}
      (hphase : world.phase worker = .answered outboxId providerMessageId failure queue)
      (hfree : world.locks outboxId = none)
      (hrow : (world.table.get? outboxId).filter (·.isOwned (workerId worker)) = none) :
      OutboxStep workerId world (.lock worker) (world.setPhase worker (.delivering queue))
  | record {world} {worker} {row : TransactionalEmail π} {providerMessageId} {failure} {queue}
      {settled} {outcome}
      (hphase : world.phase worker = .finalizing row providerMessageId failure queue)
      (hfinalized : row.finalized providerMessageId failure world.now =
        .ok (settled, outcome)) :
      OutboxStep workerId world (.record worker)
        ({ world with
          table := world.table.put settled
          locks := world.unlocked worker
          outcomes := row.id :: world.outcomes }.setPhase worker (.delivering queue))
  | finish {world} {worker} (hphase : world.phase worker = .delivering []) :
      OutboxStep workerId world (.finish worker) (world.setPhase worker .idle)
  /-- The worker crashes or raises: its transaction rolls back. -/
  | stop {world} {worker} :
      OutboxStep workerId world (.stop worker)
        ({ world with locks := world.unlocked worker }.setPhase worker .idle)

namespace OutboxWorld

/-- No e-mail and no worker yet. -/
def Initial (world : OutboxWorld ω π) : Prop :=
  world.table.rows = [] ∧ (∀ outboxId, world.locks outboxId = none) ∧
    (∀ worker, world.phase worker = .idle) ∧ world.claims = [] ∧ world.sends = [] ∧
      world.outcomes = []

/-- The worlds which the workers reach. -/
def Reached [DecidableEq ω] (workerId : ω → String) (world : OutboxWorld ω π) : Prop :=
  Reaches Initial (OutboxStep workerId) (fun _ _ => True) world

end OutboxWorld

end BuddyWeb
