/-
Admission to the chatbot: two fixed windows, a bounded table of clients, and a semaphore whose
slot a lease holds until its request or its worker ends.
-/
import Mathlib.Algebra.GroupWithZero.Nat
import BuddyWeb.Lib.FixedWindow
import BuddyWeb.Lib.Run
import BuddyWeb.Lib.Table

namespace BuddyWeb

structure ChatbotSettings where
  clientRequests : Nat
  globalRequests : Nat
  windowSeconds : Nat
  maxClients : Nat
  concurrency : Nat
  clientRequests_bounds : 1 ≤ clientRequests ∧ clientRequests ≤ 600
  globalRequests_bounds : 1 ≤ globalRequests ∧ globalRequests ≤ 5000
  windowSeconds_bounds : 10 ≤ windowSeconds ∧ windowSeconds ≤ 3600
  maxClients_bounds : 1 ≤ maxClients ∧ maxClients ≤ 10000
  concurrency_bounds : 1 ≤ concurrency ∧ concurrency ≤ 4

/-- The monotonic clock counts nanoseconds. -/
def nanosecondsPerSecond : Nat := 1000000000

def ChatbotSettings.window (settings : ChatbotSettings) : Nat :=
  nanosecondsPerSecond * settings.windowSeconds

theorem ChatbotSettings.window_pos (settings : ChatbotSettings) : 0 < settings.window := by
  have h := settings.windowSeconds_bounds
  unfold window nanosecondsPerSecond
  omega

inductive AdmissionErrorCode
  | rateLimited
  | overloaded
  deriving DecidableEq, Repr

structure ChatbotFailure where
  status : Nat
  code : AdmissionErrorCode
  retryAfter : Nat
  deriving DecidableEq, Repr

/-- Whole seconds to wait, at least one. -/
def retryAfterSeconds (nanoseconds : Nat) : Nat :=
  max 1 ((nanoseconds + (nanosecondsPerSecond - 1)) / nanosecondsPerSecond)

def ChatbotFailure.rateLimited (nanoseconds : Nat) : ChatbotFailure :=
  ⟨429, .rateLimited, retryAfterSeconds nanoseconds⟩

def ChatbotFailure.overloaded : ChatbotFailure := ⟨503, .overloaded, 1⟩

/-- An entry of `_clients`. -/
structure ClientBucket where
  key : Nat
  expiry : Nat
  count : Nat
  deriving DecidableEq, Repr

instance : Keyed ClientBucket := ⟨ClientBucket.key⟩

/-- What `admit` reads and writes under the lock.  `digest` is the keyed hash of this runtime. -/
structure ChatbotRuntime where
  settings : ChatbotSettings
  digest : String → Nat
  clients : Table ClientBucket
  globalStarted : Nat
  globalCount : Nat

namespace ChatbotRuntime

variable (runtime : ChatbotRuntime) (now : Nat)

def globalEnd : Nat := runtime.globalStarted + runtime.settings.window

def withGlobalWindow : ChatbotRuntime :=
  if runtime.globalEnd ≤ now then { runtime with globalStarted := now, globalCount := 0 }
  else runtime

def withoutExpired : ChatbotRuntime :=
  { runtime with clients := runtime.clients.delete fun bucket => !decide (now < bucket.expiry) }

/-- The client's bucket, a new one when there is none. -/
def bucketFor (key : Nat) : ClientBucket :=
  (runtime.clients.get? key).getD ⟨key, now + runtime.settings.window, 0⟩

def withBucket (bucket : ClientBucket) : ChatbotRuntime :=
  { runtime with
    clients := (runtime.clients.insert? bucket).getD (runtime.clients.put bucket) }

/-- One more call of the client and of the global window. -/
def counting (bucket : ClientBucket) : ChatbotRuntime :=
  let counted := runtime.withBucket { bucket with count := bucket.count + 1 }
  { counted with globalCount := runtime.globalCount + 1 }

/-- The part of `admit` under the lock, with the bucket that counted the call. -/
def countCall (identifier : String) : Except ChatbotFailure ClientBucket × ChatbotRuntime :=
  let key := runtime.digest identifier
  let current := runtime.withGlobalWindow now
  if current.settings.globalRequests ≤ current.globalCount then
    (.error (.rateLimited (current.globalEnd - now)), current)
  else
    let live := current.withoutExpired now
    let bucket := live.bucketFor now key
    if live.settings.clientRequests ≤ bucket.count then
      (.error (.rateLimited (bucket.expiry - now)), live)
    else if live.clients.get? key = none ∧ live.settings.maxClients ≤ live.clients.rows.length
    then (.error .overloaded, live)
    else (.ok bucket, live.counting bucket)

end ChatbotRuntime

/-- The future of a submitted question. -/
inductive FuturePhase
  | none
  | queued
  | running
  | ended
  deriving DecidableEq, Repr

/-- A lease with its request and its worker; `returned` counts the calls of `slots.release`. -/
structure Lease where
  released : Bool := false
  transferred : Bool := false
  requestEnded : Bool := false
  worker : FuturePhase := .none
  returned : Nat := 0
  deriving DecidableEq, Repr

namespace Lease

variable (lease : Lease)

def release : Lease :=
  if lease.released then lease
  else { lease with released := true, returned := lease.returned + 1 }

/-- The slots which `release` gives back. -/
def slotsReleased : Nat :=
  if lease.released then 0 else 1

/-- The worker's done callback. -/
def workerDone : Lease :=
  { lease with worker := .ended }.release

/-- The end of the middleware's `try`. -/
def requestDone : Lease :=
  let after := { lease with requestEnded := true }
  if lease.transferred then after else after.release

def slotsRequestDone : Nat :=
  if lease.transferred then 0 else lease.slotsReleased

def submitted : Lease :=
  { lease with transferred := true, worker := .queued }

/-- Closing cancels a question whose worker has not started. -/
def cancelled : Lease :=
  if lease.worker = .queued then lease.workerDone else lease

def slotsCancelled : Nat :=
  if lease.worker = .queued then lease.slotsReleased else 0

end Lease

/-- A call which was counted, with the windows that counted it. -/
structure CountedCall where
  identifier : String
  time : Nat
  expiry : Nat
  globalEnd : Nat
  deriving DecidableEq, Repr

/-- The runtime with its semaphore and its leases.  `entering` counts the calls between the
lock and the semaphore, `counted` is the history of counted calls. -/
structure AdmissionWorld where
  runtime : ChatbotRuntime
  now : Nat
  closed : Bool
  slots : Nat
  entering : Nat
  leases : List Lease
  counted : List CountedCall

inductive AdmissionLabel
  | admitCall (identifier : String) (now : Nat)
  | acquire
  | submit (lease : Nat)
  | workerStarts (lease : Nat)
  | workerEnds (lease : Nat)
  | requestEnds (lease : Nat)
  | close
  deriving DecidableEq, Repr

namespace AdmissionWorld

def start (settings : ChatbotSettings) (digest : String → Nat) (now : Nat) :
    AdmissionWorld where
  runtime := ⟨settings, digest, .empty, now, 0⟩
  now := now
  closed := false
  slots := settings.concurrency
  entering := 0
  leases := []
  counted := []

variable (world : AdmissionWorld)

def settings : ChatbotSettings := world.runtime.settings

def keyOf (call : CountedCall) : Nat := world.runtime.digest call.identifier

/-- `admit` up to the semaphore. -/
def admitCall (identifier : String) (now : Nat) : AdmissionWorld :=
  match world.runtime.countCall now identifier with
  | (.error _, runtime) => { world with runtime := runtime, now := now }
  | (.ok bucket, runtime) =>
      { world with
        runtime := runtime
        now := now
        entering := world.entering + 1
        counted := ⟨identifier, now, bucket.expiry, runtime.globalEnd⟩ :: world.counted }

/-- `slots.acquire(blocking=False)`. -/
def acquire : AdmissionWorld :=
  if world.slots = 0 then { world with entering := world.entering - 1 }
  else
    { world with
      entering := world.entering - 1
      slots := world.slots - 1
      leases := world.leases ++ [{}] }

def withLease (position : Nat) (lease : Lease) (returned : Nat) : AdmissionWorld :=
  { world with leases := world.leases.set position lease, slots := world.slots + returned }

/-- `close`: the table is cleared and the waiting questions are cancelled. -/
def close : AdmissionWorld :=
  { world with
    runtime := { world.runtime with clients := .empty }
    closed := true
    leases := world.leases.map Lease.cancelled
    slots := world.slots + (world.leases.map Lease.slotsCancelled).sum }

def step? : AdmissionLabel → Option AdmissionWorld
  | .admitCall identifier now =>
      if world.closed then none else some (world.admitCall identifier now)
  | .acquire => if world.entering = 0 then none else some world.acquire
  | .submit position =>
      match world.leases[position]? with
      | some lease =>
          if lease.requestEnded ∨ lease.worker ≠ .none ∨ world.closed then none
          else some (world.withLease position lease.submitted 0)
      | none => none
  | .workerStarts position =>
      match world.leases[position]? with
      | some lease =>
          if lease.worker = .queued then
            some (world.withLease position { lease with worker := .running } 0)
          else none
      | none => none
  | .workerEnds position =>
      match world.leases[position]? with
      | some lease =>
          if lease.worker = .running then
            some (world.withLease position lease.workerDone lease.slotsReleased)
          else none
      | none => none
  | .requestEnds position =>
      match world.leases[position]? with
      | some lease =>
          if lease.requestEnded then none
          else some (world.withLease position lease.requestDone lease.slotsRequestDone)
      | none => none
  | .close => if world.closed then none else some world.close

def Step (world : AdmissionWorld) (label : AdmissionLabel) (after : AdmissionWorld) : Prop :=
  world.step? label = some after

/-- The runtime lock hands out non-decreasing times. -/
def InOrder (world : AdmissionWorld) : AdmissionLabel → Prop
  | .admitCall _ now => world.now ≤ now
  | _ => True

instance : ∀ (world : AdmissionWorld) (label : AdmissionLabel), Decidable (world.InOrder label)
  | world, .admitCall _ now => inferInstanceAs (Decidable (world.now ≤ now))
  | _, .acquire | _, .submit _ | _, .workerStarts _ | _, .workerEnds _ | _, .requestEnds _
  | _, .close => inferInstanceAs (Decidable True)

/-- The states of one runtime from its creation on. -/
def Runs (settings : ChatbotSettings) (digest : String → Nat) (created : Nat) :
    AdmissionWorld → Prop :=
  Reaches (· = start settings digest created) Step InOrder

end AdmissionWorld

end BuddyWeb
