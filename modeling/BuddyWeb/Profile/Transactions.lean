/-
Own-profile requests as transactions which take the owner's row lock, or stage
the draft row, before they write.
-/
import BuddyWeb.Profile.WriteRuns

namespace BuddyWeb

/-- The version which a write carries.  A read carries none. -/
def ProfileWrite.version? {zoneInfo : String → Bool} : ProfileWrite zoneInfo → Option Nat
  | .read => none
  | .interests version _ => some version
  | .languages version _ => some version
  | .activities version _ => some version
  | .preferences update => some update.version
  | .fields update => some update.version

/-- How far the transaction of a request has come.  The profile row is loaded into
the session when its lock is obtained. -/
inductive TransactionPhase
  | selecting
  | absent
  | reselecting
  | holding (profile : StudentProfile)
  | flushed (held record : ProfileRecord)
  | succeeded (held record : ProfileRecord)
  | rejected

structure ProfileTransaction where
  request : ProfileRequest
  phase : TransactionPhase

/-- The committed rows, the row locks by owner and the transactions. -/
structure ProfileWorld where
  store : ProfileStore
  locks : Nat → Option Nat
  transactions : Nat → Option ProfileTransaction

inductive TransactionLabel
  | start (id : Nat) (request : ProfileRequest)
  | select (id : Nat)
  | insertDraft (id : Nat)
  | execute (id : Nat)
  | commit (id : Nat)
  | rollback (id : Nat)

def TransactionPhase.finished : TransactionPhase → Bool
  | .succeeded _ _ => true
  | .rejected => true
  | _ => false

def TransactionPhase.locks : TransactionPhase → Bool
  | .holding _ => true
  | .flushed _ _ => true
  | _ => false

namespace ProfileWorld

def setPhase (w : ProfileWorld) (id : Nat) (transaction : ProfileTransaction)
    (phase : TransactionPhase) : ProfileWorld :=
  { w with
    transactions :=
      Function.update w.transactions id (some { transaction with phase := phase }) }

/-- The phase together with the lock, which also stands for a staged draft's entry
in the unique index on the owner. -/
def acquire (w : ProfileWorld) (id : Nat) (transaction : ProfileTransaction)
    (profile : StudentProfile) : ProfileWorld :=
  { w.setPhase id transaction (.holding profile) with
    locks := Function.update w.locks transaction.request.owner.id (some id) }

/-- Ending a transaction releases what it holds. -/
def finish (w : ProfileWorld) (id : Nat) (transaction : ProfileTransaction)
    (phase : TransactionPhase) : ProfileWorld :=
  { w.setPhase id transaction phase with
    locks := if w.locks transaction.request.owner.id = some id then
        Function.update w.locks transaction.request.owner.id none
      else w.locks }

/-- The rows which the session works on: the loaded profile row, and the preference
rows as they are committed now. -/
def heldRecord (w : ProfileWorld) (transaction : ProfileTransaction)
    (profile : StudentProfile) : ProfileRecord :=
  { (w.store transaction.request.owner.id).getD (.draft profile.id profile.userId) with
    profile := profile }

/-- The select of the owner's row: `FOR UPDATE` waits for the lock, except in a read.
A second select which still finds no row raises. -/
def select (w : ProfileWorld) (id : Nat) (transaction : ProfileTransaction)
    (missing : TransactionPhase) : Option ProfileWorld :=
  match w.store transaction.request.owner.id with
  | none => some (w.setPhase id transaction missing)
  | some record =>
      match transaction.request.write.version? with
      | none => some (w.setPhase id transaction (.succeeded record record))
      | some _ =>
          if w.locks transaction.request.owner.id = none then
            some (w.acquire id transaction record.profile)
          else none

/-- Inserting the draft waits for a draft which another transaction has staged, and
meets the unique index when one is committed. -/
def insertDraft (w : ProfileWorld) (id : Nat) (transaction : ProfileTransaction) :
    Option ProfileWorld :=
  match w.store transaction.request.owner.id with
  | some _ => some (w.setPhase id transaction .reselecting)
  | none =>
      if w.locks transaction.request.owner.id = none then
        some (w.acquire id transaction
          (.draft transaction.request.context.freshProfileId transaction.request.owner.id))
      else none

/-- The service under the lock: an error rolls the transaction back. -/
def execute (w : ProfileWorld) (id : Nat) (transaction : ProfileTransaction)
    (profile : StudentProfile) : ProfileWorld :=
  match transaction.request.run (some (w.heldRecord transaction profile)) with
  | .ok record => w.setPhase id transaction (.flushed (w.heldRecord transaction profile) record)
  | .error _ => w.finish id transaction .rejected

def commit (w : ProfileWorld) (id : Nat) (transaction : ProfileTransaction)
    (held record : ProfileRecord) : ProfileWorld :=
  { w.finish id transaction (.succeeded held record) with
    store := Function.update w.store transaction.request.owner.id (some record) }

/-- A new transaction, refused at once when the account may not own a profile. -/
def start (w : ProfileWorld) (id : Nat) (request : ProfileRequest) : ProfileWorld :=
  { w with
    transactions :=
      Function.update w.transactions id
        (some ⟨request, if request.owner.isAvailable then .selecting else .rejected⟩) }

def next (w : ProfileWorld) : TransactionLabel → Option ProfileWorld
  | .start id request =>
      match w.transactions id with
      | none => some (w.start id request)
      | some _ => none
  | .select id =>
      match w.transactions id with
      | some ⟨request, .selecting⟩ => w.select id ⟨request, .selecting⟩ .absent
      | some ⟨request, .reselecting⟩ => w.select id ⟨request, .reselecting⟩ .rejected
      | _ => none
  | .insertDraft id =>
      match w.transactions id with
      | some ⟨request, .absent⟩ => w.insertDraft id ⟨request, .absent⟩
      | _ => none
  | .execute id =>
      match w.transactions id with
      | some ⟨request, .holding profile⟩ =>
          some (w.execute id ⟨request, .holding profile⟩ profile)
      | _ => none
  | .commit id =>
      match w.transactions id with
      | some ⟨request, .flushed held record⟩ =>
          some (w.commit id ⟨request, .flushed held record⟩ held record)
      | _ => none
  | .rollback id =>
      match w.transactions id with
      | some transaction =>
          if transaction.phase.finished then none
          else some (w.finish id transaction .rejected)
      | none => none

/-- One step of one transaction. -/
def Step (w : ProfileWorld) (label : TransactionLabel) (after : ProfileWorld) : Prop :=
  w.next label = some after

/-- No transaction has started. -/
def Initial (w : ProfileWorld) : Prop :=
  w.locks = (fun _ => none) ∧ w.transactions = fun _ => none

/-- The worlds which interleavings of requests reach from any stored profiles. -/
abbrev Reached : ProfileWorld → Prop :=
  Reaches Initial Step fun _ _ => True

end ProfileWorld

end BuddyWeb
